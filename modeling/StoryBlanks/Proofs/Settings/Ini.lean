import StoryBlanks.Settings.Ini
import StoryBlanks.Proofs.Result
import Mathlib.Data.List.Nodup

/-!
# What an INI file gives

No option stands twice in a section of a file that is read. Main statements: an option has the value
that stands in its section, or else in the default section, if the file has the section; and the value
with its references replaced depends on no other options than those it refers to, directly or through
others.
-/
namespace StoryBlanks.Ini

open Result

variable {ini : Ini} {name option raw : Text}

/-! ## Options stand once -/

/-- The sections and options that have been read, newest first. -/
def Reader.keys (s : Reader) : List (Text × Text) := s.entries.map fun x => (x.1, x.2.1)

namespace Reader

variable {s s' : Reader} {number : Nat} {text : Text}

theorem keys_extend (s : Reader) (text : Text) : (s.extend text).keys = s.keys := by
  unfold extend keys
  split
  · next hentries => simp [hentries]
  · rfl

theorem keys_of_header (h : s.header number name = .ok s') : s'.keys = s.keys := by
  unfold header at h
  split at h
  · cases h
    rfl
  · split at h
    · cases h
    · cases h
      rfl

theorem keys_of_option {value : Text} (h : s.option number text name option value = .ok s') :
    (name, option) ∉ s.keys ∧ s'.keys = (name, option) :: s.keys := by
  unfold Reader.option at h
  split at h
  · cases h
  · next hnew =>
    cases h
    refine ⟨?_, rfl⟩
    intro hmem
    obtain ⟨x, hx, hkey⟩ := List.mem_map.mp hmem
    apply hnew
    refine List.any_eq_true.mpr ⟨x, hx, ?_⟩
    simp_all

/-- A line is one more option or none. -/
theorem keys_of_line (h : s.line number text = .ok s') :
    s'.keys = s.keys ∨ ∃ key, key ∉ s.keys ∧ s'.keys = key :: s.keys := by
  unfold line at h
  dsimp only at h
  split at h
  · cases h
    exact .inl rfl
  · split at h
    · cases h
      split
      · exact .inl (keys_extend s [])
      · exact .inl rfl
    · split at h
      · cases h
        exact .inl (keys_extend s _)
      · split at h
        · have hkeys := keys_of_header h
          exact .inl hkeys
        · cases h
        · have hkeys := keys_of_option h
          exact .inr ⟨_, hkeys⟩
        · cases h
          exact .inl rfl

/-- Reading a line never adds an option that is there already. -/
theorem nodup_lines {lines : List Text} (hs : s.keys.Nodup) (h : s.lines number lines = .ok s') :
    s'.keys.Nodup := by
  induction lines generalizing s number with
  | nil =>
    cases h
    exact hs
  | cons text lines ih =>
    unfold Reader.lines at h
    split at h
    · next next hline =>
      refine ih ?_ h
      rcases keys_of_line hline with hkeys | ⟨key, hnew, hkeys⟩
      · rw [hkeys]
        exact hs
      · rw [hkeys]
        exact List.nodup_cons.mpr ⟨hnew, hs⟩
    · cases h

end Reader

def IsDistinct (ini : Ini) : Prop := (ini.entries.map fun e => (e.section_, e.option)).Nodup

theorem isDistinct_of_finish {s : Reader} (hs : s.keys.Nodup) (h : s.finish = .ok ini) :
    ini.IsDistinct := by
  unfold Reader.finish at h
  split at h
  · cases h
    have hkeys : (s.entries.reverse.map fun x => (x.1, x.2.1)) = s.keys.reverse := by
      rw [Reader.keys, List.map_reverse]
    rw [IsDistinct, List.map_map]
    exact hkeys ▸ List.nodup_reverse.mpr hs
  · cases h

/-- In a file that is read, no option stands twice in a section. -/
theorem isDistinct_of_ofReading {r : Utf8.Reading} (h : ofReading r = .ok ini) : ini.IsDistinct := by
  unfold ofReading at h
  dsimp only at h
  split at h
  · cases h
  · cases h
  · next hlines _ =>
    have hkeys := Reader.nodup_lines (s := {}) List.nodup_nil hlines
    exact isDistinct_of_finish hkeys (mapError_eq_ok.mp h)

/-! ## Values as they are written -/

/-- The file has the section, and the option has this value in it, or else in the default section. -/
def Has (ini : Ini) (name option raw : Text) : Prop :=
  name ∈ ini.sections ∧
    (⟨name, option, raw⟩ ∈ ini.entries ∨
      (∀ own, ⟨name, option, own⟩ ∉ ini.entries) ∧ ⟨defaultSection, option, raw⟩ ∈ ini.entries)

theorem find?_eq_some (h : ini.IsDistinct) :
    ini.find? name option = some raw ↔ ⟨name, option, raw⟩ ∈ ini.entries := by
  rw [find?, Option.map_eq_some_iff]
  constructor
  · rintro ⟨e, he, rfl⟩
    have hmem := List.mem_of_find?_eq_some he
    have hkey := List.find?_some he
    simp only [Bool.and_eq_true, beq_iff_eq] at hkey
    obtain ⟨rfl, rfl⟩ := hkey
    exact hmem
  · intro hmem
    cases hfind : ini.entries.find? fun e => e.section_ == name && e.option == option with
    | none => simpa using List.find?_eq_none.mp hfind _ hmem
    | some e =>
      have hkey := List.find?_some hfind
      simp only [Bool.and_eq_true, beq_iff_eq] at hkey
      have he := List.inj_on_of_nodup_map h (List.mem_of_find?_eq_some hfind) hmem (by simp [hkey])
      exact ⟨e, rfl, by rw [he]⟩

theorem find?_eq_none (h : ini.IsDistinct) :
    ini.find? name option = none ↔ ∀ raw, ⟨name, option, raw⟩ ∉ ini.entries := by
  rw [Option.eq_none_iff_forall_ne_some]
  exact forall_congr' fun raw => not_congr (find?_eq_some h)

/-- The option of the section itself takes precedence over that of the default section. -/
theorem raw?_eq_some (h : ini.IsDistinct) :
    ini.raw? name option = some raw ↔ ini.Has name option raw := by
  rw [raw?, Has, ← find?_eq_none h, ← find?_eq_some h, ← find?_eq_some h]
  split
  · next hsection =>
    simp only [List.contains_iff_mem.mp hsection, true_and]
    exact Option.or_eq_some_iff
  · next hsection =>
    rw [List.contains_iff_mem] at hsection
    simp [hsection]

theorem raw?_eq_none (h : ini.IsDistinct) :
    ini.raw? name option = none ↔ ∀ raw, ¬ ini.Has name option raw := by
  rw [Option.eq_none_iff_forall_ne_some]
  exact forall_congr' fun raw => not_congr (raw?_eq_some h)

/-! ## References -/

/-- What a value is made of: characters, references to options, or what is no value any more. -/
inductive Token where
  | char (c : Char)
  | reference (option : Text)
  | bad (e : ValueError)
  deriving DecidableEq

/-- The tokens of a value, as far as it is a value, in so many steps at most. -/
def tokensIn : Nat → Text → List Token
  | _, [] => []
  | 0, cs => cs.map .char
  | n + 1, '%' :: '%' :: cs => .char '%' :: tokensIn n cs
  | n + 1, '%' :: cs =>
    if cs.head? ≠ some '(' then [.bad (.badPercent ('%' :: cs))]
    else match reference? ('%' :: cs) with
      | none => [.bad (.badReference ('%' :: cs))]
      | some (option, rest) => .reference option :: tokensIn n rest
  | n + 1, c :: cs => .char c :: tokensIn n cs

def tokens (raw : Text) : List Token := tokensIn raw.length raw

def RefersTo (raw option : Text) : Prop := .reference option ∈ tokens raw

instance (raw option : Text) : Decidable (RefersTo raw option) := by
  unfold RefersTo
  infer_instance

/-- The text that tokens stand for. `meant` gives what is meant by a reference. -/
def evaluate (meant : Text → Except ValueError Text) : List Token → Except ValueError Text
  | [] => .ok []
  | .char c :: rest => (evaluate meant rest).map (c :: ·)
  | .reference option :: rest => do
    let value ← meant option
    return value ++ (← evaluate meant rest)
  | .bad e :: _ => .error e

def meant (lookUp : Text → Option Text) (missing : Text → ValueError)
    (inner : Text → Except ValueError Text) (option : Text) : Except ValueError Text :=
  match lookUp option with
  | none => .error (missing option)
  | some value => if value.contains '%' then inner value else .ok value

theorem evaluate_chars (look : Text → Except ValueError Text) (cs : Text) :
    evaluate look (cs.map .char) = .ok cs := by
  induction cs with
  | nil => rfl
  | cons c cs ih =>
    rw [List.map_cons, evaluate, ih]
    rfl

theorem go_eq (lookUp : Text → Option Text) (missing : Text → ValueError)
    (inner : Text → Except ValueError Text) (n : Nat) (cs : Text) :
    expand.go lookUp missing inner n cs =
      evaluate (meant lookUp missing inner) (tokensIn n cs) := by
  fun_induction tokensIn n cs with
  | case1 => simp [expand.go, evaluate]
  | case2 cs hne =>
    rw [evaluate_chars]
    cases cs with
    | nil => rfl
    | cons c cs => rfl
  | case3 n cs ih =>
    rw [expand.go, ih]
    rfl
  | case4 n cs hpercent hopen =>
    rw [expand.go, if_pos hopen]
    · rfl
    · exact hpercent
  | case5 n cs hpercent hopen hreference =>
    rw [expand.go, if_neg hopen, hreference]
    · rfl
    · exact hpercent
  | case6 n cs hpercent hopen option rest hreference ih =>
    rw [expand.go, if_neg hopen, hreference]
    · simp only [ih, evaluate, meant]
      cases lookUp option with
      | none => rfl
      | some value => by_cases hnested : value.contains '%' <;> simp only [hnested] <;> rfl
    · exact hpercent
  | case7 n c cs hpair hother ih =>
    rw [expand.go, ih]
    · rfl
    · exact hpair
    · exact hother

/-! ## What is meant -/

/-- What tokens mean in a section: a character itself, and a reference what the option means. -/
inductive Means (ini : Ini) (name : Text) : List Token → Text → Prop where
  | done : Means ini name [] []
  | char {c ts cs} (rest : Means ini name ts cs) : Means ini name (.char c :: ts) (c :: cs)
  | reference {option raw value ts cs} (has : ini.Has name option raw)
      (means : Means ini name (tokens raw) value) (rest : Means ini name ts cs) :
      Means ini name (.reference option :: ts) (value ++ cs)

theorem tokensIn_of_not_mem {cs : Text} (h : '%' ∉ cs) (n : Nat) :
    tokensIn n cs = cs.map .char := by
  fun_induction tokensIn n cs with
  | case1 => rfl
  | case2 => rfl
  | case3 | case4 | case5 | case6 => simp at h
  | case7 n c cs _ _ ih => rw [ih (List.not_mem_of_not_mem_cons h), List.map_cons]

theorem means_chars (ini : Ini) (name : Text) (cs : Text) : ini.Means name (cs.map .char) cs := by
  induction cs with
  | nil => exact .done
  | cons c cs ih => exact .char ih

/-- By induction on the tokens, for any way of looking up options that gives what they mean. -/
theorem means_of_evaluate {look : Text → Except ValueError Text} {ts : List Token} {cs : Text}
    (hlook : ∀ option value, look option = .ok value →
      ∃ raw, ini.Has name option raw ∧ ini.Means name (tokens raw) value)
    (h : evaluate look ts = .ok cs) : ini.Means name ts cs := by
  induction ts generalizing cs with
  | nil =>
    cases h
    exact .done
  | cons t ts ih =>
    cases t with
    | char c =>
      obtain ⟨rest, hrest, rfl⟩ := map_eq_ok.mp h
      exact .char (ih hrest)
    | reference option =>
      obtain ⟨value, hvalue, h⟩ := bind_eq_ok.mp h
      obtain ⟨rest, hrest, h⟩ := bind_eq_ok.mp h
      cases h
      obtain ⟨raw, hhas, hmeans⟩ := hlook option value hvalue
      exact .reference hhas hmeans (ih hrest)
    | bad e => cases h

/-- What comes of replacing references is what is meant, however deep they go. -/
theorem means_of_expand (hini : ini.IsDistinct) {missing : Text → ValueError} {deep : ValueError}
    {depth : Nat} {cs : Text} (h : expand (ini.raw? name) missing deep depth raw = .ok cs) :
    ini.Means name (tokens raw) cs := by
  induction depth generalizing raw cs with
  | zero => cases h
  | succ depth ih =>
    rw [expand, go_eq] at h
    refine means_of_evaluate ?_ h
    intro option value hmeant
    unfold meant at hmeant
    split at hmeant
    · cases hmeant
    · next raw' hraw =>
      refine ⟨raw', (raw?_eq_some hini).mp hraw, ?_⟩
      split at hmeant
      · exact ih hmeant
      · next hplain =>
        cases hmeant
        have hnone : '%' ∉ value := by simpa using hplain
        rw [tokens, tokensIn_of_not_mem hnone]
        exact means_chars ini name value

/-- The value that is got is what is meant by the one that stands there. -/
theorem has_of_get? (hini : ini.IsDistinct) {cs : Text} (h : ini.get? name option = .ok (some cs)) :
    ∃ raw, ini.Has name option raw ∧ ini.Means name (tokens raw) cs := by
  unfold get? at h
  split at h
  · cases h
  · next raw hraw =>
    obtain ⟨value, hvalue, he⟩ := map_eq_ok.mp h
    cases he
    exact ⟨raw, (raw?_eq_some hini).mp hraw, means_of_expand hini hvalue⟩

theorem not_has_of_get? (hini : ini.IsDistinct) (h : ini.get? name option = .ok none) :
    ∀ raw, ¬ ini.Has name option raw := by
  rw [← raw?_eq_none hini]
  unfold get? at h
  split at h
  · assumption
  · obtain ⟨value, -, he⟩ := map_eq_ok.mp h
    cases he

/-! ## What a value depends on -/

theorem evaluate_congr {look look' : Text → Except ValueError Text} {ts : List Token}
    (h : ∀ option, .reference option ∈ ts → look' option = look option) :
    evaluate look' ts = evaluate look ts := by
  induction ts with
  | nil => rfl
  | cons t ts ih =>
    have hrest := ih fun option hmem => h option (List.mem_cons_of_mem t hmem)
    cases t with
    | char c => rw [evaluate, evaluate, hrest]
    | reference option => rw [evaluate, evaluate, hrest, h option List.mem_cons_self]
    | bad e => rfl

/-- Values that refer to alike options only, which have such values again, are expanded alike. -/
theorem expand_congr {lookUp lookUp' : Text → Option Text} {missing : Text → ValueError}
    {deep : ValueError} {Alike : Text → Prop}
    (h : ∀ raw, Alike raw → ∀ option, RefersTo raw option →
      lookUp' option = lookUp option ∧ ∀ value, lookUp option = some value → Alike value)
    (depth : Nat) {raw : Text} (hraw : Alike raw) :
    expand lookUp' missing deep depth raw = expand lookUp missing deep depth raw := by
  induction depth generalizing raw with
  | zero => rfl
  | succ depth ih =>
    rw [expand, expand, go_eq, go_eq]
    apply evaluate_congr
    intro option hmem
    obtain ⟨hlook, halike⟩ := h raw hraw option hmem
    unfold meant
    rw [hlook]
    cases hvalue : lookUp option with
    | none => rfl
    | some value =>
      dsimp only
      rw [ih (halike value hvalue)]

/-- Two files give the same to all options of another name, and none of these options refers to one of
the name that they do not give the same to. -/
structure DifferAt (changed : Text) (ini ini' : Ini) : Prop where
  others : ∀ name option, option ≠ changed → ini'.raw? name option = ini.raw? name option
  unreferred : ∀ name option raw, option ≠ changed → ini.raw? name option = some raw →
    RefersTo raw changed → ini'.raw? name changed = ini.raw? name changed

def IsKept (ini ini' : Ini) (name value : Text) : Prop :=
  ∃ option, ini'.raw? name option = ini.raw? name option ∧ ini.raw? name option = some value

/-- Values that are kept refer to options with kept values only. -/
theorem DifferAt.raw?_of_refersTo {changed value : Text} {ini' : Ini} (h : ini.DifferAt changed ini')
    (hkept : ini.IsKept ini' name value) (hrefers : RefersTo value option) :
    ini'.raw? name option = ini.raw? name option := by
  obtain ⟨o, ho, hvalue⟩ := hkept
  by_cases hoption : option = changed
  · subst hoption
    by_cases hself : o = option
    · exact hself ▸ ho
    · exact h.unreferred name o value hself hvalue hrefers
  · exact h.others name option hoption

/-- Every option but the one that differs has the same value in both files, its references included.
-/
theorem get?_of_differAt {changed : Text} {ini' : Ini} (h : ini.DifferAt changed ini')
    (hoption : option ≠ changed) : ini'.get? name option = ini.get? name option := by
  have hclosed : ∀ value, ini.IsKept ini' name value → ∀ reference, RefersTo value reference →
      ini'.raw? name reference = ini.raw? name reference ∧
        ∀ v, ini.raw? name reference = some v → ini.IsKept ini' name v := by
    intro value hvalue reference hrefers
    have hsame := h.raw?_of_refersTo hvalue hrefers
    exact ⟨hsame, fun v hv => ⟨reference, hsame, hv⟩⟩
  have hraw := h.others name option hoption
  unfold get?
  rw [hraw]
  cases hvalue : ini.raw? name option with
  | none => rfl
  | some raw =>
    have hkept : ini.IsKept ini' name raw := ⟨option, hraw, hvalue⟩
    dsimp only
    rw [expand_congr hclosed maxDepth hkept]

section
variable {sections : List Text} {before after : List Entry} {place changed x y : Text}

/-- One entry more or less is the same to all options of another name. -/
theorem raw?_entry (hoption : option ≠ changed) :
    raw? ⟨sections, before ++ ⟨place, changed, x⟩ :: after⟩ name option =
      raw? ⟨sections, before ++ after⟩ name option := by
  have hfind (name : Text) : find? ⟨sections, before ++ ⟨place, changed, x⟩ :: after⟩ name option =
      find? ⟨sections, before ++ after⟩ name option := by
    simp [find?, List.find?_append, Ne.symm hoption]
  rw [raw?, raw?, hfind, hfind]

theorem exists_entry_of_raw? (h : ini.raw? name option = some raw) :
    ∃ entry ∈ ini.entries, entry.value = raw := by
  have hfound {place : Text} (hfind : ini.find? place option = some raw) :
      ∃ entry ∈ ini.entries, entry.value = raw := by
    obtain ⟨entry, hentry, hvalue⟩ := Option.map_eq_some_iff.mp hfind
    exact ⟨entry, List.mem_of_find?_eq_some hentry, hvalue⟩
  unfold raw? at h
  split at h
  · rcases Option.or_eq_some_iff.mp h with hfind | ⟨-, hfind⟩
    · exact hfound hfind
    · exact hfound hfind
  · cases h

/-- Files that are the same up to the value of one entry, whose option no other value refers to. -/
theorem differAt_of_entry (before after : List Entry)
    (h : ∀ entry ∈ before ++ after, ¬ RefersTo entry.value changed) :
    DifferAt changed ⟨sections, before ++ ⟨place, changed, x⟩ :: after⟩
      ⟨sections, before ++ ⟨place, changed, y⟩ :: after⟩ := by
  constructor
  · intro name option hoption
    rw [raw?_entry hoption, raw?_entry hoption]
  · intro name option raw hoption hraw hrefers
    rw [raw?_entry hoption] at hraw
    obtain ⟨entry, hentry, rfl⟩ := exists_entry_of_raw? hraw
    exact absurd hrefers (h entry hentry)

end

end StoryBlanks.Ini
