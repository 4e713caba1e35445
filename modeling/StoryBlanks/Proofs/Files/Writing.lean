import StoryBlanks.Proofs.Files.Reading
import StoryBlanks.Proofs.Files.Walking
import StoryBlanks.Proofs.Result

/-!
# Files that are written again

To write a file makes the directories on the way and follows the links at the end of it, a few at a time,
while to read it follows the whole path at once. Main statement: where everything stands in a
directory, a file that can be read and is written again holds what was written, and is read from the
same path.
-/
namespace StoryBlanks.Tree

/-- The second list is the first one with some single dots left out. -/
inductive Undotted : List Text → List Text → Prop where
  | nil : Undotted [] []
  | keep {step xs ys} (rest : Undotted xs ys) : Undotted (step :: xs) (step :: ys)
  | drop {xs ys} (rest : Undotted xs ys) : Undotted (['.'] :: xs) ys

variable {t t' : Tree} {p : Path} {links left n : Nat} {place last mid : Place} {name : Text}
  {names steps xs ys : List Text} {old new : Utf8.Bytes} {e : Entry}

/-- Whatever there is stands in a directory. -/
def IsWhole (t : Tree) : Prop :=
  ∀ place ∈ t.here :: t.entries.map Prod.fst, t.entry? place.dropLast = some .directory

instance (t : Tree) : Decidable t.IsWhole := by
  unfold IsWhole
  infer_instance

theorem entry?_nil (t : Tree) : t.entry? [] = some .directory := by
  unfold entry?
  simp

theorem IsWhole.above (h : t.IsWhole) (he : t.entry? place = some e) :
    t.entry? place.dropLast = some .directory := by
  unfold entry? at he
  split at he
  · next hstart =>
    simp only [Bool.or_eq_true, List.isEmpty_iff, decide_eq_true_eq] at hstart
    rcases hstart with rfl | rfl
    · exact t.entry?_nil
    · exact h _ List.mem_cons_self
  · have hmem := (lookup_eq_some_iff_mem t.distinct).mp he
    exact h _ (List.mem_cons_of_mem _ (List.mem_map.mpr ⟨_, hmem, rfl⟩))

/-! ## Single dots -/

theorem Undotted.append_left (h : Undotted xs ys) (zs : List Text) :
    Undotted (zs ++ xs) (zs ++ ys) := by
  induction zs with
  | nil => exact h
  | cons z zs ih => exact .keep ih

theorem undotted_dots (h : ∀ x ∈ xs, x = ['.']) : Undotted xs [] := by
  induction xs with
  | nil => exact .nil
  | cons x xs ih =>
    obtain ⟨rfl, hxs⟩ := List.forall_mem_cons.mp h
    exact .drop (ih hxs)

/-- A single dot leads nowhere else. -/
theorem Leads.undotted (h : t.Leads links place steps last left) (hdots : Undotted steps ys) :
    t.Leads links place ys last left := by
  induction h generalizing ys with
  | arrived =>
    cases hdots
    exact .arrived
  | here hplace _ ih =>
    cases hdots with
    | keep hrest => exact .here hplace (ih hrest)
    | drop hrest => exact ih hrest
  | up hplace _ ih =>
    cases hdots with
    | keep hrest => exact .up hplace (ih hrest)
  | down hplace hstep hthere hnolink _ ih =>
    cases hdots with
    | keep hrest => exact .down hplace hstep hthere hnolink (ih hrest)
    | drop hrest => exact absurd rfl hstep.not_here
  | along hplace hstep hthere _ ih =>
    cases hdots with
    | keep hrest => exact .along hplace hstep hthere (ih (hrest.append_left _))
    | drop hrest => exact absurd rfl hstep.not_here

/-- The target of a link as a path has the steps of the link without single dots. -/
theorem undotted_stepsOf (target : Text) : Undotted (stepsOf target) (Path.ofText target).names := by
  have hpieces : ∀ piece ∈ Text.splitOn '/' target, '/' ∉ piece :=
    fun _ => Text.sep_not_mem_of_mem_splitOn
  have hnames : (Path.ofText target).names = (Text.splitOn '/' target).filter Path.isName := rfl
  rw [hnames, stepsOf]
  generalize Text.splitOn '/' target = pieces at hpieces
  induction pieces with
  | nil =>
    apply undotted_dots
    intro x hx
    split at hx <;> simp_all
  | cons piece pieces ih =>
    obtain ⟨hpiece, hrest⟩ := List.forall_mem_cons.mp hpieces
    have ih := ih hrest
    by_cases hempty : piece = []
    · simpa [hempty, Path.isName] using ih
    · by_cases hdot : piece = ['.']
      · have hdrop : Path.isName ['.'] = false := by decide
        simpa [hdot, hdrop] using ih.drop
      · have hkeep : Path.isName piece = true := by simp [Path.isName, hempty, hdot, hpiece]
        simpa [hempty, hkeep] using ih.keep

/-! ## The place where a file is written -/

/-- A way from a directory to a file has at least one step. -/
theorem exists_concat_of_leads (hplace : t.entry? place = some .directory)
    (h : t.Leads links place names last left) (hlast : t.entry? last = some (.file old)) :
    ∃ front name, names = front ++ [name] := by
  rcases List.eq_nil_or_concat names with rfl | hname
  · cases h
    rw [hplace] at hlast
    cases hlast
  · simpa using hname

/-- What is written through a link is written where its target leads. -/
theorem destination_link {target : Text} (hthere : t.entry? (place ++ [name]) = some (.link target))
    (hwalk : t.walk n (linkStart target place) (Path.ofText target).parent.names = .ok mid) :
    t.destination (n + 1) place name = t.destination n mid (Path.ofText target).name := by
  unfold linkStart at hwalk
  simp only [destination, hthere, hwalk]

/-- A file is written where it would be read. -/
theorem Leads.destination_eq (hwhole : t.IsWhole) (h : t.Leads links place [name] last left)
    (hname : Path.isName name) (hlast : t.entry? last = some (.file old)) (hn : links ≤ n) :
    t.destination n place name = last := by
  induction n generalizing links place name with
  | zero =>
    cases h with
    | here => cases hname
    | up hplace hrest =>
      cases hrest
      rw [hwhole.above hplace] at hlast
      cases hlast
    | down hplace hstep hthere hnolink hrest =>
      cases hrest
      rfl
    | along => omega
  | succ n ih =>
    cases h with
    | here => cases hname
    | up hplace hrest =>
      cases hrest
      rw [hwhole.above hplace] at hlast
      cases hlast
    | down hplace hstep hthere hnolink hrest =>
      cases hrest
      rw [destination, hlast]
    | @along links _ _ _ target _ _ hplace hstep hthere hrest =>
      rw [List.append_nil] at hrest
      have hdots := hrest.undotted (undotted_stepsOf target)
      have hstart : t.entry? (linkStart target place) = some .directory := by
        unfold linkStart
        split
        · exact t.entry?_nil
        · exact hplace
      obtain ⟨front, name', hnames⟩ := exists_concat_of_leads hstart hdots hlast
      rw [hnames] at hdots
      obtain ⟨mid, rest, hfront, hend⟩ := hdots.split
      have hwalk : t.walk n (linkStart target place) (Path.ofText target).parent.names = .ok mid := by
        have hparent : (Path.ofText target).parent.names = front := by simp [Path.parent, hnames]
        rw [hparent]
        exact hfront.walk_of_le (by omega)
      have hname' : (Path.ofText target).name = name' := by simp [Path.name, hnames]
      rw [destination_link hthere hwalk, hname']
      refine ih hend ((Path.ofText target).isName_of_mem name' (by simp [hnames])) ?_
      have hle := hfront.left_le
      omega

/-- Steps that each lead on lead where they lead together. -/
theorem Leads.foldl_eq {f : Tree × Place → Text → Tree × Place}
    (hf : ∀ {mid name there}, t.walk maxLinks mid [name] = .ok there → f (t, mid) name = (t, there))
    (h : t.Leads links place names last left) (hlinks : links ≤ maxLinks) :
    names.foldl f (t, place) = (t, last) := by
  induction names generalizing links place with
  | nil =>
    cases h
    rfl
  | cons name names ih =>
    have hsteps : t.Leads links place ([name] ++ names) last left := h
    obtain ⟨mid, rest, hname, hrest⟩ := hsteps.split
    rw [List.foldl_cons, hf (hname.walk_of_le hlinks)]
    have hle := hname.left_le
    apply ih hrest
    omega

/-- No directory is made where they are all there. -/
theorem Leads.makeDirectories_eq
    (h : t.Leads links (if p.isAbsolute then [] else t.here) p.names last left)
    (hlinks : links ≤ maxLinks) : t.makeDirectories p = (t, last) := by
  refine h.foldl_eq ?_ hlinks
  intro mid name there hwalk
  simp only [hwalk]

/-! ## Other contents of one file -/

theorem lookup_map_change {α β : Type} [BEq α] [LawfulBEq α] [DecidableEq α]
    (xs : List (α × β)) (a k : α) (b : β) :
    (xs.map fun x => (x.1, if x.1 = a then b else x.2)).lookup k =
      (xs.lookup k).map fun old => if k = a then b else old := by
  induction xs with
  | nil => rfl
  | cons x xs ih =>
    rw [List.map_cons, List.lookup_cons, List.lookup_cons]
    split
    · next hk => simp [eq_of_beq hk]
    · exact ih

theorem lookup_of_file (h : t.entry? place = some (.file old)) :
    t.entries.lookup place = some (.file old) ∧ place ≠ [] ∧ place ≠ t.here := by
  unfold entry? at h
  split at h
  · cases h
  · next hstart => simp_all

theorem entry?_change (hplace : t.entry? place = some (.file old)) (k : Place) :
    Tree.entry? (t.change place (.file new)) k =
      if k = place then some (.file new) else t.entry? k := by
  obtain ⟨hlookup, htop, hhere⟩ := lookup_of_file hplace
  unfold entry? change
  simp only [lookup_map_change]
  by_cases hk : k = place
  · subst hk
    simp [hlookup, htop, hhere]
  · simp [hk]

/-- Writing to a file that is there changes what it holds and nothing else. -/
theorem sameOutline_change (hplace : t.entry? place = some (.file old)) :
    t.SameOutline (t.change place (.file new)) := by
  intro k
  unfold outline?
  rw [entry?_change hplace]
  split
  · next hk =>
    rw [hk, hplace]
    rfl
  · rfl

theorem resolve_eq_ok : t.resolve p = .ok place ↔ (Utf8.encode p.text).length < maxPath ∧
    ∃ left, t.Leads maxLinks (if p.isAbsolute then [] else t.here) p.names place left := by
  unfold resolve
  split
  · next hlong => simp [Nat.not_lt.mpr hlong]
  · next hshort => simp [Nat.not_le.mp hshort, walk_eq_ok]

theorem find_eq_ok :
    t.find p = .ok e ↔ ∃ place, t.resolve p = .ok place ∧ t.entry? place = some e := by
  rw [find, Result.bind_eq_ok]
  refine exists_congr fun place => and_congr_right fun _ => ?_
  cases t.entry? place with
  | none => simp [throw, throwThe, MonadExceptOf.throw]
  | some e' => simp [pure, Except.pure]

theorem read_eq_ok : t.read p = .ok old ↔ '\x00' ∉ p.text ∧ t.find p = .ok (.file old) := by
  unfold read
  split
  · next hnull => simp_all
  · next hnull =>
    cases t.find p with
    | error reason => simp
    | ok e => cases e <;> simp_all

/-- A file that is there already is written at its place. -/
theorem write_eq_change (hwhole : t.IsWhole)
    (h : t.Leads maxLinks (if p.isAbsolute then [] else t.here) p.names place left)
    (hplace : t.entry? place = some (.file old)) :
    t.write p new = t.change place (.file new) := by
  obtain ⟨front, name, hnames⟩ :=
    exists_concat_of_leads (start_is_directory t p.isAbsolute) h hplace
  have hparent : p.parent.names = front := by simp [Path.parent, hnames]
  have hname : p.name = name := by simp [Path.name, hnames]
  have hvalid : Path.isName name := p.isName_of_mem name (by simp [hnames])
  rw [hnames] at h
  obtain ⟨mid, rest, hfront, hend⟩ := h.split
  have hparents : t.Leads maxLinks (if p.parent.isAbsolute then [] else t.here) p.parent.names mid
      rest := by
    rw [hparent]
    exact hfront
  have hmade : t.makeDirectories p.parent = (t, mid) := hparents.makeDirectories_eq (Nat.le_refl _)
  have hthere : place ∈ t.entries.map Prod.fst :=
    List.mem_map.mpr ⟨_, (lookup_eq_some_iff_mem t.distinct).mp (lookup_of_file hplace).1, rfl⟩
  have hdestination := hend.destination_eq hwhole hvalid hplace hfront.left_le
  simp only [write, hmade, hname, hdestination, put, dif_pos hthere]

/-- What is written over a file is read from the same path. -/
theorem read_write (hwhole : t.IsWhole) (hread : t.read p = .ok old) :
    (t.write p new).read p = .ok new := by
  obtain ⟨hnull, hfind⟩ := read_eq_ok.mp hread
  obtain ⟨place, hresolve, hplace⟩ := find_eq_ok.mp hfind
  obtain ⟨hshort, left, hleads⟩ := resolve_eq_ok.mp hresolve
  rw [write_eq_change hwhole hleads hplace]
  refine read_eq_ok.mpr ⟨hnull, find_eq_ok.mpr ⟨place, resolve_eq_ok.mpr ⟨hshort, left, ?_⟩, ?_⟩⟩
  · exact hleads.of_sameOutline (sameOutline_change hplace)
  · rw [entry?_change hplace, if_pos rfl]

end StoryBlanks.Tree
