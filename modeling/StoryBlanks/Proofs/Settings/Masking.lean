import StoryBlanks.Proofs.Settings.Sources

/-!
# Settings that the environment masks

What a file gives for a setting is fetched and read even where the environment has a word of its own for
it. Main statement: two files that differ in the one value that is masked lead to the same settings or the
same failure, provided that the value can be fetched and read from both; where it cannot, no settings are
loaded, whatever the environment says.
-/
namespace StoryBlanks.Settings

open Result

/-- What the file gives can be fetched, and it is a number if it has to be one. -/
def Overridable.IsSound (v : Overridable) (ini : Ini) : Prop :=
  ∃ value, ini.get? v.place v.option = .ok value ∧
    ∀ cs, value = some cs → v = .lineWidth → ∃ n, Text.toInt 10 cs = .ok n

variable {root : Path} {t t' : Tree} {ini ini' : Ini} {e : Environment} {s : Settings}
  {v : Overridable}

/-! ## The environment last -/

theorem width?_eq_ok {value : Option Text} :
    (∃ w, width? value = .ok w) ↔ ∀ cs, value = some cs → ∃ n, Text.toInt 10 cs = .ok n := by
  cases value with
  | none => exact iff_of_true ⟨none, rfl⟩ nofun
  | some cs =>
    constructor
    · rintro ⟨w, hw⟩ _ ⟨⟩
      obtain ⟨n, hn, -⟩ := map_eq_ok.mp hw
      exact ⟨n, mapError_eq_ok.mp hn⟩
    · intro h
      obtain ⟨n, hn⟩ := h cs rfl
      exact ⟨some n, map_eq_ok.mpr ⟨n, mapError_eq_ok.mpr hn, rfl⟩⟩

/-- What is sound has been got, and a width has been read. -/
theorem isSound_iff : v.IsSound ini ↔
    ∃ value, got ini v = .ok value ∧ (v = .lineWidth → ∃ w, width? value = .ok w) := by
  refine exists_congr fun value => and_congr mapError_eq_ok.symm ?_
  constructor
  · intro h hv
    exact width?_eq_ok.mpr fun cs hcs => h cs hcs hv
  · intro h cs hcs hv
    exact width?_eq_ok.mp (h hv) cs hcs

/-- A setting that the environment gives is settled in the same way whatever has been got for it. -/
theorem settle_masked {look look' : Overridable → Except Failure (Option Text)}
    {promptFormat : Option Text} {logStyle : Except Failure (Option Text)} {x y : Option Text}
    (hgiven : v.given e ≠ []) (hothers : ∀ o, o ≠ v → look' o = look o)
    (hx : look v = .ok x) (hy : look' v = .ok y)
    (hwidth : v = .lineWidth → ∃ w, width? x = .ok w)
    (hwidth' : v = .lineWidth → ∃ w, width? y = .ok w) :
    settle e look' promptFormat logStyle = settle e look promptFormat logStyle := by
  have hempty : (v.given e).isEmpty = false := by simpa using hgiven
  unfold settle
  simp only [withEnvironment_eq]
  cases v with
  | directory =>
    rw [hothers .manifest nofun, hothers .lineWidth nofun, hothers .logLevel nofun, hx, hy]
    simp only [Overridable.given] at hempty
    simp only [hempty]
    rfl
  | manifest =>
    rw [hothers .directory nofun, hothers .lineWidth nofun, hothers .logLevel nofun, hx, hy]
    simp only [Overridable.given] at hempty
    simp only [hempty]
    rfl
  | lineWidth =>
    obtain ⟨w, hw⟩ := hwidth rfl
    obtain ⟨w', hw'⟩ := hwidth' rfl
    have hread : look .lineWidth >>= width? = .ok w := bind_eq_ok.mpr ⟨x, hx, hw⟩
    have hread' : look' .lineWidth >>= width? = .ok w' := bind_eq_ok.mpr ⟨y, hy, hw'⟩
    rw [hothers .directory nofun, hothers .manifest nofun, hothers .logLevel nofun, hread, hread']
    simp only [Overridable.given] at hempty
    simp only [hempty]
    rfl
  | logLevel =>
    rw [hothers .directory nofun, hothers .manifest nofun, hothers .lineWidth nofun, hx, hy]
    simp only [Overridable.given] at hempty
    simp only [hempty]
    rfl

/-! ## Two files -/

theorem got_of_differAt (h : ini.DifferAt v.option ini') {o : Overridable} (ho : o ≠ v) :
    got ini' o = got ini o := by
  have hoption : o.option ≠ v.option := by
    cases o <;> cases v <;> first | exact absurd rfl ho | decide
  rw [got, got, option, option, Ini.get?_of_differAt h hoption]

/-- What a variable masks plays no part, as long as it can be fetched at all. -/
theorem settled_of_differAt (h : ini.DifferAt v.option ini') (hgiven : v.given e ≠ [])
    (hsound : v.IsSound ini) (hsound' : v.IsSound ini') : settled e ini' = settled e ini := by
  obtain ⟨x, hx, hwidth⟩ := isSound_iff.mp hsound
  obtain ⟨y, hy, hwidth'⟩ := isSound_iff.mp hsound'
  have hprompt : ini'.raw? "display" "prompt_format" = ini.raw? "display" "prompt_format" :=
    h.others _ _ (by cases v <;> decide)
  have hstyle : ini'.get? "logging" "format" = ini.get? "logging" "format" :=
    Ini.get?_of_differAt h (by cases v <;> decide)
  rw [settled, settled, option, option, hprompt, hstyle]
  exact settle_masked hgiven (fun o => got_of_differAt h) hx hy hwidth hwidth'

/-- Where settings come of a file, everything in it is sound. -/
theorem isSound_of_settled (h : settled e ini = .ok s) (v : Overridable) : v.IsSound ini := by
  obtain ⟨d, m, w, l, f, n, hd, hm, hw, hl, hf, hn, rfl⟩ := exists_of_settle h
  rw [isSound_iff]
  cases v with
  | directory => exact ⟨d, hd, nofun⟩
  | manifest => exact ⟨m, hm, nofun⟩
  | lineWidth =>
    obtain ⟨value, hvalue, hw⟩ := bind_eq_ok.mp hw
    exact ⟨value, hvalue, fun _ => ⟨w, hw⟩⟩
  | logLevel => exact ⟨l, hl, nofun⟩

/-- The file is looked at before the environment, so that a variable does not help. -/
theorem load_of_not_isSound (hini : InForce root t ini) (h : ¬ v.IsSound ini) :
    ∃ f, load root t e = .error f := by
  rw [exists_error_iff, load_eq_settled hini]
  rintro ⟨s, hs⟩
  exact h (isSound_of_settled hs v)

/-- Two files in force that differ in what they give for one setting, which no other option refers to,
lead to the same settings or the same failure if the environment has a word of its own for this setting
and what they give is sound. Where it is not sound no settings are loaded, though the environment has
a word for it. -/
theorem load_masked (v : Overridable) (hini : InForce root t ini) (hini' : InForce root t' ini')
    (h : ini.DifferAt v.option ini') (hgiven : v.given e ≠ []) :
    (v.IsSound ini → v.IsSound ini' → load root t' e = load root t e) ∧
    (¬ v.IsSound ini → ∃ f, load root t e = .error f) ∧
    (¬ v.IsSound ini' → ∃ f, load root t' e = .error f) := by
  refine ⟨fun hsound hsound' => ?_, load_of_not_isSound hini, load_of_not_isSound hini'⟩
  rw [load_eq_settled hini, load_eq_settled hini', settled_of_differAt h hgiven hsound hsound']

def ownFile (bytes : Utf8.Bytes) : Tree where
  entries := [(["config".toList], .directory), (["config".toList, "game.ini".toList], .file bytes)]
  distinct := by simp
  proper := by simp [isPlace, Path.isName]

theorem ownFile_isThere (bytes : Utf8.Bytes) :
    (ownFile bytes).isThere (file (Path.ofText ['/'])) = .ok true := by cbv

theorem ownFile_read (bytes : Utf8.Bytes) :
    (ownFile bytes).read (file (Path.ofText ['/'])) = .ok bytes := by cbv

def widthFile (width : Text) : Text := "[display]\nline_width=" ++ width

def widthTree (width : Text) : Tree := ownFile (Utf8.encode (widthFile width))

def widthIni (width : Text) : Ini := ⟨["display"], [⟨"display", "line_width", width⟩]⟩

theorem differAt_widthIni (width width' : Text) :
    (widthIni width).DifferAt Overridable.lineWidth.option (widthIni width') :=
  Ini.differAt_of_entry [] [] (by simp)

theorem inForce_widthTree {width : Text}
    (hsize : (Utf8.encode (widthFile width)).length ≤ Utf8.chunkSize)
    (hread : Ini.ofReading ⟨widthFile width, none⟩ = .ok (widthIni width)) :
    InForce (Path.ofText ['/']) (widthTree width) (widthIni width) := by
  refine .own (ownFile_isThere _) ?_
  rw [widthTree, readFile_of_encode (ownFile_read _) hsize, hread]
  rfl

theorem inForce_60 : InForce (Path.ofText ['/']) (widthTree "60") (widthIni "60") :=
  inForce_widthTree (by decide) (by decide +kernel)

theorem settled_60 : settled { lineWidth := "80" } (widthIni "60") = .ok { lineWidth := 80 } := by
  decide +kernel

/-- A width that is masked makes no difference if it is a number. -/
theorem load_masked_number :
    load (Path.ofText ['/']) (widthTree "+9") { lineWidth := "80" } =
        load (Path.ofText ['/']) (widthTree "60") { lineWidth := "80" } ∧
      load (Path.ofText ['/']) (widthTree "60") { lineWidth := "80" } = .ok { lineWidth := 80 } := by
  have hother : InForce (Path.ofText ['/']) (widthTree "+9") (widthIni "+9") :=
    inForce_widthTree (by decide) (by decide +kernel)
  have hsettled : settled { lineWidth := "80" } (widthIni "+9") = .ok { lineWidth := 80 } := by
    decide +kernel
  refine ⟨?_, ?_⟩
  · exact (load_masked .lineWidth inForce_60 hother (differAt_widthIni _ _) (by decide)).1
      (isSound_of_settled settled_60 _) (isSound_of_settled hsettled _)
  · rw [load_eq_settled inForce_60, settled_60]

/-- A width that is no number keeps settings from being loaded though it is masked, and another one in its
place does not. -/
theorem not_load_masked_word :
    InForce (Path.ofText ['/']) (widthTree "60") (widthIni "60") ∧
      InForce (Path.ofText ['/']) (widthTree "wide") (widthIni "wide") ∧
      (widthIni "60").DifferAt Overridable.lineWidth.option (widthIni "wide") ∧
      number "80" = .ok 80 ∧
      load (Path.ofText ['/']) (widthTree "60") { lineWidth := "80" } = .ok { lineWidth := 80 } ∧
      ∃ f, load (Path.ofText ['/']) (widthTree "wide") { lineWidth := "80" } = .error f := by
  have hword : InForce (Path.ofText ['/']) (widthTree "wide") (widthIni "wide") :=
    inForce_widthTree (by decide) (by decide +kernel)
  refine ⟨inForce_60, hword, differAt_widthIni _ _, by decide +kernel, ?_, ?_⟩
  · rw [load_eq_settled inForce_60, settled_60]
  · refine ⟨.numeral (.invalid 10 "wide"), ?_⟩
    rw [load_eq_settled hword]
    decide +kernel

end StoryBlanks.Settings
