import StoryBlanks.Library
import StoryBlanks.Proofs.Manifest.Entries

/-!
# The stories in rotation

What a library lists and what it takes to list it. Main statement: every path in rotation is a path
as seen from the directory of the library, and leads to a file that can be read.
-/
namespace StoryBlanks.Library

open Result

variable {l : Library} {t : Tree}

theorem require_eq_ok : l.require t = .ok () ↔ t.isDirectory l.directory = .ok true := by
  unfold require SourceFailure.ofSystem
  rw [bind_eq_ok]
  constructor
  · rintro ⟨there, hthere, h⟩
    cases there with
    | false => cases h
    | true => exact mapError_eq_ok.mp hthere
  · intro h
    exact ⟨true, mapError_eq_ok.mpr h, rfl⟩

theorem manifest_eq_ok {m : Option Manifest} :
    (l.manifest t).result = .ok m ↔
      t.isDirectory l.directory = .ok true ∧
        (Manifest.load t l.directory l.manifestName l.reader).result = .ok m := by
  unfold manifest
  rw [Noted.result_bind, Noted.result_lift, bind_eq_ok, ← require_eq_ok]
  constructor
  · rintro ⟨_, hrequire, h⟩
    exact ⟨hrequire, h⟩
  · rintro ⟨hrequire, h⟩
    exact ⟨(), hrequire, h⟩

/-- The visible files are files in the directory. -/
theorem isFile_of_mem_visible {paths : List Path} (h : l.visible t = .ok paths) {p : Path}
    (hp : p ∈ paths) : ∃ q, p = l.directory / q ∧ t.isFile p = .ok true := by
  obtain ⟨listed, -, h⟩ := bind_eq_ok.mp h
  obtain ⟨names, hnames, h⟩ := bind_eq_ok.mp h
  cases h
  obtain ⟨name, hname, rfl⟩ := List.mem_map.mp hp
  have hstory := of_mem_filterM hnames (List.mem_mergeSort.mp hname)
  obtain ⟨isFile, hfile, hvisible⟩ := map_eq_ok.mp hstory
  cases isFile with
  | false => simp at hvisible
  | true => exact ⟨Path.ofText name, rfl, hfile⟩

/-- The paths that a manifest gives, or else the directory, even if there are none. -/
def listed (l : Library) (t : Tree) : Option Manifest → Except SourceFailure (List Path)
  | some m => .ok (m.entries.map fun e => l.directory / Path.ofText e.file)
  | none => (l.visible t).mapError fun e => .source (.unlistable l.directory e)

/-- The rotation without its notes. -/
theorem rotation_result (l : Library) (t : Tree) :
    (l.rotation t).result = (l.manifest t).result >>= fun m => l.listed t m >>= fun paths =>
      if paths = [] then .error (.source (.noStories l.directory)) else .ok paths := by
  have hend (paths : List Path) :
      (do
        if paths.isEmpty then throw (.source (.noStories l.directory))
        return paths : Noted SourceFailure (List Path)).result =
        if paths = [] then .error (.source (.noStories l.directory)) else .ok paths := by
    cases paths <;> rfl
  unfold rotation
  rw [Noted.result_bind]
  congr 1
  funext m
  cases m with
  | some m => exact hend _
  | none =>
    simp only [listed]
    cases l.visible t with
    | error e => rfl
    | ok paths => exact hend paths

/-- Listing succeeds if there is something to list. -/
theorem rotation_eq_ok {paths : List Path} :
    (l.rotation t).result = .ok paths ↔
      ∃ m, (l.manifest t).result = .ok m ∧ l.listed t m = .ok paths ∧ paths ≠ [] := by
  rw [rotation_result, bind_eq_ok]
  refine exists_congr fun m => and_congr_right fun _ => ?_
  rw [bind_eq_ok]
  constructor
  · rintro ⟨found, hfound, h⟩
    split at h
    · cases h
    · next hne =>
      cases h
      exact ⟨hfound, hne⟩
  · rintro ⟨hfound, hne⟩
    exact ⟨paths, hfound, if_neg hne⟩

theorem rotation_ne_nil {paths : List Path} (h : (l.rotation t).result = .ok paths) :
    paths ≠ [] := by
  obtain ⟨m, -, -, hne⟩ := rotation_eq_ok.mp h
  exact hne

/-- With a manifest, its entries have the only say. -/
theorem rotation_of_manifest {m : Manifest} (hm : (l.manifest t).result = .ok (some m)) :
    (l.rotation t).result = if m.entries = [] then .error (.source (.noStories l.directory))
      else .ok (m.entries.map fun e => l.directory / Path.ofText e.file) := by
  rw [rotation_result, hm]
  simp [bind, Except.bind, listed]

/-- Every path in rotation leads to a file. -/
theorem isFile_of_mem_rotation {paths : List Path} (h : (l.rotation t).result = .ok paths)
    {p : Path} (hp : p ∈ paths) : ∃ q, p = l.directory / q ∧ t.isFile p = .ok true := by
  obtain ⟨m, hm, hlisted, -⟩ := rotation_eq_ok.mp h
  cases m with
  | none => exact isFile_of_mem_visible (mapError_eq_ok.mp hlisted) hp
  | some m =>
    cases hlisted
    obtain ⟨e, he, rfl⟩ := List.mem_map.mp hp
    exact ⟨Path.ofText e.file, rfl, Manifest.isFile_of_load (manifest_eq_ok.mp hm).2 e he⟩

end StoryBlanks.Library
