import StoryBlanks.Proofs.Files.Listing
import StoryBlanks.Proofs.Library.Rotation
import StoryBlanks.Proofs.Library.Titles

/-!
# Which stories are listed, and in which order

Main statement: without a manifest file, a library lists the visible files of its directory in the
order of their names, however the directory itself is ordered; with a manifest it lists the files of
the entries, one for each entry and in their order, whatever else is there. Nothing is ever listed
without a story.
-/
namespace StoryBlanks.Library

open Result

variable {l : Library} {t t' : Tree} {paths : List Path} {name : Text}

def Shows (l : Library) (t : Tree) (name : Text) : Prop :=
  t.HasName l.directory name ∧ t.isFile (l.directory / Path.ofText name) = .ok true ∧
    name.head? ≠ some '.'

def Tells (l : Library) (t : Tree) : Prop :=
  ∀ name, t.HasName l.directory name →
    ∃ there, t.isFile (l.directory / Path.ofText name) = .ok there

/-- The paths are those of the names that the directory shows, in the order of the names. -/
def ListsShown (l : Library) (t : Tree) (paths : List Path) : Prop :=
  ∃ names : List Text, paths = names.map (fun name => l.directory / Path.ofText name) ∧
    names.Pairwise (· < ·) ∧ ∀ name, name ∈ names ↔ l.Shows t name

/-! ## Without a manifest file -/

theorem isStory_eq_ok {b : Bool} : l.isStory t name = .ok b ↔
    ∃ there, t.isFile (l.directory / Path.ofText name) = .ok there ∧
      (there && name.head? ≠ some '.' && name ≠ l.manifestName) = b := map_eq_ok

/-- The name of a manifest that is no file is not shown anyway. -/
theorem isStory_iff_shows (hnone : t.isFile (l.directory / Path.ofText l.manifestName) = .ok false)
    (hname : t.HasName l.directory name) : l.isStory t name = .ok true ↔ l.Shows t name := by
  rw [isStory_eq_ok]
  constructor
  · rintro ⟨there, hthere, h⟩
    simp only [ne_eq, Bool.and_eq_true, decide_eq_true_eq] at h
    obtain ⟨⟨rfl, hvisible⟩, -⟩ := h
    exact ⟨hname, hthere, hvisible⟩
  · rintro ⟨-, hthere, hvisible⟩
    have hother : name ≠ l.manifestName := by
      rintro rfl
      rw [hnone] at hthere
      cases hthere
    exact ⟨true, hthere, by simp [hvisible, hother]⟩

/-- There is only one way to list the names in order. -/
theorem ListsShown.unique {paths' : List Path} (h : l.ListsShown t paths)
    (h' : l.ListsShown t paths') : paths = paths' := by
  obtain ⟨names, rfl, hsorted, hshown⟩ := h
  obtain ⟨names', rfl, hsorted', hshown'⟩ := h'
  have heq : names = names' :=
    Text.eq_of_pairwise hsorted hsorted' fun name => (hshown name).trans (hshown' name).symm
  rw [heq]

/-- What is left of the listed names, once it is known of each whether it is that of a story. -/
theorem listsShown_filter (hnone : t.isFile (l.directory / Path.ofText l.manifestName) = .ok false)
    {listed : List Text} (hdistinct : listed.Nodup)
    (hmem : ∀ name, name ∈ listed ↔ t.HasName l.directory name) {q : Text → Bool}
    (hq : ∀ name ∈ listed, l.isStory t name = .ok (q name)) :
    l.ListsShown t (((listed.filter q).mergeSort Text.isAtMost).map
      fun name => l.directory / Path.ofText name) := by
  refine ⟨_, rfl, Text.pairwise_mergeSort (hdistinct.filter q), fun name => ?_⟩
  rw [List.mem_mergeSort, List.mem_filter]
  constructor
  · rintro ⟨hname, hstory⟩
    rw [← isStory_iff_shows hnone ((hmem name).mp hname), hq name hname, hstory]
  · intro hshown
    have hname : name ∈ listed := (hmem name).mpr hshown.1
    have hstory := (isStory_iff_shows hnone hshown.1).mpr hshown
    rw [hq name hname] at hstory
    exact ⟨hname, Except.ok.inj hstory⟩

/-- Without a manifest, a directory lists what it shows, provided that the system answers for every
name. -/
theorem visible_eq_ok (hdir : t.isDirectory l.directory = .ok true)
    (hnone : t.isFile (l.directory / Path.ofText l.manifestName) = .ok false) :
    l.visible t = .ok paths ↔ l.Tells t ∧ l.ListsShown t paths := by
  obtain ⟨listed, hlisted, hdistinct, hmem⟩ := Tree.exists_list hdir
  have hvisible : l.visible t = .ok paths ↔
      ∃ q : Text → Bool, (∀ name ∈ listed, l.isStory t name = .ok (q name)) ∧
        ((listed.filter q).mergeSort Text.isAtMost).map
          (fun name => l.directory / Path.ofText name) = paths := by
    rw [visible, hlisted]
    constructor
    · intro h
      obtain ⟨_, hall, h⟩ := bind_eq_ok.mp h
      cases hall
      obtain ⟨names, hnames, h⟩ := bind_eq_ok.mp h
      obtain ⟨q, hq, rfl⟩ := filterM_eq_ok.mp hnames
      exact ⟨q, hq, Except.ok.inj h⟩
    · rintro ⟨q, hq, rfl⟩
      exact bind_eq_ok.mpr ⟨listed, rfl, bind_eq_ok.mpr ⟨_, filterM_eq_ok.mpr ⟨q, hq, rfl⟩, rfl⟩⟩
  rw [hvisible]
  constructor
  · rintro ⟨q, hq, rfl⟩
    refine ⟨fun name hname => ?_, listsShown_filter hnone hdistinct hmem hq⟩
    obtain ⟨there, hthere, -⟩ := isStory_eq_ok.mp (hq name ((hmem name).mpr hname))
    exact ⟨there, hthere⟩
  · rintro ⟨htells, hlists⟩
    have hq (name : Text) (hname : name ∈ listed) :
        l.isStory t name = .ok ((l.isStory t name).toOption.getD false) := by
      obtain ⟨there, hthere⟩ := htells name ((hmem name).mp hname)
      rw [isStory_eq_ok.mpr ⟨there, hthere, rfl⟩]
      rfl
    exact ⟨_, hq, (listsShown_filter hnone hdistinct hmem hq).unique hlists⟩

/-- There is no manifest only where there is no file for it. -/
theorem noFile_of_load (h : (Manifest.load t l.directory l.manifestName l.reader).result = .ok none) :
    t.isFile (l.directory / Path.ofText l.manifestName) = .ok false := by
  rw [Manifest.load_result] at h
  obtain ⟨there, hthere, h⟩ := bind_eq_ok.mp h
  cases there with
  | false => exact mapError_eq_ok.mp hthere
  | true =>
    obtain ⟨doc, -, h⟩ := bind_eq_ok.mp h
    obtain ⟨m, -, hm⟩ := map_eq_ok.mp h
    cases hm

/-- Without a manifest file, the library looks at its directory alone. -/
theorem manifest_of_noFile (hnone : t.isFile (l.directory / Path.ofText l.manifestName) = .ok false) :
    (l.manifest t).result = (l.require t).map fun _ => none := by
  rw [manifest, Noted.result_bind, Noted.result_lift]
  simp only [Manifest.load_result, hnone]
  cases l.require t <;> rfl

theorem require_ne_noStories : l.require t ≠ .error (.source (.noStories l.directory)) := by
  intro h
  unfold require SourceFailure.ofSystem at h
  rcases bind_eq_error.mp h with h | ⟨there, -, h⟩
  · obtain ⟨r, -, hr⟩ := mapError_eq_error.mp h
    cases hr
  · cases there <;> cases h

/-- Without a manifest file, what is shown is listed, if anything is. -/
theorem rotation_of_noFile (hnone : t.isFile (l.directory / Path.ofText l.manifestName) = .ok false) :
    (l.rotation t).result = .ok paths ↔
      t.isDirectory l.directory = .ok true ∧ l.Tells t ∧ paths ≠ [] ∧ l.ListsShown t paths := by
  rw [rotation_eq_ok, manifest_of_noFile hnone]
  constructor
  · rintro ⟨m, hm, hlisted, hne⟩
    obtain ⟨_, hrequire, rfl⟩ := map_eq_ok.mp hm
    have hdir := require_eq_ok.mp hrequire
    obtain ⟨htells, hlists⟩ := (visible_eq_ok hdir hnone).mp (mapError_eq_ok.mp hlisted)
    exact ⟨hdir, htells, hne, hlists⟩
  · rintro ⟨hdir, htells, hne, hlists⟩
    have hvisible := (visible_eq_ok hdir hnone).mpr ⟨htells, hlists⟩
    exact ⟨none, map_eq_ok.mpr ⟨(), require_eq_ok.mpr hdir, rfl⟩, mapError_eq_ok.mpr hvisible, hne⟩

/-- Without a manifest file, it is said that there are no stories where the directory shows none. -/
theorem rotation_noStories_iff
    (hnone : t.isFile (l.directory / Path.ofText l.manifestName) = .ok false) :
    (l.rotation t).result = .error (.source (.noStories l.directory)) ↔
      t.isDirectory l.directory = .ok true ∧ l.Tells t ∧ ∀ name, ¬ l.Shows t name := by
  rw [rotation_result, manifest_of_noFile hnone, bind_eq_error, map_eq_error]
  constructor
  · rintro (h | ⟨m, hm, h⟩)
    · exact absurd h require_ne_noStories
    obtain ⟨_, hrequire, rfl⟩ := map_eq_ok.mp hm
    have hdir := require_eq_ok.mp hrequire
    rcases bind_eq_error.mp h with h | ⟨paths, hlisted, h⟩
    · obtain ⟨r, -, hr⟩ := mapError_eq_error.mp h
      cases hr
    · by_cases hnil : paths = []
      · subst hnil
        obtain ⟨htells, names, hnames, -, hshown⟩ :=
          (visible_eq_ok hdir hnone).mp (mapError_eq_ok.mp hlisted)
        obtain rfl : names = [] := List.map_eq_nil_iff.mp hnames.symm
        exact ⟨hdir, htells, fun name => by simp [← hshown name]⟩
      · rw [if_neg hnil] at h
        cases h
  · rintro ⟨hdir, htells, hempty⟩
    have hlists : l.ListsShown t [] := ⟨[], rfl, .nil, fun name => by simp [hempty name]⟩
    have hvisible := (visible_eq_ok hdir hnone).mpr ⟨htells, hlists⟩
    refine .inr ⟨none, map_eq_ok.mpr ⟨(), require_eq_ok.mpr hdir, rfl⟩, bind_eq_error.mpr (.inr ?_)⟩
    exact ⟨[], mapError_eq_ok.mpr hvisible, rfl⟩

/-! ## In any order -/

theorem manifest_of_reorders (h : t.Reorders t') : l.manifest t' = l.manifest t := by
  have hread : Manifest.readDocument l.reader t' = Manifest.readDocument l.reader t := by
    funext p
    rw [Manifest.readDocument, Manifest.readDocument, h.read_eq]
  have hfile : Manifest.fileIn t' = Manifest.fileIn t := by
    funext d spelling
    rw [Manifest.fileIn, Manifest.fileIn, h.isFile_eq, h.find_eq]
  rw [manifest, manifest, require, require, Manifest.load, Manifest.load, h.isDirectory_eq,
    h.isFile_eq, hread, hfile]

theorem tells_of_reorders (h : t.Reorders t') : l.Tells t' ↔ l.Tells t := by
  rw [Tells, Tells, h.hasName_eq, h.isFile_eq]

theorem listsShown_of_reorders (h : t.Reorders t') : l.ListsShown t' paths ↔ l.ListsShown t paths := by
  simp only [ListsShown, Shows, h.hasName_eq, h.isFile_eq]

/-- What is listed does not depend on the order of the entries. -/
theorem rotation_of_reorders (h : t.Reorders t') :
    (l.rotation t').result = .ok paths ↔ (l.rotation t).result = .ok paths := by
  cases hm : (l.manifest t).result with
  | error e =>
    rw [rotation_result, rotation_result, manifest_of_reorders h, hm]
    exact Iff.rfl
  | ok m =>
    cases m with
    | some m =>
      have hm' : (l.manifest t').result = .ok (some m) := by rw [manifest_of_reorders h, hm]
      rw [rotation_of_manifest hm, rotation_of_manifest hm']
    | none =>
      have hnone := noFile_of_load (manifest_eq_ok.mp hm).2
      have hnone' : t'.isFile (l.directory / Path.ofText l.manifestName) = .ok false := by
        rw [h.isFile_eq, hnone]
      rw [rotation_of_noFile hnone, rotation_of_noFile hnone', h.isDirectory_eq, tells_of_reorders h,
        listsShown_of_reorders h]

/-- Without a manifest file, the stories in rotation are the names that the directory shows, strictly
in the order of their characters, if the directory is there, nothing in it is out of reach and it
shows any name; and where it shows none, it is said that there are no stories. With a manifest they
are the files of its entries, in order, unless it has none. Nothing is listed without a story, and the
order of the directory plays no part. -/
theorem rotation_lists (l : Library) (t : Tree) :
    (t.isFile (l.directory / Path.ofText l.manifestName) = .ok false →
      (∀ paths, (l.rotation t).result = .ok paths ↔
        t.isDirectory l.directory = .ok true ∧ l.Tells t ∧ paths ≠ [] ∧
          ∃ names : List Text, paths = names.map (fun name => l.directory / Path.ofText name) ∧
            names.Pairwise (· < ·) ∧ ∀ name, name ∈ names ↔ l.Shows t name) ∧
      ((l.rotation t).result = .error (.source (.noStories l.directory)) ↔
        t.isDirectory l.directory = .ok true ∧ l.Tells t ∧ ∀ name, ¬ l.Shows t name)) ∧
    (∀ m, (l.manifest t).result = .ok (some m) →
      (l.rotation t).result = if m.entries = [] then .error (.source (.noStories l.directory))
        else .ok (m.entries.map fun e => l.directory / Path.ofText e.file)) ∧
    (l.rotation t).result ≠ .ok [] ∧
    ∀ t', t.Reorders t' → ∀ paths,
      (l.rotation t').result = .ok paths ↔ (l.rotation t).result = .ok paths := by
  refine ⟨fun hnone => ⟨fun paths => ?_, ?_⟩, fun m hm => ?_, fun h => ?_, fun t' h paths => ?_⟩
  · exact rotation_of_noFile hnone
  · exact rotation_noStories_iff hnone
  · exact rotation_of_manifest hm
  · exact rotation_ne_nil h rfl
  · exact rotation_of_reorders h

/-- A directory with two stories, one of them behind a link, among things that are none: a hidden file,
a link to nowhere, and a directory in place of the manifest. -/
def shelf : Tree :=
  { entries :=
      [([['s']], .directory), ([['s'], ['b']], .file [66]), ([['s'], ['.', 'h']], .file [67]),
        ([['s'], ['c']], .link ['n']), ([['s'], Manifest.usualName], .directory),
        ([['s'], ['a']], .link ['b'])] }

def shelfReversed : Tree := { entries := shelf.entries.reverse }

/-- Both orders of the directory, and a library with a manifest. -/
theorem rotation_lists_shelf :
    let l : Library := { directory := Path.ofText ['/', 's'] }
    let paths := [Path.ofText ['/', 's', '/', 'a'], Path.ofText ['/', 's', '/', 'b']]
    shelf.isFile (l.directory / Path.ofText l.manifestName) = .ok false ∧
      (l.rotation shelf).result = .ok paths ∧
      (∃ names : List Text, paths = names.map (fun name => l.directory / Path.ofText name) ∧
        names.Pairwise (· < ·) ∧ ∀ name, name ∈ names ↔ l.Shows shelf name) ∧
      shelf.Reorders shelfReversed ∧ (l.rotation shelfReversed).result = .ok paths ∧
      (nested.manifest nestedTree).result = .ok (some nestedManifest) ∧
      (nested.rotation nestedTree).result =
        .ok [Path.ofText ['/', 's', '/', 'a'], Path.ofText ['/', 's', '/', 't', '/', 'c']] := by
  intro l paths
  have hnone : shelf.isFile (l.directory / Path.ofText l.manifestName) = .ok false := by cbv
  have hlisted : (l.rotation shelf).result = .ok paths := by cbv
  have hreorders : shelf.Reorders shelfReversed := ⟨(List.reverse_perm _).symm, rfl⟩
  obtain ⟨hnames, -, -, horder⟩ := rotation_lists l shelf
  obtain ⟨-, hentries, -, -⟩ := rotation_lists nested nestedTree
  obtain ⟨-, -, -, hshown⟩ := ((hnames hnone).1 paths).mp hlisted
  refine ⟨hnone, hlisted, hshown, hreorders, (horder _ hreorders paths).mpr hlisted, manifest_nested, ?_⟩
  rw [hentries _ manifest_nested]
  cbv

end StoryBlanks.Library
