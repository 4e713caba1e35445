import StoryBlanks.Proofs.Journal.Noted
import StoryBlanks.Proofs.Library.Rotation
import Mathlib

/-!
# Loading what is listed

A path that a library lists already has the directory of the library in front, and is seen from
that directory once more when it is loaded. Main statement: a listed path is loaded from the file
that it names exactly if it is absolute or the directory is the working directory itself; and then
nothing but the bytes of a listed file keeps all stories, or a picked one, from being loaded.
-/
namespace StoryBlanks.Library

open Result

variable {l : Library} {t : Tree} {p : Path}

/-! ## One story -/

theorem read_of_bytes {bytes : Utf8.Bytes} (h : t.read p = .ok bytes) :
    read t p = match Utf8.decode bytes with
      | .ok text => .ok (Text.unifyNewlines text)
      | .error e => .error (.source (.undecodableStory p e)) := by
  simp only [read, h]
  cases Utf8.decode bytes <;> rfl

theorem load_eq (l : Library) (t : Tree) (p : Path) (m : Option Manifest) :
    l.load t p m = (read t (l.directory / p)).map fun text =>
      ⟨l.directory / p, titleOf m (l.directory / p), text⟩ := by
  simp only [load]
  cases read t (l.directory / p) <;> rfl

/-- A story keeps the path that it was read from. -/
theorem path_of_load {m : Option Manifest} {s : Story} (h : l.load t p m = .ok s) :
    s.path = l.directory / p := by
  rw [load_eq, map_eq_ok] at h
  obtain ⟨text, -, rfl⟩ := h
  rfl

/-- A failure to decode tells the path that was read. -/
theorem undecodable_of_load {m : Option Manifest} {q : Path} {cause : Utf8.DecodeError}
    (h : l.load t p m = .error (.source (.undecodableStory q cause))) : q = l.directory / p := by
  rw [load_eq] at h
  unfold read at h
  split at h
  · cases h
  · cases h
  · split at h
    · cases h
      rfl
    · cases h

/-- Loading the path opens the file at this very path: it gives the text in it, or says that there
is none. -/
def Opens (l : Library) (t : Tree) (p : Path) : Prop :=
  ∃ bytes, t.read p = .ok bytes ∧ ∀ m : Option Manifest, l.load t p m =
    match Utf8.decode bytes with
    | .ok text => .ok ⟨p, titleOf m p, Text.unifyNewlines text⟩
    | .error e => .error (.source (.undecodableStory p e))

theorem opens_of_join_eq (hfile : t.isFile p = .ok true) (hp : l.directory / p = p) :
    l.Opens t p := by
  obtain ⟨bytes, hbytes⟩ := Tree.isFile_iff.mp hfile
  refine ⟨bytes, hbytes, fun m => ?_⟩
  rw [load_eq, hp, read_of_bytes hbytes]
  cases Utf8.decode bytes <;> rfl

/-- Whatever comes of loading another path names that other path. -/
theorem Opens.join_eq (h : l.Opens t p) : l.directory / p = p := by
  obtain ⟨bytes, -, hload⟩ := h
  have h := hload none
  cases hd : Utf8.decode bytes with
  | ok text =>
    rw [hd] at h
    exact (path_of_load h).symm
  | error cause =>
    rw [hd] at h
    exact (undecodable_of_load h).symm

/-- A file is opened where it is exactly if the directory leaves its path as it is. -/
theorem opens_iff (hfile : t.isFile p = .ok true) : l.Opens t p ↔ l.directory / p = p :=
  ⟨Opens.join_eq, opens_of_join_eq hfile⟩

def NotText (t : Tree) (p : Path) (e : SourceFailure) : Prop :=
  ∃ bytes cause, t.read p = .ok bytes ∧ Utf8.decode bytes = .error cause ∧
    e = .source (.undecodableStory p cause)

theorem Opens.notText (h : l.Opens t p) {m : Option Manifest} {e : SourceFailure}
    (hload : l.load t p m = .error e) : NotText t p e := by
  obtain ⟨bytes, hbytes, hopens⟩ := h
  rw [hopens] at hload
  cases hd : Utf8.decode bytes with
  | ok text => simp [hd] at hload
  | error cause =>
    simp only [hd, Except.error.injEq] at hload
    exact ⟨bytes, cause, hbytes, hd, hload.symm⟩

/-! ## All stories, and a picked one -/

theorem loadAll_result (l : Library) (t : Tree) :
    (l.loadAll t).result = (l.manifest t).result >>= fun m =>
      (l.rotation t).result >>= fun paths => paths.mapM fun p => l.load t p m := by
  simp [loadAll]

/-- The directory is put in front of every path that is loaded, also of one that has it already. -/
theorem paths_of_loads {m : Option Manifest} {paths : List Path} {ss : List Story}
    (h : List.Forall₂ (fun p s => l.load t p m = .ok s) paths ss) :
    ss.map Story.path = paths.map (l.directory / ·) := by
  induction h with
  | nil => rfl
  | cons hload _ ih => rw [List.map_cons, List.map_cons, path_of_load hload, ih]

theorem loadAt_result (l : Library) (t : Tree) (paths : List Path) (i : Nat) :
    (l.loadAt t paths i).result = (l.manifest t).result >>= fun m =>
      l.load t (paths.getD i l.directory) m := by
  simp only [loadAt, Noted.result_bind, Noted.result_note, Noted.result_lift]
  rfl

/-- The story that is picked is the one that the generator chooses among those in rotation. -/
theorem pick_result {paths : List Path} (h : (l.rotation t).result = .ok paths) (g : Generator) :
    (l.pick t g).1.result = (l.manifest t).result >>= fun m =>
      l.load t (paths.getD (g.choose paths.length).1 l.directory) m := by
  have hpick : (l.pick t g).1 =
      l.rotation t >>= fun listed => l.loadAt t listed (g.choose paths.length).1 := by
    simp only [pick, h]
    rfl
  rw [hpick, Noted.result_bind, h, ← loadAt_result]
  rfl

theorem getD_choose_mem {paths : List Path} (h : paths ≠ []) (g : Generator) (d : Path) :
    paths.getD (g.choose paths.length).1 d ∈ paths := by
  have hlt := g.choose_lt (List.length_pos_iff.mpr h)
  rw [List.getD_eq_getElem _ _ hlt]
  exact List.getElem_mem hlt

/-- A listed path opens its own file exactly if the directory of the library is absolute or adds
nothing to a path, or the path is absolute without it. Where every listed path does, all stories are
loaded from the listed paths, in order, and a picked one from one of them, unless the bytes of a
listed file are no text. -/
theorem opens_listed {l : Library} {t : Tree} {paths : List Path}
    (h : (l.rotation t).result = .ok paths) :
    (∀ p ∈ paths, l.Opens t p ↔
      l.directory.isAbsolute ∨ l.directory.names = [] ∨ p.isAbsolute) ∧
    ((∀ p ∈ paths, l.Opens t p) →
      (∀ ss, (l.loadAll t).result = .ok ss → ss.map Story.path = paths) ∧
      (∀ e, (l.loadAll t).result = .error e → ∃ p ∈ paths, NotText t p e) ∧
      ∀ g : Generator,
        (∀ s, (l.pick t g).1.result = .ok s → s.path ∈ paths) ∧
        ∀ e, (l.pick t g).1.result = .error e → ∃ p ∈ paths, NotText t p e) := by
  obtain ⟨m, hm, -, hne⟩ := rotation_eq_ok.mp h
  refine ⟨fun p hp => ?_, fun hopens => ?_⟩
  · obtain ⟨q, rfl, hfile⟩ := isFile_of_mem_rotation h hp
    rw [opens_iff hfile, Path.join_eq_self_iff]
    cases hd : l.directory.isAbsolute <;> simp [hd, or_comm]
  · have hall : (l.loadAll t).result = paths.mapM fun p => l.load t p m := by
      rw [loadAll_result, hm, h]
      rfl
    refine ⟨fun ss hss => ?_, fun e he => ?_, fun g => ?_⟩
    · rw [hall, mapM_eq_ok] at hss
      rw [paths_of_loads hss]
      exact (List.map_congr_left fun p hp => (hopens p hp).join_eq).trans (List.map_id paths)
    · rw [hall] at he
      obtain ⟨p, hp, hload⟩ := exists_mem_of_mapM_eq_error he
      exact ⟨p, hp, (hopens p hp).notText hload⟩
    · have hpick : (l.pick t g).1.result =
          l.load t (paths.getD (g.choose paths.length).1 l.directory) m := by
        rw [pick_result h, hm]
        rfl
      have hmem := getD_choose_mem hne g l.directory
      refine ⟨fun s hs => ?_, fun e he => ?_⟩
      · rw [hpick] at hs
        rw [path_of_load hs, (hopens _ hmem).join_eq]
        exact hmem
      · rw [hpick] at he
        exact ⟨_, hmem, (hopens _ hmem).notText he⟩

def oneStory : Tree := { entries := [([['s']], .directory), ([['s'], ['a']], .file [65])] }

/-- The directory given by its absolute path. -/
theorem opens_listed_absolute :
    (({ directory := Path.ofText ['/', 's'] } : Library).rotation oneStory).result =
        .ok [Path.ofText ['/', 's', '/', 'a']] ∧
      Opens { directory := Path.ofText ['/', 's'] } oneStory
        (Path.ofText ['/', 's', '/', 'a']) := by
  have h : (({ directory := Path.ofText ['/', 's'] } : Library).rotation oneStory).result =
      .ok [Path.ofText ['/', 's', '/', 'a']] := by cbv
  exact ⟨h, ((opens_listed h).1 _ (by simp)).mpr (.inl (by decide))⟩

/-- Given by its relative path, the directory is put in front twice, and the one story that it lists
is looked for where there is none. -/
theorem not_opens_listed_relative :
    (({ directory := Path.ofText ['s'] } : Library).rotation oneStory).result =
        .ok [Path.ofText ['s', '/', 'a']] ∧
      ¬ Opens { directory := Path.ofText ['s'] } oneStory (Path.ofText ['s', '/', 'a']) ∧
      (({ directory := Path.ofText ['s'] } : Library).loadAll oneStory).result =
        .error (.source (.refusedStory (Path.ofText ['s', '/', 's', '/', 'a'])
          ((Path.ofText ['s', '/', 's', '/', 'a']).refused .missing))) := by
  refine ⟨by cbv, fun h => ?_, by cbv⟩
  exact absurd h.join_eq (by decide)

end StoryBlanks.Library
