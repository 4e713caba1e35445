import StoryBlanks.Proofs.Library.Loading
import StoryBlanks.Proofs.Manifest.Failing

/-!
# Bare failures of a library

Whatever a library does with its files, it looks at its directory and its manifest first. Main
statement: that is where all bare failures come from, the same ones for listing, for loading all
stories and for a pick; and to load a story at a given path fails in this way exactly if there is a
null character in the path.
-/
namespace StoryBlanks.Library

open Result

variable {l : Library} {t : Tree} {p : Path} {e : SourceFailure}

/-- The directory of a library cannot be looked at, or its manifest balks. -/
inductive Balks (l : Library) (t : Tree) : SourceFailure → Prop where
  | refused {r} (directory : t.isDirectory l.directory = .error r) : Balks l t (.refused r)
  | manifest {e : SourceFailure} (directory : t.isDirectory l.directory = .ok true)
      (balk : Manifest.LoadBalks t l.directory l.manifestName l.reader e) : Balks l t e

/-! ## Listing -/

theorem require_eq_error (he : e.IsBare) :
    l.require t = .error e ↔ ∃ r, t.isDirectory l.directory = .error r ∧ e = .refused r := by
  unfold require SourceFailure.ofSystem
  rw [bind_eq_error, mapError_eq_error]
  constructor
  · rintro (⟨r, hr, rfl⟩ | ⟨there, -, h⟩)
    · exact ⟨r, hr, rfl⟩
    · cases there with
      | false =>
        cases h
        exact absurd he (SourceFailure.not_isBare_source _)
      | true => cases h
  · rintro ⟨r, hr, rfl⟩
    exact .inl ⟨r, hr, rfl⟩

theorem manifest_eq_error (he : e.IsBare) :
    (l.manifest t).result = .error e ↔ l.Balks t e := by
  unfold manifest
  rw [Noted.result_bind, Noted.result_lift, bind_eq_error, require_eq_error he]
  constructor
  · rintro (⟨r, hr, rfl⟩ | ⟨_, hthere, h⟩)
    · exact .refused hr
    · exact .manifest (require_eq_ok.mp hthere) ((Manifest.load_eq_error he).mp h)
  · rintro (hr | ⟨hthere, hbalk⟩)
    · exact .inl ⟨_, hr, rfl⟩
    · exact .inr ⟨(), require_eq_ok.mpr hthere, (Manifest.load_eq_error he).mpr hbalk⟩

/-- Behind the manifest, listing fails only because there is nothing to list. -/
theorem rotation_eq_error (he : e.IsBare) :
    (l.rotation t).result = .error e ↔ (l.manifest t).result = .error e := by
  rw [rotation_result, bind_eq_error, or_iff_left_iff_imp]
  rintro ⟨m, -, h⟩
  exfalso
  rcases bind_eq_error.mp h with h | ⟨paths, -, h⟩
  · cases m with
    | some m => cases h
    | none =>
      obtain ⟨r, -, rfl⟩ := mapError_eq_error.mp h
      exact SourceFailure.not_isBare_source _ he
  · split at h
    · cases h
      exact SourceFailure.not_isBare_source _ he
    · cases h

/-! ## Loading -/

theorem read_eq_error (he : e.IsBare) :
    read t p = .error e ↔ e = .nullCharacter ∧ '\x00' ∈ p.text := by
  have hnull : t.read p = .error .nullCharacter ↔ '\x00' ∈ p.text := by
    unfold Tree.read
    simp only [List.contains_iff_mem]
    split
    · next h => simp [h]
    · next h =>
      simp only [h, iff_false]
      split <;> simp
  unfold read
  rw [← hnull]
  constructor
  · intro h
    split at h
    · cases h
      exact absurd he (SourceFailure.not_isBare_source _)
    · next hread =>
      cases h
      exact ⟨rfl, hread⟩
    · split at h
      · cases h
        exact absurd he (SourceFailure.not_isBare_source _)
      · cases h
  · rintro ⟨rfl, hread⟩
    rw [hread]

theorem load_eq_error (he : e.IsBare) (m : Option Manifest) :
    l.load t p m = .error e ↔ e = .nullCharacter ∧ '\x00' ∈ (l.directory / p).text := by
  rw [load_eq, map_eq_error, read_eq_error he]

/-- What is listed does not fail to load like this. -/
theorem load_listed_ne_error (he : e.IsBare) {paths : List Path}
    (h : (l.rotation t).result = .ok paths) (hp : p ∈ paths) (m : Option Manifest) :
    l.load t p m ≠ .error e := by
  rw [ne_eq, load_eq_error he]
  rintro ⟨-, hnull⟩
  obtain ⟨listing, hlisting, -, -⟩ := rotation_eq_ok.mp h
  obtain ⟨_, -, hfile⟩ := isFile_of_mem_rotation h hp
  exact Path.null_not_mem_join (Tree.null_not_mem_of_holds (manifest_eq_ok.mp hlisting).1)
    (Tree.null_not_mem_of_holds hfile) hnull

/-- Only the manifest fails barely: no path in rotation has a null character in it. -/
theorem loadAll_eq_error (he : e.IsBare) :
    (l.loadAll t).result = .error e ↔ (l.manifest t).result = .error e := by
  rw [loadAll_result, bind_eq_error, or_iff_left_iff_imp]
  rintro ⟨m, hm, h⟩
  rcases bind_eq_error.mp h with h | ⟨paths, hpaths, h⟩
  · exact (rotation_eq_error he).mp h
  · obtain ⟨p, hp, hload⟩ := exists_mem_of_mapM_eq_error h
    exact absurd hload (load_listed_ne_error he hpaths hp m)

/-- Picking fails barely exactly where the manifest does, whatever is picked. -/
theorem pick_eq_error (he : e.IsBare) (g : Generator) :
    (l.pick t g).1.result = .error e ↔ (l.manifest t).result = .error e := by
  cases hlisted : (l.rotation t).result with
  | error cause =>
    rw [← rotation_eq_error he, hlisted]
    simp only [pick, hlisted, Except.error.injEq]
  | ok paths =>
    rw [pick_result hlisted, bind_eq_error, or_iff_left_iff_imp]
    rintro ⟨m, -, h⟩
    have hmem := getD_choose_mem (rotation_ne_nil hlisted) g l.directory
    exact absurd h (load_listed_ne_error he hlisted hmem m)

/-! ## What they are -/

theorem Balks.isBare (h : l.Balks t e) : e.IsBare := by
  rcases h with _ | ⟨-, _ | _ | ⟨-, ⟨-, -, -, _, _, _, _, -, -, _ | _⟩ | _⟩⟩ <;> trivial

/-- Names that are too long, documents with other faults than those of their YAML, and whole numbers
of too many digits. -/
theorem Balks.cause (h : l.Balks t e) :
    (∃ r : Refused, e = .refused r ∧ r.reason = .nameTooLong) ∨
      (∃ fault, e = .document fault ∧ fault ≠ .malformed) ∨ e = .unwritable := by
  rcases h with hdir | ⟨-, hfile | ⟨-, -, hother⟩ | ⟨-, hbalk⟩⟩
  · exact .inl ⟨_, rfl, Tree.reason_of_holds hdir⟩
  · exact .inl ⟨_, rfl, Tree.reason_of_holds hfile⟩
  · exact .inr (.inl ⟨_, rfl, hother⟩)
  · rcases hbalk with ⟨-, -, -, _, _, _, _, -, -, hitem⟩ | _
    · rcases hitem with ⟨-, -, hfound⟩ | _
      · exact .inl ⟨_, rfl, Manifest.reason_of_fileIn hfound⟩
      · exact .inr (.inr rfl)
    · exact .inr (.inr rfl)

/-- Every failure of a library is one of the story source, apart from exactly these. Where the
directory or the manifest balks, its manifest, its rotation, all of its stories and a picked one
fail in the same way: because a name is too long, because of a fault of the document that is not one
of its YAML, or because a number has too many digits. And a single story fails because of a null
character in its path. -/
theorem failure_isBare_iff (l : Library) (t : Tree) :
    (∀ e, (l.manifest t).result = .error e ∧ e.IsBare ↔ l.Balks t e) ∧
    (∀ e, (l.rotation t).result = .error e ∧ e.IsBare ↔ l.Balks t e) ∧
    (∀ e, (l.loadAll t).result = .error e ∧ e.IsBare ↔ l.Balks t e) ∧
    (∀ g e, (l.pick t g).1.result = .error e ∧ e.IsBare ↔ l.Balks t e) ∧
    (∀ p m e, l.load t p m = .error e ∧ e.IsBare ↔
      e = .nullCharacter ∧ '\x00' ∈ (l.directory / p).text) ∧
    ∀ e, l.Balks t e → (∃ r : Refused, e = .refused r ∧ r.reason = .nameTooLong) ∨
      (∃ fault, e = .document fault ∧ fault ≠ .malformed) ∨ e = .unwritable := by
  -- each operation fails just when the manifest does, if the failure is bare
  have hsame {result : SourceFailure → Prop}
      (h : ∀ e, e.IsBare → (result e ↔ (l.manifest t).result = .error e)) (e : SourceFailure) :
      result e ∧ e.IsBare ↔ l.Balks t e := by
    constructor
    · rintro ⟨hresult, he⟩
      exact (manifest_eq_error he).mp ((h e he).mp hresult)
    · intro hbalk
      exact ⟨(h e hbalk.isBare).mpr ((manifest_eq_error hbalk.isBare).mpr hbalk), hbalk.isBare⟩
  refine ⟨hsame fun e _ => Iff.rfl, hsame fun e he => rotation_eq_error he,
    hsame fun e he => loadAll_eq_error he, fun g => hsame fun e he => pick_eq_error he g,
    fun p m e => ?_, fun e => Balks.cause⟩
  constructor
  · rintro ⟨h, he⟩
    exact (load_eq_error he m).mp h
  · rintro ⟨rfl, hnull⟩
    have he : SourceFailure.nullCharacter.IsBare := trivial
    exact ⟨(load_eq_error he m).mpr ⟨rfl, hnull⟩, he⟩

def spoilt : Tree :=
  { entries :=
      [([['s']], .directory), ([['s'], Manifest.usualName], .file [0xFF]),
        ([['s'], ['a']], .file [65])] }

def spoiltByte : Utf8.DecodeError := ⟨0, [0xFF], .start⟩

theorem balks_spoilt :
    Balks { directory := Path.ofText ['/', 's'] } spoilt
      (.document (.undecodable spoiltByte)) := by
  have hadvance : Utf8.advance [0xFF] = ([], [0xFF]) := by cbv
  have hsource : Yaml.Source.ofBytes [0xFF] = ⟨[], some (.undecodable spoiltByte)⟩ :=
    Yaml.Source.ofBytes_undecodable (by decide) hadvance (by decide) (by decide)
  have hread : Yaml.read ⟨[], some (.undecodable spoiltByte)⟩ =
      .error (.undecodable spoiltByte) := by cbv
  exact .manifest (by cbv) (.fault (by cbv) (hsource ▸ hread) (by decide))

/-- The failure of the decoder comes out of everything that looks at this manifest, and a null
character in a path is no failure of the story source either. -/
theorem not_source_failure :
    let l : Library := { directory := Path.ofText ['/', 's'] }
    let e : SourceFailure := .document (.undecodable spoiltByte)
    (∀ cause, e ≠ .source cause) ∧
      (l.manifest spoilt).result = .error e ∧ (l.rotation spoilt).result = .error e ∧
      (l.loadAll spoilt).result = .error e ∧ (∀ g, (l.pick spoilt g).1.result = .error e) ∧
      l.load spoilt (Path.ofText ['\x00']) none = .error .nullCharacter := by
  intro l e
  have he : e.IsBare := trivial
  have hmanifest : (l.manifest spoilt).result = .error e := (manifest_eq_error he).mpr balks_spoilt
  refine ⟨fun cause => by simp [e], hmanifest, (rotation_eq_error he).mpr hmanifest,
    (loadAll_eq_error he).mpr hmanifest, fun g => (pick_eq_error he g).mpr hmanifest, by cbv⟩

end StoryBlanks.Library
