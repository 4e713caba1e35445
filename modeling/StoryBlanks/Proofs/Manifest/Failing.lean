import StoryBlanks.Proofs.Manifest.Entries

/-!
# Bare failures of a manifest

Most failures say that the story source is of no use, and where. A bare failure does not: the
system refuses a path outright, a document holds a scalar that stands for nothing or bytes that are
no text, or a value has too many digits to be written. Main statement: a manifest fails to load with
a bare failure exactly if it balks in one of these ways before anything else is wrong.
-/
namespace StoryBlanks

/-- A failure that says only what went wrong, and not that the story source is of no use. -/
def SourceFailure.IsBare : SourceFailure → Prop
  | .source _ => False
  | _ => True

@[simp] theorem SourceFailure.not_isBare_source (cause : SourceError) : ¬ IsBare (.source cause) :=
  not_false

namespace Manifest

open Result

variable {t : Tree} {d : Path} {name : Text} {reader : DocumentReader} {find : Finder} {doc : Document}
  {e : SourceFailure}

/-! ## Documents -/

/-- An item is no entry because the path of its file is refused or its title cannot be written. -/
inductive Entry.Balks (find : Finder) (doc : Document) (item : Nat) : SourceFailure → Prop where
  | refused {file title spelling r} (fields : fields? doc item = some (file, title))
      (spelled : spelled? file = some spelling) (found : find spelling = .error r) :
      Balks find doc item (.refused r)
  | unwritable {file title spelling path} (fields : fields? doc item = some (file, some title))
      (spelled : spelled? file = some spelling) (found : find spelling = .ok (some path))
      (given : title ≠ .null) (writable : title.isWritable = false) :
      Balks find doc item .unwritable

/-- The first of several items that is no entry balks. -/
def ItemsBalk (find : Finder) (doc : Document) (items : List Nat) (e : SourceFailure) : Prop :=
  ∃ before item after es, items = before ++ item :: after ∧
    List.Forall₂ (fun item (e : Entry) => e.IsItem find doc item) before es ∧
    Entry.Balks find doc item e

/-- A document with a version and a list of stories is no manifest because one of them balks, or
because the version cannot be written. -/
inductive Balks (find : Finder) (doc : Document) : SourceFailure → Prop where
  | items {fields items} {e : SourceFailure} (root : doc.part doc.root = .mapping fields)
      (version : (((Document.get? "version" fields).map doc.value).getD .null).truthy)
      (stories : (Document.get? "stories" fields).map doc.part = some (.list items))
      (balk : ItemsBalk find doc items e) : Balks find doc e
  | version {version es} (states : States find doc version es)
      (writable : version.isWritable = false) : Balks find doc .unwritable

/-- The file of an item is refused for nothing but a name that is too long. -/
theorem reason_of_fileIn {spelling : Text.Spelling} {r : Refused}
    (h : fileIn t d spelling = .error r) : r.reason = .nameTooLong := by
  unfold fileIn at h
  dsimp only at h
  cases hname : spelling.name? with
  | some file =>
    rw [hname] at h
    dsimp only at h
    split at h
    · cases h
    · next refused hfile =>
      have hreason : refused.reason = .nameTooLong := Tree.reason_of_holds hfile
      cases h
      exact hreason
  | none =>
    rw [hname] at h
    dsimp only at h
    split at h
    · split at h
      · cases h
        rfl
      · cases h
    · cases h

theorem written_eq_error {v : Value} :
    written v = .error e ↔ v.isWritable = false ∧ e = .unwritable := by
  unfold written
  cases v.isWritable <;> simp [eq_comm]

theorem titled_eq_error {title : Option Value} :
    titled title = .error e ↔
      ∃ v, title = some v ∧ v ≠ .null ∧ v.isWritable = false ∧ e = .unwritable := by
  unfold titled
  split
  · simp
  · simp
  · next v hv =>
    rw [map_eq_error, written_eq_error]
    simp only [Option.some.injEq, exists_eq_left']
    constructor
    · intro h
      exact ⟨hv, h⟩
    · rintro ⟨-, h⟩
      exact h

theorem entry_eq_error (he : e.IsBare) {index item : Nat} :
    entry name find doc index item = .error e ↔ Entry.Balks find doc item e := by
  rw [entry_eq]
  constructor
  · intro h
    split at h
    · cases h
      exact absurd he (SourceFailure.not_isBare_source _)
    · next file title hfields =>
      split at h
      · cases h
        exact absurd he (SourceFailure.not_isBare_source _)
      · next spelling hspelled =>
        split at h
        · next r hfound =>
          cases h
          exact .refused hfields hspelled hfound
        · cases h
          exact absurd he (SourceFailure.not_isBare_source _)
        · next path hfound =>
          rw [map_eq_error, titled_eq_error] at h
          obtain ⟨title, rfl, hgiven, hwritable, rfl⟩ := h
          exact .unwritable hfields hspelled hfound hgiven hwritable
  · rintro (⟨hfields, hspelled, hfound⟩ | ⟨hfields, hspelled, hfound, hgiven, hwritable⟩)
    · simp only [hfields, hspelled, hfound]
    · simp only [hfields, hspelled, hfound]
      exact map_eq_error.mpr (titled_eq_error.mpr ⟨_, rfl, hgiven, hwritable, rfl⟩)

/-- By induction on the items: the first one balks, or it is an entry and the others decide. -/
theorem itemsBalk_iff (he : e.IsBare) {index : Nat} {items : List Nat} :
    entriesFrom name find doc index items = .error e ↔ ItemsBalk find doc items e := by
  unfold ItemsBalk
  simp only [entriesFrom_eq_error, entry_eq_error he]

theorem stated_eq_error (he : e.IsBare) :
    stated name find doc = .error e ↔ ∃ fields items,
      doc.part doc.root = .mapping fields ∧
      (((Document.get? "version" fields).map doc.value).getD .null).truthy ∧
      (Document.get? "stories" fields).map doc.part = some (.list items) ∧
      ItemsBalk find doc items e := by
  unfold stated
  constructor
  · intro h
    split at h
    · next fields hfields =>
      simp only at h
      split at h
      · cases h
        exact absurd he (SourceFailure.not_isBare_source _)
      · next htruthy =>
        split at h
        · next items hitems =>
          rcases bind_eq_error.mp h with h | ⟨es, -, h⟩
          · exact ⟨fields, items, hfields, by simpa using htruthy, hitems,
              (itemsBalk_iff he).mp h⟩
          · cases h
        · cases h
          exact absurd he (SourceFailure.not_isBare_source _)
    · cases h
      exact absurd he (SourceFailure.not_isBare_source _)
  · rintro ⟨fields, items, hfields, htruthy, hitems, hbalk⟩
    simp only [hfields, htruthy, hitems]
    exact bind_eq_error.mpr (.inl ((itemsBalk_iff he).mpr hbalk))

theorem ofDocument_eq_error (he : e.IsBare) :
    ofDocument name find doc = .error e ↔ Balks find doc e := by
  unfold ofDocument
  rw [bind_eq_error, stated_eq_error he]
  constructor
  · rintro (⟨fields, items, hfields, htruthy, hitems, hbalk⟩ | ⟨⟨version, es⟩, hes, h⟩)
    · exact .items hfields htruthy hitems hbalk
    · rcases bind_eq_error.mp h with h | ⟨label, -, h⟩
      · obtain ⟨hwritable, rfl⟩ := written_eq_error.mp h
        exact .version (stated_eq_ok.mp hes) hwritable
      · cases h
  · rintro (⟨hfields, htruthy, hitems, hbalk⟩ | ⟨hes, hwritable⟩)
    · exact .inl ⟨_, _, hfields, htruthy, hitems, hbalk⟩
    · exact .inr ⟨_, stated_eq_ok.mpr hes,
        bind_eq_error.mpr (.inl (written_eq_error.mpr ⟨hwritable, rfl⟩))⟩

/-! ## Files -/

/-- The file of a manifest cannot be looked for, holds no document for other reasons than its YAML,
or holds a document that balks. -/
inductive LoadBalks (t : Tree) (d : Path) (name : Text) (reader : DocumentReader) :
    SourceFailure → Prop where
  | refused {r} (file : t.isFile (d / Path.ofText name) = .error r) :
      LoadBalks t d name reader (.refused r)
  | fault {bytes fault} (read : t.read (d / Path.ofText name) = .ok bytes)
      (document : reader bytes = .error fault)
      (other : fault ≠ .malformed) : LoadBalks t d name reader (.document fault)
  | document {doc : Document} {e : SourceFailure}
      (read : readDocument reader t (d / Path.ofText name) = .ok doc)
      (balk : Balks (fileIn t d) doc e) : LoadBalks t d name reader e

/-- Malformed YAML is the only fault of a document that says where it is. -/
theorem readDocument_eq_error (he : e.IsBare) {p : Path} (hfile : t.isFile p = .ok true) :
    readDocument reader t p = .error e ↔ ∃ bytes fault, t.read p = .ok bytes ∧
      reader bytes = .error fault ∧ fault ≠ .malformed ∧ e = .document fault := by
  obtain ⟨bytes, hbytes⟩ := Tree.isFile_iff.mp hfile
  simp only [readDocument, hbytes, Except.ok.injEq, exists_and_left, exists_eq_left']
  split
  · next doc hdoc => simp [hdoc]
  · next hfault =>
    simp only [hfault, Except.error.injEq, exists_eq_left', ne_eq, not_true_eq_false, false_and,
      iff_false]
    rintro rfl
    exact SourceFailure.not_isBare_source _ he
  · next fault hother hfault =>
    simp only [hfault, Except.error.injEq, exists_eq_left']
    constructor
    · rintro rfl
      exact ⟨hother, rfl⟩
    · rintro ⟨-, rfl⟩
      rfl

theorem isFile_of_readDocument {p : Path} (h : readDocument reader t p = .ok doc) :
    t.isFile p = .ok true := by
  unfold readDocument at h
  split at h
  · cases h
  · cases h
  · next bytes hbytes => exact Tree.isFile_iff.mpr ⟨bytes, hbytes⟩

/-- A manifest fails to load with a bare failure exactly if it balks. -/
theorem load_eq_error (he : e.IsBare) :
    (load t d name reader).result = .error e ↔ LoadBalks t d name reader e := by
  rw [load_result, bind_eq_error]
  constructor
  · rintro (h | ⟨there, hthere, h⟩)
    · obtain ⟨r, hr, rfl⟩ := mapError_eq_error.mp h
      exact .refused hr
    · cases there with
      | false => cases h
      | true =>
        rcases bind_eq_error.mp h with h | ⟨doc, hdoc, h⟩
        · obtain ⟨bytes, fault, hbytes, hfault, hother, rfl⟩ :=
            (readDocument_eq_error he (mapError_eq_ok.mp hthere)).mp h
          exact .fault hbytes hfault hother
        · exact .document hdoc ((ofDocument_eq_error he).mp (map_eq_error.mp h))
  · rintro (hr | ⟨hbytes, hfault, hother⟩ | ⟨hdoc, hbalk⟩)
    · exact .inl (mapError_eq_error.mpr ⟨_, hr, rfl⟩)
    · have hfile := Tree.isFile_iff.mpr ⟨_, hbytes⟩
      refine .inr ⟨true, mapError_eq_ok.mpr hfile, bind_eq_error.mpr (.inl ?_)⟩
      exact (readDocument_eq_error he hfile).mpr ⟨_, _, hbytes, hfault, hother, rfl⟩
    · have hfile := isFile_of_readDocument hdoc
      refine .inr ⟨true, mapError_eq_ok.mpr hfile, bind_eq_error.mpr (.inr ⟨_, hdoc, ?_⟩)⟩
      exact map_eq_error.mpr ((ofDocument_eq_error he).mpr hbalk)

end Manifest
end StoryBlanks
