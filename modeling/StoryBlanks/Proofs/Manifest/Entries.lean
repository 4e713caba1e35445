import StoryBlanks.Manifest
import StoryBlanks.Proofs.Result
import StoryBlanks.Proofs.Files.Reading
import StoryBlanks.Proofs.Text.Stream

/-!
# The entries of a manifest

What a document states if it is a manifest at all. Main statements: a document is a manifest of a
directory exactly if it would be one anywhere and the files of its entries are in the directory;
and a manifest is loaded exactly if the file at its place holds such a document.
-/
namespace StoryBlanks.Manifest

open Result

variable {t : Tree} {d : Path} {name : Text} {reader : DocumentReader} {find : Finder} {doc : Document}

/-! ## Entries -/

def titled : Option Value → Except SourceFailure (Option Text.Spelling)
  | none | some .null => .ok none
  | some title => (written title).map some

/-- An item of a document is an entry, with the file that is found for it. -/
def Entry.IsItem (find : Finder) (doc : Document) (item : Nat) (e : Entry) : Prop :=
  ∃ file title, fields? doc item = some (file, title) ∧ spelled? file = some e.spelling ∧
    find e.spelling = .ok (some e.file) ∧ titled title = .ok e.title

theorem titled_eq (spelling : Text.Spelling) (file : Text) (title : Option Value) :
    (match title with
      | none | some .null => pure ⟨spelling, file, none⟩
      | some title => do return ⟨spelling, file, some (← written title)⟩ :
        Except SourceFailure Entry) =
      (titled title).map fun title => ⟨spelling, file, title⟩ := by
  unfold titled
  split
  · rfl
  · rfl
  · next title _ => cases written title <;> rfl

/-- The checks of an item, one in the other. -/
theorem entry_eq (name : Text) (find : Finder) (doc : Document) (index item : Nat) :
    entry name find doc index item =
      match fields? doc item with
      | none => .error (.source (.schema name (.notEntry index)))
      | some (file, title) =>
        match spelled? file with
        | none => .error (.source (.schema name (.noFile index)))
        | some spelling =>
          match find spelling with
          | .error e => .error (.refused e)
          | .ok none => .error (.source (.schema name (.missingFile index spelling)))
          | .ok (some file) => (titled title).map fun title => ⟨spelling, file, title⟩ := by
  unfold entry
  rcases fields? doc item with _ | ⟨file, title⟩
  · rfl
  · rcases hspelled : spelled? file with _ | spelling
    · simp only [hspelled]
      rfl
    · simp only [hspelled, SourceFailure.ofSystem]
      rcases find spelling with e | _ | file
      · rfl
      · rfl
      · exact titled_eq spelling file title

theorem entry_eq_ok {index item : Nat} {e : Entry} :
    entry name find doc index item = .ok e ↔ e.IsItem find doc item := by
  rw [entry_eq]
  unfold Entry.IsItem
  constructor
  · intro h
    split at h
    · cases h
    · next file title hfields =>
      split at h
      · cases h
      · next spelling hspelled =>
        split at h
        · cases h
        · cases h
        · next file hfound =>
          obtain ⟨title, htitle, rfl⟩ := map_eq_ok.mp h
          exact ⟨_, _, hfields, hspelled, hfound, htitle⟩
  · rintro ⟨file, title, hfields, hspelled, hfound, htitle⟩
    simp only [hfields, hspelled, hfound]
    exact map_eq_ok.mpr ⟨e.title, htitle, rfl⟩

/-- By induction on the items; the index plays a part in messages only. -/
theorem entriesFrom_eq_ok {index : Nat} {items : List Nat} {es : List Entry} :
    entriesFrom name find doc index items = .ok es ↔
      List.Forall₂ (fun item (e : Entry) => e.IsItem find doc item) items es := by
  induction items generalizing index es with
  | nil => cases es <;> simp [entriesFrom]
  | cons item items ih =>
    constructor
    · intro h
      obtain ⟨first, hfirst, h⟩ := bind_eq_ok.mp h
      obtain ⟨rest, hrest, h⟩ := bind_eq_ok.mp h
      cases h
      exact .cons (entry_eq_ok.mp hfirst) (ih.mp hrest)
    · rintro (_ | ⟨hfirst, hrest⟩)
      exact bind_eq_ok.mpr ⟨_, entry_eq_ok.mpr hfirst, bind_eq_ok.mpr ⟨_, ih.mpr hrest, rfl⟩⟩

/-- Reading items fails with the first one that fails, behind items that are all entries: by
induction on the items, with the place of the first one left open. -/
theorem entriesFrom_eq_error {index : Nat} {items : List Nat} {e : SourceFailure} :
    entriesFrom name find doc index items = .error e ↔
      ∃ before item after es, items = before ++ item :: after ∧
        List.Forall₂ (fun item (e : Entry) => e.IsItem find doc item) before es ∧
        entry name find doc (index + before.length) item = .error e := by
  induction items generalizing index with
  | nil => simp [entriesFrom]
  | cons first items ih =>
    rw [entriesFrom, bind_eq_error]
    constructor
    · rintro (hfirst | ⟨e₀, hfirst, hrest⟩)
      · exact ⟨[], first, items, [], rfl, .nil, hfirst⟩
      · have hrest : entriesFrom name find doc (index + 1) items = .error e := by
          rcases bind_eq_error.mp hrest with hrest | ⟨es, -, hpure⟩
          · exact hrest
          · cases hpure
        obtain ⟨before, item, after, es, rfl, hbefore, hitem⟩ := ih.mp hrest
        refine ⟨first :: before, item, after, e₀ :: es, rfl,
          .cons (entry_eq_ok.mp hfirst) hbefore, ?_⟩
        rw [List.length_cons, Nat.add_comm before.length, ← Nat.add_assoc]
        exact hitem
    · rintro ⟨before, item, after, es, hitems, hbefore, hitem⟩
      cases hbefore with
      | nil =>
        obtain ⟨rfl, -⟩ := List.cons.inj hitems
        exact .inl hitem
      | @cons _ e₀ before es hfirst hbefore =>
        obtain ⟨rfl, rfl⟩ := List.cons.inj hitems
        refine .inr ⟨e₀, entry_eq_ok.mpr hfirst, bind_eq_error.mpr (.inl (ih.mpr ?_))⟩
        refine ⟨before, item, after, es, rfl, hbefore, ?_⟩
        rw [List.length_cons, Nat.add_comm before.length, ← Nat.add_assoc] at hitem
        exact hitem

def States (find : Finder) (doc : Document) (version : Value) (es : List Entry) : Prop :=
  ∃ fields items, doc.part doc.root = .mapping fields ∧
    version = ((Document.get? "version" fields).map doc.value).getD .null ∧ version.truthy ∧
    (Document.get? "stories" fields).map doc.part = some (.list items) ∧
    List.Forall₂ (fun item (e : Entry) => e.IsItem find doc item) items es

/-- The checks of a document succeed together exactly if it states what they give. -/
theorem stated_eq_ok {version : Value} {es : List Entry} :
    stated name find doc = .ok (version, es) ↔ States find doc version es := by
  unfold stated States
  constructor
  · intro h
    split at h
    · next fields hfields =>
      simp only at h
      split at h
      · cases h
      · next htruthy =>
        split at h
        · next items hitems =>
          obtain ⟨entries, hentries, h⟩ := bind_eq_ok.mp h
          cases h
          exact ⟨fields, items, hfields, rfl, by simpa using htruthy, hitems,
            entriesFrom_eq_ok.mp hentries⟩
        · cases h
    · cases h
  · rintro ⟨fields, items, hfields, rfl, htruthy, hitems, hentries⟩
    simp only [hfields, htruthy, hitems]
    exact bind_eq_ok.mpr ⟨es, entriesFrom_eq_ok.mpr hentries, rfl⟩

/-! ## Files -/

def anywhere : Finder := fun spelling => .ok spelling.name?

theorem fileIn_eq_some {spelling : Text.Spelling} {file : Text} :
    fileIn t d spelling = .ok (some file) ↔
      anywhere spelling = .ok (some file) ∧ t.isFile (d / Path.ofText file) = .ok true := by
  unfold fileIn anywhere
  simp only [Except.ok.injEq]
  cases hname : spelling.name? with
  | none =>
    simp only [reduceCtorEq, false_and, iff_false]
    intro h
    split at h
    · split at h <;> cases h
    · cases h
  | some name =>
    simp only [Option.some.injEq]
    constructor
    · intro h
      cases hfile : t.isFile (d / Path.ofText name) with
      | error e => simp [hfile] at h
      | ok there =>
        cases there with
        | false => simp [hfile] at h
        | true =>
          obtain rfl : name = file := by simpa [hfile] using h
          exact ⟨rfl, hfile⟩
    · rintro ⟨rfl, hfile⟩
      simp [hfile]

/-- What an item gives and whether its file is there are two questions. -/
theorem isItem_fileIn_iff {item : Nat} {e : Entry} :
    e.IsItem (fileIn t d) doc item ↔
      e.IsItem anywhere doc item ∧ t.isFile (d / Path.ofText e.file) = .ok true := by
  unfold Entry.IsItem
  constructor
  · rintro ⟨file, title, hfields, hspelled, hfound, htitle⟩
    obtain ⟨hfound, hfile⟩ := fileIn_eq_some.mp hfound
    exact ⟨⟨file, title, hfields, hspelled, hfound, htitle⟩, hfile⟩
  · rintro ⟨⟨file, title, hfields, hspelled, hfound, htitle⟩, hfile⟩
    exact ⟨file, title, hfields, hspelled, fileIn_eq_some.mpr ⟨hfound, hfile⟩, htitle⟩

theorem areItems_fileIn_iff {items : List Nat} {es : List Entry} :
    List.Forall₂ (fun item (e : Entry) => e.IsItem (fileIn t d) doc item) items es ↔
      List.Forall₂ (fun item (e : Entry) => e.IsItem anywhere doc item) items es ∧
        ∀ e ∈ es, t.isFile (d / Path.ofText e.file) = .ok true := by
  induction items generalizing es with
  | nil => cases es <;> simp
  | cons item items ih =>
    cases es with
    | nil => simp
    | cons e es =>
      rw [List.forall₂_cons, List.forall₂_cons, isItem_fileIn_iff, ih, List.forall_mem_cons]
      tauto

/-- A document states what it would state anywhere, if the files of the entries are there. -/
theorem states_fileIn_iff {version : Value} {es : List Entry} :
    States (fileIn t d) doc version es ↔
      States anywhere doc version es ∧
        ∀ e ∈ es, t.isFile (d / Path.ofText e.file) = .ok true := by
  unfold States
  simp only [areItems_fileIn_iff, ← exists_and_right, and_assoc]

theorem ofDocument_eq_ok {m : Manifest} :
    ofDocument name find doc = .ok m ↔
      ∃ version, States find doc version m.entries ∧ written version = .ok m.version := by
  unfold ofDocument
  rw [bind_eq_ok]
  constructor
  · rintro ⟨⟨version, es⟩, hes, h⟩
    obtain ⟨label, hlabel, h⟩ := bind_eq_ok.mp h
    cases h
    exact ⟨version, stated_eq_ok.mp hes, hlabel⟩
  · rintro ⟨version, hes, hlabel⟩
    exact ⟨(version, m.entries), stated_eq_ok.mpr hes, bind_eq_ok.mpr ⟨m.version, hlabel, rfl⟩⟩

/-- A manifest of a directory is one that would be one anywhere, and whose files are there. -/
theorem ofDocument_fileIn_iff {m : Manifest} :
    ofDocument name (fileIn t d) doc = .ok m ↔
      ofDocument name anywhere doc = .ok m ∧
        ∀ e ∈ m.entries, t.isFile (d / Path.ofText e.file) = .ok true := by
  simp only [ofDocument_eq_ok, states_fileIn_iff, ← exists_and_right, and_assoc, and_comm,
    and_left_comm]

/-! ## Loading -/

/-- The steps of loading a manifest. -/
theorem load_result (t : Tree) (d : Path) (name : Text) (reader : DocumentReader) :
    (load t d name reader).result =
      (t.isFile (d / Path.ofText name)).mapError SourceFailure.refused >>= fun there =>
        if there then
          readDocument reader t (d / Path.ofText name) >>= fun doc =>
            (ofDocument name (fileIn t d) doc).map some
        else .ok none := by
  unfold load ofDocument
  simp only [Noted.result_bind, Noted.result_lift, SourceFailure.ofSystem]
  congr 1
  funext there
  cases there with
  | false => rfl
  | true =>
    simp only [if_true, Noted.result_bind, Noted.result_lift, Noted.result_note, Noted.result_pure]
    congr 1
    funext doc
    rcases stated name (fileIn t d) doc with e | ⟨version, es⟩
    · rfl
    · simp only [bind, Except.bind]
      cases written version <;> rfl

/-- A manifest is loaded exactly if there is a document that stands for it. -/
theorem load_eq_some {m : Manifest} :
    (load t d name reader).result = .ok (some m) ↔
      t.isFile (d / Path.ofText name) = .ok true ∧
        ∃ doc, readDocument reader t (d / Path.ofText name) = .ok doc ∧
          ofDocument name (fileIn t d) doc = .ok m := by
  rw [load_result, bind_eq_ok]
  constructor
  · rintro ⟨there, hthere, h⟩
    cases there with
    | false => cases h
    | true =>
      obtain ⟨doc, hdoc, h⟩ := bind_eq_ok.mp h
      obtain ⟨_, hm, he⟩ := map_eq_ok.mp h
      cases he
      exact ⟨mapError_eq_ok.mp hthere, doc, hdoc, hm⟩
  · rintro ⟨hthere, doc, hdoc, hm⟩
    refine ⟨true, mapError_eq_ok.mpr hthere, bind_eq_ok.mpr ⟨doc, hdoc, ?_⟩⟩
    exact map_eq_ok.mpr ⟨m, hm, rfl⟩

/-- Every entry names a file. -/
theorem isFile_of_load {m : Manifest} (h : (load t d name reader).result = .ok (some m)) :
    ∀ e ∈ m.entries, t.isFile (d / Path.ofText e.file) = .ok true := by
  obtain ⟨-, doc, -, hdoc⟩ := load_eq_some.mp h
  exact (ofDocument_fileIn_iff.mp hdoc).2

theorem readDocument_small {p : Path} {bytes : Utf8.Bytes} {cs : Text} (hread : t.read p = .ok bytes)
    (hsmall : Yaml.Source.IsSmall bytes cs) (hdoc : Yaml.read ⟨cs, none⟩ = .ok doc) :
    readDocument Yaml.readBytes t p = .ok doc := by
  simp only [readDocument, Yaml.readBytes, hread, hsmall.ofBytes, hdoc]

/-- The manifest in a small file is the one that its text stands for. -/
theorem load_small {bytes : Utf8.Bytes} {cs : Text} {m : Manifest}
    (hread : t.read (d / Path.ofText name) = .ok bytes) (hsmall : Yaml.Source.IsSmall bytes cs)
    (hm : ((Yaml.read ⟨cs, none⟩).toOption.bind fun doc =>
      (ofDocument name anywhere doc).toOption) = some m)
    (hfiles : ∀ e ∈ m.entries, t.isFile (d / Path.ofText e.file) = .ok true) :
    ∃ doc, readDocument Yaml.readBytes t (d / Path.ofText name) = .ok doc ∧
      (load t d name).result = .ok (some m) := by
  obtain ⟨doc, hdoc, hm⟩ := Option.bind_eq_some_iff.mp hm
  have hdoc := readDocument_small hread hsmall (toOption_eq_some.mp hdoc)
  have hm := ofDocument_fileIn_iff.mpr ⟨toOption_eq_some.mp hm, hfiles⟩
  exact ⟨doc, hdoc, load_eq_some.mpr ⟨Tree.isFile_iff.mpr ⟨bytes, hread⟩, doc, hdoc, hm⟩⟩

end StoryBlanks.Manifest
