import StoryBlanks.Proofs.Journal.Noted
import StoryBlanks.Proofs.Manifest.Failing
import Mathlib

/-!
# The schema of a manifest

What a document must be for it to be taken as a manifest, and what is told of one that is not.
Main statement: a manifest is loaded exactly if its document meets the schema and its version and
its titles can be written, and it has what the document says; otherwise the first fault in the order
of the checks is told, unless a file cannot be looked for or something cannot be written before that.
A text in the list of stories and a mapping with nothing but this text for a file are the same.
-/
namespace StoryBlanks

/-- A text of nothing but blanks. Where a surrogate is, there is no blank. -/
def Text.Spelling.IsBlank : Text.Spelling → Prop
  | .text cs => ∀ c ∈ cs, isBlank c
  | .broken _ => False

namespace Manifest

open Result

variable {t : Tree} {d : Path} {name : Text} {reader : DocumentReader} {find : Finder}
  {doc doc' : Document}

/-! ## The schema -/

/-- What an item gives for a file and for a title: a mapping gives the values that it has at these
keys, and a text is short for a mapping with only a file. -/
inductive Entry.Gives (doc : Document) (item : Nat) : Option Value → Option Value → Prop where
  | short {s : Text.Spelling} (part : doc.part item = .atom (.ofSpelling s)) :
      Gives doc item (some (.ofSpelling s)) none
  | mapping {fields : List (Value × Nat)} (part : doc.part item = .mapping fields) :
      Gives doc item ((Document.get? "file" fields).map doc.value)
        ((Document.get? "title" fields).map doc.value)

def LeadsTo (t : Tree) (d : Path) (s : Text.Spelling) (file : Text) : Prop :=
  s.name? = some file ∧ t.isFile (d / Path.ofText file) = .ok true

/-- An item gives a text for a file that is not blank and names a file in the directory. -/
def Entry.IsSound (t : Tree) (d : Path) (doc : Document) (item : Nat) : Prop :=
  ∃ s title, Gives doc item (some (.ofSpelling s)) title ∧ ¬ s.IsBlank ∧ ∃ file, LeadsTo t d s file

/-- A document is a mapping with a version that counts as something, and with a list of stories. -/
def Shape (doc : Document) (version : Value) (items : List Nat) : Prop :=
  ∃ fields, doc.part doc.root = .mapping fields ∧
    version = ((Document.get? "version" fields).map doc.value).getD .null ∧ version.truthy ∧
    (Document.get? "stories" fields).map doc.part = some (.list items)

/-- A document is a manifest of a directory, whether or not all of it can be written. -/
def MeetsSchema (t : Tree) (d : Path) (doc : Document) : Prop :=
  ∃ version items, Shape doc version items ∧ ∀ item ∈ items, Entry.IsSound t d doc item

def Entry.IsWritable (doc : Document) (item : Nat) : Prop :=
  ∀ file title, Gives doc item file title → title.all Value.isWritable

/-- The version and the titles of a document can be written. -/
def IsWritable (doc : Document) : Prop :=
  ∀ version items, Shape doc version items →
    version.isWritable ∧ ∀ item ∈ items, Entry.IsWritable doc item

def titleText : Option Value → Option Text.Spelling
  | none | some .null => none
  | some title => some title.toText

def Entry.Follows (t : Tree) (d : Path) (doc : Document) (item : Nat) (e : Entry) : Prop :=
  ∃ title, Gives doc item (some (.ofSpelling e.spelling)) title ∧ ¬ e.spelling.IsBlank ∧
    LeadsTo t d e.spelling e.file ∧ e.title = titleText title

/-- A manifest has the version of a document, and one entry for each item, in order. -/
def Follows (t : Tree) (d : Path) (doc : Document) (m : Manifest) : Prop :=
  ∃ version items, Shape doc version items ∧ m.version = version.toText ∧
    List.Forall₂ (Entry.Follows t d doc) items m.entries

/-- What is wrong with an item, told with its index. The file of an item is missing only if it could
be looked for. -/
inductive Entry.Fault (t : Tree) (d : Path) (doc : Document) (index item : Nat) :
    SchemaError → Prop where
  | notEntry (text : ∀ s, doc.part item ≠ .atom (.ofSpelling s))
      (mapping : ∀ fields, doc.part item ≠ .mapping fields) :
      Fault t d doc index item (.notEntry index)
  | noFile {file title : Option Value} (gives : Gives doc item file title)
      (blank : ∀ s, file = some (.ofSpelling s) → s.IsBlank) :
      Fault t d doc index item (.noFile index)
  | missingFile {s : Text.Spelling} {title : Option Value}
      (gives : Gives doc item (some (.ofSpelling s)) title) (given : ¬ s.IsBlank)
      (missing : ∀ file, ¬ LeadsTo t d s file) (sought : ∀ r, fileIn t d s ≠ .error r) :
      Fault t d doc index item (.missingFile index s)

/-- What is the first thing wrong with a document. Of several items that are wrong it is the first
one, and the ones before it are sound and can be written. -/
inductive FirstFault (t : Tree) (d : Path) (doc : Document) : SchemaError → Prop where
  | notMapping (root : ∀ fields, doc.part doc.root ≠ .mapping fields) :
      FirstFault t d doc .notMapping
  | noVersion {fields} (root : doc.part doc.root = .mapping fields)
      (version : (((Document.get? "version" fields).map doc.value).getD .null).truthy = false) :
      FirstFault t d doc .noVersion
  | notList {fields} (root : doc.part doc.root = .mapping fields)
      (version : (((Document.get? "version" fields).map doc.value).getD .null).truthy)
      (stories : ∀ items, (Document.get? "stories" fields).map doc.part ≠ some (.list items)) :
      FirstFault t d doc .notList
  | item {version before item after cause} (shape : Shape doc version (before ++ item :: after))
      (sound : ∀ first ∈ before, Entry.IsSound t d doc first ∧ Entry.IsWritable doc first)
      (fault : Entry.Fault t d doc before.length item cause) : FirstFault t d doc cause

/-! ## Items -/

section Items

variable {item index : Nat} {file title : Option Value} {s : Text.Spelling}

theorem Entry.gives_iff : Gives doc item file title ↔ fields? doc item = some (file, title) := by
  unfold fields?
  constructor
  · intro h
    cases h with
    | @short s part => cases s <;> simp [part, Value.ofSpelling]
    | mapping part => simp [part]
  · intro h
    split at h
    · next cs part =>
      cases h
      exact .short (s := .text cs) part
    · next ns part =>
      cases h
      exact .short (s := .broken ns) part
    · next fields part =>
      cases h
      exact .mapping part
    · cases h

theorem fields?_eq_none : fields? doc item = none ↔
    (∀ s, doc.part item ≠ .atom (.ofSpelling s)) ∧ ∀ fields, doc.part item ≠ .mapping fields := by
  constructor
  · intro hnone
    have hgives (file title : Option Value) : ¬ Entry.Gives doc item file title := by
      simp [Entry.gives_iff, hnone]
    exact ⟨fun s hs => hgives _ _ (.short hs), fun fields hf => hgives _ _ (.mapping hf)⟩
  · rintro ⟨htext, hmapping⟩
    refine Option.eq_none_iff_forall_ne_some.mpr fun (file, title) hgiven => ?_
    obtain ⟨hs⟩ | ⟨hf⟩ := Entry.gives_iff.mpr hgiven
    · exact htext _ hs
    · exact hmapping _ hf

theorem spelled?_eq_some : spelled? file = some s ↔ file = some (.ofSpelling s) ∧ ¬ s.IsBlank := by
  constructor
  · intro h
    unfold spelled? at h
    split at h
    · next cs =>
      split at h
      · cases h
      · next hblank =>
        cases h
        exact ⟨rfl, fun hall => hblank (List.all_eq_true.mpr hall)⟩
    · cases h
      exact ⟨rfl, not_false⟩
    · cases h
  · rintro ⟨rfl, hblank⟩
    cases s with
    | text cs => exact if_neg fun hall => hblank (List.all_eq_true.mp hall)
    | broken ns => rfl

theorem spelled?_eq_none :
    spelled? file = none ↔ ∀ s, file = some (.ofSpelling s) → s.IsBlank := by
  simp only [Option.eq_none_iff_forall_ne_some, ne_eq, spelled?_eq_some, not_and, not_not]

theorem leadsTo_iff {found : Text} : fileIn t d s = .ok (some found) ↔ LeadsTo t d s found := by
  rw [fileIn_eq_some, anywhere, Except.ok.injEq]
  rfl

theorem fileIn_eq_none : fileIn t d s = .ok none ↔
    (∀ file, ¬ LeadsTo t d s file) ∧ ∀ r, fileIn t d s ≠ .error r := by
  simp only [← leadsTo_iff]
  rcases fileIn t d s with r | _ | found <;> simp

theorem titled_eq_ok {label : Option Text.Spelling} :
    titled title = .ok label ↔ title.all Value.isWritable ∧ label = titleText title := by
  unfold titled titleText
  split
  · simp [eq_comm]
  · simp [eq_comm, Value.isWritable]
  · next v hv =>
    cases hwritable : v.isWritable with
    | false => simp [written, hwritable, Except.map]
    | true => simp [written, hwritable, Except.map, eq_comm]

theorem written_eq_ok {v : Value} {label : Text.Spelling} :
    written v = .ok label ↔ v.isWritable ∧ label = v.toText := by
  unfold written
  cases v.isWritable <;> simp [eq_comm]

/-- An item is an entry of a directory if the entry follows it and its title can be written. -/
theorem Entry.isItem_fileIn_iff_follows {e : Entry} :
    e.IsItem (fileIn t d) doc item ↔ Follows t d doc item e ∧ IsWritable doc item := by
  constructor
  · rintro ⟨file, title, hfields, hspelled, hfound, htitle⟩
    obtain ⟨rfl, hgiven⟩ := spelled?_eq_some.mp hspelled
    obtain ⟨hwritable, hlabel⟩ := titled_eq_ok.mp htitle
    refine ⟨⟨title, gives_iff.mpr hfields, hgiven, leadsTo_iff.mp hfound, hlabel⟩, ?_⟩
    intro file' title' hgives
    rw [gives_iff, hfields] at hgives
    cases hgives
    exact hwritable
  · rintro ⟨⟨title, hgives, hgiven, hleads, hlabel⟩, hwritable⟩
    exact ⟨_, title, gives_iff.mp hgives, spelled?_eq_some.mpr ⟨rfl, hgiven⟩,
      leadsTo_iff.mpr hleads, titled_eq_ok.mpr ⟨hwritable _ _ hgives, hlabel⟩⟩

/-- A sound item is one that some entry follows. -/
theorem Entry.isSound_iff : IsSound t d doc item ↔ ∃ e, Follows t d doc item e := by
  constructor
  · rintro ⟨s, title, hgives, hgiven, file, hleads⟩
    exact ⟨⟨s, file, titleText title⟩, title, hgives, hgiven, hleads, rfl⟩
  · rintro ⟨e, title, hgives, hgiven, hleads, -⟩
    exact ⟨e.spelling, title, hgives, hgiven, e.file, hleads⟩

theorem Entry.exists_isItem_iff :
    (∃ e : Entry, e.IsItem (fileIn t d) doc item) ↔ IsSound t d doc item ∧ IsWritable doc item := by
  simp only [isItem_fileIn_iff_follows, exists_and_right, isSound_iff]

/-- An item is told to be wrong exactly if there is something wrong with it. -/
theorem entry_eq_source {cause : SourceError} :
    entry name (fileIn t d) doc index item = .error (.source cause) ↔
      ∃ fault, cause = .schema name fault ∧ Entry.Fault t d doc index item fault := by
  rw [entry_eq]
  constructor
  · intro h
    split at h
    · next hfields =>
      cases h
      obtain ⟨htext, hmapping⟩ := fields?_eq_none.mp hfields
      exact ⟨_, rfl, .notEntry htext hmapping⟩
    · next file title hfields =>
      have hgives := Entry.gives_iff.mpr hfields
      split at h
      · next hspelled =>
        cases h
        exact ⟨_, rfl, .noFile hgives (spelled?_eq_none.mp hspelled)⟩
      · next s hspelled =>
        obtain ⟨rfl, hgiven⟩ := spelled?_eq_some.mp hspelled
        split at h
        · cases h
        · next hfound =>
          cases h
          obtain ⟨hmissing, hsought⟩ := fileIn_eq_none.mp hfound
          exact ⟨_, rfl, .missingFile hgives hgiven hmissing hsought⟩
        · obtain ⟨_, -, -, -, hunwritable⟩ := titled_eq_error.mp (map_eq_error.mp h)
          cases hunwritable
  · rintro ⟨_, rfl, ⟨htext, hmapping⟩ | ⟨hgives, hblank⟩ | ⟨hgives, hgiven, hmissing, hsought⟩⟩
    · simp only [fields?_eq_none.mpr ⟨htext, hmapping⟩]
    · simp only [Entry.gives_iff.mp hgives, spelled?_eq_none.mpr hblank]
    · simp only [Entry.gives_iff.mp hgives, spelled?_eq_some.mpr ⟨rfl, hgiven⟩,
        fileIn_eq_none.mpr ⟨hmissing, hsought⟩]

end Items

/-! ## Documents -/

section Documents

variable {version : Value} {items : List Nat}

theorem stated_of_shape (h : Shape doc version items) : stated name find doc =
    (entriesFrom name find doc 0 items).map fun es => (version, es) := by
  obtain ⟨fields, hroot, rfl, htruthy, hstories⟩ := h
  simp only [stated, hroot, htruthy, hstories, Bool.not_true]
  rfl

theorem stated_notMapping (hroot : ∀ fields, doc.part doc.root ≠ .mapping fields) :
    stated name find doc = .error (.source (.schema name .notMapping)) := by
  unfold stated
  split
  · next fields hfields => exact absurd hfields (hroot fields)
  · rfl

theorem stated_noVersion {fields : List (Value × Nat)} (hroot : doc.part doc.root = .mapping fields)
    (hversion : (((Document.get? "version" fields).map doc.value).getD .null).truthy = false) :
    stated name find doc = .error (.source (.schema name .noVersion)) := by
  simp only [stated, hroot, hversion, Bool.not_false]
  rfl

theorem stated_notList {fields : List (Value × Nat)} (hroot : doc.part doc.root = .mapping fields)
    (hversion : (((Document.get? "version" fields).map doc.value).getD .null).truthy)
    (hstories : ∀ items, (Document.get? "stories" fields).map doc.part ≠ some (.list items)) :
    stated name find doc = .error (.source (.schema name .notList)) := by
  simp only [stated, hroot, hversion, Bool.not_true, Bool.false_eq_true, if_false]
  rfl

/-- Either something is wrong with a document before its items, or it has a shape. -/
theorem shape_cases (doc : Document) :
    (∀ fields, doc.part doc.root ≠ .mapping fields) ∨
      (∃ fields, doc.part doc.root = .mapping fields ∧
        (((Document.get? "version" fields).map doc.value).getD .null).truthy = false) ∨
      (∃ fields, doc.part doc.root = .mapping fields ∧
        (((Document.get? "version" fields).map doc.value).getD .null).truthy ∧
        ∀ items, (Document.get? "stories" fields).map doc.part ≠ some (.list items)) ∨
      ∃ version items, Shape doc version items := by
  by_cases hroot : ∃ fields, doc.part doc.root = .mapping fields
  · obtain ⟨fields, hroot⟩ := hroot
    cases hversion : (((Document.get? "version" fields).map doc.value).getD .null).truthy with
    | false => exact .inr (.inl ⟨fields, hroot, hversion⟩)
    | true =>
      by_cases hstories :
        ∃ items, (Document.get? "stories" fields).map doc.part = some (.list items)
      · obtain ⟨items, hstories⟩ := hstories
        exact .inr (.inr (.inr ⟨_, items, fields, hroot, rfl, hversion, hstories⟩))
      · exact .inr (.inr (.inl ⟨fields, hroot, hversion, not_exists.mp hstories⟩))
  · exact .inl (not_exists.mp hroot)

theorem shape_unique {version' : Value} {items' : List Nat} (h : Shape doc version items)
    (h' : Shape doc version' items') : version' = version ∧ items' = items := by
  obtain ⟨fields, hroot, rfl, -, hstories⟩ := h
  obtain ⟨fields', hroot', rfl, -, hstories'⟩ := h'
  rw [hroot] at hroot'
  cases hroot'
  rw [hstories] at hstories'
  cases hstories'
  exact ⟨rfl, rfl⟩

/-- Items are all entries if they are all sound and can all be written. -/
theorem exists_areItems_iff :
    (∃ es, List.Forall₂ (fun item (e : Entry) => e.IsItem (fileIn t d) doc item) items es) ↔
      ∀ item ∈ items, Entry.IsSound t d doc item ∧ Entry.IsWritable doc item := by
  simp only [exists_forall₂_iff, Entry.exists_isItem_iff]

/-- A document is told to be wrong exactly with the first thing that is wrong with it. -/
theorem stated_eq_source {cause : SourceError} :
    stated name (fileIn t d) doc = .error (.source cause) ↔
      ∃ fault, cause = .schema name fault ∧ FirstFault t d doc fault := by
  constructor
  · intro h
    obtain hroot | ⟨fields, hroot, hversion⟩ | ⟨fields, hroot, hversion, hstories⟩ |
      ⟨version, items, hshape⟩ := shape_cases doc
    · rw [stated_notMapping hroot] at h
      cases h
      exact ⟨_, rfl, .notMapping hroot⟩
    · rw [stated_noVersion hroot hversion] at h
      cases h
      exact ⟨_, rfl, .noVersion hroot hversion⟩
    · rw [stated_notList hroot hversion hstories] at h
      cases h
      exact ⟨_, rfl, .notList hroot hversion hstories⟩
    · rw [stated_of_shape hshape, map_eq_error, entriesFrom_eq_error] at h
      obtain ⟨before, item, after, es, rfl, hbefore, hitem⟩ := h
      rw [Nat.zero_add] at hitem
      obtain ⟨fault, rfl, hfault⟩ := entry_eq_source.mp hitem
      exact ⟨fault, rfl, .item hshape (exists_areItems_iff.mp ⟨es, hbefore⟩) hfault⟩
  · rintro ⟨fault, rfl, hroot | ⟨hroot, hversion⟩ | ⟨hroot, hversion, hstories⟩ |
      ⟨hshape, hsound, hfault⟩⟩
    · exact stated_notMapping hroot
    · exact stated_noVersion hroot hversion
    · exact stated_notList hroot hversion hstories
    · rw [stated_of_shape hshape, map_eq_error, entriesFrom_eq_error]
      obtain ⟨es, hbefore⟩ := exists_areItems_iff.mpr hsound
      refine ⟨_, _, _, es, rfl, hbefore, entry_eq_source.mpr ⟨_, rfl, ?_⟩⟩
      rw [Nat.zero_add]
      exact hfault

/-- A manifest fails for its schema exactly where there is a first fault, and with that fault. -/
theorem ofDocument_eq_source {cause : SourceError} :
    ofDocument name (fileIn t d) doc = .error (.source cause) ↔
      ∃ fault, cause = .schema name fault ∧ FirstFault t d doc fault := by
  rw [← stated_eq_source, ofDocument, bind_eq_error]
  refine or_iff_left ?_
  rintro ⟨⟨version, es⟩, -, h⟩
  rcases bind_eq_error.mp h with h | ⟨label, -, h⟩
  · cases (written_eq_error.mp h).2
  · cases h

theorem states_iff {es : List Entry} : States find doc version es ↔ ∃ items,
    Shape doc version items ∧
      List.Forall₂ (fun item (e : Entry) => e.IsItem find doc item) items es := by
  constructor
  · rintro ⟨fields, items, hroot, hversion, htruthy, hstories, hes⟩
    exact ⟨items, ⟨fields, hroot, hversion, htruthy, hstories⟩, hes⟩
  · rintro ⟨items, ⟨fields, hroot, hversion, htruthy, hstories⟩, hes⟩
    exact ⟨fields, items, hroot, hversion, htruthy, hstories, hes⟩

/-- Items are entries exactly if the entries follow them and all that they ask for can be written.
-/
theorem areItems_iff_follow {es : List Entry} :
    List.Forall₂ (fun item (e : Entry) => e.IsItem (fileIn t d) doc item) items es ↔
      List.Forall₂ (Entry.Follows t d doc) items es ∧
        ∀ item ∈ items, Entry.IsWritable doc item := by
  simp only [Entry.isItem_fileIn_iff_follows]
  rw [and_comm, ← List.forall₂_and_left]
  simp only [and_comm]

/-- A manifest follows the document that stands for it, and all of it can be written. -/
theorem ofDocument_eq_ok_iff_follows {m : Manifest} :
    ofDocument name (fileIn t d) doc = .ok m ↔ Follows t d doc m ∧ IsWritable doc := by
  rw [ofDocument_eq_ok]
  simp only [states_iff, areItems_iff_follow]
  constructor
  · rintro ⟨version, ⟨items, hshape, hfollow, htitles⟩, hversion⟩
    obtain ⟨hwritable, hlabel⟩ := written_eq_ok.mp hversion
    refine ⟨⟨version, items, hshape, hlabel, hfollow⟩, fun version' items' hshape' => ?_⟩
    obtain ⟨rfl, rfl⟩ := shape_unique hshape hshape'
    exact ⟨hwritable, htitles⟩
  · rintro ⟨⟨version, items, hshape, hlabel, hfollow⟩, hwritable⟩
    obtain ⟨hversion, htitles⟩ := hwritable version items hshape
    exact ⟨version, ⟨items, hshape, hfollow, htitles⟩, written_eq_ok.mpr ⟨hversion, hlabel⟩⟩

/-- A document meets the schema exactly if there is a manifest to follow it. -/
theorem meetsSchema_iff : MeetsSchema t d doc ↔ ∃ m, Follows t d doc m := by
  unfold MeetsSchema
  simp only [Entry.isSound_iff, ← exists_forall₂_iff]
  constructor
  · rintro ⟨version, items, hshape, es, hfollow⟩
    exact ⟨⟨version.toText, es⟩, version, items, hshape, rfl, hfollow⟩
  · rintro ⟨m, version, items, hshape, -, hfollow⟩
    exact ⟨version, items, hshape, m.entries, hfollow⟩

/-- A document that is told to be no manifest for no fault of its own has something in it that
cannot be written, or a file that is refused. -/
theorem bare_of_ofDocument {e : SourceFailure} (he : e.IsBare)
    (h : ofDocument name (fileIn t d) doc = .error e) :
    e = .unwritable ∧ ¬ IsWritable doc ∨
      ∃ s r, e = .refused r ∧ fileIn t d s = .error r := by
  obtain ⟨hroot, hversion, hstories, before, item, after, es, rfl, -, hbalk⟩ | ⟨hstates, hwritable⟩ :=
    (ofDocument_eq_error he).mp h
  · obtain ⟨-, -, hfound⟩ | ⟨hfields, -, -, -, htitle⟩ := hbalk
    · exact .inr ⟨_, _, rfl, hfound⟩
    · refine .inl ⟨rfl, fun hall => ?_⟩
      have hitem := (hall _ _ ⟨_, hroot, rfl, hversion, hstories⟩).2 item (by simp)
      have hwritable := hitem _ _ (Entry.gives_iff.mpr hfields)
      rw [Option.all_some, htitle] at hwritable
      cases hwritable
  · obtain ⟨items, hshape, -⟩ := states_iff.mp hstates
    refine .inl ⟨rfl, fun hall => ?_⟩
    have hversion := (hall _ _ hshape).1
    rw [hwritable] at hversion
    cases hversion

end Documents

/-! ## Short items -/

/-- An item is written out: it gives what the other one gives, or it is a mapping with nothing but
the text for a file that the other one is. -/
inductive Entry.WritesOut (doc doc' : Document) (item item' : Nat) : Prop where
  | same (gives : ∀ file title, Gives doc item file title ↔ Gives doc' item' file title)
  | mapping {s : Text.Spelling} {place : Nat} (short : doc.part item = .atom (.ofSpelling s))
      (long : doc'.part item' = .mapping [(.text "file", place)])
      (file : doc'.part place = .atom (.ofSpelling s))

/-- A document has the version and the items of another one, some of the items written out. -/
def WritesOut (doc doc' : Document) : Prop :=
  ∃ fields fields' items items',
    doc.part doc.root = .mapping fields ∧ doc'.part doc'.root = .mapping fields' ∧
    (Document.get? "version" fields).map doc.value =
      (Document.get? "version" fields').map doc'.value ∧
    (Document.get? "stories" fields).map doc.part = some (.list items) ∧
    (Document.get? "stories" fields').map doc'.part = some (.list items') ∧
    List.Forall₂ (Entry.WritesOut doc doc') items items'

/-- A short item, and the same one written out. -/
example : WritesOut
    ⟨#[.mapping [(.text "version", 1), (.text "stories", 2)], .atom (.int 1), .list [3],
      .atom (.text ['a'])], 0⟩
    ⟨#[.mapping [(.text "stories", 1), (.text "version", 2)], .list [3], .atom (.int 1),
      .mapping [(.text "file", 4)], .atom (.text ['a'])], 0⟩ := by
  refine ⟨_, _, [3], [3], rfl, rfl, ?_, ?_, ?_, .cons (.mapping (s := .text ['a']) rfl rfl rfl) .nil⟩
  · simp [Document.get?, Document.value, Document.valueInside, Document.part]
  · simp [Document.get?, Document.part]
  · simp [Document.get?, Document.part]

/-- A text stands for itself. -/
theorem value_of_atom {place : Nat} {v : Value} (h : doc.part place = .atom v) :
    doc.value place = v := by
  rw [Document.value, Document.valueInside, h]

theorem Entry.WritesOut.fields_eq {item item' : Nat} (h : WritesOut doc doc' item item') :
    fields? doc item = fields? doc' item' := by
  cases h with
  | same gives =>
    refine Option.ext fun (file, title) => ?_
    rw [← Entry.gives_iff, ← Entry.gives_iff, gives]
  | @mapping s place short long hfile =>
    have hgives : Gives doc' item' ((Document.get? "file" [(.text "file", place)]).map doc'.value)
        ((Document.get? "title" [(.text "file", place)]).map doc'.value) := .mapping long
    rw [gives_iff.mp (.short short), gives_iff.mp hgives]
    simp [Document.get?, value_of_atom hfile]

theorem entriesFrom_of_writesOut {index : Nat} {items items' : List Nat}
    (h : List.Forall₂ (Entry.WritesOut doc doc') items items') :
    entriesFrom name find doc index items = entriesFrom name find doc' index items' := by
  induction h generalizing index with
  | nil => rfl
  | cons hfirst hrest ih =>
    rw [entriesFrom, entriesFrom, entry_eq, entry_eq, hfirst.fields_eq, ih]

/-- Writing an item out changes nothing of what a document states. -/
theorem stated_of_writesOut (h : WritesOut doc doc') :
    stated name find doc = stated name find doc' := by
  obtain ⟨fields, fields', items, items', hroot, hroot', hversion, hstories, hstories', hitems⟩ := h
  simp only [stated, hroot, hroot', hversion, hstories, hstories',
    entriesFrom_of_writesOut hitems]

theorem load_of_readDocument (hdoc : readDocument reader t (d / Path.ofText name) = .ok doc) :
    (load t d name reader).result = (ofDocument name (fileIn t d) doc).map some := by
  rw [load_result, isFile_of_readDocument hdoc, hdoc]
  rfl

/-- Two documents that state the same make the same manifest. -/
theorem load_congr {t' : Tree} (hdoc : readDocument reader t (d / Path.ofText name) = .ok doc)
    (hdoc' : readDocument reader t' (d / Path.ofText name) = .ok doc')
    (hstated : stated name (fileIn t d) doc = stated name (fileIn t' d) doc') :
    load t d name reader = load t' d name reader := by
  have hlift {α : Type} (a : α) :
      (liftM (Except.ok a : Except SourceFailure α) : Noted SourceFailure α) = pure a := rfl
  unfold load
  simp only [isFile_of_readDocument hdoc, isFile_of_readDocument hdoc', hdoc, hdoc',
    SourceFailure.ofSystem, Except.mapError, hlift, pure_bind, if_true, hstated]

/-! ## Loading -/

/-- A file that holds a document is loaded as a manifest exactly if the document meets the schema and
its version and its titles can be written, and the manifest follows the document. The first fault in
the order of the checks is told exactly if there is one, and nothing else goes wrong but that
something cannot be written or that the path of a story is refused. To write out items changes
nothing. -/
theorem load_schema {t : Tree} {d : Path} {name : Text} {reader : DocumentReader} {doc : Document}
    (hdoc : readDocument reader t (d / Path.ofText name) = .ok doc) :
    ((∃ m, (load t d name reader).result = .ok (some m)) ↔ MeetsSchema t d doc ∧ IsWritable doc) ∧
    (∀ m, (load t d name reader).result = .ok (some m) → Follows t d doc m) ∧
    (∀ cause, (load t d name reader).result = .error (.source cause) ↔
      ∃ fault, cause = .schema name fault ∧ FirstFault t d doc fault) ∧
    ((∃ m, (load t d name reader).result = .ok (some m)) ∨
      (∃ fault, (load t d name reader).result = .error (.source (.schema name fault))) ∨
      ((load t d name reader).result = .error .unwritable ∧ ¬ IsWritable doc) ∨
      ∃ s r, (load t d name reader).result = .error (.refused r) ∧ fileIn t d s = .error r) ∧
    ∀ t' doc', readDocument reader t' (d / Path.ofText name) = .ok doc' → fileIn t' d = fileIn t d →
      WritesOut doc doc' → load t' d name reader = load t d name reader := by
  have hload := load_of_readDocument hdoc
  have hok (m : Manifest) :
      (load t d name reader).result = .ok (some m) ↔ Follows t d doc m ∧ IsWritable doc := by
    rw [hload, map_eq_ok, ← ofDocument_eq_ok_iff_follows]
    constructor
    · rintro ⟨m', hm, he⟩
      cases he
      exact hm
    · intro hm
      exact ⟨m, hm, rfl⟩
  have herror (e : SourceFailure) :
      (load t d name reader).result = .error e ↔ ofDocument name (fileIn t d) doc = .error e := by
    rw [hload, map_eq_error]
  refine ⟨?_, ?_, ?_, ?_, ?_⟩
  · simp only [hok, exists_and_right, meetsSchema_iff]
  · intro m hm
    exact ((hok m).mp hm).1
  · intro cause
    rw [herror, ofDocument_eq_source]
  · cases hresult : ofDocument name (fileIn t d) doc with
    | ok m =>
      refine .inl ⟨m, ?_⟩
      rw [hload, hresult]
      rfl
    | error e =>
      have hfails := (herror e).mpr hresult
      by_cases he : e.IsBare
      · obtain ⟨rfl, hwritable⟩ | ⟨s, r, rfl, hrefused⟩ := bare_of_ofDocument he hresult
        · exact .inr (.inr (.inl ⟨hfails, hwritable⟩))
        · exact .inr (.inr (.inr ⟨s, r, hfails, hrefused⟩))
      · cases e with
        | source cause =>
          obtain ⟨fault, rfl, -⟩ := ofDocument_eq_source.mp hresult
          exact .inr (.inl ⟨fault, hfails⟩)
        | _ => exact absurd trivial he
  · intro t' doc' hdoc' hfind hwrites
    refine load_congr hdoc' hdoc ?_
    rw [hfind, stated_of_writesOut hwrites]

def twoStories : Tree :=
  { entries := [([['s']], .directory), ([['s'], ['a']], .file []), ([['s'], ['b']], .file [])] }

def withManifest (text : Text) : Tree :=
  twoStories.add [['s'], usualName] (.file (Utf8.encode text)) (by decide) (by decide)

theorem read_withManifest (text : Text) :
    (withManifest text).read (Path.ofText ['/', 's'] / Path.ofText usualName) =
      .ok (Utf8.encode text) := by cbv

def bothText : Text := "{version: 1, stories: [a, {file: b, title: 7}]}"

def bothManifest : Manifest :=
  ⟨.text ['1'], [⟨.text ['a'], ['a'], none⟩, ⟨.text ['b'], ['b'], some (.text ['7'])⟩]⟩

/-- A short item and one that is written out, in one document. -/
theorem load_schema_both : ∃ doc,
    readDocument Yaml.readBytes (withManifest bothText)
        (Path.ofText ['/', 's'] / Path.ofText usualName) = .ok doc ∧
      MeetsSchema (withManifest bothText) (Path.ofText ['/', 's']) doc ∧ IsWritable doc ∧
      Follows (withManifest bothText) (Path.ofText ['/', 's']) doc bothManifest := by
  have hstated : ((Yaml.read ⟨bothText, none⟩).toOption.bind fun doc =>
      (ofDocument usualName anywhere doc).toOption) = some bothManifest := by decide +kernel
  have hsmall : Yaml.Source.IsSmall (Utf8.encode bothText) bothText :=
    Yaml.Source.isSmall_plain (by decide) (by decide +kernel) (by decide +kernel)
  have hfiles : ∀ e ∈ bothManifest.entries,
      (withManifest bothText).isFile (Path.ofText ['/', 's'] / Path.ofText e.file) = .ok true := by
    intro e he
    rcases List.mem_pair.mp he with rfl | rfl
    · cbv
    · cbv
  obtain ⟨doc, hdoc, hload⟩ := load_small (read_withManifest bothText) hsmall hstated hfiles
  obtain ⟨haccepts, hfollows, -⟩ := load_schema hdoc
  obtain ⟨hmeets, hwritable⟩ := haccepts.mp ⟨_, hload⟩
  exact ⟨doc, hdoc, hmeets, hwritable, hfollows _ hload⟩

/-- A manifest with a number of more digits than a text may have for a version. The number is written
in hexadecimal, over several lines. -/
def overlongText : Text :=
  "version: !!int \"0x1".toList ++
    (List.replicate 8 (List.replicate 450 '0' ++ ['\\', '\n', ' '])).flatten ++
    "\"\nstories: []\n".toList

/-- The document meets the schema, but its version cannot be written. -/
theorem not_load_overlong : ∃ doc,
    readDocument Yaml.readBytes (withManifest overlongText)
        (Path.ofText ['/', 's'] / Path.ofText usualName) = .ok doc ∧
      MeetsSchema (withManifest overlongText) (Path.ofText ['/', 's']) doc ∧
      (load (withManifest overlongText) (Path.ofText ['/', 's']) usualName).result =
        .error .unwritable := by
  have hstated : ((Yaml.read ⟨overlongText, none⟩).toOption.any fun doc =>
      (stated usualName anywhere doc).toOption.any fun found =>
        found.2.isEmpty && !found.1.isWritable) = true := by decide +kernel
  obtain ⟨doc, hdoc, hfound⟩ := (Option.any_eq_true _ _).mp hstated
  obtain ⟨⟨version, es⟩, hfound, hwritable⟩ := (Option.any_eq_true _ _).mp hfound
  rw [Bool.and_eq_true, List.isEmpty_iff, Bool.not_eq_true'] at hwritable
  obtain ⟨rfl, hwritable⟩ := hwritable
  have hstates : States (fileIn (withManifest overlongText) (Path.ofText ['/', 's'])) doc version [] :=
    states_fileIn_iff.mpr ⟨stated_eq_ok.mp (toOption_eq_some.mp hfound), List.forall_mem_nil _⟩
  have hsmall : Yaml.Source.IsSmall (Utf8.encode overlongText) overlongText :=
    Yaml.Source.isSmall_plain (by decide) (by decide +kernel) (by decide +kernel)
  have hdoc := readDocument_small (read_withManifest _) hsmall (toOption_eq_some.mp hdoc)
  refine ⟨doc, hdoc, ?_, ?_⟩
  · obtain ⟨items, hshape, hitems⟩ := states_iff.mp hstates
    cases hitems
    exact ⟨version, [], hshape, List.forall_mem_nil _⟩
  · have hbare : SourceFailure.IsBare .unwritable := trivial
    rw [load_of_readDocument hdoc, map_eq_error, ofDocument_eq_error hbare]
    exact .version hstates hwritable

end Manifest
end StoryBlanks
