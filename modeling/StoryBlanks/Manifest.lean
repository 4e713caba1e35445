import StoryBlanks.Files.Tree
import StoryBlanks.Journal
import StoryBlanks.Text.Blank
import StoryBlanks.Text.Newline
import StoryBlanks.Yaml.Document

/-!
# Story manifests

A story directory may hold a manifest, a YAML file that names the stories in rotation and gives
them titles. `Manifest.ofDocument` says which documents are manifests; everything else is a
`SchemaError`, and of several the first one in the order of the checks is told. What reads the
YAML is given from outside: a `DocumentReader` makes a document of the bytes of a file.

The name of a file is a text. An entry keeps its file as it is spelled in the document, but where
the spelling stands for bytes that make a text, paths and titles go on with this text.
-/
namespace StoryBlanks

/-- A story that a manifest names. The file is what the spelling stands for. -/
structure Manifest.Entry where
  spelling : Text.Spelling
  file : Text
  title : Option Text.Spelling
  deriving DecidableEq, Repr

structure Manifest where
  version : Text.Spelling
  entries : List Manifest.Entry
  deriving DecidableEq, Repr

/-- What is wrong with a document that should be a manifest. Items are counted from zero. -/
inductive Manifest.SchemaError where
  | notMapping
  | noVersion
  | notList
  | notEntry (index : Nat)
  | noFile (index : Nat)
  | missingFile (index : Nat) (file : Text.Spelling)
  deriving DecidableEq, Repr

inductive SourceError where
  | noDirectory (directory : Path)
  | unlistable (directory : Path) (e : Refused)
  | noStories (directory : Path)
  | refusedStory (path : Path) (e : Refused)
  | undecodableStory (path : Path) (e : Utf8.DecodeError)
  | refusedManifest (path : Path) (e : Refused)
  | malformedManifest (path : Path)
  | schema (name : Text) (e : Manifest.SchemaError)
  deriving DecidableEq, Repr

/-- What ends an operation on the story source. Besides errors of the source itself, there are
some that say only what went wrong and not where. -/
inductive SourceFailure where
  | source (e : SourceError)
  | refused (e : Refused)
  | nullCharacter
  | document (fault : Yaml.Fault)
  /-- A title or a version holds a whole number of too many digits. -/
  | unwritable
  deriving DecidableEq, Repr

def Manifest.SchemaError.message (name : Text) : SchemaError → Text
  | .notMapping => name ++ " must be a YAML mapping at the top level."
  | .noVersion => name ++ ": missing required field 'version'."
  | .notList => name ++ ": 'stories' must be a list."
  | .notEntry i => name ++ ": stories[" ++ Text.ofNat i ++ "] must be a mapping or a file name."
  | .noFile i => name ++ ": stories[" ++ Text.ofNat i ++ "] is missing 'file'."
  | .missingFile i file =>
    name ++ ": stories[" ++ Text.ofNat i ++ "] names missing file " ++ file.quoted ++ ['.']

def SourceError.message : SourceError → Text
  | .noDirectory d => "Story directory not found: " ++ d.text
  | .unlistable d e => "Cannot list story directory " ++ d.text ++ ": " ++ e.message
  | .noStories d => "No stories found in " ++ d.text
  | .refusedStory p e => "Cannot read story " ++ p.text ++ ": " ++ e.message
  | .undecodableStory p e => "Cannot read story " ++ p.text ++ ": " ++ e.message
  | .refusedManifest p e => "Cannot read story manifest " ++ p.text ++ ": " ++ e.message
  | .malformedManifest p =>
    "Cannot read story manifest " ++ p.text ++ ": " ++ Yaml.Fault.malformed.message
  | .schema name e => e.message name

def SourceFailure.message : SourceFailure → Text
  | .source e => e.message
  | .refused e => e.message
  | .nullCharacter => Tree.ReadError.nullCharacter.message
  | .document fault => fault.message
  | .unwritable =>
    "Exceeds the limit (" ++ Text.ofNat Text.maxDigits ++
      " digits) for integer string conversion; " ++
      "use sys.set_int_max_str_digits() to increase the limit"

/-- An answer of the operating system, a refusal being a failure. -/
def SourceFailure.ofSystem {α : Type} (r : Except Refused α) : Except SourceFailure α :=
  r.mapError refused

namespace Manifest

def usualName : Text := "library.yaml"

/-- The title of the first entry for a file, if that entry has one. -/
def titleFor (m : Manifest) (file : Text) : Option Text.Spelling :=
  (m.entries.find? (·.file = file)).bind Entry.title

/-- A value as a text, which it must have. -/
def written (v : Value) : Except SourceFailure Text.Spelling :=
  if v.isWritable then .ok v.toText else .error .unwritable

/-- An item of the list of stories: a mapping, or a text that is short for a mapping with only a
file. The file and the title of the item are values in a document. -/
def fields? (d : Document) (item : Nat) : Option (Option Value × Option Value) :=
  match d.part item with
  | .atom (.text cs) => some (some (.text cs), none)
  | .atom (.broken ns) => some (some (.broken ns), none)
  | .mapping entries =>
    some ((Document.get? "file" entries).map d.value, (Document.get? "title" entries).map d.value)
  | _ => none

/-- The spelling of a file, which must not be blank. -/
def spelled? : Option Value → Option Text.Spelling
  | some (.text cs) => if cs.all Text.isBlank then none else some (.text cs)
  | some (.broken ns) => some (.broken ns)
  | _ => none

/-- Finds the file that a spelling leads to, if there is one. -/
abbrev Finder := Text.Spelling → Except Refused (Option Text)

def entry (name : Text) (find : Finder) (d : Document) (index : Nat) (item : Nat) :
    Except SourceFailure Entry := do
  let some (file, title) := fields? d item | throw (.source (.schema name (.notEntry index)))
  let some spelling := spelled? file | throw (.source (.schema name (.noFile index)))
  let some file ← SourceFailure.ofSystem (find spelling)
    | throw (.source (.schema name (.missingFile index spelling)))
  match title with
  | none | some .null => return ⟨spelling, file, none⟩
  | some title => return ⟨spelling, file, some (← written title)⟩

/-- Items as entries, counted from a given index on. -/
def entriesFrom (name : Text) (find : Finder) (d : Document) (index : Nat) :
    List Nat → Except SourceFailure (List Entry)
  | [] => .ok []
  | item :: items => do
    let first ← entry name find d index item
    return first :: (← entriesFrom name find d (index + 1) items)

/-- The version and the entries that a document states. -/
def stated (name : Text) (find : Finder) (d : Document) :
    Except SourceFailure (Value × List Entry) := do
  let .mapping fields := d.part d.root | throw (.source (.schema name .notMapping))
  let version := ((Document.get? "version" fields).map d.value).getD .null
  if !version.truthy then throw (.source (.schema name .noVersion))
  let some (.list items) := (Document.get? "stories" fields).map d.part
    | throw (.source (.schema name .notList))
  return (version, ← entriesFrom name find d 0 items)

def ofDocument (name : Text) (find : Finder) (d : Document) :
    Except SourceFailure Manifest := do
  let (version, entries) ← stated name find d
  return ⟨← written version, entries⟩

/-- The file in a directory that a spelling leads to. One that is no text leads to none, but may be
refused like any other. -/
def fileIn (t : Tree) (directory : Path) : Finder := fun spelling =>
  let path (cs : Text) := directory / Path.ofText cs
  let refused (reason : Refusal) : Refused :=
    ⟨reason, spelling.unveiled (path spelling.veiled).text⟩
  match spelling.name? with
  | some name =>
    match t.isFile (path name) with
    | .ok there => .ok (if there then some name else none)
    | .error e => .error (refused e.reason)
  | none =>
    match t.find (path spelling.veiled) with
    | .error .nameTooLong =>
      if spelling.isNameable then .error (refused .nameTooLong) else .ok none
    | _ => .ok none

/-- Reads the bytes of a file as a document. -/
abbrev DocumentReader := Utf8.Bytes → Except Yaml.Fault Document

def readDocument (reader : DocumentReader) (t : Tree) (path : Path) :
    Except SourceFailure Document :=
  match t.read path with
  | .error (.refused e) => .error (.source (.refusedManifest path e))
  | .error .nullCharacter => .error .nullCharacter
  | .ok bytes =>
    match reader bytes with
    | .ok d => .ok d
    | .error .malformed => .error (.source (.malformedManifest path))
    | .error fault => .error (.document fault)

/-- The manifest of a directory, if it has one. -/
def load (t : Tree) (directory : Path) (name : Text) (reader : DocumentReader := Yaml.readBytes) :
    Noted SourceFailure (Option Manifest) := do
  let path := directory / Path.ofText name
  if ← SourceFailure.ofSystem (t.isFile path) then
    let d ← readDocument reader t path
    let (version, entries) ← stated name (fileIn t directory) d
    Noted.note (.debug
      ("Loaded manifest " ++ path.text ++ " with " ++ Text.ofNat entries.length ++ " stories"))
    return some ⟨← written version, entries⟩
  else return none

end Manifest
end StoryBlanks
