import StoryBlanks.Generator
import StoryBlanks.Manifest
import StoryBlanks.Title

/-!
# Story libraries

A library is a directory of story files. The stories in rotation are those that the manifest of
the directory names, in its order, or else all visible files in the order of their names. Stories
are read one at a time, all in turn, or one that a generator picks.
-/
namespace StoryBlanks

structure Story where
  path : Path
  title : Text.Spelling
  template : Text
  deriving DecidableEq, Repr

structure Library where
  directory : Path
  manifestName : Text := Manifest.usualName
  reader : Manifest.DocumentReader := Yaml.readBytes

namespace Library

def require (l : Library) (t : Tree) : Except SourceFailure Unit := do
  if ← SourceFailure.ofSystem (t.isDirectory l.directory) then return ()
  else throw (.source (.noDirectory l.directory))

def manifest (l : Library) (t : Tree) : Noted SourceFailure (Option Manifest) := do
  l.require t
  Manifest.load t l.directory l.manifestName l.reader

def isStory (l : Library) (t : Tree) (name : Text) : Except Refused Bool :=
  (t.isFile (l.directory / Path.ofText name)).map fun isFile =>
    isFile && name.head? ≠ some '.' && name ≠ l.manifestName

/-- The visible files of the directory, sorted by name. -/
def visible (l : Library) (t : Tree) : Except Refused (List Path) := do
  let names ← (← t.list l.directory).filterM (l.isStory t)
  return (names.mergeSort Text.isAtMost).map fun name => l.directory / Path.ofText name

def rotation (l : Library) (t : Tree) : Noted SourceFailure (List Path) := do
  let paths ← match ← l.manifest t with
    | some m => pure (m.entries.map fun e => l.directory / Path.ofText e.file)
    | none =>
      match l.visible t with
      | .ok paths => pure paths
      | .error e => throw (.source (.unlistable l.directory e))
  if paths.isEmpty then throw (.source (.noStories l.directory))
  return paths

def read (t : Tree) (path : Path) : Except SourceFailure Text :=
  match t.read path with
  | .error (.refused e) => .error (.source (.refusedStory path e))
  | .error .nullCharacter => .error .nullCharacter
  | .ok bytes =>
    match Utf8.decode bytes with
    | .error e => .error (.source (.undecodableStory path e))
    | .ok text => .ok (Text.unifyNewlines text)

/-- The title of a story: the one that a manifest gives it, unless that is empty, or the one that
its path suggests. -/
def titleOf (m : Option Manifest) (path : Path) : Text.Spelling :=
  match m.bind (·.titleFor path.name) with
  | some title => if title.isEmpty then .text (Title.ofPath path) else title
  | none => .text (Title.ofPath path)

/-- One story, by a path that may be relative to the directory. -/
def load (l : Library) (t : Tree) (path : Path) (m : Option Manifest) :
    Except SourceFailure Story := do
  let path := l.directory / path
  return ⟨path, titleOf m path, ← read t path⟩

def loadAll (l : Library) (t : Tree) : Noted SourceFailure (List Story) := do
  let m ← l.manifest t
  (← l.rotation t).mapM fun path => l.load t path m

/-- One of the stories in rotation, by its place. -/
def loadAt (l : Library) (t : Tree) (paths : List Path) (i : Nat) :
    Noted SourceFailure Story := do
  let path := paths.getD i l.directory
  Noted.note (.debug ("Selected story " ++ path.text))
  let m ← l.manifest t
  l.load t path m

/-- A story that the generator picks, and the generator afterwards. It moves on as soon as there
is a rotation to choose from. -/
def pick (l : Library) (t : Tree) (g : Generator) : Noted SourceFailure Story × Generator :=
  let listed := l.rotation t
  match listed.result with
  | .error e => (⟨.error e, listed.notes⟩, g)
  | .ok paths =>
    let (i, g) := g.choose paths.length
    (listed.andThen fun paths => l.loadAt t paths i, g)

end Library
end StoryBlanks
