import StoryBlanks.Files.Path
import StoryBlanks.Text.Codes

/-!
# File trees

The files, directories and symbolic links that the game can see. A place in the tree is the list
of names from the top down to it; `resolve` finds the place that a path leads to, following links
on the way, and the other operations act on that place. No two entries stand at one place, and their
order is the order in which a directory is listed.

Names are texts. A file whose name is made of bytes that are no UTF-8 is not in any tree, and no path
leads to it.
-/
namespace StoryBlanks

/-- The names from the top of the tree down to an entry. -/
abbrev Place := List Text

inductive Entry where
  | file (content : Utf8.Bytes)
  | directory
  | link (target : Text)
  deriving DecidableEq, Repr

/-- Whether something can stand at a place: no name in it leads elsewhere. -/
def isPlace (place : Place) : Bool := place.all fun n => Path.isName n && n ≠ ['.', '.']

structure Tree where
  entries : List (Place × Entry)
  /-- The working directory, where relative paths start. -/
  here : Place := []
  distinct : (entries.map Prod.fst).Nodup := by decide
  proper : ∀ x ∈ entries, isPlace x.1 := by decide

inductive Refusal where
  | missing
  | notDirectory
  | isDirectory
  | nameTooLong
  | tooManyLinks
  deriving DecidableEq, Repr

structure Refused where
  reason : Refusal
  path : Text.Spelling
  deriving DecidableEq, Repr

def Refusal.code : Refusal → Nat
  | .missing => 2
  | .notDirectory => 20
  | .isDirectory => 21
  | .nameTooLong => 36
  | .tooManyLinks => 40

def Refusal.message : Refusal → Text
  | .missing => "No such file or directory"
  | .notDirectory => "Not a directory"
  | .isDirectory => "Is a directory"
  | .nameTooLong => "File name too long"
  | .tooManyLinks => "Too many levels of symbolic links"

def Refused.message (e : Refused) : Text :=
  "[Errno " ++ Text.ofNat e.reason.code ++ "] " ++ e.reason.message ++ ": " ++
    e.path.quoted

def Path.refused (p : Path) (reason : Refusal) : Refused := ⟨reason, .text p.text⟩

namespace Tree

/-- A name has at most this many bytes. -/
def maxName : Nat := 255

/-- A path has fewer bytes than this. -/
def maxPath : Nat := 4096

/-- So many links are followed on the way to a place, and no more. -/
def maxLinks : Nat := 40

/-- What stands at a place. The top and the working directory are always there. -/
def entry? (t : Tree) (place : Place) : Option Entry :=
  if place.isEmpty || place = t.here then some .directory else t.entries.lookup place

/-- The steps that the target of a link asks for. A single dot is a step to the same place, which
must be a directory; a slash at the end asks for one in the same way. -/
def stepsOf (target : Text) : List Text :=
  (Text.splitOn '/' target).filter (!·.isEmpty) ++
    (if target.getLast? = some '/' then [['.']] else [])

/-- Goes on from a place, one step at a time, with a number of links that may still be
followed. -/
def walk (t : Tree) (links : Nat) (place : Place) : List Text → Except Refusal Place
  | [] => .ok place
  | step :: steps =>
    if t.entry? place ≠ some .directory then .error .notDirectory
    else if step = ['.'] then walk t links place steps
    else if step = ['.', '.'] then walk t links place.dropLast steps
    else if maxName < (Utf8.encode step).length then .error .nameTooLong
    else
      match t.entry? (place ++ [step]) with
      | none => .error .missing
      | some (.link target) =>
        match links with
        | 0 => .error .tooManyLinks
        | links + 1 =>
          let start := if (Path.ofText target).isAbsolute then [] else place
          walk t links start (stepsOf target ++ steps)
      | some _ => walk t links (place ++ [step]) steps
termination_by steps => (links, steps.length)

def resolve (t : Tree) (p : Path) : Except Refusal Place :=
  if maxPath ≤ (Utf8.encode p.text).length then .error .nameTooLong
  else t.walk maxLinks (if p.isAbsolute then [] else t.here) p.names

def find (t : Tree) (p : Path) : Except Refusal Entry := do
  let place ← t.resolve p
  match t.entry? place with
  | some e => return e
  | none => throw .missing

/-- Whether a path leads to an entry of some kind. A path that leads nowhere does not; one that is
too long is refused. A name with a null character leads nowhere. -/
def holds (t : Tree) (kind : Entry → Bool) (p : Path) : Except Refused Bool :=
  if p.text.contains '\x00' then .ok false
  else match t.find p with
    | .ok e => .ok (kind e)
    | .error .nameTooLong => .error (p.refused .nameTooLong)
    | .error _ => .ok false

def isFile (t : Tree) (p : Path) : Except Refused Bool :=
  t.holds (fun | .file _ => true | _ => false) p

def isDirectory (t : Tree) (p : Path) : Except Refused Bool :=
  t.holds (fun | .directory => true | _ => false) p

def isThere (t : Tree) (p : Path) : Except Refused Bool := t.holds (fun _ => true) p

inductive ReadError where
  | nullCharacter
  | refused (e : Refused)
  deriving DecidableEq, Repr

def ReadError.message : ReadError → Text
  | .nullCharacter => "embedded null byte"
  | .refused e => e.message

def read (t : Tree) (p : Path) : Except ReadError Utf8.Bytes :=
  if p.text.contains '\x00' then .error .nullCharacter
  else match t.find p with
    | .ok (.file content) => .ok content
    | .ok _ => .error (.refused (p.refused .isDirectory))
    | .error reason => .error (.refused (p.refused reason))

def namesAt (t : Tree) (place : Place) : List Text :=
  t.entries.filterMap fun (there, _) =>
    match there.getLast? with
    | some name => if there.dropLast = place then some name else none
    | none => none

def list (t : Tree) (p : Path) : Except Refused (List Text) :=
  match t.resolve p with
  | .error reason => .error (p.refused reason)
  | .ok place =>
    if t.entry? place = some .directory then .ok (t.namesAt place)
    else .error (p.refused .notDirectory)

/-! ## Changes -/

/-- The tree with another entry where one stands already. -/
def change (t : Tree) (place : Place) (e : Entry) : Tree :=
  { t with
    entries := t.entries.map fun x => (x.1, if x.1 = place then e else x.2)
    distinct := by
      rw [List.map_map]
      exact t.distinct
    proper := by
      intro x hx
      obtain ⟨y, hy, rfl⟩ := List.mem_map.1 hx
      exact t.proper y hy }

def add (t : Tree) (place : Place) (e : Entry) (h : place ∉ t.entries.map Prod.fst)
    (hp : isPlace place) : Tree :=
  { t with
    entries := t.entries ++ [(place, e)]
    distinct := by
      rw [List.map_append, List.nodup_append]
      refine ⟨t.distinct, by simp, ?_⟩
      intro a ha b hb hab
      have hb : b = place := by simpa using hb
      exact h (hb ▸ hab ▸ ha)
    proper := by
      intro x hx
      rcases List.mem_append.1 hx with hx | hx
      · exact t.proper x hx
      · have hx : x = (place, e) := by simpa using hx
        exact hx ▸ hp }

/-- The tree with an entry at a place, whatever stood there. -/
def put (t : Tree) (place : Place) (e : Entry) : Tree :=
  if h : place ∈ t.entries.map Prod.fst then t.change place e
  else if hp : isPlace place then t.add place e h hp
  else t

/-- The place that a path leads to once the directories on the way are made. -/
def makeDirectories (t : Tree) (p : Path) : Tree × Place :=
  p.names.foldl
    (fun (t, place) name =>
      match t.walk maxLinks place [name] with
      | .ok there => (t, there)
      | .error _ => (t.put (place ++ [name]) .directory, place ++ [name]))
    (t, if p.isAbsolute then [] else t.here)

/-- The place where a file with some name is written: where the links lead that stand there, even
if nothing is at their end yet. -/
def destination (t : Tree) : Nat → Place → Text → Place
  | 0, place, name => place ++ [name]
  | links + 1, place, name =>
    match t.entry? (place ++ [name]) with
    | some (.link target) =>
      let p := Path.ofText target
      match t.walk links (if p.isAbsolute then [] else place) p.parent.names with
      | .ok there => t.destination links there p.name
      | .error _ => place ++ [name]
    | _ => place ++ [name]

/-- The tree with a file, whose directories are made. -/
def write (t : Tree) (p : Path) (content : Utf8.Bytes) : Tree :=
  let (t, place) := t.makeDirectories p.parent
  t.put (t.destination maxLinks place p.name) (.file content)

def link (t : Tree) (p : Path) (target : Text) : Tree :=
  let (t, place) := t.makeDirectories p.parent
  t.put (place ++ [p.name]) (.link target)

def remove (t : Tree) (p : Path) : Tree :=
  match t.resolve p.parent with
  | .error _ => t
  | .ok place =>
    let gone := place ++ [p.name]
    { t with
      entries := t.entries.filter fun x => !gone.isPrefixOf x.1
      distinct := t.distinct.sublist (List.filter_sublist.map Prod.fst)
      proper := fun x hx => t.proper x (List.mem_filter.1 hx).1 }

end Tree
end StoryBlanks
