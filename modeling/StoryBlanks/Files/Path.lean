import StoryBlanks.Text.Basic

/-!
# Paths

A path is a root and the names along the way. Empty names and single dots are left out when a
path is read, and double dots are kept, so a path has one text. A path with exactly two slashes
in front keeps both.
-/
namespace StoryBlanks

inductive Path.Root where
  | here
  | top
  | doubleTop
  deriving DecidableEq, Repr

def Path.isName (cs : Text) : Bool := !cs.isEmpty && cs ≠ ['.'] && !cs.contains '/'

structure Path where
  root : Path.Root
  names : List Text
  isName_of_mem : ∀ n ∈ names, Path.isName n
  deriving DecidableEq, Repr

namespace Path

def namesIn (cs : Text) : List Text := (Text.splitOn '/' cs).filter isName

theorem isName_of_mem_namesIn {cs n : Text} (h : n ∈ namesIn cs) : isName n :=
  (List.mem_filter.1 h).2

def rootOf : Text → Root
  | '/' :: '/' :: '/' :: _ => .top
  | '/' :: '/' :: _ => .doubleTop
  | '/' :: _ => .top
  | _ => .here

def ofText (cs : Text) : Path := ⟨rootOf cs, namesIn cs, fun _ => isName_of_mem_namesIn⟩

/-- The path as it is written; the empty relative path is a single dot. -/
def text (p : Path) : Text :=
  let names := Text.joinWith ['/'] p.names
  match p.root, p.names with
  | .here, [] => ['.']
  | .here, _ => names
  | .top, _ => '/' :: names
  | .doubleTop, _ => '/' :: '/' :: names

def isAbsolute (p : Path) : Bool := p.root ≠ .here

/-- The second path as seen from the first one. -/
def join (p q : Path) : Path :=
  if q.isAbsolute then q
  else
    ⟨p.root, p.names ++ q.names, fun n h =>
      (List.mem_append.1 h).elim (p.isName_of_mem n) (q.isName_of_mem n)⟩

instance : Div Path := ⟨join⟩

def parent (p : Path) : Path :=
  ⟨p.root, p.names.dropLast, fun n h => p.isName_of_mem n ((List.dropLast_sublist _).subset h)⟩

/-- The last name, empty where there is none. -/
def name (p : Path) : Text := p.names.getLastD []

/-- The last name without what follows its last dot. A dot at either end of the name does not
count. -/
def stem (p : Path) : Text :=
  let name := p.name
  let suffix := name.reverse.takeWhile (· ≠ '.')
  let dot := name.length - suffix.length - 1
  if suffix.isEmpty || suffix.length = name.length || dot = 0 then name else name.take dot

end Path
end StoryBlanks
