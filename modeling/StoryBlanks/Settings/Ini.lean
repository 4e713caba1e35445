import StoryBlanks.Files.Path
import StoryBlanks.Text.Blank
import StoryBlanks.Text.Casing
import StoryBlanks.Text.Newline
import StoryBlanks.Text.Quoted
import StoryBlanks.Text.Utf8

/-!
# INI files

Sections in square brackets with options below them. An option has a name, an equals sign or a
colon, and a value, which goes on over the lines that are indented further. The options of the
default section count for all others. Values may refer to other options of their section by
`%(name)s`, and a percent sign is written twice.
-/
namespace StoryBlanks

structure Ini.Entry where
  section_ : Text
  option : Text
  value : Text
  deriving DecidableEq, Repr

structure Ini where
  sections : List Text
  entries : List Ini.Entry
  deriving DecidableEq, Repr

namespace Ini

/-- The section whose options count for all others. -/
def defaultSection : Text := "DEFAULT"

/-! ## Reading -/

/-- Why a text is no INI file. Lines are counted from one. -/
inductive SyntaxError where
  | noSection (number : Nat) (line : Text)
  | twoSections (number : Nat) (name : Text)
  | twoOptions (number : Nat) (name option : Text)
  /-- Lines that are neither a section nor an option. -/
  | badLines (lines : List (Nat × Text))
  deriving DecidableEq, Repr

inductive ReadError where
  | malformed (e : SyntaxError)
  | undecodable (e : Utf8.DecodeError)
  deriving DecidableEq, Repr

def shownPath (p : Path) : Text := "PosixPath(" ++ Text.quoted p.text ++ ")"

def shownLine (number : Nat) : Text := "[line " ++ Text.padLeft 2 (Text.ofNat number) ++ "]: "

def SyntaxError.message (p : Path) : SyntaxError → Text
  | .noSection n line =>
    "File contains no section headers.\nfile: " ++ shownPath p ++ ", line: " ++ Text.ofNat n ++
      '\n' :: Text.quoted line
  | .twoSections n name =>
    "While reading from " ++ shownPath p ++ ' ' :: shownLine n ++ "section " ++
      Text.quoted name ++ " already exists"
  | .twoOptions n name option =>
    "While reading from " ++ shownPath p ++ ' ' :: shownLine n ++ "option " ++
      Text.quoted option ++ " in section " ++ Text.quoted name ++ " already exists"
  | .badLines lines =>
    "Source contains parsing errors: " ++ shownPath p ++
      lines.flatMap fun (n, line) => '\n' :: '\t' :: shownLine n ++ Text.quoted line

def ReadError.message (p : Path) : ReadError → Text
  | .malformed e => e.message p
  | .undecodable e => e.message

/-- What has been read so far, newest first.

* `open_`: whether lines that are indented further belong to the newest option;
* `indent`: how far the line was indented that began the newest section or option. -/
structure Reader where
  sections : List Text := []
  entries : List (Text × Text × List Text) := []
  current : Option Text := none
  open_ : Bool := false
  indent : Nat := 0
  bad : List (Nat × Text) := []

def sectionName? : Text → Option Text
  | '[' :: cs =>
    match (cs.reverse.dropWhile (· ≠ ']')) with
    | _ :: c :: name => some (c :: name).reverse
    | _ => none
  | _ => none

def option? (cs : Text) : Option (Text × Text) :=
  match cs.span fun c => c ≠ '=' && c ≠ ':' with
  | (name, _ :: value) => some (Text.toLower (Text.trimRight name), Text.trim value)
  | (_, []) => none

namespace Reader

def extend (s : Reader) (line : Text) : Reader :=
  match s.entries with
  | (name, option, lines) :: rest => { s with entries := (name, option, line :: lines) :: rest }
  | [] => s

def header (s : Reader) (number : Nat) (name : Text) : Except SyntaxError Reader :=
  if name == defaultSection then .ok { s with current := some name, open_ := false }
  else if s.sections.contains name then .error (.twoSections number name)
  else .ok { s with sections := name :: s.sections, current := some name, open_ := false }

def option (s : Reader) (number : Nat) (line name option value : Text) :
    Except SyntaxError Reader :=
  if s.entries.any fun (n, o, _) => n == name && o == option then
    .error (.twoOptions number name option)
  else
    .ok { s with
      entries := (name, option, [value]) :: s.entries
      open_ := !option.isEmpty
      bad := if option.isEmpty then (number, line) :: s.bad else s.bad }

/-- Reads one line, which still has its line feed. -/
def line (s : Reader) (number : Nat) (line : Text) : Except SyntaxError Reader :=
  let content := Text.trim line
  let indent := (line.takeWhile Text.isBlank).length
  if content.head? = some '#' || content.head? = some ';' then .ok s
  else if content.isEmpty then .ok (if s.open_ then s.extend [] else s)
  else if s.open_ && s.indent < indent then .ok (s.extend content)
  else
    let s := { s with indent }
    match sectionName? content, s.current, option? content with
    | some name, _, _ => s.header number name
    | none, none, _ => .error (.noSection number line)
    | none, some name, some (option, value) => s.option number line name option value
    | none, some _, none => .ok { s with bad := (number, line) :: s.bad }

def lines (s : Reader) (number : Nat) : List Text → Except SyntaxError Reader
  | [] => .ok s
  | l :: ls =>
    match s.line number l with
    | .ok s => s.lines (number + 1) ls
    | .error e => .error e

/-- The lines of a value put together, without blanks at the end. -/
def value (newest : List Text) : Text := Text.trimRight (Text.joinWith ['\n'] newest.reverse)

def finish (s : Reader) : Except SyntaxError Ini :=
  if s.bad.isEmpty then
    .ok ⟨s.sections.reverse,
      s.entries.reverse.map fun (name, option, lines) => ⟨name, option, value lines⟩⟩
  else .error (.badLines s.bad.reverse)

end Reader

def empty : Ini := ⟨[], []⟩

/-- The lines of what has been read that are certain to end, and the rest. A carriage return at the
end of a part could still be followed by a line feed. -/
def readLines (r : Utf8.Reading) : List Text × Text :=
  let cut := r.error.isSome && r.text.getLast? == some '\r'
  Text.cutLines (Text.unifyNewlines (if cut then r.text.dropLast else r.text))

/-- What has been read of a file as an INI file. Where it could be read only in part, the complete
lines before that are still looked at. -/
def ofReading (r : Utf8.Reading) : Except ReadError Ini :=
  let (complete, last) := readLines r
  let lines := if r.error.isSome || last.isEmpty then complete else complete ++ [last]
  match Reader.lines {} 1 lines, r.error with
  | .error e, _ => .error (.malformed e)
  | .ok _, some e => .error (.undecodable e)
  | .ok s, none => s.finish.mapError .malformed

/-! ## Values -/

def find? (ini : Ini) (name option : Text) : Option Text :=
  (ini.entries.find? fun e => e.section_ == name && e.option == option).map Entry.value

/-- The value of an option as it is written, in the section itself or in the default section, if
there is such a section. -/
def raw? (ini : Ini) (name option : Text) : Option Text :=
  if ini.sections.contains name then
    (ini.find? name option).or (ini.find? defaultSection option)
  else none

inductive ValueError where
  | unknownOption (option name reference raw : Text)
  | tooDeep (option name raw : Text)
  | badReference (rest : Text)
  | badPercent (rest : Text)
  deriving DecidableEq, Repr

/-- How far references may lead from one value to the next. -/
def maxDepth : Nat := 10

def ValueError.message : ValueError → Text
  | .unknownOption option name reference raw =>
    "Bad value substitution: option " ++ Text.quoted option ++ " in section " ++ Text.quoted name ++
      " contains an interpolation key " ++ Text.quoted reference ++
      " which is not a valid option name. Raw value: " ++ Text.quoted raw
  | .tooDeep option name raw =>
    "Recursion limit exceeded in value substitution: option " ++ Text.quoted option ++
      " in section " ++ Text.quoted name ++
      " contains an interpolation key which cannot be substituted in " ++ Text.ofNat maxDepth ++
      " steps. Raw value: " ++ Text.quoted raw
  | .badReference rest => "bad interpolation variable reference " ++ Text.quoted rest
  | .badPercent rest => "'%' must be followed by '%' or '(', found: " ++ Text.quoted rest

/-- The name in a reference, and what follows it. -/
def reference? : Text → Option (Text × Text)
  | '%' :: '(' :: cs =>
    match cs.span (· ≠ ')') with
    | (c :: name, ')' :: 's' :: rest) => some (Text.toLower (c :: name), rest)
    | _ => none
  | _ => none

/-- A value with its references replaced. `lookUp` gives the raw value of an option, `missing` and
`deep` are what goes wrong with unknown options and past the greatest depth. -/
def expand (lookUp : Text → Option Text) (missing : Text → ValueError) (deep : ValueError) :
    Nat → Text → Except ValueError Text
  | 0, _ => .error deep
  | depth + 1, value => go (expand lookUp missing deep depth) value.length value
where
  go (inner : Text → Except ValueError Text) : Nat → Text → Except ValueError Text
    | _, [] => .ok []
    | 0, cs => .ok cs
    | n + 1, '%' :: '%' :: cs => (go inner n cs).map ('%' :: ·)
    | n + 1, '%' :: cs =>
      if cs.head? ≠ some '(' then .error (.badPercent ('%' :: cs))
      else match reference? ('%' :: cs) with
        | none => .error (.badReference ('%' :: cs))
        | some (name, rest) =>
          match lookUp name with
          | none => .error (missing name)
          | some value => do
            let value ← if value.contains '%' then inner value else .ok value
            return value ++ (← go inner n rest)
    | n + 1, c :: cs => (go inner n cs).map (c :: ·)

def get? (ini : Ini) (name option : Text) : Except ValueError (Option Text) :=
  match ini.raw? name option with
  | none => .ok none
  | some raw =>
    (expand (ini.raw? name) (fun reference => .unknownOption option name reference raw)
      (.tooDeep option name raw) maxDepth raw).map some

end Ini
end StoryBlanks
