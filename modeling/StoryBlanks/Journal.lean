import StoryBlanks.Text.Casing

/-!
# Journal

Operations leave notes about what they do. A note never changes a result: `Noted` keeps the two
side by side, and its result is computed as if there were no notes. How many of the notes are
written out, and how, is decided once for the whole journal.
-/
namespace StoryBlanks

structure Note where
  level : Int
  text : Text
  deriving DecidableEq, Repr

namespace Note

def debug (text : Text) : Note := ⟨10, text⟩
def info (text : Text) : Note := ⟨20, text⟩
def error (text : Text) : Note := ⟨40, text⟩

/-- The levels that have a name, and what else they may be called. -/
def levelNames : List (Text × Int) := [
  ("CRITICAL", 50), ("FATAL", 50), ("ERROR", 40), ("WARN", 30), ("WARNING", 30), ("INFO", 20),
  ("DEBUG", 10), ("NOTSET", 0)]

def levelName (level : Int) : Text :=
  if level = 50 then "CRITICAL"
  else if level = 40 then "ERROR"
  else if level = 30 then "WARNING"
  else if level = 20 then "INFO"
  else if level = 10 then "DEBUG"
  else if level = 0 then "NOTSET"
  else "Level " ++ Text.ofInt level

def line (n : Note) : Text := levelName n.level ++ ": " ++ n.text ++ ['\n']

end Note

/-- A result, or why there is none, and the notes made on the way. -/
structure Noted (ε α : Type) where
  result : Except ε α
  notes : List Note := []

namespace Noted

variable {ε α β : Type}

def ok (a : α) : Noted ε α := ⟨.ok a, []⟩

/-- A note without a result of its own. -/
def note (n : Note) : Noted ε Unit := ⟨.ok (), [n]⟩

/-- One operation after another. If the first fails there is no second. -/
def andThen (m : Noted ε α) (f : α → Noted ε β) : Noted ε β :=
  match m.result with
  | .ok a => ⟨(f a).result, m.notes ++ (f a).notes⟩
  | .error e => ⟨.error e, m.notes⟩

def mapError {ε' : Type} (f : ε → ε') (m : Noted ε α) : Noted ε' α :=
  ⟨m.result.mapError f, m.notes⟩

instance : Monad (Noted ε) where
  pure := ok
  bind := andThen

instance : MonadLift (Except ε) (Noted ε) := ⟨fun r => ⟨r, []⟩⟩

instance : MonadExceptOf ε (Noted ε) where
  throw e := ⟨.error e, []⟩
  tryCatch m f :=
    match m.result with
    | .ok _ => m
    | .error e => ⟨(f e).result, m.notes ++ (f e).notes⟩

@[simp] theorem result_pure (a : α) : (pure a : Noted ε α).result = .ok a := rfl

@[simp] theorem result_note (n : Note) : (note n : Noted ε Unit).result = .ok () := rfl

@[simp] theorem result_lift (r : Except ε α) : (liftM r : Noted ε α).result = r := rfl

@[simp] theorem result_throw (e : ε) : (throw e : Noted ε α).result = .error e := rfl

/-- Notes have no say in the result. -/
@[simp] theorem result_bind (m : Noted ε α) (f : α → Noted ε β) :
    (m >>= f).result = m.result >>= fun a => (f a).result := by
  simp only [bind, andThen, Except.bind]
  cases m.result <;> rfl

end Noted

inductive Journal.Style where
  | simple
  | detailed
  deriving DecidableEq, Repr

namespace Journal.Style

def name : Style → Text
  | .simple => "simple"
  | .detailed => "detailed"

def ofName? (cs : Text) : Option Style :=
  if cs == simple.name then some .simple else if cs == detailed.name then some .detailed else none

/-- The fields of a line and what stands between them. -/
def pattern : Style → Text
  | .simple => "%(levelname)s: %(message)s"
  | .detailed => "%(asctime)s | %(levelname)-8s | %(name)s:%(lineno)d | %(message)s"

end Journal.Style

structure Journal where
  threshold : Int
  style : Journal.Style
  deriving DecidableEq, Repr

namespace Journal

/-- The level from which on notes are written if no other one is named. -/
def usualThreshold : Int := 30

def clock : Text := "%H:%M:%S"

/-- A journal with the level of a name, in any case. Another name takes precedence if it is given
and not empty, and an unknown one means the usual level. -/
def ofNames (style : Style) (name : Text) (other : Option Text) : Journal :=
  let name := match other with
    | some (c :: cs) => c :: cs
    | _ => name
  ⟨(Note.levelNames.lookup (Text.toUpper name)).getD usualThreshold, style⟩

/-- Whether a note is written. Notes of level zero and below never are. -/
def admits (j : Journal) (n : Note) : Bool := j.threshold ≤ n.level && 0 < n.level

/-- The lines of the notes that are written, in the simple form whatever the style. The detailed form
has the time, the source and the line of a note as well, which are not known here. -/
def text (j : Journal) (notes : List Note) : Text := (notes.filter j.admits).flatMap Note.line

end Journal
end StoryBlanks
