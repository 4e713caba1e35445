import StoryBlanks.Command.Arguments
import StoryBlanks.Game.Play
import StoryBlanks.Output
import StoryBlanks.Settings.Basic

/-!
# Running commands

A command ends with an exit code, or with a failure that it has no message for. What it writes
goes to two places: prompts, stories and reports to the output, complaints and notes to the error
output. Which notes are written there is up to the journal and changes nothing else.
-/
namespace StoryBlanks.Command

open Round (Turn)

/-- Where a command is run. `chance` takes the place of a seed if none is given. -/
structure Scene where
  root : Path
  tree : Tree
  settings : Settings
  chance : Int := 0
  reader : Manifest.DocumentReader := Yaml.readBytes
  output : Output := .strict

inductive Failure where
  | game (e : Game.Failure)
  /-- A seed is asked for and not given. -/
  | noSeed
  | unencodable (e : Unencodable)

def Failure.message : Failure → Text
  | .game e => e.message
  | .noSeed =>
    "The only supported seed types are: None,\nint, float, str, bytes, and bytearray."
  | .unencodable e => e.message

/-- What came of a command. `unanswered` says that it ended for want of an answer. -/
structure Outcome where
  output : Text := []
  notes : List Note := []
  complaint : Text := []
  left : List Answer
  unanswered : Bool := false
  result : Except Failure Nat

/-- The library that a command works on. An empty directory counts as not given. -/
def library (p : Scene) (a : Arguments) : Library :=
  { directory := match a.stories with
      | some (c :: cs) => Path.ofText (c :: cs)
      | _ => p.settings.absoluteDirectory p.root
    manifestName := p.settings.manifest
    reader := p.reader }

/-! ## Play -/

/-- Whether a failure is one that a round reports, rather than one that nobody expects. -/
def isReported : Game.Failure → Bool
  | .round _ => true
  | .source e =>
    match e with
    | .source _ | .nullCharacter | .unwritable => true
    | .refused _ => false
    | .document fault =>
      match fault with
      | .calendar _ | .numeral _ | .brokenNumeral .. | .notFloat _ | .undecodable _ => true
      | .noCharacter code => code < Nat.pow 2 31
      | .malformed | .emptyNumber | .hugePlace | .notBool _ | .notTimestamp | .mappingTimestamp
      | .tooDeep => false

def isAbandoned : Game.Failure → Bool
  | .round .quit | .round .noAnswer => true
  | _ => false

def complaint (message : Text) : Text := "Error: " ++ message ++ ['\n']

/-- The width in force. A width that is asked for and not given is an empty list. -/
def lineWidth (p : Scene) (a : Arguments) : Value :=
  match a.width with
  | none => .int p.settings.lineWidth
  | some (some n) => .int n
  | some none => .list []

def turn (p : Scene) (a : Arguments) (seed : Int) (answers : List Answer) :
    Turn Game.Failure Text :=
  let l := library p a
  let options : Game.Options := ⟨lineWidth p a, p.settings.promptFormat⟩
  match a.story with
  | some (c :: cs) => Game.playAt l p.tree (Path.ofText (c :: cs)) options answers
  | _ => (Game.playPicked l p.tree (Generator.ofSeed seed) options answers).1

def playWith (p : Scene) (a : Arguments) (seed : Int) (answers : List Answer) : Outcome :=
  let t := turn p a seed answers
  let shown : Outcome :=
    { output := t.prompts.flatten ++ t.printed.flatMap (· ++ ['\n'])
      notes := t.notes
      left := t.left
      result := .ok 1 }
  match t.result with
  | .ok _ => { shown with result := .ok 0 }
  | .error e =>
    if isAbandoned e then
      { shown with complaint := "\nRound abandoned.\n", unanswered := t.left.isEmpty }
    else if isReported e then
      { shown with
        notes := t.notes ++ [.error ("Round failed: " ++ e.message)]
        complaint := complaint e.message }
    else { shown with result := .error (.game e) }

def runPlay (p : Scene) (a : Arguments) (answers : List Answer) : Outcome :=
  match a.seed with
  | none => playWith p a p.chance answers
  | some (some seed) => playWith p a seed answers
  | some none => { left := answers, result := .error .noSeed }

/-! ## List and check -/

/-- The stories in rotation written out by a report, which also says how the command ends. -/
def survey (p : Scene) (a : Arguments) (answers : List Answer)
    (report : List Story → Text × Except Failure Nat) : Outcome :=
  let stories := (library p a).loadAll p.tree
  match stories.result with
  | .ok ss =>
    let (output, result) := report ss
    { output, notes := stories.notes, left := answers, result }
  | .error (.source e) =>
    { notes := stories.notes, complaint := complaint e.message, left := answers, result := .ok 1 }
  | .error e => { notes := stories.notes, left := answers, result := .error (.game (.source e)) }

def blanks (s : Story) : Text :=
  match Template.labels s.template with
  | .ok labels => Text.ofNat labels.length
  | .error _ => "malformed"

def row (s : Story) : Text.Spelling :=
  s.title.within (Text.padRight 30 s.path.name ++ [' '])
    (List.replicate (30 - s.title.length) ' ' ++ ' ' :: Text.padLeft 9 (blanks s))

/-- A row that the output refuses ends the list. -/
def runList (p : Scene) (a : Arguments) (answers : List Answer) : Outcome :=
  survey p a answers fun ss =>
    let (rows, refused) := p.output.print (ss.map row)
    (rows, match refused with
      | none => .ok 0
      | some e => .error (.unencodable e))

inductive Verdict where
  | fail (e : Template.Unmatched)
  | warn
  | fine (blanks : Nat)
  deriving DecidableEq, Repr

def verdict (s : Story) : Verdict :=
  match Template.labels s.template with
  | .error e => .fail e
  | .ok [] => .warn
  | .ok labels => .fine labels.length

def verdictLine (s : Story) : Text :=
  (match verdict s with
    | .fail e => "FAIL  " ++ s.path.name ++ ": " ++ e.message
    | .warn => "WARN  " ++ s.path.name ++ ": no blanks"
    | .fine n => "OK    " ++ s.path.name ++ ": " ++ Text.ofNat n ++ " blanks") ++ ['\n']

def Verdict.isFail : Verdict → Bool
  | .fail _ => true
  | _ => false

def runCheck (p : Scene) (a : Arguments) (answers : List Answer) : Outcome :=
  survey p a answers fun ss =>
    let failures := ss.countP fun s => (verdict s).isFail
    (ss.flatMap verdictLine ++ '\n' :: Text.ofNat ss.length ++ " stories checked, " ++
      Text.ofNat failures ++ " malformed.\n", .ok (if failures = 0 then 0 else 1))

/-! ## All commands -/

def runConfig (p : Scene) (answers : List Answer) : Outcome :=
  match p.settings.summary p.root p.tree with
  | .ok text => { output := text, left := answers, result := .ok 0 }
  | .error e => { left := answers, result := .error (.game (.source (.refused e))) }

/-- The command that is asked for. Without one a round is played. -/
def run (p : Scene) (a : Arguments) (answers : List Answer) : Outcome :=
  match a.command.getD .play with
  | .play => runPlay p a answers
  | .list => runList p a answers
  | .check => runCheck p a answers
  | .config => runConfig p answers

/-! ## The program -/

/-- What the program writes to its two outputs, and how it ends. `unanswered` says that a longer
input may take it further. -/
structure Written where
  output : Text := []
  errors : Text := []
  unanswered : Bool := false
  result : Except Failure Nat

def stopped : Stop → Written
  | .help form => { output := form.help, result := .ok 0 }
  | .version => { output := Form.program ++ ' ' :: Form.version ++ ['\n'], result := .ok 0 }
  | .misuse form e =>
    { errors := form.usage ++ form.name ++ ": error: " ++ e.message ++ ['\n'], result := .ok 2 }

def journal (p : Scene) (a : Arguments) : Journal :=
  Journal.ofNames p.settings.logStyle p.settings.logLevel a.logLevel

/-- The answers on the standard input: its lines, whether or not the last one is ended. -/
def answersIn (input : Text) : List Answer :=
  let (lines, last) := Text.cutLines (Text.unifyNewlines input)
  (lines.map fun l => .word (Text.chopped l)) ++ if last.isEmpty then [] else [.word last]

def program (p : Scene) (words : List Text) (input : Text) : Written :=
  match Arguments.ofWords words with
  | .error stop => stopped stop
  | .ok a =>
    let outcome := run p a (answersIn input)
    { output := outcome.output
      errors := (journal p a).text outcome.notes ++ outcome.complaint
      unanswered := outcome.unanswered
      result := outcome.result }

theorem program_of_arguments (p : Scene) {words : List Text} {a : Arguments}
    (h : Arguments.ofWords words = .ok a) (input : Text) : program p words input =
      { output := (run p a (answersIn input)).output
        errors := (journal p a).text (run p a (answersIn input)).notes ++
          (run p a (answersIn input)).complaint
        unanswered := (run p a (answersIn input)).unanswered
        result := (run p a (answersIn input)).result } := by
  simp only [program, h]

end StoryBlanks.Command
