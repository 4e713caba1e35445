import StoryBlanks.Command.Form
import StoryBlanks.Text.Newline
import StoryBlanks.Text.Numeral

/-!
# Arguments

The words behind the name of the program, read by the forms. Every word is first told apart as a
flag or a plain word; then flags take their values and the first plain word names a command, whose
form reads all words behind it. A flag may be shortened while only one fits, its value may stand
in the same word, and flags of one letter may be written together. Two hyphens in the place of a
value stand for none.
-/
namespace StoryBlanks.Command

/-- What the words ask for. A number may be asked for and yet not be given; a text that is not given
is empty. -/
structure Arguments where
  command : Option Command := none
  logLevel : Option Text := none
  stories : Option Text := none
  story : Option Text := none
  width : Option (Option Int) := none
  seed : Option (Option Int) := none
  deriving DecidableEq, Repr

inductive Misuse where
  | noValue (flag : Flag)
  | badNumber (flag : Flag) (word : Text)
  | excessValue (flag : Flag) (value : Text)
  | badCommand (word : Text)
  | ambiguous (word : Text) (names : List Text)
  | unknown (words : List Text)
  deriving DecidableEq, Repr

inductive Stop where
  | help (form : Form)
  | version
  | misuse (form : Form) (e : Misuse)
  deriving DecidableEq, Repr

def Flag.text (f : Flag) : Text := Text.joinWith ['/'] f.names

def Misuse.message : Misuse → Text
  | .noValue f => "argument " ++ f.text ++ ": expected one argument"
  | .badNumber f word => "argument " ++ f.text ++ ": invalid int value: " ++ Text.quoted word
  | .excessValue f value =>
    "argument " ++ f.text ++ ": ignored explicit argument " ++ Text.quoted value
  | .badCommand word =>
    "argument command: invalid choice: " ++ Text.quoted word ++ " (choose from " ++
      Text.joinWith ", " (all.map fun c => Text.quoted c.name) ++ ")"
  | .ambiguous word names =>
    "ambiguous option: " ++ word ++ " could match " ++ Text.joinWith ", " names
  | .unknown words => "unrecognized arguments: " ++ Text.joinWith [' '] words

/-! ## Telling words apart -/

/-- A flag as a word mentions it: by one of its names, and maybe with a value behind it. -/
structure Mention where
  flag : Flag
  name : Text
  value : Option Text

inductive Word where
  | plain (text : Text)
  /-- Two hyphens, behind which all words are plain. -/
  | separator
  /-- A word that looks like a flag, and the flag that it is. -/
  | flag (text : Text) (mention : Option Mention)

def Word.text : Word → Text
  | .plain t => t
  | .separator => "--"
  | .flag t _ => t

def cutEquals (word : Text) : Text × Option Text :=
  match word.span (· ≠ '=') with
  | (name, _ :: value) => (name, some value)
  | (name, []) => (name, none)

def candidates (form : Form) (word : Text) : List Mention :=
  match word with
  | '-' :: '-' :: _ =>
    let (start, value) := cutEquals word
    (form.names.filter fun (name, _) => start.isPrefixOf name).map fun (name, flag) =>
      ⟨flag, name, value⟩
  | _ =>
    form.names.filterMap fun (name, flag) =>
      if name == word.take 2 then some ⟨flag, name, some (word.drop 2)⟩ else none

def isNegativeNumber (word : Text) : Bool :=
  match Text.chopped word with
  | '-' :: cs =>
    let isDigit (c : Char) := (Text.digit? c).isSome
    match cs.span isDigit with
    | (_ :: _, []) => true
    | (_, '.' :: ds) => !ds.isEmpty && ds.all isDigit
    | _ => false
  | _ => false

def classify (form : Form) (word : Text) : Except Misuse Word :=
  let known (name : Text) := form.names.lookup name
  if word.head? ≠ some '-' then .ok (.plain word)
  else
    let (start, value) := cutEquals word
    match known word, value, known start with
    | some flag, _, _ => .ok (.flag word (some ⟨flag, word, none⟩))
    | none, some value, some flag => .ok (.flag word (some ⟨flag, start, some value⟩))
    | _, _, _ =>
      if word.length = 1 then .ok (.plain word)
      else match candidates form word with
        | [mention] => .ok (.flag word (some mention))
        | [] =>
          .ok (if isNegativeNumber word || word.contains ' ' then .plain word else .flag word none)
        | several => .error (.ambiguous word (several.map Mention.name))

def classifyAll (form : Form) : List Text → Except Misuse (List Word)
  | [] => .ok []
  | word :: words =>
    if word == ['-', '-'] then .ok (.separator :: words.map .plain)
    else do
      let first ← classify form word
      return first :: (← classifyAll form words)

/-! ## Flags -/

/-- What the flags in one word ask for: flags with the values they have, and one that still needs a
value. -/
structure Asked where
  flags : List (Flag × Option Text) := []
  waiting : Option Flag := none

def Asked.after (flag : Flag) (a : Asked) : Asked := { a with flags := (flag, none) :: a.flags }

def isLetter (name : Text) : Bool := (name.drop 1).head? ≠ some '-'

/-- Takes the flags of one letter in a word apart. The number bounds the letters. -/
def unfold (form : Form) : Nat → Mention → Except Misuse Asked
  | 0, s => .error (.excessValue s.flag [])
  | n + 1, s =>
    match s.value with
    | none =>
      .ok (if s.flag.takesValue then { waiting := some s.flag } else { flags := [(s.flag, none)] })
    | some value =>
      if s.flag.takesValue then .ok { flags := [(s.flag, some value)] }
      else match value with
        | [] => .error (.excessValue s.flag value)
        | c :: cs =>
          match if isLetter s.name then form.names.lookup ['-', c] else none with
          | none => .error (.excessValue s.flag value)
          | some flag =>
            let next : Mention := ⟨flag, ['-', c], if cs.isEmpty then none else some cs⟩
            (unfold form n next).map (Asked.after s.flag)

def textOf (value : Option Text) : Text :=
  match value with
  | some ['-', '-'] => []
  | some cs => cs
  | none => []

/-- The value of a flag as a number, if one is given. -/
def numberOf (flag : Flag) (value : Option Text) : Except Misuse (Option Int) :=
  match value with
  | some ['-', '-'] => .ok none
  | value =>
    let word := value.getD []
    match Text.toInt 10 word with
    | .ok n => .ok (some n)
    | .error _ => .error (.badNumber flag word)

def take (form : Form) (a : Arguments) : Flag × Option Text → Except Stop Arguments
  | (.help, _) => .error (.help form)
  | (.version, _) => .error .version
  | (.logLevel, value) => .ok { a with logLevel := some (textOf value) }
  | (.stories, value) => .ok { a with stories := some (textOf value) }
  | (.story, value) => .ok { a with story := some (textOf value) }
  | (.width, value) =>
    match numberOf .width value with
    | .ok n => .ok { a with width := some n }
    | .error e => .error (.misuse form e)
  | (.seed, value) =>
    match numberOf .seed value with
    | .ok n => .ok { a with seed := some n }
    | .error e => .error (.misuse form e)

/-! ## Reading -/

/-- The arguments so far, and words that mean nothing. -/
structure Read where
  arguments : Arguments := {}
  unknown : List Text := []

/-- Reads words by a form. `command` reads the words from a command on, where the form has
commands. -/
def read (form : Form) (command : Option (Read → List Text → Except Stop Read)) :
    List Word → Read → Except Stop Read
  | [], r => .ok r
  | .plain word :: words, r =>
    match command with
    | some command => command r (word :: words.map Word.text)
    | none => read form none words { r with unknown := r.unknown ++ [word] }
  | .separator :: words, r =>
    match command with
    | some command =>
      if words.isEmpty then .ok { r with unknown := r.unknown ++ [Word.separator.text] }
      else command r (Word.separator.text :: words.map Word.text)
    | none => read form none words { r with unknown := r.unknown ++ [Word.separator.text] }
  | .flag word none :: words, r =>
    read form command words { r with unknown := r.unknown ++ [word] }
  | .flag word (some mention) :: words, r =>
    match unfold form (word.length + 1) mention with
    | .error e => .error (.misuse form e)
    | .ok asked =>
      let go (flags : List (Flag × Option Text)) : Except Stop Read := do
        return ⟨← flags.foldlM (take form) r.arguments, r.unknown⟩
      match asked.waiting with
      | none =>
        match go asked.flags with
        | .error e => .error e
        | .ok r => read form command words r
      | some flag =>
        match words with
        | .plain value :: words =>
          match go (asked.flags ++ [(flag, some value)]) with
          | .error e => .error e
          | .ok r => read form command words r
        | _ => .error (.misuse form (.noValue flag))

/-- Reads the words from a command on. Flags of the command are set anew. -/
def readCommand (r : Read) : List Text → Except Stop Read
  | [] => .ok r
  | word :: words =>
    match ofName? word with
    | none => .error (.misuse .main (.badCommand word))
    | some c =>
      match classifyAll (.command c) words with
      | .error e => .error (.misuse (.command c) e)
      | .ok words => read (.command c) none words
        { r with arguments := { r.arguments with command := some c } }

def Arguments.ofWords (words : List Text) : Except Stop Arguments :=
  match classifyAll .main words with
  | .error e => .error (.misuse .main e)
  | .ok words => do
    let r ← read .main (some readCommand) words {}
    if r.unknown.isEmpty then return r.arguments
    else throw (.misuse .main (.unknown r.unknown))

end StoryBlanks.Command
