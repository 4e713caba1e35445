import StoryBlanks.Journal
import StoryBlanks.Template
import StoryBlanks.Width
import StoryBlanks.Wrap

/-!
# Rounds

A round is played with one template: the player is asked for a word for every blank, in order, and
the filled story is printed. The answers that a player will give are a list that all turns of a
round draw from; a `Turn` tells what was shown on the way and which answers are left.
-/
namespace StoryBlanks

/-- What a player does when asked: gives a word, or breaks off. -/
inductive Answer where
  | word (text : Text)
  | quit
  deriving DecidableEq, Repr

structure Round where
  template : Text
  labels : List Text
  promptFormat : Text
  labels_eq : Template.labels template = .ok labels

namespace Round

/-- The usual prompt, in which the label of a blank takes the place of the word in braces. -/
def usualFormat : Text := "Enter a \x7blabel\x7d: "

def usualWidth : Nat := 70

/-- The part of a prompt format that stands for a label. -/
def slot : Text := "\x7blabel\x7d"

inductive Failure where
  | fill (e : Template.FillError)
  | width (e : Width.Invalid)
  /-- The player broke off. -/
  | quit
  /-- There was no answer left. -/
  | noAnswer

/-- The last two failures end a round without anything being wrong, and say nothing. -/
def Failure.message : Failure → Text
  | .fill e => e.message
  | .width e => e.message
  | .quit | .noAnswer => []

/-- What came of a turn: the prompts shown, the texts printed, the notes, the answers that are
left, and the result. -/
structure Turn (ε α : Type) where
  prompts : List Text := []
  printed : List Text := []
  notes : List Note := []
  left : List Answer
  result : Except ε α

namespace Turn

variable {ε ε' α β : Type}

def silent (left : List Answer) (m : Noted ε α) : Turn ε α :=
  { notes := m.notes, left, result := m.result }

def map (f : α → β) (t : Turn ε α) : Turn ε β := { t with result := t.result.map f }

def mapError (f : ε → ε') (t : Turn ε α) : Turn ε' α := { t with result := t.result.mapError f }

/-- A turn that comes after an operation that asks for nothing, and only if that succeeds. -/
def after (m : Noted ε α) (answers : List Answer) (f : α → Turn ε β) : Turn ε β :=
  match m.result with
  | .error e => { notes := m.notes, left := answers, result := .error e }
  | .ok a =>
    let t := f a
    { t with notes := m.notes ++ t.notes }

end Turn

def ofTemplate (template : Text) (promptFormat : Text := usualFormat) :
    Noted Template.Unmatched Round :=
  match h : Template.labels template with
  | .error e => ⟨.error e, []⟩
  | .ok labels =>
    ⟨.ok ⟨template, labels, promptFormat, h⟩,
      [.debug ("Round has " ++ Text.ofNat labels.length ++ " blank(s)")]⟩

def promptText (r : Round) (label : Text) : Text := Text.replace slot label r.promptFormat

/-- Asks for some labels, one after another, until an answer is missing. -/
def ask (r : Round) : List Text → List Answer → Turn Failure (List Text)
  | [], left => { left, result := .ok [] }
  | l :: _, [] => { prompts := [r.promptText l], left := [], result := .error .noAnswer }
  | l :: _, .quit :: left => { prompts := [r.promptText l], left, result := .error .quit }
  | l :: ls, .word w :: left =>
    let t := (ask r ls left).map (w :: ·)
    { t with prompts := r.promptText l :: t.prompts }

def collect (r : Round) (answers : List Answer) : Turn Failure (List Text) := r.ask r.labels answers

def fill (r : Round) (responses : List Text) : Noted Failure Text := do
  let story ← (Template.fill r.template responses).mapError Failure.fill
  Noted.note (.debug ("Filled " ++ Text.ofNat responses.length ++ " blank(s)"))
  return story

def wrap (text : Text) (width : Value) : Noted Failure Text := do
  let w ← (Width.ofValue width).mapError Failure.width
  let layout := Wrap.layout w.toNat text
  if layout.overflow ≠ 0 then
    Noted.note (.debug ("word_wrap: " ++ Text.ofNat layout.overflow ++
      " character(s) past width " ++ Text.ofNat w.toNat))
  return layout.text

def render (r : Round) (responses : List Text) (width : Value) : Noted Failure Text := do
  wrap (← r.fill responses) width

/-- The whole round. The width is looked at before anything is asked. -/
def play (r : Round) (width : Value) (answers : List Answer) : Turn Failure Text :=
  match Width.ofValue width with
  | .error e => { left := answers, result := .error (.width e) }
  | .ok _ =>
    let asked := r.collect answers
    match asked.result with
    | .error e => { asked with result := .error e }
    | .ok responses =>
      let story := r.render responses width
      match story.result with
      | .error e => { asked with notes := asked.notes ++ story.notes, result := .error e }
      | .ok text =>
        { asked with
          printed := [[], text]
          notes := asked.notes ++ story.notes
          result := .ok text }

/-! ## Several turns -/

/-- What can be done with a round, in any order. -/
inductive Step where
  | labels
  | promptText (label : Text)
  | collect
  | fill (responses : List Text)
  | render (responses : List Text) (width : Value)
  | play (width : Value)

inductive Reply where
  | text (t : Text)
  | texts (ts : List Text)
  deriving DecidableEq, Repr

def step (r : Round) (answers : List Answer) : Step → Turn Failure Reply
  | .labels => .silent answers (pure (.texts r.labels))
  | .promptText label => .silent answers (pure (.text (r.promptText label)))
  | .collect => (r.collect answers).map .texts
  | .fill responses => (Turn.silent answers (r.fill responses)).map .text
  | .render responses width => (Turn.silent answers (r.render responses width)).map .text
  | .play width => (r.play width answers).map .text

/-- The turns of several steps, each of which goes on with the answers left by the one before. -/
def run (r : Round) : List Answer → List Step → List (Turn Failure Reply)
  | _, [] => []
  | answers, s :: steps =>
    let t := r.step answers s
    t :: r.run t.left steps

end Round
end StoryBlanks
