import StoryBlanks.Text.Basic

/-!
# Story templates

A template is plain text with blanks written as a label in braces. An opening brace starts a
blank; a second one before the closing brace starts it anew and leaves the first as literal text,
and one that is never closed is literal text too. A closing brace with no blank open is the only
thing that makes a template malformed.

`tokens` cuts a template into literal runs and blanks, `labels` keeps what the blanks ask for and
`fill` puts one response into each blank.
-/
namespace StoryBlanks.Template

/-- A piece of a template, with the positions `start ≤ i < stop` that it covers. -/
inductive Token where
  | run (start stop : Nat) (text : Text)
  | blank (start stop : Nat) (label : Text)
  deriving DecidableEq, Repr

namespace Token

def start : Token → Nat
  | run s _ _ => s
  | blank s _ _ => s

def stop : Token → Nat
  | run _ e _ => e
  | blank _ e _ => e

def width (t : Token) : Nat := t.stop - t.start

def label? : Token → Option Text
  | run .. => none
  | blank _ _ l => some l

def render : Token → Text
  | run _ _ t => t
  | blank _ _ l => '{' :: (l ++ ['}'])

end Token

/-- A closing brace that closes nothing, by its position. -/
structure Unmatched where
  position : Nat
  deriving DecidableEq, Repr

def Unmatched.message (e : Unmatched) : Text :=
  "unmatched '\x7d' at position " ++ Text.ofNat e.position

/-- The literal run gathered so far (newest character first), as a token unless it is empty. -/
def flush (start : Nat) (run : Text) : List Token :=
  if run.isEmpty then [] else [.run start (start + run.length) run.reverse]

/-- Reads on with a literal run that began at `start` and, if a blank is open, the label gathered
since its brace; both hold their newest character first. -/
def scan (start : Nat) (run : Text) : Option Text → Text → Except Unmatched (List Token)
  | none, [] => .ok (flush start run)
  | some l, [] => .ok (flush start (l ++ '{' :: run))
  | slot, c :: cs =>
    if c = '{' then
      match slot with
      | none => scan start run (some []) cs
      | some l => scan start (l ++ '{' :: run) (some []) cs
    else if c = '}' then
      match slot with
      | none => .error ⟨start + run.length⟩
      | some l =>
        let open_ := start + run.length
        let stop := open_ + l.length + 2
        match scan stop [] none cs with
        | .error e => .error e
        | .ok rest => .ok (flush start run ++ .blank open_ stop l.reverse :: rest)
    else
      match slot with
      | none => scan start (c :: run) none cs
      | some l => scan start run (some (c :: l)) cs

def tokens (t : Text) : Except Unmatched (List Token) := scan 0 [] none t

/-- The label of every blank, in order and once per occurrence. -/
def labels (t : Text) : Except Unmatched (List Text) :=
  (tokens t).map (List.filterMap Token.label?)

inductive FillError where
  | unmatched (e : Unmatched)
  | count (expected received : Nat)
  deriving DecidableEq, Repr

def FillError.message : FillError → Text
  | .unmatched e => e.message
  | .count expected received =>
    "template needs " ++ Text.ofNat expected ++ " responses, got " ++ Text.ofNat received

/-- The pieces with each blank replaced by the next response, if there are as many responses as
blanks. -/
def assemble : List Token → List Text → Option Text
  | [], [] => some []
  | [], _ :: _ => none
  | .run _ _ t :: ts, rs => (assemble ts rs).map (t ++ ·)
  | .blank .. :: _, [] => none
  | .blank .. :: ts, r :: rs => (assemble ts rs).map (r ++ ·)

/-- The template with each blank, braces included, replaced by its response. Responses are copied
as they are and never read as template text. -/
def fill (t : Text) (responses : List Text) : Except FillError Text :=
  match tokens t with
  | .error e => .error (.unmatched e)
  | .ok ts =>
    match assemble ts responses with
    | some filled => .ok filled
    | none => .error (.count (ts.filterMap Token.label?).length responses.length)

end StoryBlanks.Template
