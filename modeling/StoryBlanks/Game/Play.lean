import StoryBlanks.Library
import StoryBlanks.Round

/-!
# Playing stories

A story is played by a round with its template: one that is at hand, or one that a library picks.
-/
namespace StoryBlanks.Game

open Round (Turn)

structure Options where
  width : Value := .int Round.usualWidth
  promptFormat : Text := Round.usualFormat

inductive Failure where
  | source (e : SourceFailure)
  | round (e : Round.Failure)

def Failure.message : Failure → Text
  | .source e => e.message
  | .round e => e.message

/-- A template that is not well formed cannot be filled. -/
def Failure.unmatched (e : Template.Unmatched) : Failure := .round (.fill (.unmatched e))

def roundFor (s : Story) (promptFormat : Text) : Noted Failure Round := do
  Noted.note (.info ("Playing " ++ s.title.quoted ++ " (" ++ s.path.name ++ ")"))
  (Round.ofTemplate s.template promptFormat).mapError Failure.unmatched

def play (s : Story) (o : Options) (answers : List Answer) : Turn Failure Text :=
  Turn.after (roundFor s o.promptFormat) answers fun r => (r.play o.width answers).mapError .round

def playAt (l : Library) (t : Tree) (path : Path) (o : Options) (answers : List Answer) :
    Turn Failure Text :=
  Turn.after (liftM ((l.load t path none).mapError Failure.source)) answers (play · o answers)

def playPicked (l : Library) (t : Tree) (g : Generator) (o : Options) (answers : List Answer) :
    Turn Failure Text × Generator :=
  let (picked, g) := l.pick t g
  (Turn.after (picked.mapError .source) answers (play · o answers), g)

end StoryBlanks.Game
