import StoryBlanks.Proofs.Command.Playing
import StoryBlanks.Proofs.Library.Failing
import StoryBlanks.Proofs.Library.Unread
import StoryBlanks.Proofs.Output

/-!
# What the program makes of failures

A command that works on stories reads all that it needs before it writes anything. Main statement:
if something cannot be read, the command writes nothing but a complaint and ends with the code one,
apart from the failures that get out of it. Those are the bare failures of the library, of which a
play reports some, a seed that is asked for and not given, and a row of a list that the output
refuses.
-/
namespace StoryBlanks

namespace Command

open Result

/-! ## What is needed and what gets out -/

def Picks (a : Arguments) : Prop := a.story = none ∨ a.story = some []

variable {p : Scene} {a : Arguments} {answers : List Answer} {seed : Int} {e : SourceFailure}
  {f : Failure}

theorem survey_of_ok {report : List Story → Text × Except Failure Nat} {ss : List Story}
    (h : ((library p a).loadAll p.tree).result = .ok ss) :
    (survey p a answers report).result = (report ss).2 := by
  simp only [survey, h]

def noDirectory : Scene :=
  { root := Path.ofText ['/']
    tree := { entries := [([['s']], .file [])] }
    settings := { directory := ['s'] } }

def spoilt : Scene :=
  { root := Path.ofText ['/'], tree := Library.spoilt, settings := { directory := ['s'] } }

end Command
end StoryBlanks
