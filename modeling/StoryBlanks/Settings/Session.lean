import StoryBlanks.Settings.Basic

/-!
# Sessions with settings

The current settings are loaded anew when asked for, and for a while they can be pointed at another
story directory. Leaving that directory restores the one before, whatever was loaded in between.
-/
namespace StoryBlanks.Settings

inductive Step where
  | reload
  | current
  | status
  | summary
  | enter (directory : Path)
  | leave
  | environment (e : Environment)
  | write (path : Path) (content : Utf8.Bytes)
  | remove (path : Path)

inductive Reply where
  | nothing
  | settings (s : Settings)
  | status (s : Status)
  | text (t : Text)
  | path (p : Path)

/-- What a session can change. `saved` holds the directories to go back to, the latest first. -/
structure Session where
  tree : Tree
  environment : Environment
  current : Settings := {}
  saved : List Text := []

namespace Session

/-- The session with other settings, or as it was if there are none. -/
def reload (s : Session) (root : Path) : Except Failure Reply × Session :=
  match Settings.load root s.tree s.environment with
  | .ok settings => (.ok (.settings settings), { s with current := settings })
  | .error e => (.error e, s)

def enter (s : Session) (directory : Path) : Session :=
  { s with
    current := { s.current with directory := directory.text }
    saved := s.current.directory :: s.saved }

def leave (s : Session) : Session :=
  match s.saved with
  | [] => s
  | directory :: saved => { s with current := { s.current with directory }, saved }

def step (root : Path) (s : Session) : Step → Except Failure Reply × Session
  | .reload => s.reload root
  | .current => (.ok (.settings s.current), s)
  | .status => (((s.current.status root s.tree).map Reply.status).mapError .refused, s)
  | .summary => (((s.current.summary root s.tree).map Reply.text).mapError .refused, s)
  | .enter directory => (.ok (.path directory), s.enter directory)
  | .leave => (.ok .nothing, s.leave)
  | .environment e => (.ok .nothing, { s with environment := e })
  | .write path content => (.ok .nothing, { s with tree := s.tree.write path content })
  | .remove path => (.ok .nothing, { s with tree := s.tree.remove path })

def run (root : Path) (s : Session) : List Step → List (Except Failure Reply) × Session
  | [] => ([], s)
  | next :: steps =>
    let (reply, s) := step root s next
    let (replies, s) := run root s steps
    (reply :: replies, s)

end Session
end StoryBlanks.Settings
