import StoryBlanks.Game.Play

/-!
# Sessions with a library

A session takes one library through several steps while the files may change in between. Only a
pick moves the generator.
-/
namespace StoryBlanks.Game

open Round (Turn)

inductive Step where
  | directory
  | manifest
  | rotation
  | load (path : Path) (withManifest : Bool)
  | loadAll
  | pick
  | pickTemplate
  | picks (count : Nat)
  | play (path : Path) (options : Options) (answers : List Answer)
  | playPicked (options : Options) (answers : List Answer)
  | write (path : Path) (content : Utf8.Bytes)
  | remove (path : Path)

inductive Reply where
  | nothing
  | path (p : Path)
  | paths (ps : List Path)
  | manifest (m : Option Manifest)
  | story (s : Story)
  | stories (ss : List Story)
  | text (t : Text)
  | names (ts : List Text)

structure Session where
  tree : Tree
  generator : Generator

namespace Session

def look {α : Type} (s : Session) (m : Noted SourceFailure α) (reply : α → Reply) :
    Turn Failure Reply × Session :=
  (Turn.silent [] (reply <$> m.mapError .source), s)

def draw {α : Type} (s : Session) (m : Noted SourceFailure α × Generator) (reply : α → Reply) :
    Turn Failure Reply × Session :=
  (Turn.silent [] (reply <$> m.1.mapError .source), { s with generator := m.2 })

def change (s : Session) (t : Tree) : Turn Failure Reply × Session :=
  (Turn.silent [] (pure .nothing), { s with tree := t })

/-- The names of several picked stories. The first failure ends the picking. -/
def pickNames (l : Library) (t : Tree) :
    Nat → Generator → Noted SourceFailure (List Text) × Generator
  | 0, g => (pure [], g)
  | n + 1, g =>
    let (first, g) := l.pick t g
    match first.result with
    | .error e => (⟨.error e, first.notes⟩, g)
    | .ok story =>
      let (rest, g) := pickNames l t n g
      (first.andThen fun _ => rest.andThen fun names => pure (story.path.name :: names), g)

def step (l : Library) (s : Session) : Step → Turn Failure Reply × Session
  | .directory => s.look (pure l.directory) .path
  | .manifest => s.look (l.manifest s.tree) .manifest
  | .rotation => s.look (l.rotation s.tree) .paths
  | .load path false => s.look (liftM (l.load s.tree path none)) .story
  | .load path true => s.look (do l.load s.tree path (← l.manifest s.tree)) .story
  | .loadAll => s.look (l.loadAll s.tree) .stories
  | .pick => s.draw (l.pick s.tree s.generator) .story
  | .pickTemplate => s.draw (l.pick s.tree s.generator) (.text ·.template)
  | .picks n => s.draw (pickNames l s.tree n s.generator) .names
  | .play path o answers => ((playAt l s.tree path o answers).map .text, s)
  | .playPicked o answers =>
    let (t, g) := playPicked l s.tree s.generator o answers
    (t.map .text, { s with generator := g })
  | .write path content => s.change (s.tree.write path content)
  | .remove path => s.change (s.tree.remove path)

/-- The turns of several steps, and the session afterwards. -/
def run (l : Library) (s : Session) : List Step → List (Turn Failure Reply) × Session
  | [] => ([], s)
  | next :: steps =>
    let (t, s) := step l s next
    let (ts, s) := run l s steps
    (t :: ts, s)

end Session
end StoryBlanks.Game
