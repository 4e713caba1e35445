import StoryBlanks.Command.Run

/-!
# The program

Takes a picture of the files that a command can need, and runs the command on it. A round is run
again whenever the player has given one more answer, and what it then writes beyond the last time
is shown.
-/
open StoryBlanks

namespace StoryBlanks.Main

def text (s : String) : Text := s.toList

def shown (t : Text) : String := String.ofList t

/-- The tree with what stands at a path on disk, and all below it. -/
partial def picture (t : Tree) (path : Path) : IO Tree := do
  let place := (← IO.currentDir) / shown path.text
  if ← place.isDir then
    let mut t := (t.makeDirectories path).1
    for entry in ← place.readDir do
      t ← picture t (path / Path.ofText (text entry.fileName))
    return t
  else if ← place.pathExists then
    return t.write path (← IO.FS.readBinFile place).toList
  else return t

def environment : IO Settings.Environment := do
  let get (name : String) : IO Text := return text ((← IO.getEnv name).getD "")
  return {
    directory := ← get "FIB_STORY_DIR"
    manifest := ← get "FIB_STORY_MANIFEST"
    lineWidth := ← get "FIB_LINE_WIDTH"
    logLevel := ← get "FIB_LOG_LEVEL" }

/-- The place with the files that a command with these arguments can need. -/
def withFiles (p : Command.Scene) (a : Command.Arguments) : IO Command.Scene := do
  let l := Command.library p a
  let mut t ← picture p.tree l.directory
  t ← picture t (l.directory / Path.ofText l.manifestName)
  if let some story := a.story then
    t ← picture t (l.directory / Path.ofText story)
  if let .ok (some m) := (l.manifest t).result then
    for e in m.entries do
      t ← picture t (l.directory / Path.ofText e.file)
  return { p with tree := t }

/-- Runs the program on the input read so far and goes on reading while that is too short. -/
partial def converse (p : Command.Scene) (words : List Text) (done : Nat) (input : Text) :
    IO Command.Written := do
  let w := Command.program p words input
  let stdout ← IO.getStdout
  stdout.putStr (shown (w.output.drop done))
  stdout.flush
  if w.unanswered then
    let line ← (← IO.getStdin).getLine
    if !line.isEmpty then return ← converse p words w.output.length (input ++ text line)
  return w

end StoryBlanks.Main

open StoryBlanks.Main in
def main (args : List String) : IO UInt32 := do
  let words := args.map text
  let root := Path.ofText (text (← IO.currentDir).toString)
  let mut t : Tree := { entries := [], here := root.names }
  t ← picture t (Settings.file root)
  t ← picture t (Settings.exampleFile root)
  match Settings.load root t (← environment) with
  | .error e =>
    IO.eprintln (shown e.message)
    return 1
  | .ok settings =>
    let mut p : Command.Scene := { root, tree := t, settings, chance := ← IO.rand 0 (Nat.pow 2 62) }
    if let .ok a := Command.Arguments.ofWords words then
      p ← withFiles p a
    let w ← converse p words 0 []
    IO.eprint (shown w.errors)
    match w.result with
    | .ok code => return code.toUInt32
    | .error e =>
      IO.eprintln (shown e.message)
      return 1
