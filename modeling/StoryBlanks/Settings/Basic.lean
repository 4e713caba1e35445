import StoryBlanks.Files.Tree
import StoryBlanks.Journal
import StoryBlanks.Manifest
import StoryBlanks.Round
import StoryBlanks.Settings.Ini

/-!
# Settings

What a player can set: where the stories are, how they are shown, and what is noted. Every setting
comes from the environment if it is given there, else from the one INI file that is read, and else
it has its usual value.
-/
namespace StoryBlanks

structure Settings where
  directory : Text := "data/stories"
  manifest : Text := Manifest.usualName
  lineWidth : Int := Round.usualWidth
  promptFormat : Text := Round.usualFormat
  logLevel : Text := "WARNING"
  logStyle : Journal.Style := .simple
  deriving DecidableEq, Repr

/-- The settings of the environment. Those that are empty count as not given. -/
structure Settings.Environment where
  directory : Text := []
  manifest : Text := []
  lineWidth : Text := []
  logLevel : Text := []
  deriving DecidableEq, Repr

namespace Settings

inductive Failure where
  | refused (e : Refused)
  | file (path : Path) (e : Ini.ReadError)
  | value (e : Ini.ValueError)
  | numeral (e : Text.NumeralError)
  deriving DecidableEq, Repr

def Failure.message : Failure → Text
  | .refused e => e.message
  | .file path e => e.message path
  | .value e => e.message
  | .numeral e => e.message

/-- The directory of the stories as seen from the root of the installation. -/
def absoluteDirectory (s : Settings) (root : Path) : Path := root / Path.ofText s.directory

/-! ## Sources -/

def file (root : Path) : Path := root / Path.ofText "config/game.ini"

/-- The INI file that comes with the game and is read where there is no other. -/
def exampleFile (root : Path) : Path := root / Path.ofText "config/game.example.ini"

def chosenFile (root : Path) (t : Tree) : Except Refused (Option Path) := do
  if ← t.isThere (file root) then return some (file root)
  if ← t.isThere (exampleFile root) then return some (exampleFile root)
  return none

/-- The INI file at a path. A file that the system refuses to open counts as empty. -/
def readFile (t : Tree) (path : Path) : Except Failure Ini :=
  match t.read path with
  | .error _ => .ok Ini.empty
  | .ok bytes => (Ini.ofReading (Utf8.decodeStream bytes)).mapError (.file path)

def option (ini : Ini) (name option : Text) : Except Failure (Option Text) :=
  (ini.get? name option).mapError .value

def number (cs : Text) : Except Failure Int := (Text.toInt 10 cs).mapError .numeral

/-- Settings with those that an INI file gives. Prompt formats are taken as they are written. -/
def withFile (s : Settings) (ini : Ini) : Except Failure Settings := do
  let directory ← option ini "stories" "directory"
  let manifest ← option ini "stories" "manifest"
  let lineWidth ← match ← option ini "display" "line_width" with
    | some cs => some <$> number cs
    | none => pure none
  let promptFormat := ini.raw? "display" "prompt_format"
  let logLevel ← option ini "logging" "level"
  let logStyle ← option ini "logging" "format"
  return {
    directory := directory.getD s.directory
    manifest := manifest.getD s.manifest
    lineWidth := lineWidth.getD s.lineWidth
    promptFormat := promptFormat.getD s.promptFormat
    logLevel := (logLevel.map Text.toUpper).getD s.logLevel
    logStyle := (logStyle.bind fun cs => Journal.Style.ofName? (Text.toLower cs)).getD s.logStyle }

def withEnvironment (s : Settings) (e : Environment) : Except Failure Settings := do
  let lineWidth ← if e.lineWidth.isEmpty then pure s.lineWidth else number e.lineWidth
  return { s with
    directory := if e.directory.isEmpty then s.directory else e.directory
    manifest := if e.manifest.isEmpty then s.manifest else e.manifest
    lineWidth
    logLevel := if e.logLevel.isEmpty then s.logLevel else Text.toUpper e.logLevel }

def load (root : Path) (t : Tree) (e : Environment) : Except Failure Settings := do
  let settings ← match ← (chosenFile root t).mapError Failure.refused with
    | none => pure {}
    | some path => withFile {} (← readFile t path)
  settings.withEnvironment e

/-! ## Reports -/

/-- Where the settings come from, and the two of them that matter most. -/
structure Status where
  fileExists : Bool
  file : Path
  usingExample : Bool
  directory : Path
  lineWidth : Int
  deriving DecidableEq, Repr

def status (s : Settings) (root : Path) (t : Tree) : Except Refused Status := do
  let fileExists ← t.isThere (file root)
  let usingExample ← if fileExists then pure false else t.isThere (exampleFile root)
  return ⟨fileExists, file root, usingExample, s.absoluteDirectory root, s.lineWidth⟩

def rule (c : Char) : Text := List.replicate 60 c

def summary (s : Settings) (root : Path) (t : Tree) : Except Refused Text := do
  let status ← s.status root t
  let yesNo (b : Bool) : Text := if b then "True" else "False"
  let note : List Text :=
    if status.usingExample then ["NOTE: Using example config (copy to game.ini to customise)"]
    else []
  let lines : List Text :=
    [[], rule '=', "GAME CONFIGURATION", rule '=', "Config file: " ++ status.file.text,
      "File exists: " ++ yesNo status.fileExists] ++ note ++
    [rule '-', "Stories:     " ++ status.directory.text, "Manifest:    " ++ s.manifest,
      "Line width:  " ++ Text.ofInt status.lineWidth, "Log level:   " ++ s.logLevel, rule '=', []]
  return lines.flatMap (· ++ ['\n'])

end Settings
end StoryBlanks
