import StoryBlanks.Files.Path
import StoryBlanks.Text.Blank
import StoryBlanks.Text.Casing

/-!
# Titles

A story without a title of its own is called after its file.
-/
namespace StoryBlanks.Title

/-- Underscores and hyphens stand for spaces in file names. -/
def spaced (cs : Text) : Text := cs.map fun c => if c = '_' || c = '-' then ' ' else c

/-- The name of the file without its extension, in words and title case, or the bare name if no
word is left. -/
def ofPath (p : Path) : Text :=
  match Text.toTitle (Text.trim (spaced p.stem)) with
  | [] => p.name
  | title => title

end StoryBlanks.Title
