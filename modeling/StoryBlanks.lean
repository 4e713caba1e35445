import StoryBlanks.Command.Run
import StoryBlanks.Game.Session
import StoryBlanks.Main
import StoryBlanks.Settings.Session
import StoryBlanks.Proofs.Template.Normal
import StoryBlanks.Proofs.Text.Lines
import StoryBlanks.Proofs.Template.Nesting
import StoryBlanks.Proofs.Wrap.Laying
import StoryBlanks.Proofs.Wrap.Lines
import StoryBlanks.Proofs.Wrap.Greedy
import StoryBlanks.Proofs.Files.Reading
import StoryBlanks.Proofs.Manifest.Entries
import StoryBlanks.Proofs.Library.Rotation
import StoryBlanks.Proofs.Journal.Noted
import StoryBlanks.Proofs.Library.Loading
import StoryBlanks.Proofs.Text.Stream
import StoryBlanks.Proofs.Library.Titles
import StoryBlanks.Proofs.Round.Playing
import StoryBlanks.Proofs.Game.Play
import StoryBlanks.Proofs.Command.Checking
import StoryBlanks.Proofs.Manifest.Failing
import StoryBlanks.Proofs.Library.Failing
import StoryBlanks.Proofs.Game.Drawing
import StoryBlanks.Proofs.Round.Running
import StoryBlanks.Proofs.Settings.Restoring
import StoryBlanks.Proofs.Wrap.LineByLine
import StoryBlanks.Proofs.Library.Unread
import StoryBlanks.Proofs.Output
import StoryBlanks.Proofs.Command.Failing
import StoryBlanks.Proofs.Command.Levels
import StoryBlanks.Proofs.Template.Unmatched
import StoryBlanks.Proofs.Template.Pairs
import StoryBlanks.Proofs.Template.Filling
import StoryBlanks.Proofs.Wrap.Settled
import StoryBlanks.Proofs.Wrap.Resumed
import StoryBlanks.Proofs.Game.Picking
import StoryBlanks.Proofs.Files.Listing
import StoryBlanks.Proofs.Library.Listing
import StoryBlanks.Proofs.Manifest.Schema
import StoryBlanks.Proofs.Text.Utf8
import StoryBlanks.Proofs.Text.Replacing
import StoryBlanks.Proofs.Text.Newline
import StoryBlanks.Proofs.Files.Walking
import StoryBlanks.Proofs.Files.Writing
import StoryBlanks.Proofs.Library.Verbatim
import StoryBlanks.Proofs.Settings.Ini
import StoryBlanks.Proofs.Settings.Sources
import StoryBlanks.Proofs.Settings.Masking
import StoryBlanks.Proofs.Command.Reports
import StoryBlanks.Proofs.Round.Prompting
import StoryBlanks.Proofs.Wrap.Overflow
import StoryBlanks.Proofs.Text.Words
import StoryBlanks.Proofs.Library.Naming
