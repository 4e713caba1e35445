import StoryBlanks.Text.Basic

/-!
# The forms of the command line

The words of the command line come in a main form, which may name a command, and a form for each
command. A form says which flags it knows, and has a text for its usage and one for help.
-/
namespace StoryBlanks

inductive Command where
  | play
  | list
  | check
  | config
  deriving DecidableEq, Repr

namespace Command

def name : Command → Text
  | .play => "play"
  | .list => "list"
  | .check => "check"
  | .config => "config"

def all : List Command := [.play, .list, .check, .config]

def ofName? (cs : Text) : Option Command := all.find? (·.name == cs)

/-- What a word with a hyphen in front may ask for. -/
inductive Flag where
  | help
  | version
  | logLevel
  | stories
  | story
  | width
  | seed
  deriving DecidableEq, Repr

def Flag.names : Flag → List Text
  | .help => ["-h", "--help"]
  | .version => ["--version"]
  | .logLevel => ["--log-level"]
  | .stories => ["--stories", "-s"]
  | .story => ["--story"]
  | .width => ["--width", "-w"]
  | .seed => ["--seed"]

def Flag.takesValue : Flag → Bool
  | .help | .version => false
  | _ => true

inductive Form where
  | main
  | command (c : Command)
  deriving DecidableEq, Repr

namespace Form

def flags : Form → List Flag
  | .main => [.help, .version, .logLevel]
  | .command .play => [.help, .stories, .story, .width, .seed]
  | .command .list => [.help, .stories]
  | .command .check => [.help, .stories]
  | .command .config => [.help]

def names (f : Form) : List (Text × Flag) :=
  f.flags.flatMap fun flag => flag.names.map (·, flag)

def program : Text := "fill-in-blank"

def version : Text := "0.1.0"

def name : Form → Text
  | .main => program
  | .command c => program ++ ' ' :: c.name

def lines (ls : List String) : Text := ls.flatMap (·.toList ++ ['\n'])

def usage : Form → Text
  | .main => lines [
    "usage: fill-in-blank [-h] [--version] [--log-level LOG_LEVEL]",
    "                     \x7bplay,list,check,config\x7d ..."]
  | .command .play => lines [
    "usage: fill-in-blank play [-h] [--stories STORIES] [--story STORY]",
    "                          [--width WIDTH] [--seed SEED]"]
  | .command .list => lines ["usage: fill-in-blank list [-h] [--stories STORIES]"]
  | .command .check => lines ["usage: fill-in-blank check [-h] [--stories STORIES]"]
  | .command .config => lines ["usage: fill-in-blank config [-h]"]

def storyHelp : List String := [
  "options:",
  "  -h, --help            show this help message and exit",
  "  --stories STORIES, -s STORIES",
  "                        Story directory (default: data/stories, or",
  "                        FIB_STORY_DIR env var)"]

def help (f : Form) : Text :=
  f.usage ++ '\n' :: match f with
  | .main => lines [
    "Fill In The Blank - a word game of random stories",
    "",
    "positional arguments:",
    "  \x7bplay,list,check,config\x7d",
    "                        Available commands",
    "    play                Play one round (default)",
    "    list                List the stories in rotation",
    "    check               Check every story for malformed blanks",
    "    config              Show the active configuration",
    "",
    "options:",
    "  -h, --help            show this help message and exit",
    "  --version             show program's version number and exit",
    "  --log-level LOG_LEVEL",
    "                        Log level (default: WARNING, or FIB_LOG_LEVEL env var)"]
  | .command .play =>
    lines ["Pick a story, ask for a word for every blank, and print the result.", ""] ++
    lines storyHelp ++
    lines [
    "  --story STORY         Play this story file (name inside the story directory)",
    "                        instead of a random one",
    "  --width WIDTH, -w WIDTH",
    "                        Maximum output line width (default: 70, or",
    "                        FIB_LINE_WIDTH env var)",
    "  --seed SEED           Seed for story selection, for a repeatable pick"]
  | .command .list =>
    lines ["List every story with its title and number of blanks.", ""] ++ lines storyHelp
  | .command .check =>
    lines ["Scan every story and exit with status 1 if any is malformed.", ""] ++ lines storyHelp
  | .command .config => lines ["options:", "  -h, --help  show this help message and exit"]

end Form
end Command
end StoryBlanks
