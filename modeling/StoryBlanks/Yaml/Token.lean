import StoryBlanks.Text.Codes

/-!
# Tokens

The pieces that a YAML document is made of. Where block collections begin and end is told by the
indentation; their tokens stand for nothing that is written.
-/
namespace StoryBlanks.Yaml

inductive Token where
  /-- The version that a document asks for. -/
  | version (major : Int)
  /-- A short form for the beginning of tags. -/
  | tagHandle (handle start : Text)
  | otherDirective
  | documentStart
  | documentEnd
  | sequenceOpen
  | sequenceClose
  | mappingOpen
  | mappingClose
  | comma
  | blockSequence
  | blockMapping
  | blockEnd
  | entry
  | key
  | value
  | anchor (name : Text)
  | reference (name : Text)
  /-- A tag, by its handle and the rest of it, or as a whole. -/
  | tag (handle : Option Text) (rest : Text)
  | scalar (text : Text.Spelling) (plain : Bool)
  | finish
  deriving DecidableEq, Repr

end StoryBlanks.Yaml
