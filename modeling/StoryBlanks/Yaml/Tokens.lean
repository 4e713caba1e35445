import StoryBlanks.Yaml.Scalar
import StoryBlanks.Yaml.Token

/-!
# The tokens of a text

A text is cut into tokens from left to right. That something was a key shows only at the colon
behind it: every place where a key may begin is remembered until the line ends, and a key token is
put in there later. Indentation opens and closes block collections in the same way.
-/
namespace StoryBlanks.Yaml

namespace Scan

def word : Scan Text := do
  let name ← takeWhile isWordChar
  require !name.isEmpty
  return name

/-! ## Tags -/

/-- A tag handle: an exclamation mark, or a word between two of them. -/
def handle : Scan Text := do
  require ((← peek) = '!')
  if (← peek 1) = ' ' then
    skip
    return ['!']
  skip
  let name ← takeWhile isWordChar
  require ((← peek) = '!')
  skip
  return '!' :: (name ++ ['!'])

def isUriChar (c : Char) : Bool :=
  c.isAlphanum || ("-;/?:@&=+$,_.!~*'()[]" : Text).contains c

def uriBytes : Nat → Scan Utf8.Bytes
  | 0 => return []
  | n + 1 => do
    if (← peek) = '%' then
      skip
      let b ← hexNumber 2
      skip 2
      return UInt8.ofNat b :: (← uriBytes n)
    else return []

def uriParts : Nat → Scan Text
  | 0 => return []
  | n + 1 => do
    let run ← takeWhile isUriChar
    if (← peek) = '%' then
      match Utf8.decode (← uriBytes (← left)) with
      | .ok cs => return run ++ cs ++ (← uriParts n)
      | .error _ => malformed
    else return run

def uri : Scan Text := do
  let cs ← uriParts (← left)
  require !cs.isEmpty
  return cs

/-- Whether the word that begins here has a second exclamation mark. -/
def hasHandle : Scan Bool := do
  let between := ((← get).rest.drop 1).takeWhile fun c => !endsWord c && c ≠ '!'
  return (← peek (between.length + 1)) = '!'

def tag : Scan Token := do
  let next ← peek 1
  let token ←
    if next = '<' then do
      skip 2
      let rest ← uri
      require ((← peek) = '>')
      skip
      pure (.tag none rest)
    else if isGap next then do
      skip
      pure (.tag none ['!'])
    else if ← hasHandle then do
      let h ← handle
      pure (.tag (some h) (← uri))
    else do
      skip
      pure (.tag (some ['!']) (← uri))
  require (endsWord (← peek))
  return token

/-! ## Directives -/

def decimal : Scan Int := do
  let digits ← takeWhile Char.isDigit
  require !digits.isEmpty
  match Text.toInt 10 digits with
  | .ok n => return n
  | .error e => throw (.numeral e)

def versionNumber : Scan Token := do
  dropWhile (· = ' ')
  let major ← decimal
  require ((← peek) = '.')
  skip
  let _ ← decimal
  require (endsWord (← peek))
  return .version major

def tagDirective : Scan Token := do
  dropWhile (· = ' ')
  let h ← handle
  require ((← peek) = ' ')
  dropWhile (· = ' ')
  let start ← uri
  require (endsWord (← peek))
  return .tagHandle h start

def directive : Scan Token := do
  skip
  let name ← word
  require (endsWord (← peek))
  let token ←
    if name == "YAML".toList then versionNumber
    else if name == "TAG".toList then tagDirective
    else do
      dropWhile (!endsLine ·)
      pure .otherDirective
  lineRest
  return token

/-! ## Anchors and blanks -/

def anchorName : Scan Text := do
  skip
  let name ← word
  let c ← peek
  require (isGap c || ("?:,]\x7d%@`" : Text).contains c)
  return name

/-- Blanks, comments and line breaks before the next token, and whether a line ended there. -/
def gap : Nat → Scan Bool
  | 0 => return false
  | n + 1 => do
    if (← get).index = 0 && (← peek) = '\ufeff' then skip
    dropWhile (· = ' ')
    comment
    if (← lineBreak).isEmpty then return false
    let _ ← gap n
    return true

end Scan

/-! ## Structure -/

/-- A place where a key may have begun: the number of tokens before it, and whether nothing but a
key may stand there. -/
structure KeyPlace where
  position : Nat
  required : Bool
  index : Nat
  line : Nat
  column : Nat

/-- A key must have its colon on the same line and within so many characters. -/
def maxKey : Nat := 1024

/-- Where the reading of a text stands.

* `newest`: the tokens so far, newest first, and `count` their number;
* `place`: where a key may have begun in the innermost flow collection, and `outer`: in those
  around it and, last, in block context;
* `blocks`: the columns of the open block collections, innermost first;
* `keyAllowed`: whether a key may begin here. -/
structure Lexer where
  cursor : Cursor
  newest : List Token := []
  count : Nat := 0
  place : Option KeyPlace := none
  outer : List (Option KeyPlace) := []
  blocks : List Nat := []
  keyAllowed : Bool := true

abbrev Lexing := StateT Lexer (Except Fault)

namespace Lexer

def flow (s : Lexer) : Bool := !s.outer.isEmpty

def push (s : Lexer) (t : Token) : Lexer :=
  { s with newest := t :: s.newest, count := s.count + 1 }

def insert (s : Lexer) (position : Nat) (ts : List Token) : Lexer :=
  let later := s.count - position
  { s with
    newest := s.newest.take later ++ ts.reverse ++ s.newest.drop later
    count := s.count + ts.length }

def opens (s : Lexer) (column : Nat) : Bool :=
  match s.blocks with
  | [] => true
  | b :: _ => b < column

/-- Ends the block collections further to the right than a column. -/
def closeBlocks (s : Lexer) (stays : Nat → Bool) : Lexer :=
  if s.flow then s
  else
    let closed := s.blocks.takeWhile (!stays ·)
    { s with
      newest := closed.map (fun _ => .blockEnd) ++ s.newest
      count := s.count + closed.length
      blocks := s.blocks.drop closed.length }

end Lexer

namespace Lexing

def scan {α : Type} (m : Scan α) : Lexing α := fun s => do
  let (a, cursor) ← m s.cursor
  return (a, { s with cursor })

def require (condition : Bool) : Lexing Unit := scan (Scan.require condition)

def emit (t : Token) : Lexing Unit := modify (·.push t)

def allowKey (b : Bool) : Lexing Unit := modify ({ · with keyAllowed := b })

/-- Forgets the place where a key may have begun, which must not have been the only choice. -/
def dropPlace : Lexing Unit := do
  require !((← get).place.any (·.required))
  modify ({ · with place := none })

/-- Remembers that a key may begin here. -/
def savePlace : Lexing Unit := do
  let s ← get
  if s.keyAllowed then
    dropPlace
    let required := !s.flow && s.blocks.head? == some s.cursor.column
    modify ({ · with
      place := some ⟨s.count, required, s.cursor.index, s.cursor.line, s.cursor.column⟩ })

/-- A place where a key may still have begun, as seen from the cursor. -/
def fresh? (c : Cursor) : Option KeyPlace → Lexing (Option KeyPlace)
  | none => return none
  | some p => do
    if p.line = c.line && c.index - p.index ≤ maxKey then return some p
    require !p.required
    return none

def dropStale : Lexing Unit := do
  let s ← get
  let place ← fresh? s.cursor s.place
  let outer ← s.outer.mapM (fresh? s.cursor)
  modify ({ · with place, outer })

def openBlock (t : Token) : Lexing Unit := do
  let s ← get
  if s.opens s.cursor.column then
    set { s.push t with blocks := s.cursor.column :: s.blocks }

def leaveBlocks : Lexing Unit := do
  modify (·.closeBlocks fun _ => false)
  dropPlace
  allowKey false

def documentMark (t : Token) : Lexing Unit := do
  leaveBlocks
  scan (Scan.skip 3)
  emit t

def openFlow (t : Token) : Lexing Unit := do
  savePlace
  modify fun s => { s with place := none, outer := s.place :: s.outer, keyAllowed := true }
  scan Scan.skip
  emit t

def closeFlow (t : Token) : Lexing Unit := do
  dropPlace
  match (← get).outer with
  | [] => require false
  | place :: outer => modify ({ · with place, outer, keyAllowed := false })
  scan Scan.skip
  emit t

def comma : Lexing Unit := do
  allowKey true
  dropPlace
  scan Scan.skip
  emit .comma

def entry : Lexing Unit := do
  let s ← get
  if !s.flow then
    require s.keyAllowed
    openBlock .blockSequence
  allowKey true
  dropPlace
  scan Scan.skip
  emit .entry

def explicitKey : Lexing Unit := do
  let s ← get
  if !s.flow then
    require s.keyAllowed
    openBlock .blockMapping
  allowKey !s.flow
  dropPlace
  scan Scan.skip
  emit .key

def value : Lexing Unit := do
  let s ← get
  match s.place with
  | some p =>
    let opens := !s.flow && s.opens p.column
    set { s.insert p.position (if opens then [.blockMapping, .key] else [.key]) with
      place := none
      blocks := if opens then p.column :: s.blocks else s.blocks
      keyAllowed := false }
  | none =>
    if !s.flow then
      require s.keyAllowed
      openBlock .blockMapping
    allowKey !s.flow
    dropPlace
  scan Scan.skip
  emit .value

def keyLike (m : Scan Token) : Lexing Unit := do
  savePlace
  allowKey false
  emit (← scan m)

/-- The column from which on lines belong to the innermost block collection. -/
def margin : Lexing Nat := do
  match (← get).blocks with
  | [] => return 0
  | b :: _ => return b + 1

def plain : Lexing Unit := do
  savePlace
  let (text, crossed) ← scan (Scan.plain (← get).flow (← margin))
  allowKey crossed
  emit (.scalar (.text text) true)

def block : Lexing Unit := do
  allowKey true
  dropPlace
  emit (.scalar (.text (← scan (Scan.block (← margin)))) false)

/-- The characters that no plain scalar begins with, unless some of them are followed by another
word character. -/
def indicators : Text := "-?:,[]\x7b\x7d#&*!|>'\"%@`"

def beforeGap : Lexing Bool := return isGap (← scan (Scan.peek 1))

/-- Reads a plain scalar that begins with a given character. -/
def plainFrom (c : Char) : Lexing Unit := do
  if isGap c || indicators.contains c then
    let flow := (← get).flow
    require (!(← beforeGap) && (c = '-' || (!flow && (c = '?' || c = ':'))))
  plain

/-- Whether an indicator stands alone here, as it must in block context. -/
def standsAlone : Lexing Bool := do
  if (← get).flow then return true else beforeGap

def token : Lexing Bool := do
  if ← scan (do Scan.gap ((← Scan.left) + 1)) then
    modify fun s => { s with keyAllowed := s.keyAllowed || !s.flow }
  dropStale
  let column := (← get).cursor.column
  modify (·.closeBlocks (· ≤ column))
  let c ← scan Scan.peek
  let flow := (← get).flow
  match c with
  | '\x00' =>
    leaveBlocks
    emit .finish
    return false
  | '[' => openFlow .sequenceOpen
  | '\x7b' => openFlow .mappingOpen
  | ']' => closeFlow .sequenceClose
  | '\x7d' => closeFlow .mappingClose
  | ',' => comma
  | '*' => keyLike (return .reference (← Scan.anchorName))
  | '&' => keyLike (return .anchor (← Scan.anchorName))
  | '!' => keyLike Scan.tag
  | '\'' => keyLike (return .scalar (← Scan.quoted c) false)
  | '"' => keyLike (return .scalar (← Scan.quoted c) false)
  | '%' =>
    if column = 0 then
      leaveBlocks
      emit (← scan Scan.directive)
    else plainFrom c
  | '-' =>
    if ← (if column = 0 then scan (Scan.atMark ["---"]) else pure false) then
      documentMark .documentStart
    else if ← beforeGap then entry
    else plainFrom c
  | '.' =>
    if ← (if column = 0 then scan (Scan.atMark ["..."]) else pure false) then
      documentMark .documentEnd
    else plainFrom c
  | '?' => if ← standsAlone then explicitKey else plainFrom c
  | ':' => if ← standsAlone then value else plainFrom c
  | '|' => if flow then plainFrom c else block
  | '>' => if flow then plainFrom c else block
  | _ => plainFrom c
  return true

end Lexing

/-- How many tokens are settled: no key can still be put in before or between them. -/
def Lexer.settled (s : Lexer) : Nat :=
  ((s.place :: s.outer).filterMap (·.map KeyPlace.position)).foldl min s.count

/-- The tokens of a text as far as they can be read, and the fault that ended them early. -/
structure Tokens where
  list : List Token
  fault : Fault

/-- Reads on. A fault is met by whoever asks for a token that is not settled before it. -/
def Tokens.readOn (s : Lexer) (settled : Nat) : Nat → Tokens
  | 0 => ⟨s.newest.reverse, .malformed⟩
  | n + 1 =>
    match Lexing.dropStale s with
    | .error fault => ⟨s.newest.reverse.take settled, fault⟩
    | .ok (_, s) =>
      match Lexing.token s with
      | .error fault => ⟨s.newest.reverse.take s.settled, fault⟩
      | .ok (false, s) => ⟨s.newest.reverse, .malformed⟩
      | .ok (true, next) => Tokens.readOn next s.settled n

def Tokens.ofSource (source : Source) : Tokens :=
  Tokens.readOn { cursor := { rest := source.text, beyond := source.beyond } } 0
    (source.text.length + 1)

end StoryBlanks.Yaml
