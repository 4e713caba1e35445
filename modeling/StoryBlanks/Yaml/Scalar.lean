import StoryBlanks.Yaml.Cursor

/-!
# Scalars

The three ways to write a text in YAML: plain, between quotes, and as a block of lines. In the
first two a single line break between words reads as a space, and of more than one the first is
dropped; a folded block does the same for lines that are not indented further.
-/
namespace StoryBlanks.Yaml.Scan

def folded (first : Text) (more : List Text) : Text :=
  (if first ≠ ['\n'] then first else if more.isEmpty then [' '] else []) ++ more.flatten

/-! ## Plain scalars -/

/-- Whether a plain scalar ends before a character, which may depend on the one behind it. -/
def endsPlain (flow : Bool) (c next : Char) : Bool :=
  isGap c || (c = ':' && (isGap next || (flow && [',', '[', ']', '\x7b', '\x7d'].contains next))) ||
    (flow && [',', '?', '[', ']', '\x7b', '\x7d'].contains c)

/-- How much of a text is the part of a plain scalar up to the next blank. -/
def plainLength (flow : Bool) : Text → Nat
  | [] => 0
  | c :: cs => if endsPlain flow c (cs.headD '\x00') then 0 else plainLength flow cs + 1

/-- The part of a plain scalar up to the next blank. Where a colon ends it, what follows the colon
is looked at. -/
def plainPart (flow : Bool) : Scan Text := do
  let rest := (← get).rest
  let length := plainLength flow rest
  if (← peek length) = ':' then
    let _ ← peek (length + 1)
  return rest.take length

/-- The breaks of empty lines inside a plain scalar, unless the document ends there. -/
def plainBreaks : Nat → Scan (Option (List Text))
  | 0 => return some []
  | n + 1 => do
    dropWhile (· = ' ')
    if isBreak (← peek) then
      let b ← lineBreak
      if ← atDocumentMark then return none
      return (← plainBreaks n).map (b :: ·)
    else return some []

/-- What stands between two parts of a plain scalar, empty if it ends here, and whether a line
ended there. -/
def plainGap : Scan (Text × Bool) := do
  let spaces ← takeWhile (· = ' ')
  if isBreak (← peek) then
    let b ← lineBreak
    if ← atDocumentMark then return ([], true)
    match ← plainBreaks (← left) with
    | none => return ([], true)
    | some bs => return (folded b bs, true)
  else return (spaces, false)

/-- The parts of a plain scalar with what stands between them, and whether it ended with its
line. -/
def plainParts (flow : Bool) (margin : Nat) : Nat → Text → Bool → Scan (Text × Bool)
  | 0, _, crossed => return ([], crossed)
  | n + 1, gap, crossed => do
    let part ← plainPart flow
    if part.isEmpty then return ([], crossed)
    skip part.length
    let (next, crossed) ← plainGap
    if next.isEmpty || (← peek) = '#' || (!flow && (← column) < margin) then
      return (gap ++ part, crossed)
    let (rest, crossed) ← plainParts flow margin n next crossed
    return (gap ++ part ++ rest, crossed)

/-- A plain scalar, whose lines in block context start at a margin, and whether it ended with its
line. -/
def plain (flow : Bool) (margin : Nat) : Scan (Text × Bool) := do
  plainParts flow margin (← left) [] false

/-! ## Quoted scalars -/

def escapes : List (Char × Char) := [
  ('0', '\x00'), ('a', '\x07'), ('b', '\x08'), ('t', '\t'), ('\t', '\t'), ('n', '\n'),
  ('v', '\x0b'), ('f', '\x0c'), ('r', '\r'), ('e', '\x1b'), (' ', ' '), ('"', '"'), ('\\', '\\'),
  ('/', '/'), ('N', '\x85'), ('_', '\xa0'), ('L', '\u2028'), ('P', '\u2029')]

/-- How many hexadecimal digits follow a character after a backslash. -/
def escapeWidths : List (Char × Nat) := [('x', 2), ('u', 4), ('U', 8)]

def hexNumber (width : Nat) : Scan Nat := do
  let digits := ((← get).rest.take width).takeWhile isHexDigit
  if digits.length < width then
    require (isHexDigit (← peek digits.length))
  return hexValue digits

/-- The code point written by so many hexadecimal digits. -/
def codePoint (width : Nat) : Scan Nat := do
  let code ← hexNumber width
  if 0x10FFFF < code then throw (.noCharacter code)
  skip width
  return code

def quotedBreaks : Nat → Scan (List Text)
  | 0 => return []
  | n + 1 => do
    require !(← atDocumentMark)
    dropWhile isSpaceOrTab
    if isBreak (← peek) then
      let b ← lineBreak
      return b :: (← quotedBreaks n)
    else return []

def escape : Scan (List Nat) := do
  let c ← peek
  match escapes.lookup c, escapeWidths.lookup c with
  | some x, _ =>
    skip
    return [x.toNat]
  | none, some width =>
    skip
    return [← codePoint width]
  | none, none =>
    require (isBreak c)
    let _ ← lineBreak
    return Text.codes (← quotedBreaks (← left)).flatten

/-- Code points between quotes up to the next blank or the closing quote. -/
def quotedPart (double : Bool) : Nat → Scan (List Nat)
  | 0 => return []
  | n + 1 => do
    let run ← takeWhile fun c => !isGap c && c ≠ '\'' && c ≠ '"' && c ≠ '\\'
    let c ← peek
    let twice ← if !double && c = '\'' then (· == '\'') <$> peek 1 else pure false
    if twice then
      skip 2
      return Text.codes run ++ c.toNat :: (← quotedPart double n)
    else if (double && c = '\'') || (!double && (c = '"' || c = '\\')) then
      skip
      return Text.codes run ++ c.toNat :: (← quotedPart double n)
    else if double && c = '\\' then
      skip
      let x ← escape
      return Text.codes run ++ x ++ (← quotedPart double n)
    else return Text.codes run

def quotedGap : Scan Text := do
  let blanks ← takeWhile isSpaceOrTab
  let c ← peek
  require (c ≠ '\x00')
  if isBreak c then
    let b ← lineBreak
    return folded b (← quotedBreaks (← left))
  else return blanks

/-- The rest of a quoted scalar from a blank or its closing quote on. -/
def quotedRest (double : Bool) (quote : Char) : Nat → Scan (List Nat)
  | 0 => malformed
  | n + 1 => do
    if (← peek) = quote then
      skip
      return []
    let gap ← quotedGap
    let part ← quotedPart double (← left)
    return Text.codes gap ++ part ++ (← quotedRest double quote n)

def quoted (quote : Char) : Scan Text.Spelling := do
  let double := quote = '"'
  skip
  let part ← quotedPart double (← left)
  return .ofCodes (part ++ (← quotedRest double quote ((← left) + 1)))

/-! ## Block scalars -/

/-- What happens to the line breaks at the end of a block. -/
inductive Chomping where
  | clip
  | strip
  | keep
  deriving DecidableEq

def chomping? : Scan (Option Chomping) := do
  match ← peek with
  | '+' =>
    skip
    return some .keep
  | '-' =>
    skip
    return some .strip
  | _ => return none

def indentation? : Scan (Option Nat) := do
  let c ← peek
  if c.isDigit then
    require (c ≠ '0')
    skip
    return some (c.toNat - '0'.toNat)
  else return none

/-- The two marks that may follow the first character of a block, in either order. -/
def blockHeader : Scan (Chomping × Option Nat) := do
  let header ← match ← chomping? with
    | some chomping => pure (chomping, ← indentation?)
    | none =>
      match ← indentation? with
      | some n => pure ((← chomping?).getD .clip, some n)
      | none => pure (.clip, none)
  require (endsWord (← peek))
  return header

/-- Empty lines at the start of a block, and the most spaces seen on a line. -/
def leadingBreaks : Nat → Nat → Scan (List Text × Nat)
  | 0, widest => return ([], widest)
  | n + 1, widest => do
    dropWhile (· = ' ')
    let widest := max widest (← column)
    if isBreak (← peek) then
      let b ← lineBreak
      let (bs, widest) ← leadingBreaks n widest
      return (b :: bs, widest)
    else return ([], widest)

def skipIndentation (indent : Nat) : Scan Unit := do
  let missing := indent - (← column)
  if missing ≠ 0 then
    let spaces := ((← get).rest.take missing).takeWhile (· = ' ')
    if spaces.length < missing then
      let _ ← peek spaces.length
    skip spaces.length

def blockBreaks (indent : Nat) : Nat → Scan (List Text)
  | 0 => return []
  | n + 1 => do
    skipIndentation indent
    if isBreak (← peek) then
      let b ← lineBreak
      return b :: (← blockBreaks indent n)
    else return []

/-- The lines of a block, the last line break, and the breaks of the empty lines at the end. -/
def blockLines (fold : Bool) (indent : Nat) : Nat → List Text → Scan (Text × Text × List Text)
  | 0, breaks => return ([], [], breaks)
  | n + 1, breaks => do
    if (← column) = indent && (← peek) ≠ '\x00' then
      let flush := !isSpaceOrTab (← peek)
      let line ← takeWhile (!endsLine ·)
      let last ← lineBreak
      let more ← blockBreaks indent (← left)
      let before := breaks.flatten ++ line
      if (← column) = indent && (← peek) ≠ '\x00' then
        let joint :=
          if fold && last == ['\n'] && flush && !isSpaceOrTab (← peek) then
            if more.isEmpty then [' '] else []
          else last
        let (rest, last, tail) ← blockLines fold indent n more
        return (before ++ joint ++ rest, last, tail)
      else return (before, last, more)
    else return ([], [], breaks)

/-- A block scalar inside block collections whose innermost one leaves a margin. -/
def block (margin : Nat) : Scan Text := do
  let fold := (← peek) = '>'
  skip
  let (chomping, increment) ← blockHeader
  lineRest
  let least := max 1 margin
  let (indent, breaks) ← match increment with
    | none => do
      let (breaks, widest) ← leadingBreaks (← left) 0
      pure (max least widest, breaks)
    | some n => do
      let indent := least + n - 1
      pure (indent, ← blockBreaks indent (← left))
  let (text, last, tail) ← blockLines fold indent (← left) breaks
  match chomping with
  | .strip => return text
  | .clip => return text ++ last
  | .keep => return text ++ last ++ tail.flatten

end StoryBlanks.Yaml.Scan
