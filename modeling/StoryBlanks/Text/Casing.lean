import StoryBlanks.Text.CaseTable

/-!
# Upper, lower and title case

Case mapping with the full mappings of Unicode, so that one character may become several. Lower
case looks around itself at a capital sigma, which ends a word in its final form; title case
starts every run of cased characters with a capital and goes on in lower case.
-/
namespace StoryBlanks.Text

open CaseTable

private def within (ranges : List (Nat × Nat)) (c : Char) : Bool :=
  ranges.any fun (lo, hi) => lo ≤ c.toNat && c.toNat ≤ hi

def isCased (c : Char) : Bool := within cased c

def isCaseIgnorable (c : Char) : Bool := within ignorable c

/-- The image of one character under a table of rows and its expansions. -/
def mapped (rows : List Row) (expansions : List (Nat × List Nat)) (c : Char) : Text :=
  match expansions.lookup c.toNat with
  | some image => image.map Char.ofNat
  | none =>
    match rows.find? fun (lo, hi, step, _) =>
        lo ≤ c.toNat && c.toNat ≤ hi && (c.toNat - lo) % step == 0 with
    | some (_, _, _, shift) => [Char.ofNat (Int.toNat (c.toNat + shift))]
    | none => [c]

def upperChar (c : Char) : Text := mapped CaseTable.upper upperExpansions c

def titleChar (c : Char) : Text := mapped CaseTable.title titleExpansions c

def lowerChar (c : Char) : Text := mapped CaseTable.lower lowerExpansions c

/-- Whether the nearest character that is not ignorable is cased. -/
private def meetsCased (cs : Text) : Bool :=
  match cs.dropWhile isCaseIgnorable with
  | [] => false
  | c :: _ => isCased c

/-- The lower case of a character between the text before it (nearest character first) and the
text after it. A capital sigma takes its final form where a letter stands before it and none
after it. -/
def lowerBetween (before : Text) (c : Char) (after : Text) : Text :=
  if c = 'Σ' then
    if meetsCased before && !meetsCased after then ['ς'] else ['σ']
  else lowerChar c

private def lowerFrom (before : Text) : Text → Text
  | [] => []
  | c :: cs => lowerBetween before c cs ++ lowerFrom (c :: before) cs

def titleFrom (before : Text) : Text → Text
  | [] => []
  | c :: cs =>
    (match before with
      | b :: _ => if isCased b then lowerBetween before c cs else titleChar c
      | [] => titleChar c) ++ titleFrom (c :: before) cs

def toUpper (cs : Text) : Text := cs.flatMap upperChar

def toLower (cs : Text) : Text := lowerFrom [] cs

def toTitle (cs : Text) : Text := titleFrom [] cs

end StoryBlanks.Text
