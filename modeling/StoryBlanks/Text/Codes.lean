import StoryBlanks.Text.Utf8

/-!
# Code points

A text may be spelled by the numbers of its characters. The numbers of surrogates are no
characters, alone or in pairs. `Spelling` is a text, or what would be one but for its surrogates.
-/
namespace StoryBlanks.Text

def isSurrogate (code : Nat) : Bool := 0xD800 ≤ code && code < 0xE000

def codes (cs : Text) : List Nat := cs.map Char.toNat

/-- The text with these code points, if none of them is a surrogate. -/
def ofCodes? : List Nat → Option Text
  | [] => some []
  | n :: ns => if isSurrogate n then none else (ofCodes? ns).map (Char.ofNat n :: ·)

/-- Code points between quotes, as texts are shown; surrogates are not printable. -/
def quotedCodes (ns : List Nat) : Text :=
  let quote := quoteFor (ns.map Char.ofNat)
  let shown (n : Nat) : Text :=
    if isSurrogate n then '\\' :: 'u' :: hex 4 n else escaped quote (Char.ofNat n)
  quote :: (ns.flatMap shown ++ [quote])

/-- What code points spell. -/
inductive Spelling where
  | text (cs : Text)
  | broken (codes : List Nat)
  deriving DecidableEq, Repr

namespace Spelling

def ofCodes (ns : List Nat) : Spelling :=
  match ofCodes? ns with
  | some cs => .text cs
  | none => .broken ns

def codes : Spelling → List Nat
  | .text cs => Text.codes cs
  | .broken ns => ns

def length (s : Spelling) : Nat := s.codes.length

def isEmpty (s : Spelling) : Bool := s.codes.isEmpty

def within (before after : Text) : Spelling → Spelling
  | .text cs => .text (before ++ cs ++ after)
  | .broken ns => .broken (Text.codes before ++ ns ++ Text.codes after)

def quoted : Spelling → Text
  | .text cs => Text.quoted cs
  | .broken ns => quotedCodes ns

/-! ## Names of files

In the name of a file, the surrogates from U+DC80 to U+DCFF stand for bytes that are no text. Such
bytes may together be a text again; if they are not, no file that can be seen has the name. -/

/-- The bytes of a code point in the name of a file. Other surrogates and the null character have
none. -/
def nameBytes? (code : Nat) : Option Utf8.Bytes :=
  if code = 0 then none
  else if !isSurrogate code then some (Utf8.encodeChar (Char.ofNat code))
  else if 0xDC80 ≤ code && code ≤ 0xDCFF then some [UInt8.ofNat (code - 0xDC00)]
  else none

/-- Whether a file may be named like this. -/
def isNameable : Spelling → Bool
  | .text _ => true
  | .broken ns => ns.all fun n => (nameBytes? n).isSome

/-- The name of a file that is spelled like this, if it is a text. -/
def name? : Spelling → Option Text
  | .text cs => some cs
  | .broken ns => do (Utf8.decode (← ns.mapM nameBytes?).flatten).toOption

/-- A text as long as the name, with a null character for every surrogate. -/
def veiled : Spelling → Text
  | .text cs => cs
  | .broken ns => ns.map Char.ofNat

/-- Puts code points where a text has null characters. -/
def unveil : Text → List Nat → List Nat
  | [], _ => []
  | '\x00' :: cs, n :: ns => n :: unveil cs ns
  | c :: cs, ns => c.toNat :: unveil cs ns

/-- A text made of the veiled spelling, with the surrogates of the spelling in it. -/
def unveiled (cs : Text) : Spelling → Spelling
  | .text _ => .text cs
  | .broken ns => .broken (unveil cs (ns.filter isSurrogate))

end Spelling
end StoryBlanks.Text
