import StoryBlanks.Text.Quoted

/-!
# UTF-8

Texts as bytes. `encode` writes a text, `decode` reads bytes back and says where and why they
are no text, and `decodeChunks` reads them as a stream does, some thousand bytes at a time: it
keeps the texts of the chunks before the first bad one.
-/
namespace StoryBlanks.Utf8

abbrev Bytes := List UInt8

/-! ## Writing -/

def encodeChar (c : Char) : Bytes :=
  let n := c.toNat
  let tail (k : Nat) : UInt8 := UInt8.ofNat (0x80 + n / Nat.pow 64 k % 64)
  if n < 0x80 then [UInt8.ofNat n]
  else if n < 0x800 then [UInt8.ofNat (0xC0 + n / 64), tail 0]
  else if n < 0x10000 then [UInt8.ofNat (0xE0 + n / Nat.pow 64 2), tail 1, tail 0]
  else [UInt8.ofNat (0xF0 + n / Nat.pow 64 3), tail 2, tail 1, tail 0]

def encode (cs : Text) : Bytes := cs.flatMap encodeChar

/-! ## Reading -/

/-- What the first byte of a character promises: how many bytes follow, the range of the first of
them, and the bits that it gives to the character itself. -/
structure Lead where
  follow : Nat
  low : UInt8
  high : UInt8
  bits : Nat

def lead? (a : UInt8) : Option Lead :=
  if a < 0x80 then some ⟨0, 0x80, 0xBF, a.toNat⟩
  else if a < 0xC2 then none
  else if a < 0xE0 then some ⟨1, 0x80, 0xBF, a.toNat - 0xC0⟩
  else if a < 0xF0 then
    some ⟨2, if a = 0xE0 then 0xA0 else 0x80, if a = 0xED then 0x9F else 0xBF, a.toNat - 0xE0⟩
  else if a < 0xF5 then
    some ⟨3, if a = 0xF0 then 0x90 else 0x80, if a = 0xF4 then 0x8F else 0xBF, a.toNat - 0xF0⟩
  else none

/-- How many of the bytes that should follow a first byte do, up to the first unfit one. -/
def Lead.fit (l : Lead) : Bytes → Nat
  | [] => 0
  | b :: bs =>
    if l.follow = 0 || b < l.low || l.high < b then 0
    else 1 + ((bs.take (l.follow - 1)).takeWhile fun c => 0x80 ≤ c && c ≤ 0xBF).length

def next? : Bytes → Option (Char × Bytes)
  | [] => none
  | a :: bs =>
    match lead? a with
    | none => none
    | some l =>
      if l.fit bs = l.follow then
        let code := (bs.take l.follow).foldl (fun n b => n * 64 + (b.toNat - 0x80)) l.bits
        some (Char.ofNat code, bs.drop l.follow)
      else none

theorem next?_length {bs rest : Bytes} {c : Char} (h : next? bs = some (c, rest)) :
    rest.length < bs.length := by
  cases bs with
  | nil => simp [next?] at h
  | cons a bs =>
    simp only [next?] at h
    split at h
    · simp at h
    · split at h
      · simp only [Option.some.injEq, Prod.mk.injEq] at h
        rw [← h.2, List.length_drop, List.length_cons]
        omega
      · simp at h

/-- Reads as far as the bytes are a text, and gives the bytes that are left. -/
def advance (bs : Bytes) : Text × Bytes :=
  match _h : next? bs with
  | none => ([], bs)
  | some (c, rest) =>
    let (cs, left) := advance rest
    (c :: cs, left)
termination_by bs.length
decreasing_by exact next?_length ‹_›

inductive Reason where
  | start
  | continuation
  | ended
  deriving DecidableEq, Repr

/-- Bytes that are no part of a text: the position of the first one and the bytes themselves. -/
structure DecodeError where
  position : Nat
  bytes : Bytes
  reason : Reason
  deriving DecidableEq, Repr

def Reason.message : Reason → Text
  | .start => "invalid start byte"
  | .continuation => "invalid continuation byte"
  | .ended => "unexpected end of data"

def DecodeError.message (e : DecodeError) : Text :=
  "'utf-8' codec can't decode " ++
    (match e.bytes with
      | [b] => "byte 0x" ++ Text.hex 2 b.toNat ++ " in position " ++ Text.ofNat e.position
      | bs => "bytes in position " ++ Text.ofNat e.position ++ "-" ++
          Text.ofNat (e.position + bs.length - 1)) ++
    ": " ++ e.reason.message

/-- What is wrong with bytes that start no character, at a given position. The bytes blamed are
the longest beginning of a character, and at least one. -/
def diagnose (position : Nat) (left : Bytes) : DecodeError :=
  match left with
  | [] => ⟨position, [], .ended⟩
  | a :: bs =>
    match lead? a with
    | none => ⟨position, [a], .start⟩
    | some l =>
      let fit := l.fit bs
      ⟨position, a :: bs.take fit, if fit = bs.length then .ended else .continuation⟩

def decode (bs : Bytes) : Except DecodeError Text :=
  match advance bs with
  | (cs, []) => .ok cs
  | (_, left) => .error (diagnose (bs.length - left.length) left)

structure Reading where
  text : Text
  error : Option DecodeError

/-- Bytes cut into chunks of a size, the last one possibly shorter. -/
def chunks (size : Nat) (bs : Bytes) : List Bytes :=
  if _h : bs.length ≤ size ∨ size = 0 then if bs.isEmpty then [] else [bs]
  else bs.take size :: chunks size (bs.drop size)
termination_by bs.length
decreasing_by simp only [List.length_drop]; omega

/-- Whether the bytes left at the end of a chunk may go on in the next one: the beginning of a
character, or the first two bytes of what would be a surrogate. -/
def isBegun (left : Bytes) : Bool :=
  match left with
  | [0xED, b] => 0x80 ≤ b && b ≤ 0xBF
  | _ => (diagnose 0 left).reason = .ended

/-- Reads chunk by chunk. A character may go over from one chunk to the next; the position in an
error counts from the first byte that was not read with an earlier chunk. -/
def decodeChunks (pending : Bytes) : List Bytes → Reading
  | [] => ⟨[], if pending.isEmpty then none else some (diagnose 0 pending)⟩
  | chunk :: rest =>
    let data := pending ++ chunk
    match advance data with
    | (cs, []) =>
      let r := decodeChunks [] rest
      ⟨cs ++ r.text, r.error⟩
    | (cs, left) =>
      if isBegun left then
        let r := decodeChunks left rest
        ⟨cs ++ r.text, r.error⟩
      else ⟨[], some (diagnose (data.length - left.length) left)⟩

/-- How many bytes of a file a stream reads at once. -/
def chunkSize : Nat := 8192

def decodeStream (bs : Bytes) : Reading := decodeChunks [] (chunks chunkSize bs)

end StoryBlanks.Utf8
