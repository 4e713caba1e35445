import StoryBlanks.Text.Newline
import StoryBlanks.Text.Utf8

/-!
# Streams

A file read so many characters at a time. The bytes are fetched in chunks, which are decoded one by
one, and line ends are unified on the way. A chunk that cannot be decoded spoils the piece that is
being read and not the ones before it.
-/
namespace StoryBlanks.Text

/-- How far a file has been read.

* `bytes`: what has not been fetched, and `pending`: the beginning of a character that was;
* `held`: whether a carriage return waits for what follows it;
* `ready`: text that is decoded and not yet given out;
* `spread`: the bytes per character of the last chunk. -/
structure Stream where
  bytes : Utf8.Bytes
  pending : Utf8.Bytes := []
  held : Bool := false
  ready : Text := []
  spread : Float := 0.0

namespace Stream

/-- How many bytes are fetched when so many characters are wanted. -/
def demand (s : Stream) (wanted : Nat) : Nat :=
  let spread := if s.spread < 1.0 then 1.0 else s.spread
  max Utf8.chunkSize (spread * wanted.toFloat).toUInt64.toNat

/-- Text as it is given out, and whether a carriage return at its end is held back. -/
def settled (held final : Bool) (cs : Text) : Text × Bool :=
  if cs.isEmpty && !final then ([], held)
  else
    let cs := if held then '\r' :: cs else cs
    if !final && cs.getLast? = some '\r' then (unifyNewlines cs.dropLast, true)
    else (unifyNewlines cs, false)

/-- Takes in one more chunk and tells whether there was something to take in. -/
def fetch (s : Stream) (wanted : Nat) : Except Utf8.DecodeError (Bool × Stream) :=
  let size := s.demand wanted
  let chunk := s.bytes.take size
  let final := chunk.isEmpty
  let data := s.pending ++ chunk
  let (cs, left) := Utf8.advance data
  if left.isEmpty || (!final && Utf8.isBegun left) then
    let (cs, held) := settled s.held final cs
    .ok (!final || !cs.isEmpty,
      { bytes := s.bytes.drop size
        pending := left
        held
        ready := s.ready ++ cs
        spread := if cs.isEmpty then 0.0 else chunk.length.toFloat / cs.length.toFloat })
  else .error (Utf8.diagnose (data.length - left.length) left)

/-- Reads so many characters, or fewer where the file ends. The first number bounds the chunks. -/
def read : Nat → Nat → Stream → Except Utf8.DecodeError (Text × Stream)
  | 0, wanted, s => .ok (s.ready.take wanted, { s with ready := s.ready.drop wanted })
  | n + 1, wanted, s =>
    let given := s.ready.take wanted
    let s := { s with ready := s.ready.drop wanted }
    if given.length < wanted then do
      match ← s.fetch (wanted - given.length) with
      | (false, s) => return (given, s)
      | (true, s) =>
        let (more, s) ← read n (wanted - given.length) s
        return (given ++ more, s)
    else .ok (given, s)

/-- The pieces of so many characters that a file is read in, and what ended the reading early. -/
def pieces (wanted : Nat) : Nat → Stream → List Text × Option Utf8.DecodeError
  | 0, _ => ([], none)
  | n + 1, s =>
    match read (s.bytes.length + 2) wanted s with
    | .error e => ([], some e)
    | .ok ([], _) => ([], none)
    | .ok (piece, s) =>
      let (more, e) := pieces wanted n s
      (piece :: more, e)

end Stream

/-- The pieces of a file of these bytes. -/
def pieces (wanted : Nat) (bytes : Utf8.Bytes) : List Text × Option Utf8.DecodeError :=
  Stream.pieces wanted (bytes.length + 1) { bytes }

end StoryBlanks.Text
