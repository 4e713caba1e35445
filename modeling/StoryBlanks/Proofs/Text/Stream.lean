import StoryBlanks.Yaml.Document
import StoryBlanks.Proofs.Text.Newline
import StoryBlanks.Proofs.Text.Utf8

/-!
# Small files

How much of a file is fetched at once depends on what was fetched before, but it is never less than
a chunk. Main statements: a text that fits into one chunk and is shorter than what is wanted is read
in one piece; and of a file that fits into one chunk and is no text, nothing is read.
-/
namespace StoryBlanks

/-! ## Characters of one byte -/

namespace Utf8

def IsAscii (c : Char) : Prop := c.toNat < 0x80

theorem encodeChar_ascii {c : Char} (h : IsAscii c) : encodeChar c = [UInt8.ofNat c.toNat] :=
  if_pos h

theorem length_encode_ascii {cs : Text} (h : ∀ c ∈ cs, IsAscii c) :
    (encode cs).length = cs.length := by
  induction cs with
  | nil => rfl
  | cons c cs ih =>
    obtain ⟨hc, hcs⟩ := List.forall_mem_cons.mp h
    rw [encode, List.flatMap_cons, List.length_append, encodeChar_ascii hc, ← encode, ih hcs,
      List.length_singleton, List.length_cons, Nat.add_comm]

end Utf8

/-! ## Files of one chunk -/

namespace Text

namespace Stream

/-- Nothing is left to fetch, and nothing waits for more. -/
structure Drained (s : Stream) : Prop where
  bytes : s.bytes = []
  pending : s.pending = []
  held : s.held = false

theorem settled_of_not_mem {cs : Text} (h : '\r' ∉ cs) (final : Bool) :
    settled false final cs = (cs, false) := by
  have hlast : cs.getLast? ≠ some '\r' := fun hl => h (List.mem_of_getLast? hl)
  cases cs with
  | nil => cases final <;> rfl
  | cons c cs => simp [settled, hlast, unifyNewlines_of_not_mem h]

theorem fetch_of_drained {s : Stream} (h : s.Drained) (wanted : Nat) :
    ∃ s', s.fetch wanted = .ok (false, s') ∧ s'.Drained ∧ s'.ready = s.ready := by
  refine ⟨⟨[], [], false, s.ready, 0.0⟩, ?_, ⟨rfl, rfl, rfl⟩, rfl⟩
  have hadvance : Utf8.advance [] = ([], []) := by cbv
  simp [fetch, h.bytes, h.pending, h.held, hadvance, settled, unifyNewlines]

/-- A file of one chunk is fetched at once. -/
theorem fetch_small {bytes : Utf8.Bytes} {cs : Text} (hne : bytes ≠ [])
    (hsize : bytes.length ≤ Utf8.chunkSize) (hdecode : Utf8.decode bytes = .ok cs)
    (hcs : '\r' ∉ cs) (wanted : Nat) :
    ∃ s', fetch { bytes } wanted = .ok (true, s') ∧ s'.Drained ∧ s'.ready = cs := by
  have hdemand : bytes.length ≤ demand { bytes } wanted := Nat.le_trans hsize (Nat.le_max_left _ _)
  have hfinal : bytes.isEmpty = false := by simpa using hne
  simp only [fetch, List.nil_append, List.take_of_length_le hdemand,
    List.drop_of_length_le hdemand, hfinal, Utf8.advance_of_decode hdecode, settled_of_not_mem hcs]
  exact ⟨_, rfl, ⟨rfl, rfl, rfl⟩, rfl⟩

/-- What is ready is all that comes. -/
theorem read_of_drained {s : Stream} (h : s.Drained) {wanted : Nat} (hw : s.ready.length < wanted)
    (n : Nat) : ∃ s', read (n + 1) wanted s = .ok (s.ready, s') ∧ s'.Drained ∧ s'.ready = [] := by
  have hle : s.ready.length ≤ wanted := Nat.le_of_lt hw
  have hdrained : Drained { s with ready := [] } := ⟨h.bytes, h.pending, h.held⟩
  obtain ⟨s', hfetch, hs', hready⟩ := fetch_of_drained hdrained (wanted - s.ready.length)
  refine ⟨s', ?_, hs', hready⟩
  simp only [read, List.take_of_length_le hle, List.drop_of_length_le hle, if_pos hw, hfetch]
  rfl

/-- What a file of one chunk holds is read at once. -/
theorem read_small {bytes : Utf8.Bytes} {cs : Text} (hne : bytes ≠ [])
    (hsize : bytes.length ≤ Utf8.chunkSize) (hdecode : Utf8.decode bytes = .ok cs)
    (hcs : '\r' ∉ cs) {wanted : Nat} (hw : cs.length < wanted) (n : Nat) :
    ∃ s', read (n + 2) wanted { bytes } = .ok (cs, s') ∧ s'.Drained ∧ s'.ready = [] := by
  -- the first chunk is all there is, and the second one is empty
  obtain ⟨s, hfetch, hs, hready⟩ := fetch_small hne hsize hdecode hcs wanted
  obtain ⟨s', hread, hs', hready'⟩ := read_of_drained hs (hready ▸ hw) n
  refine ⟨s', ?_, hs', hready'⟩
  have hpos : 0 < wanted := Nat.zero_lt_of_lt hw
  rw [read]
  simp only [List.take_nil, List.drop_nil, List.length_nil, if_pos hpos, Nat.sub_zero, hfetch]
  simp only [bind, Except.bind, hread, hready]
  rfl

end Stream

/-- A text that fits into one chunk and is shorter than what is wanted is read in one piece. -/
theorem pieces_small {bytes : Utf8.Bytes} {cs : Text} (hsize : bytes.length ≤ Utf8.chunkSize)
    (hdecode : Utf8.decode bytes = .ok cs) (hne : cs ≠ []) (hcs : '\r' ∉ cs) {wanted : Nat}
    (hw : cs.length < wanted) : pieces wanted bytes = ([cs], none) := by
  obtain ⟨b, bs, rfl⟩ : ∃ b bs, bytes = b :: bs := by
    refine List.exists_cons_of_ne_nil fun hempty => hne ?_
    have hnone : Utf8.decode [] = .ok [] := by cbv
    rw [hempty, hnone] at hdecode
    cases hdecode
    rfl
  obtain ⟨c, cs, rfl⟩ := List.exists_cons_of_ne_nil hne
  obtain ⟨s, hread, hs, hready⟩ :=
    Stream.read_small (List.cons_ne_nil b bs) hsize hdecode hcs hw (b :: bs).length
  have hend : s.ready.length < wanted := by
    rw [hready]
    exact Nat.zero_lt_of_lt hw
  obtain ⟨s', hread', -, -⟩ := Stream.read_of_drained hs hend (s.bytes.length + 1)
  rw [hready] at hread'
  have hrest : Stream.pieces wanted (b :: bs).length s = ([], none) := by
    rw [List.length_cons, Stream.pieces, hread']
  rw [pieces, Stream.pieces, hread]
  simp only [hrest]

/-- A file that is fetched at once and is not text all along gives no piece. -/
theorem pieces_undecodable {bytes left : Utf8.Bytes} {cs : Text}
    (hsize : bytes.length ≤ Utf8.chunkSize) (hadvance : Utf8.advance bytes = (cs, left))
    (hleft : left ≠ []) (hbegun : Utf8.isBegun left = false) {wanted : Nat} (hw : 0 < wanted) :
    pieces wanted bytes = ([], some (Utf8.diagnose (bytes.length - left.length) left)) := by
  have hdemand : bytes.length ≤ Stream.demand { bytes } wanted :=
    Nat.le_trans hsize (Nat.le_max_left _ _)
  have hfetch : Stream.fetch { bytes } wanted =
      .error (Utf8.diagnose (bytes.length - left.length) left) := by
    simp [Stream.fetch, List.take_of_length_le hdemand, hadvance, hleft, hbegun]
  have hread : Stream.read (bytes.length + 2) wanted { bytes } =
      .error (Utf8.diagnose (bytes.length - left.length) left) := by
    simp only [Stream.read, List.take_nil, List.drop_nil, List.length_nil, if_pos hw, Nat.sub_zero,
      hfetch]
    rfl
  rw [pieces, Stream.pieces, hread]

end Text

/-- A text that a data file may hold, in so few bytes that they are read at once. -/
structure Yaml.Source.IsSmall (bytes : Utf8.Bytes) (cs : Text) : Prop where
  size : bytes.length ≤ Utf8.chunkSize
  decode : Utf8.decode bytes = .ok cs
  nonempty : cs ≠ []
  length : cs.length < Yaml.pieceSize
  plain : '\r' ∉ cs
  allowed : cs.all Yaml.isAllowed

def Yaml.isPlain (c : Char) : Bool := c = '\n' || (0x20 ≤ c.toNat && c.toNat ≤ 0x7E)

theorem Yaml.isPlain_iff {c : Char} :
    isPlain c ↔ c = '\n' ∨ 0x20 ≤ c.toNat ∧ c.toNat ≤ 0x7E := by
  simp [isPlain]

/-- A short text of plain characters is small. -/
theorem Yaml.Source.isSmall_plain {cs : Text} (hne : cs ≠ []) (hlength : cs.length < pieceSize)
    (h : cs.all isPlain) : IsSmall (Utf8.encode cs) cs := by
  have hcs : ∀ c ∈ cs, c = '\n' ∨ 0x20 ≤ c.toNat ∧ c.toNat ≤ 0x7E := fun c hc =>
    isPlain_iff.mp (List.all_eq_true.mp h c hc)
  have hascii : ∀ c ∈ cs, Utf8.IsAscii c := by
    intro c hc
    unfold Utf8.IsAscii
    rcases hcs c hc with rfl | hprinted
    · decide
    · omega
  refine ⟨?_, ?_, hne, hlength, ?_, ?_⟩
  · rw [Utf8.length_encode_ascii hascii]
    exact Nat.le_trans (Nat.le_of_lt hlength) (by decide)
  · exact Utf8.decode_eq_ok.mpr rfl
  · intro hc
    rcases hcs _ hc with hc | hc
    · cases hc
    · exact absurd hc.1 (by decide)
  · rw [List.all_eq_true]
    intro c hc
    rcases hcs c hc with rfl | ⟨hlow, hhigh⟩
    · decide
    · simp [isAllowed, hlow, hhigh]

/-- A small data file is looked at as a whole. -/
theorem Yaml.Source.IsSmall.ofBytes {bytes : Utf8.Bytes} {cs : Text}
    (h : Yaml.Source.IsSmall bytes cs) : Yaml.Source.ofBytes bytes = ⟨cs, none⟩ := by
  unfold Yaml.Source.ofBytes
  rw [Text.pieces_small h.size h.decode h.nonempty h.plain h.length]
  simp [Source.ofPieces, h.allowed]

/-- Of a data file that is fetched at once and is not text all along, nothing is looked at. -/
theorem Yaml.Source.ofBytes_undecodable {bytes left : Utf8.Bytes} {cs : Text}
    (hsize : bytes.length ≤ Utf8.chunkSize) (hadvance : Utf8.advance bytes = (cs, left))
    (hleft : left ≠ []) (hbegun : Utf8.isBegun left = false) :
    Yaml.Source.ofBytes bytes =
      ⟨[], some (.undecodable (Utf8.diagnose (bytes.length - left.length) left))⟩ := by
  unfold Yaml.Source.ofBytes
  rw [Text.pieces_undecodable hsize hadvance hleft hbegun (by decide)]
  rfl

end StoryBlanks
