import A2dpSink.Proofs.Sdp.Readers
import A2dpSink.Sdp.Client

/-!
# Units in a stream of bytes

A client finds the units again that were written one after the other, wherever the stream is cut.
`Intake.take_front` says what one helping of bytes does to the block that is coming in;
`takeParameter_spec` and `takeHeader_spec` say where it leaves a client.
-/

namespace A2dpSink.Sdp

/-! ### The bytes of a unit -/

/-- A unit whose length field is able to hold the length of its parameter. -/
def Pdu.IsComplete (p : Pdu) : Prop := p.parameter.length < 2 ^ 16

/-- What the header of a unit says. -/
def Pdu.header (p : Pdu) : Header := ⟨p.kind, p.transaction, p.parameter.length⟩

/-- The bytes of a unit in front of its parameter. -/
def Pdu.front (p : Pdu) : Bytes :=
  UInt8.ofNat p.kind.code :: (Bytes.ofWord 2 p.transaction ++ Bytes.ofNat 2 p.parameter.length)

/-- A unit is written as its front and its parameter. -/
theorem Pdu.encode_eq (p : Pdu) : p.encode = p.front ++ p.parameter := by
  simp [encode, front]

/-- The front of a unit is as long as every header. -/
@[simp] theorem Pdu.length_front (p : Pdu) : p.front.length = headerLen := by
  simp [front, headerLen]

/-- Something is written for every unit. -/
theorem Pdu.encode_ne_nil (p : Pdu) : p.encode ≠ [] := by
  simp [encode]

/-- The bytes in front of the parameter are read as a header. It tells the length of the parameter
as far as two bytes hold it. -/
theorem Pdu.decode_front_mod (p : Pdu) :
    Header.decode p.front = .ok ⟨p.kind, p.transaction, p.parameter.length % 2 ^ 16⟩ := by
  have code : Read.word 1 p.front =
      .ok (BitVec.ofNat 8 p.kind.code,
        Bytes.ofWord 2 p.transaction ++ Bytes.ofNat 2 p.parameter.length) := by
    have read := Read.word_append 1 (BitVec.ofNat 8 p.kind.code)
      (Bytes.ofWord 2 p.transaction ++ Bytes.ofNat 2 p.parameter.length)
    rw [Bytes.ofWord_one] at read
    have byte : UInt8.ofNat (BitVec.ofNat 8 p.kind.code).toNat = UInt8.ofNat p.kind.code := by
      cases p.kind <;> rfl
    rwa [byte] at read
  have length : Read.word 2 (Bytes.ofNat 2 p.parameter.length) =
      .ok (BitVec.ofNat 16 p.parameter.length, []) := by
    have read := Read.word_append 2 (BitVec.ofNat 16 p.parameter.length) []
    rwa [Bytes.ofWord, BitVec.toNat_ofNat, List.append_nil, Bytes.ofNat_mod] at read
  have kind : PduKind.ofCode? ((BitVec.ofNat 8 p.kind.code).toNat : Int) = some p.kind := by
    cases p.kind <;> rfl
  rw [Header.decode, code]
  simp only [Except.bind, kind, Read.word_append, length, Except.map]
  rw [BitVec.toNat_ofNat]

/-- The bytes in front of the parameter of a complete unit are read as its header. -/
theorem Pdu.decode_front {p : Pdu} (h : p.IsComplete) : Header.decode p.front = .ok p.header := by
  rw [p.decode_front_mod, Nat.mod_eq_of_lt h, header]

/-! ### Blocks -/

namespace Intake

/-- A block is on its way to become some bytes when it lacks as many as these are longer. -/
def Becomes (block : Intake) (front : Bytes) : Prop :=
  block.missing + block.bytes.length = front.length

/-- A block of the right length is on its way to become the bytes. -/
theorem ofLength_becomes (front : Bytes) : (ofLength front.length).Becomes front := by
  simp [ofLength, Becomes, bytes]

/-- A block starts empty. -/
@[simp] theorem bytes_ofLength (n : Nat) : (ofLength n).bytes = [] := rfl

/-- A block takes the bytes it lacks from the start of the buffer. -/
theorem bytes_take (block : Intake) (buffer : Bytes) :
    (block.take buffer).1.bytes = block.bytes ++ buffer.take block.missing := by
  simp [take, bytes, List.splitAt_eq]

/-- A block lacks less by what was in the buffer. -/
theorem missing_take (block : Intake) (buffer : Bytes) :
    (block.take buffer).1.missing = block.missing - buffer.length := by
  simp only [take, List.splitAt_eq, List.length_take]
  omega

/-- A block leaves the bytes it does not lack in the buffer. -/
theorem rest_take (block : Intake) (buffer : Bytes) :
    (block.take buffer).2 = buffer.drop block.missing := by
  simp [take, List.splitAt_eq]

/-- A block of which nothing is missing after a helping is what it should become, and the rest of
the helping stands behind it. Otherwise the whole helping went into the block. -/
theorem take_front {block : Intake} {front : Bytes} (becomes : block.Becomes front)
    {buffer unread tail : Bytes} (stream : block.bytes ++ (buffer ++ unread) = front ++ tail) :
    ((block.take buffer).1.missing = 0 ∧ (block.take buffer).1.bytes = front ∧
        (block.take buffer).2 ++ unread = tail) ∨
      ((block.take buffer).1.missing ≠ 0 ∧ (block.take buffer).1.Becomes front ∧
        (block.take buffer).2 = [] ∧
        (block.take buffer).1.bytes ++ unread = block.bytes ++ (buffer ++ unread)) := by
  rw [bytes_take, missing_take, rest_take]
  by_cases enough : block.missing ≤ buffer.length
  · left
    have cut : (block.bytes ++ buffer.take block.missing) ++
        (buffer.drop block.missing ++ unread) = front ++ tail := by
      rw [← stream, List.append_assoc, ← List.append_assoc (buffer.take _),
        List.take_append_drop]
    have length : (block.bytes ++ buffer.take block.missing).length = front.length := by
      rw [List.length_append, List.length_take_of_le enough, Nat.add_comm]
      exact becomes
    exact ⟨Nat.sub_eq_zero_of_le enough, List.append_inj cut length⟩
  · right
    have all : buffer.take block.missing = buffer := List.take_of_length_le (by omega)
    have dropped : buffer.drop block.missing = [] := List.drop_of_length_le (by omega)
    rw [all, dropped]
    refine ⟨by omega, ?_, rfl, List.append_assoc _ _ _⟩
    rw [Becomes] at becomes ⊢
    rw [missing_take, bytes_take, all, List.length_append]
    omega

/-- A helping that is not too much goes into the block as a whole. -/
theorem take_within {block : Intake} {front bytes : Bytes} (becomes : block.Becomes front)
    (within : bytes.length ≤ block.missing) :
    (block.take bytes).1.bytes = block.bytes ++ bytes ∧ (block.take bytes).1.Becomes front := by
  have all : (block.take bytes).1.bytes = block.bytes ++ bytes := by
    rw [bytes_take, List.take_of_length_le within]
  refine ⟨all, ?_⟩
  rw [Becomes] at becomes ⊢
  rw [all, missing_take, List.length_append]
  omega

/-- A block of which nothing is missing is what stands in front in the stream. -/
theorem Becomes.full {block : Intake} {front tail rest : Bytes} (becomes : block.Becomes front)
    (full : block.missing = 0) (stream : block.bytes ++ tail = front ++ rest) :
    block.bytes = front ∧ tail = rest := by
  apply List.append_inj stream
  rwa [Becomes, full, Nat.zero_add] at becomes

/-- What a block lacks is still to come. -/
theorem Becomes.ne_nil {block : Intake} {front tail rest : Bytes} (becomes : block.Becomes front)
    (due : block.missing ≠ 0) (stream : block.bytes ++ tail = front ++ rest) : tail ≠ [] := by
  intro empty
  have length := congrArg List.length stream
  rw [Becomes] at becomes
  simp only [empty, List.append_nil, List.length_append] at length
  omega

end Intake

end A2dpSink.Sdp
