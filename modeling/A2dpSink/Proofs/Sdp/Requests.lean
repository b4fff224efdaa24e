import A2dpSink.Proofs.Sdp.Element.RoundTrip
import A2dpSink.Proofs.Sdp.Framing

/-!
# Requests on the wire

A request is framed well and read back as what was asked for exactly when the length field of its
header is able to hold the length of its parameter (`readsBack_iff`). The field has two bytes and
the length is cut down to them, so a longer parameter goes out behind a header that tells a wrong
length, and the client has nothing that would stop it (`not_readsBack`).
-/

namespace A2dpSink.Sdp

/-! ### What a request says -/

/-- A range as the protocol tells it: one attribute by its number, several by the numbers of the
first and the last one in the upper and the lower half of a word. -/
def AttributeRange.told : AttributeRange → Element
  | single id => .u16 id
  | span first last => .u32 (first.setWidth 32 <<< 16 ||| last.setWidth 32)

private theorem AttributeRange.toElement_eq_told (x : AttributeRange) : x.toElement = x.told := by
  cases x with
  | single id => rfl
  | span first last =>
    have halves : first ++ last = first.setWidth 32 <<< 16 ||| last.setWidth 32 := by
      have upper := first.isLt
      have lower := last.isLt
      apply BitVec.eq_of_toNat_eq
      simp only [BitVec.toNat_append, BitVec.toNat_or, BitVec.toNat_shiftLeft,
        BitVec.toNat_setWidth, Nat.shiftLeft_eq]
      rw [Nat.mod_eq_of_lt (by omega), Nat.mod_eq_of_lt (by omega), Nat.mod_eq_of_lt (by omega)]
    exact congrArg Element.u32 halves

namespace Request

/-- What the parameter of a request says. -/
structure Content where
  pattern : Element
  maxBytes : BitVec 16
  ranges : Element
  continuation : Bytes

/-- Reads the parameter of a request: an element, a word, another element, and a byte string behind
its length. -/
def Content.decode (bytes : Bytes) : Reading Content :=
  (Element.decode bytes).bind fun (pattern, rest) =>
    (Read.guardedWord 2 rest).bind fun (maxBytes, rest) =>
      (Element.decode rest).bind fun (ranges, rest) =>
        (Read.guardedWord 1 rest).bind fun (n, rest) =>
          (Read.ensure n.toNat rest).bind fun _ =>
            (Read.take n.toNat rest).map fun (continuation, rest) =>
              (⟨pattern, maxBytes, ranges, continuation⟩, rest)

/-- What a request asks for: the UUIDs of the pattern in order and width, the most bytes, the ranges
in order, and the continuation state. -/
def content (r : Request) : Content where
  pattern := .sequence (r.pattern.map .uuid)
  maxBytes := r.maxBytes
  ranges := .sequence (r.ranges.map (·.told))
  continuation := r.continuation

/-- The bytes of a request are a header that tells how many bytes follow, and behind it what is
asked for and nothing else. -/
structure ReadsBack (r : Request) (t : BitVec 16) : Prop where
  header : Header.decode ((r.toPdu t).encode.take headerLen) =
    .ok ⟨.searchAttributeRequest, t, ((r.toPdu t).encode.drop headerLen).length⟩
  content : Content.decode ((r.toPdu t).encode.drop headerLen) = .ok (r.content, [])

/-! ### The parameter -/

-- A sequence of members that are not lists is read back if its size field holds its length.
private theorem decode_sequence {ms : List Element} (flat : ∀ m ∈ ms, m.members? = none)
    (fit : ∀ m ∈ ms, m.fits = true) (small : (Element.sequence ms).dataLen ≤ Element.sizeLimit)
    (rest : Bytes) :
    Element.decode ((Element.sequence ms).encode ++ rest) = .ok (Element.sequence ms, rest) := by
  have shallow : (Element.sequence ms).depth ≤ maxNesting := by
    apply Element.depth_list_le_iff.mpr
    intro m there
    rw [Element.depth_of_not_list (flat m there)]
    exact Nat.zero_le _
  exact Element.decode_of_shallow (Element.fits_list_iff.mpr ⟨small, fit⟩) shallow rest

/-- A pattern within the limit is read back, whatever follows it. -/
theorem decode_pattern (r : Request)
    (small : (Element.sequence (r.pattern.map .uuid)).dataLen ≤ Element.sizeLimit) (rest : Bytes) :
    Element.decode ((Element.sequence (r.pattern.map .uuid)).encode ++ rest) =
      .ok (Element.sequence (r.pattern.map .uuid), rest) := by
  apply decode_sequence
  · intro m there
    obtain ⟨u, -, rfl⟩ := List.mem_map.mp there
    rfl
  · intro m there
    obtain ⟨u, -, rfl⟩ := List.mem_map.mp there
    rfl
  · exact small

/-- Ranges within the limit are read back, whatever follows them. -/
theorem decode_ranges (r : Request)
    (small : (Element.sequence (r.ranges.map (·.told))).dataLen ≤ Element.sizeLimit)
    (rest : Bytes) :
    Element.decode ((Element.sequence (r.ranges.map (·.told))).encode ++ rest) =
      .ok (Element.sequence (r.ranges.map (·.told)), rest) := by
  apply decode_sequence
  · intro m there
    obtain ⟨x, -, rfl⟩ := List.mem_map.mp there
    cases x <;> rfl
  · intro m there
    obtain ⟨x, -, rfl⟩ := List.mem_map.mp there
    cases x <;> rfl
  · exact small

/-- A request is written as its pattern, the limit, its ranges and its continuation state. -/
theorem parameter_eq (r : Request) :
    r.parameter = r.content.pattern.encode ++ (Bytes.ofWord 2 r.maxBytes ++
      (r.content.ranges.encode ++ UInt8.ofNat r.continuation.length :: r.continuation)) := by
  have told : r.ranges.map (·.toElement) = r.ranges.map (·.told) :=
    List.map_congr_left fun x _ => x.toElement_eq_told
  simp only [parameter, content, told, List.append_assoc]

/-- The parameter is read back if its two lists are within what their size fields tell. -/
theorem decode_parameter (r : Request) (short : r.continuation.length ≤ maxContinuation)
    (pattern : r.content.pattern.dataLen ≤ Element.sizeLimit)
    (ranges : r.content.ranges.dataLen ≤ Element.sizeLimit) :
    Content.decode r.parameter = .ok (r.content, []) := by
  have number : (UInt8.ofNat r.continuation.length).toBitVec.toNat = r.continuation.length := by
    rw [maxContinuation] at short
    simp
    omega
  have there := Read.ensure_append r.continuation []
  have taken := Read.take_append r.continuation []
  rw [List.append_nil] at there taken
  rw [parameter_eq, Content.decode, content, decode_pattern r pattern]
  simp only [Except.bind, Read.guardedWord_append 2, decode_ranges r ranges, Read.guardedWord_cons,
    number, there, taken, Except.map]

/-- A request is as long as its parts, with three bytes for the limit and a length. -/
theorem length_parameter (r : Request) :
    r.parameter.length = r.content.pattern.encodedLen + r.content.ranges.encodedLen +
      r.continuation.length + 3 := by
  rw [parameter_eq]
  simp only [List.length_append, List.length_cons, Bytes.length_ofWord, Element.length_encode]
  omega

/-- The lists of a request that its header is able to frame are within what their size fields
tell. -/
theorem dataLen_le_of_length_lt {r : Request} (small : r.parameter.length < 2 ^ 16) :
    r.content.pattern.dataLen ≤ Element.sizeLimit ∧
      r.content.ranges.dataLen ≤ Element.sizeLimit := by
  have length := r.length_parameter
  have pattern := r.content.pattern.dataLen_le_encodedLen
  have ranges := r.content.ranges.dataLen_le_encodedLen
  rw [Element.sizeLimit]
  omega

/-! ### The unit -/

private theorem take_encode (r : Request) (t : BitVec 16) :
    (r.toPdu t).encode.take headerLen = (r.toPdu t).front := by
  rw [Pdu.encode_eq, ← (r.toPdu t).length_front, List.take_left]

private theorem drop_encode (r : Request) (t : BitVec 16) :
    (r.toPdu t).encode.drop headerLen = r.parameter := by
  rw [Pdu.encode_eq, ← (r.toPdu t).length_front, List.drop_left]
  rfl

/-- The header of a request that reads back is able to tell the length of the parameter. -/
theorem ReadsBack.length_lt {r : Request} {t : BitVec 16} (h : r.ReadsBack t) :
    r.parameter.length < 2 ^ 16 := by
  have header := h.header
  rw [take_encode, drop_encode, Pdu.decode_front_mod] at header
  have told : r.parameter.length % 2 ^ 16 = r.parameter.length :=
    congrArg Header.length (Except.ok.inj header)
  omega

/-- A request with a continuation state of at most 16 bytes is well framed and reads back as what
was asked for if, and only if, its parameter has fewer than 65536 bytes. -/
theorem readsBack_iff (r : Request) (t : BitVec 16)
    (short : r.continuation.length ≤ maxContinuation) :
    r.ReadsBack t ↔ r.parameter.length < 2 ^ 16 := by
  constructor
  · exact ReadsBack.length_lt
  · intro small
    obtain ⟨pattern, ranges⟩ := dataLen_le_of_length_lt small
    constructor
    · rw [take_encode, drop_encode, Pdu.decode_front_mod]
      have told : (r.toPdu t).parameter.length % 2 ^ 16 = r.parameter.length :=
        Nat.mod_eq_of_lt small
      rw [told]
      rfl
    · rw [drop_encode]
      exact r.decode_parameter short pattern ranges

/-- A request with a pattern whose size field takes two bytes, and the longest continuation
state. -/
def wide : Request :=
  ⟨List.replicate 100 ServiceClass.audioSink, 1024, [.single 4, .all], List.replicate 16 0xAA⟩

/-- A request with a wide pattern and the longest continuation state is read back. -/
theorem readsBack_iff_wide : wide.continuation.length ≤ maxContinuation ∧
    (wide.ReadsBack 0xFFFF ↔ wide.parameter.length < 2 ^ 16) ∧ wide.parameter.length = 332 := by
  have short : wide.continuation.length ≤ maxContinuation := by decide
  exact ⟨short, readsBack_iff wide 0xFFFF short, by decide +kernel⟩

/-- A pattern may be too long for the header of its request. -/
theorem not_readsBack : ¬ ∀ (r : Request) (t : BitVec 16),
    r.continuation.length ≤ maxContinuation → r.ReadsBack t := by
  intro claim
  let r : Request := ⟨List.replicate 22000 ServiceClass.audioSink, 1024, [.all], []⟩
  have small := (claim r 0 (Nat.zero_le _)).length_lt
  have length := r.length_parameter
  have long : r.content.pattern.dataLen = 66000 := by
    have members : r.content.pattern = Element.sequence
        (List.replicate 22000 (.uuid ServiceClass.audioSink)) :=
      congrArg Element.sequence List.map_replicate
    rw [members, Element.dataLen_list, List.map_replicate, List.sum_replicate]
    rfl
  have pattern := r.content.pattern.dataLen_le_encodedLen
  omega

end Request

end A2dpSink.Sdp
