import A2dpSink.Proofs.Sdp.Element.Structure
import A2dpSink.Proofs.Sdp.Readers

/-!
# Reading back written elements

An element whose strings and lists fit their size fields is read back from its written form, with
whatever stands behind it left over, exactly when its lists stand at most `maxNesting` deep. A
deeper one is refused as malformed.

The statement is proved for every number of levels the reader has left: a list uses up one level,
and the members are read with the others.
-/

namespace A2dpSink.Sdp.Element

/-- The most bytes of data that a size field can tell. -/
def sizeLimit : Nat := 2 ^ 32 - 1

mutual

/-- Whether every string and list inside an element, the element included, has few enough bytes of
data for its size field. -/
def fits : Element → Bool
  | string _ s => decide (s.length ≤ sizeLimit)
  | list kind ms => decide ((list kind ms).dataLen ≤ sizeLimit) && allFit ms
  | _ => true

/-- Whether all of the given elements fit. -/
def allFit : List Element → Bool
  | [] => true
  | m :: ms => m.fits && allFit ms

end

private theorem allFit_iff {ms : List Element} : allFit ms = true ↔ ∀ m ∈ ms, m.fits = true := by
  induction ms with
  | nil => simp [allFit]
  | cons m ms ih => simp [allFit, ih]

/-- A list fits if and only if its contents are within the limit and all members fit. -/
theorem fits_list_iff {kind : ListKind} {ms : List Element} :
    (list kind ms).fits = true ↔
      (list kind ms).dataLen ≤ sizeLimit ∧ ∀ m ∈ ms, m.fits = true := by
  simp [fits, allFit_iff]

private theorem decodeWith_descriptor {inner : Bytes → Except Fault (List Element)}
    {typeNumber sizeClass : Nat} (type : typeNumber < 32) (class_ : sizeClass < 8)
    (rest : Bytes) :
    decodeWith inner (descriptor typeNumber sizeClass :: rest) =
      decodeBody inner typeNumber sizeClass rest := by
  have byte : (descriptor typeNumber sizeClass).toBitVec.toNat = typeNumber * 8 + sizeClass :=
    toNat_descriptor type class_
  have high : (typeNumber * 8 + sizeClass) / 8 = typeNumber := by omega
  have low : (typeNumber * 8 + sizeClass) % 8 = sizeClass := by omega
  simp only [decodeWith, Read.guardedWord_cons, Except.bind, byte, high, low]

-- The data of a string or list is cut out at the length its header tells.
private theorem decodeWith_sizedHeader {inner : Bytes → Except Fault (List Element)}
    {typeNumber : Nat}
    (type : typeNumber < 32) {data : Bytes} (rest : Bytes) :
    decodeWith inner (sizedHeader typeNumber data.length ++ (data ++ rest)) =
      decodeBody inner typeNumber (sizeClassOf data.length)
        (Bytes.ofNat (sizeFieldLen data.length) data.length ++ (data ++ rest)) := by
  rw [sizedHeader, List.cons_append, decodeWith_descriptor type (sizeClassOf_lt _)]

private theorem decodeBody_unsigned (inner : Bytes → Except Fault (List Element)) (w : Width)
    (bytes : Bytes) :
    decodeBody inner 1 w.sizeClass bytes =
      (Read.guardedWord w.bytes bytes).map fun (v, rest) => (unsigned w v, rest) := by
  cases w <;> rfl

private theorem decodeBody_signed (inner : Bytes → Except Fault (List Element)) (w : Width)
    (bytes : Bytes) :
    decodeBody inner 2 w.sizeClass bytes =
      (Read.guardedWord w.bytes bytes).map fun (v, rest) => (signed w v, rest) := by
  cases w <;> rfl

private theorem sizeClass_lt (w : Width) : w.sizeClass < 8 := by cases w <;> decide

-- What is not a list is read back whatever reads the contents of lists.
private theorem decodeWith_leaf (inner : Bytes → Except Fault (List Element)) {e : Element}
    (leaf : e.members? = none) (fits : e.fits = true) (rest : Bytes) :
    decodeWith inner (e.encode ++ rest) = .ok (e, rest) := by
  cases e with
  | null => exact decodeWith_descriptor (by decide) (by decide) rest
  | unsigned w v =>
    rw [encode_unsigned, List.cons_append, decodeWith_descriptor (by decide) (sizeClass_lt w),
      decodeBody_unsigned, Read.guardedWord_append w.bytes v]
    rfl
  | signed w v =>
    rw [encode_signed, List.cons_append, decodeWith_descriptor (by decide) (sizeClass_lt w),
      decodeBody_signed, Read.guardedWord_append w.bytes v]
    rfl
  | uuid u =>
    cases u <;>
    · rw [encode_uuid, uuidSizeClass, List.cons_append,
        decodeWith_descriptor (by decide) (by decide)]
      simp [decodeBody, uuidBytes, Read.guardedWord_append, Except.map]
  | bool b =>
    rw [encode_bool, List.cons_append, decodeWith_descriptor (by decide) (by decide)]
    cases b <;> simp [decodeBody, Read.guardedWord_cons, Except.map]
  | string kind s =>
    have small : s.length < 2 ^ 32 := by
      have bound : s.length ≤ sizeLimit := by simpa [Element.fits] using fits
      rw [sizeLimit] at bound
      omega
    rw [encode_string, List.append_assoc]
    cases kind <;>
    · rw [decodeWith_sizedHeader (by decide)]
      simp [decodeBody, StringKind.typeNumber, Read.sized_append small, Except.map]
  | list kind ms => simp [members?] at leaf

-- A list is read back from its header if the contents are.
private theorem decodeWith_list (inner : Bytes → Except Fault (List Element)) {kind : ListKind}
    {ms : List Element} (fits : (list kind ms).fits = true) (rest : Bytes) :
    decodeWith inner ((list kind ms).encode ++ rest) =
      (inner (ms.flatMap encode)).map fun members => (list kind members, rest) := by
  have small : (ms.flatMap encode).length < 2 ^ 32 := by
    have bound := (fits_list_iff.mp fits).1
    rw [← length_flatMap_encode, sizeLimit] at bound
    omega
  rw [encode_list, ← length_flatMap_encode, List.append_assoc]
  generalize ms.flatMap encode = data at small
  cases kind <;>
  · rw [ListKind.typeNumber, decodeWith_sizedHeader (by decide)]
    simp [decodeBody, Read.sized_append small, Except.bind]

/-- With a given number of levels left, exactly the elements that are no deeper are read back. -/
theorem decodeAt_encode_append (e : Element) (fits : e.fits = true) (levels : Nat)
    (rest : Bytes) :
    decodeAt levels (e.encode ++ rest) =
      if e.depth ≤ levels then .ok (e, rest) else .error .malformed := by
  induction e using members_induction generalizing levels rest with
  | leaf e leaf =>
    rw [depth_of_not_list leaf, if_pos (Nat.zero_le levels)]
    cases levels <;> exact decodeWith_leaf _ leaf fits rest
  | node kind ms ih =>
    cases levels with
    | zero =>
      have deep : ¬ (list kind ms).depth ≤ 0 := Nat.not_le.mpr (depth_list_pos kind ms)
      rw [decodeAt, decodeWith_list _ fits, if_neg deep]
      rfl
    | succ levels =>
      -- The members have one level less left, and are as deep as that allows or are refused.
      have contents : Read.members (decodeAt levels) (ms.flatMap encode) =
          if ∀ m ∈ ms, m.depth ≤ levels then .ok ms else .error .malformed :=
        Read.members_flatMap (fun m _ => encode_ne_nil m)
          fun m h rest => ih m h ((fits_list_iff.mp fits).2 m h) levels rest
      rw [decodeAt, decodeWith_list _ fits, contents]
      simp only [depth_list_le_iff]
      split <;> rfl

/-- An element that fits and is not too deep is read back. -/
theorem decode_of_shallow {e : Element} (fits : e.fits = true) (shallow : e.depth ≤ maxNesting)
    (rest : Bytes) : decode (e.encode ++ rest) = .ok (e, rest) := by
  rw [decode, decodeAt_encode_append e fits, if_pos shallow]

/-- An element that fits is read back with what stands behind it left over, if its lists stand at
most `maxNesting` deep, and refused as malformed if they stand deeper. -/
theorem decode_encode_append (e : Element) (fits : e.fits = true) (rest : Bytes) :
    decode (e.encode ++ rest) =
      if e.depth ≤ maxNesting then .ok (e, rest) else .error .malformed :=
  decodeAt_encode_append e fits maxNesting rest

/-- A string of 300 bytes within 32 lists, where every size field takes two bytes, is read back, and
within 33 lists it is refused. -/
theorem decode_encode_append_boundary :
    (nest .alternative 32 (string .url (List.replicate 300 7))).fits = true ∧
      decode ((nest .alternative 32 (string .url (List.replicate 300 7))).encode ++ [0xFF]) =
        .ok (nest .alternative 32 (string .url (List.replicate 300 7)), [0xFF]) ∧
      (nest .sequence 33 (string .url (List.replicate 300 7))).fits = true ∧
      decode ((nest .sequence 33 (string .url (List.replicate 300 7))).encode ++ [0xFF]) =
        .error .malformed := by
  have shallow : (nest .alternative 32 (string .url (List.replicate 300 7))).fits = true := by
    decide +kernel
  have deep : (nest .sequence 33 (string .url (List.replicate 300 7))).fits = true := by
    decide +kernel
  refine ⟨shallow, ?_, deep, ?_⟩
  · rw [decode_encode_append _ shallow, if_pos (by decide +kernel)]
  · rw [decode_encode_append _ deep, if_neg (by decide +kernel)]

end A2dpSink.Sdp.Element
