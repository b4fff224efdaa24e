import A2dpSink.Sdp.Element.Encode
import Mathlib

/-!
# The structure of data elements

Depth, length and written form of an element are computed with accumulators. Here they get the
equations that follow the members of a list: the depth is one more than the greatest depth of a
member, the data of a list is the concatenation of what its members are written as, and
`length_encode` says that the length computed beforehand is the length of what is written.
-/

namespace A2dpSink.Sdp.Element

/-! ### Induction over the members of lists -/

mutual

private theorem induct_element {motive : Element → Prop}
    (leaf : ∀ e, e.members? = none → motive e)
    (node : ∀ kind ms, (∀ m ∈ ms, motive m) → motive (list kind ms)) : ∀ e, motive e
  | null => leaf _ rfl
  | unsigned _ _ => leaf _ rfl
  | signed _ _ => leaf _ rfl
  | uuid _ => leaf _ rfl
  | bool _ => leaf _ rfl
  | string _ _ => leaf _ rfl
  | list kind ms => node kind ms (induct_members leaf node ms)

private theorem induct_members {motive : Element → Prop}
    (leaf : ∀ e, e.members? = none → motive e)
    (node : ∀ kind ms, (∀ m ∈ ms, motive m) → motive (list kind ms)) :
    ∀ (ms : List Element), ∀ m ∈ ms, motive m
  | [], _, h => by cases h
  | first :: ms, m, h => by
    rcases List.mem_cons.mp h with same | h
    · exact same ▸ induct_element leaf node first
    · exact induct_members leaf node ms m h

end

/-- What holds of everything that is not a list, and of a list whenever it holds of its members,
holds of every element. -/
@[elab_as_elim]
theorem members_induction {motive : Element → Prop} (e : Element)
    (leaf : ∀ e, e.members? = none → motive e)
    (node : ∀ kind ms, (∀ m ∈ ms, motive m) → motive (list kind ms)) : motive e :=
  induct_element leaf node e

/-! ### Depth -/

section Depth

attribute [local simp] depth depthAll

private theorem depthAll_le_iff {deepest levels : Nat} {ms : List Element} :
    depthAll deepest ms ≤ levels ↔ deepest ≤ levels ∧ ∀ m ∈ ms, m.depth ≤ levels := by
  induction ms generalizing deepest with
  | nil => simp
  | cons m ms ih => simp only [depthAll, ih, Nat.max_le, List.forall_mem_cons, and_assoc]

/-- A list is as deep as its deepest member, and one level more. -/
theorem depth_list_le_iff {kind : ListKind} {ms : List Element} {levels : Nat} :
    (list kind ms).depth ≤ levels + 1 ↔ ∀ m ∈ ms, m.depth ≤ levels := by
  simp [depthAll_le_iff]

/-- A list has a level of its own. -/
theorem depth_list_pos (kind : ListKind) (ms : List Element) : 0 < (list kind ms).depth := by
  simp

/-- What is no list has no level. -/
theorem depth_of_not_list {e : Element} (h : e.members? = none) : e.depth = 0 := by
  cases e with
  | list kind ms => simp [members?] at h
  | _ => simp

end Depth

/-! ### Length -/

section Length

attribute [local simp] dataLen encodedLenAll

private theorem encodedLenAll_eq (sum : Nat) (ms : List Element) :
    encodedLenAll sum ms = sum + (ms.map encodedLen).sum := by
  induction ms generalizing sum with
  | nil => simp
  | cons m ms ih => simp [ih, encodedLen, Nat.add_assoc]

/-- The data of a list is what its members are written as. -/
theorem dataLen_list (kind : ListKind) (ms : List Element) :
    (list kind ms).dataLen = (ms.map encodedLen).sum := by
  simp [encodedLenAll_eq]

end Length

/-! ### The written form -/

section WrittenForm

attribute [local simp] encode encodeOnto encodeAllOnto

private theorem encodeAllOnto_eq {written : Bytes} {ms : List Element}
    (h : ∀ m ∈ ms, ∀ before, encodeOnto before m = m.encode.reverse ++ before) :
    encodeAllOnto written ms = (ms.flatMap encode).reverse ++ written := by
  induction ms generalizing written with
  | nil => simp
  | cons m ms ih =>
    rw [encodeAllOnto, h m List.mem_cons_self,
      ih fun m' h' => h m' (List.mem_cons_of_mem m h')]
    simp

/-- Writing in front of what is already there puts the reversed written form in front of it. -/
theorem encodeOnto_eq (e : Element) (written : Bytes) :
    encodeOnto written e = e.encode.reverse ++ written := by
  induction e using members_induction generalizing written with
  | leaf e h =>
    cases e with
    | list kind ms => simp [members?] at h
    | _ => simp [List.reverseAux_eq]
  | node kind ms ih =>
    simp [encodeAllOnto_eq ih, List.reverseAux_eq]

/-- An unsigned integer is written behind a descriptor with its width. -/
theorem encode_unsigned (w : Width) (v : BitVec w.bits) :
    (unsigned w v).encode = descriptor 1 w.sizeClass :: Bytes.ofWord w.bytes v := by
  simp [List.reverseAux_eq]

/-- A signed integer is written behind a descriptor with its width. -/
theorem encode_signed (w : Width) (v : BitVec w.bits) :
    (signed w v).encode = descriptor 2 w.sizeClass :: Bytes.ofWord w.bytes v := by
  simp [List.reverseAux_eq]

/-- A UUID is written behind a descriptor with its width. -/
theorem encode_uuid (u : Uuid) :
    (uuid u).encode = descriptor 3 (uuidSizeClass u) :: uuidBytes u := by
  simp [List.reverseAux_eq]

/-- A truth value is written as one byte behind its descriptor. -/
theorem encode_bool (b : Bool) :
    (bool b).encode = [descriptor 5 0, if b then 1 else 0] := by
  simp

/-- A string is written behind a descriptor and a field with its size. -/
theorem encode_string (kind : StringKind) (s : Bytes) :
    (string kind s).encode = sizedHeader kind.typeNumber s.length ++ s := by
  simp [List.reverseAux_eq]

/-- A list is written as its header and its members one after the other. -/
theorem encode_list (kind : ListKind) (ms : List Element) :
    (list kind ms).encode =
      sizedHeader kind.typeNumber (list kind ms).dataLen ++ ms.flatMap encode := by
  have members (written : Bytes) :
      encodeAllOnto written ms = (ms.flatMap encode).reverse ++ written :=
    encodeAllOnto_eq fun m _ => encodeOnto_eq m
  simp [dataLen, members, List.reverseAux_eq]

end WrittenForm

/-! ### The length of the written form -/

/-- The data are a part of what is written. -/
theorem dataLen_le_encodedLen (e : Element) : e.dataLen ≤ e.encodedLen :=
  Nat.le_add_left _ _

/-- Type number and size class stand in the upper five and the lower three bits of the first byte. -/
theorem toNat_descriptor {typeNumber sizeClass : Nat} (type : typeNumber < 32)
    (class_ : sizeClass < 8) :
    (descriptor typeNumber sizeClass).toNat = typeNumber * 8 + sizeClass :=
  UInt8.toNat_ofNat_of_lt' (by show typeNumber * 8 + sizeClass < 256; omega)

/-- The size class that is written for a size goes with the width of its field. -/
theorem sizeClassOf_cases (size : Nat) :
    sizeClassOf size = 5 ∧ sizeFieldLen size = 1 ∨ sizeClassOf size = 6 ∧ sizeFieldLen size = 2 ∨
      sizeClassOf size = 7 ∧ sizeFieldLen size = 4 := by
  unfold sizeClassOf sizeFieldLen
  split
  · exact .inl ⟨rfl, rfl⟩
  · split
    · exact .inr (.inl ⟨rfl, rfl⟩)
    · exact .inr (.inr ⟨rfl, rfl⟩)

/-- A size class takes three bits. -/
theorem sizeClassOf_lt (size : Nat) : sizeClassOf size < 8 := by
  have cases := sizeClassOf_cases size
  omega

private theorem length_sizedHeader (typeNumber size : Nat) :
    (sizedHeader typeNumber size).length = 1 + sizeFieldLen size := by
  simp [sizedHeader, Nat.add_comm]

/-- The length that is computed beforehand is the length of what is written. -/
theorem length_encode (e : Element) : e.encode.length = e.encodedLen := by
  induction e using members_induction with
  | leaf e h =>
    cases e with
    | null => rfl
    | unsigned w v =>
      have word : (Bytes.ofWord w.bytes v).length = w.bytes := Bytes.length_ofWord w.bytes v
      rw [encode_unsigned, List.length_cons, word, Nat.add_comm]
      simp [encodedLen, dataLen, isSized]
    | signed w v =>
      have word : (Bytes.ofWord w.bytes v).length = w.bytes := Bytes.length_ofWord w.bytes v
      rw [encode_signed, List.length_cons, word, Nat.add_comm]
      simp [encodedLen, dataLen, isSized]
    | uuid u => simp [encode_uuid, encodedLen, dataLen, isSized, Nat.add_comm]
    | bool b => simp [encode_bool, encodedLen, dataLen, isSized]
    | string kind s =>
      simp [encode_string, encodedLen, dataLen, isSized, length_sizedHeader]
    | list kind ms => simp [members?] at h
  | node kind ms ih =>
    have data : (ms.flatMap encode).length = (list kind ms).dataLen := by
      rw [dataLen_list, List.length_flatMap]
      exact congrArg List.sum (List.map_congr_left ih)
    rw [encode_list, List.length_append, length_sizedHeader, data]
    simp [encodedLen, isSized]

/-- The data of a list has the length that its header says. -/
theorem length_flatMap_encode (kind : ListKind) (ms : List Element) :
    (ms.flatMap encode).length = (list kind ms).dataLen := by
  rw [dataLen_list, List.length_flatMap]
  exact congrArg List.sum (List.map_congr_left fun m _ => length_encode m)

/-- Every element takes at least one byte. -/
theorem encode_ne_nil (e : Element) : e.encode ≠ [] := by
  intro h
  have length := length_encode e
  rw [h, encodedLen] at length
  simp only [List.length_nil] at length
  omega

end A2dpSink.Sdp.Element
