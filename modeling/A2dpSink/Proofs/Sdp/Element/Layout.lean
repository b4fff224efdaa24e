import A2dpSink.Proofs.Sdp.Element.Canonical

/-!
# Size fields in the written form

A string or list is written behind a first byte and a size field, and the width of the field depends on
the size, which for a list depends on the widths of the fields inside it. `LaidOut` says of an element
and its bytes that all these fields are right: at every depth the field tells how many bytes follow for
the element, and no narrower field could. The writer lays out every element that fits
(`sizes_exact`), and nothing else is laid out in any bytes (`laidOut_iff`).
-/

namespace A2dpSink.Sdp

/-- The widths a size field comes in. -/
def IsFieldLen (n : Nat) : Prop := n = 1 ∨ n = 2 ∨ n = 4

/-- A first byte and a size field that stand in front of `size` bytes of data. -/
structure Introduces (typeNumber size : Nat) (first : UInt8) (field : Bytes) : Prop where
  type : first.toNat / 8 = typeNumber
  /-- A reader that goes by the first byte takes this field, and the size from it. -/
  read : Read.size (first.toNat % 8) field = .ok (size, [])
  width : IsFieldLen field.length
  spelled : field.toNat = size
  narrowest : ∀ n, IsFieldLen n → size < 2 ^ (8 * n) → field.length ≤ n

/-! ### Size fields -/

private theorem isFieldLen_sizeFieldLen (size : Nat) : IsFieldLen (sizeFieldLen size) := by
  have cases := Element.sizeClassOf_cases size
  unfold IsFieldLen
  omega

/-- A size within the limit is held by the field that is chosen for it. -/
theorem lt_two_pow_sizeFieldLen {size : Nat} (h : size ≤ Element.sizeLimit) :
    size < 2 ^ (8 * sizeFieldLen size) := by
  unfold Element.sizeLimit at h
  unfold sizeFieldLen
  split
  · omega
  · split <;> omega

/-- The size class that is read with a size field goes with the width of the field. -/
theorem Read.sizeClass_of_size {sizeClass size : Nat} {field : Bytes}
    (h : Read.size sizeClass field = .ok (size, [])) :
    sizeClass = 5 ∧ field.length = 1 ∨ sizeClass = 6 ∧ field.length = 2 ∨
      sizeClass = 7 ∧ field.length = 4 := by
  have word {n : Nat}
      (read : ((guardedWord n field).map fun p => (p.1.toNat, p.2)) = .ok (size, [])) :
      field.length = n := by
    cases taken : guardedWord n field with
    | error fault => simp [taken, Except.map] at read
    | ok p =>
      simp only [taken, Except.map, Except.ok.injEq, Prod.mk.injEq] at read
      rw [guardedWord_ok taken, read.2, List.append_nil, Bytes.length_ofWord]
  unfold Read.size at h
  split at h
  · exact .inl ⟨rfl, word h⟩
  · exact .inr (.inl ⟨rfl, word h⟩)
  · exact .inr (.inr ⟨rfl, word h⟩)
  · cases h

private theorem introduces_descriptor {typeNumber size : Nat} (type : typeNumber < 32)
    (small : size ≤ Element.sizeLimit) :
    Introduces typeNumber size (descriptor typeNumber (sizeClassOf size))
      (Bytes.ofNat (sizeFieldLen size) size) := by
  have class_ := Element.sizeClassOf_lt size
  have byte := Element.toNat_descriptor type class_
  constructor
  case type => omega
  case read =>
    have low : (typeNumber * 8 + sizeClassOf size) % 8 = sizeClassOf size := by omega
    have back := Read.size_append (Nat.lt_of_le_pred (by decide) small) []
    rwa [List.append_nil, ← low, ← byte] at back
  case width =>
    rw [Bytes.length_ofNat]
    exact isFieldLen_sizeFieldLen size
  case spelled =>
    have held := lt_two_pow_sizeFieldLen small
    rw [Nat.pow_mul] at held
    rw [Bytes.toNat_ofNat]
    exact Nat.mod_eq_of_lt held
  case narrowest =>
    intro n width held
    rw [Bytes.length_ofNat]
    exact (Read.sizeFieldLen_le_of_lt width held).2

namespace Introduces

variable {typeNumber size : Nat} {first : UInt8} {field : Bytes}

private theorem size_lt (h : Introduces typeNumber size first field) :
    size < 2 ^ (8 * field.length) := by
  rw [Nat.pow_mul, ← h.spelled]
  exact field.toNat_lt

private theorem size_le (h : Introduces typeNumber size first field) : size ≤ Element.sizeLimit :=
  (Read.sizeFieldLen_le_of_lt h.width h.size_lt).1

/-- There is one first byte and one field for a type and a size. -/
theorem unique (h : Introduces typeNumber size first field) :
    first :: field = sizedHeader typeNumber size := by
  have length : field.length = sizeFieldLen size := by
    apply Nat.le_antisymm
    · exact h.narrowest _ (isFieldLen_sizeFieldLen size) (lt_two_pow_sizeFieldLen h.size_le)
    · exact (Read.sizeFieldLen_le_of_lt h.width h.size_lt).2
  have class_ : first.toNat % 8 = sizeClassOf size := by
    have read := Read.sizeClass_of_size h.read
    have written := Element.sizeClassOf_cases size
    omega
  have byte : first = descriptor typeNumber (sizeClassOf size) := by
    have parts : typeNumber * 8 + sizeClassOf size = first.toNat := by
      rw [← h.type, ← class_]
      exact Nat.div_add_mod' first.toNat 8
    rw [descriptor, parts, UInt8.ofNat_toNat]
  have digits : field = Bytes.ofNat (sizeFieldLen size) size := by
    rw [← length, ← h.spelled, Bytes.ofNat_toNat]
  rw [sizedHeader, byte, digits]

end Introduces

namespace Element

/-- How an element lies in its bytes. What carries no size lies there as it is written. A string lies
behind a size field for its length. A list lies behind a size field for the bytes of its members, which
lie one after the other. -/
inductive LaidOut : Element → Bytes → Prop
  | plain {e : Element} : e.isSized = false → LaidOut e e.encode
  | string {kind : StringKind} {s field : Bytes} {first : UInt8} :
      Introduces kind.typeNumber s.length first field →
      LaidOut (string kind s) (first :: (field ++ s))
  | list {kind : ListKind} {ms : List Element} {first : UInt8} {field : Bytes}
      {extents : List Bytes} :
      Introduces kind.typeNumber extents.flatten.length first field →
      List.Forall₂ LaidOut ms extents →
      LaidOut (list kind ms) (first :: (field ++ extents.flatten))

/-- The writer gives every size field of an element that fits its place and its width. -/
theorem laidOut_encode {e : Element} (fits : e.fits = true) : e.LaidOut e.encode := by
  induction e using members_induction with
  | leaf e leaf =>
    cases e with
    | string kind s =>
      have type : kind.typeNumber < 32 := by cases kind <;> decide
      rw [encode_string]
      exact .string (introduces_descriptor type (of_decide_eq_true fits))
    | list kind ms => simp [members?] at leaf
    | _ => exact .plain rfl
  | node kind ms ih =>
    obtain ⟨small, members⟩ := fits_list_iff.mp fits
    have type : kind.typeNumber < 32 := by cases kind <;> decide
    have data : ((ms.map encode).flatten).length = (Element.list kind ms).dataLen := by
      rw [← List.flatMap_def, length_flatMap_encode]
    have header := introduces_descriptor type small
    rw [← data] at header
    rw [encode_list, ← data, List.flatMap_def]
    refine .list header (List.forall₂_map_right_iff.mpr (List.forall₂_same.mpr ?_))
    exact fun m there => ih m there (members m there)

-- Members that are laid out in some bytes are laid out as they are written, if that is so for each
-- of them.
private theorem members_written {ms : List Element} {extents : List Bytes}
    (each : ∀ m ∈ ms, ∀ extent, m.LaidOut extent → m.fits = true ∧ extent = m.encode)
    (h : List.Forall₂ LaidOut ms extents) :
    (∀ m ∈ ms, m.fits = true) ∧ extents = ms.map encode := by
  induction h with
  | nil => exact ⟨List.forall_mem_nil _, rfl⟩
  | @cons m extent ms extents first others ih =>
    obtain ⟨fits, rfl⟩ := each m List.mem_cons_self extent first
    obtain ⟨fit, rfl⟩ := ih fun m' there => each m' (List.mem_cons_of_mem m there)
    exact ⟨List.forall_mem_cons.mpr ⟨fits, fit⟩, rfl⟩

/-- Whatever bytes an element is laid out in, it fits, and these are the bytes that are written. -/
theorem LaidOut.written {e : Element} {extent : Bytes} (h : e.LaidOut extent) :
    e.fits = true ∧ extent = e.encode := by
  induction e using members_induction generalizing extent with
  | leaf e leaf =>
    cases h with
    | plain unsized =>
      refine ⟨?_, rfl⟩
      cases e with
      | string kind s => cases unsized
      | list kind ms => cases unsized
      | _ => rfl
    | string header =>
      refine ⟨decide_eq_true header.size_le, ?_⟩
      rw [encode_string, ← header.unique, List.cons_append]
    | list => simp [members?] at leaf
  | node kind ms ih =>
    cases h with
    | plain unsized => cases unsized
    | list header members =>
      obtain ⟨fit, rfl⟩ := members_written ih members
      rw [← List.flatMap_def, length_flatMap_encode kind] at header
      refine ⟨fits_list_iff.mpr ⟨header.size_le, fit⟩, ?_⟩
      rw [encode_list, ← header.unique, List.flatMap_def, List.cons_append]

/-- The written form is the only layout of an element, and an element that does not fit has none. -/
theorem laidOut_iff {e : Element} {extent : Bytes} :
    e.LaidOut extent ↔ e.fits = true ∧ extent = e.encode := by
  constructor
  · exact LaidOut.written
  · rintro ⟨fits, rfl⟩
    exact laidOut_encode fits

/-- An element whose strings and lists have few enough bytes of data is written in as many bytes as
computed beforehand. In them each size field, at every depth, tells how many bytes follow for its
element, and is the narrowest of one, two or four bytes that holds that number. -/
theorem sizes_exact (e : Element) (fits : e.fits = true) :
    e.encode.length = e.encodedLen ∧ e.LaidOut e.encode :=
  ⟨length_encode e, laidOut_encode fits⟩

/-- A text of 251 bytes within two sequences, where every size takes one byte, and one of 252 bytes,
which makes the field of the outer sequence wider. -/
theorem sizes_exact_widening :
    let narrow := nest .sequence 2 (string .text (List.replicate 251 7))
    let wide := nest .sequence 2 (string .text (List.replicate 252 7))
    (narrow.fits = true ∧ narrow.encode.take 6 = [0x35, 255, 0x35, 253, 0x25, 251] ∧
        narrow.encode.length = 257 ∧ narrow.LaidOut narrow.encode) ∧
      wide.fits = true ∧ wide.encode.take 7 = [0x36, 1, 0, 0x35, 254, 0x25, 252] ∧
        wide.encode.length = 259 ∧ wide.LaidOut wide.encode := by
  intro narrow wide
  have fitsNarrow : narrow.fits = true := by decide +kernel
  have fitsWide : wide.fits = true := by decide +kernel
  have lenNarrow : narrow.encodedLen = 257 := by decide +kernel
  have lenWide : wide.encodedLen = 259 := by decide +kernel
  obtain ⟨lengthNarrow, laidNarrow⟩ := sizes_exact narrow fitsNarrow
  obtain ⟨lengthWide, laidWide⟩ := sizes_exact wide fitsWide
  exact ⟨⟨fitsNarrow, by decide +kernel, lengthNarrow.trans lenNarrow, laidNarrow⟩, fitsWide,
    by decide +kernel, lengthWide.trans lenWide, laidWide⟩

end Element

end A2dpSink.Sdp
