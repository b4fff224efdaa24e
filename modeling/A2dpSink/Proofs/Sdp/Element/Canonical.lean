import A2dpSink.Proofs.Sdp.Element.RoundTrip
import A2dpSink.Proofs.Sdp.Nesting

/-!
# The canonical form of what is read

The reader accepts several spellings of one element: size fields may be wider than needed, the empty
element may stand under any size class, and every byte but zero is the true truth value. The writer
has one spelling for each element. It takes no more bytes than were read, and is read back as the
same element, so writing what was read changes nothing when it is done again (`canonical_of_decode`).

Each reader is followed by what it takes from the front of its bytes. The size field of a list may
tell more bytes than its members need when they are written again, but a smaller size never needs a
wider field, and that carries the bound from the members to the list.
-/

namespace A2dpSink.Sdp

/-! ### What readers take -/

namespace Read

/-- A word that is read stands in front of what is left. -/
theorem within_guardedWord_append (n : Nat) (bytes : Bytes) :
    Within (fun p => bytes = Bytes.ofWord n p.1 ++ p.2) (guardedWord n bytes) :=
  (within_guardedWord n bytes).of_ok fun _ read => guardedWord_ok read

/-- A number that a size field of one of the three widths tells needs no wider one. -/
theorem sizeFieldLen_le_of_lt {n v : Nat} (width : n = 1 ∨ n = 2 ∨ n = 4)
    (small : v < 2 ^ (8 * n)) : v ≤ Element.sizeLimit ∧ sizeFieldLen v ≤ n := by
  unfold Element.sizeLimit sizeFieldLen
  rcases width with rfl | rfl | rfl
  · rw [if_pos (by omega)]
    omega
  · split
    · omega
    · rw [if_pos (by omega)]
      omega
  · split
    · omega
    · split <;> omega

/-- A size takes a field that is wide enough for it. -/
theorem within_size_append (sizeClass : Nat) (bytes : Bytes) :
    Within (fun p => p.1 ≤ Element.sizeLimit ∧
      ∃ field, bytes = field ++ p.2 ∧ sizeFieldLen p.1 ≤ field.length)
      (size sizeClass bytes) := by
  have field {n : Nat} (width : n = 1 ∨ n = 2 ∨ n = 4) :
      Within (fun p => p.1 ≤ Element.sizeLimit ∧
        ∃ field, bytes = field ++ p.2 ∧ sizeFieldLen p.1 ≤ field.length)
        ((guardedWord n bytes).map fun p => (p.1.toNat, p.2)) := by
    apply (within_guardedWord_append n bytes).map
    intro p eq
    obtain ⟨limited, long⟩ := sizeFieldLen_le_of_lt width p.1.isLt
    refine ⟨limited, Bytes.ofWord n p.1, eq, ?_⟩
    rwa [Bytes.length_ofWord]
  unfold size
  split
  · exact field (.inl rfl)
  · exact field (.inr (.inl rfl))
  · exact field (.inr (.inr rfl))
  · rfl

/-- Data behind a size field takes the field and itself. -/
theorem within_sized_append (sizeClass : Nat) (bytes : Bytes) :
    Within (fun p => p.1.length ≤ Element.sizeLimit ∧
      ∃ field, bytes = field ++ (p.1 ++ p.2) ∧ sizeFieldLen p.1.length ≤ field.length)
      (sized sizeClass bytes) := by
  apply (within_size_append sizeClass bytes).bind
  rintro ⟨n, rest⟩ ⟨limited, field, rfl, long⟩
  apply (within_ensure n rest).bind
  intro _ there
  apply (within_take there).of_ok
  intro p taken
  obtain ⟨rfl, rfl⟩ := take_ok taken
  exact ⟨limited, field, rfl, long⟩

/-- Values that each have a property, and take no more bytes than were read for them, take together
no more bytes than there are. -/
theorem within_members {α : Type} {item : Bytes → Reading α} {P : α → Prop} (length : α → Nat)
    (consumes : Consumes item)
    (draws : ∀ bytes, Within (fun p => P p.1 ∧ length p.1 + p.2.length ≤ bytes.length) (item bytes))
    (bytes : Bytes) :
    Within (fun values => (∀ v ∈ values, P v) ∧ (values.map length).sum ≤ bytes.length)
      (members item bytes) := by
  rw [← Checked.rounds_eq_members consumes]
  suffices h : ∀ n, bytes.length ≤ n →
      Within (fun values => (∀ v ∈ values, P v) ∧ (values.map length).sum ≤ bytes.length)
        (Checked.rounds item n bytes) from h _ (Nat.le_refl _)
  intro n enough
  induction n generalizing bytes with
  | zero =>
    rw [List.length_eq_zero_iff.mp (Nat.le_zero.mp enough)]
    simp [Checked.rounds, Within]
  | succ n ih =>
    cases bytes with
    | nil => simp [Checked.rounds, Within]
    | cons b bytes =>
      rw [Checked.rounds]
      apply ((consumes (b :: bytes)).and (draws (b :: bytes))).bind
      rintro p ⟨shorter, holds, drawn⟩
      have left : p.2.length ≤ n := Nat.le_of_lt_succ (Nat.lt_of_lt_of_le shorter enough)
      apply (ih p.2 left).map
      intro values found
      refine ⟨List.forall_mem_cons.mpr ⟨holds, found.1⟩, ?_⟩
      rw [List.map_cons, List.sum_cons]
      exact Nat.le_trans (Nat.add_le_add_left found.2 _) drawn

end Read

namespace Element

/-! ### What is read is short -/

private theorem sizeFieldLen_mono {m n : Nat} (h : m ≤ n) : sizeFieldLen m ≤ sizeFieldLen n := by
  unfold sizeFieldLen
  repeat' split
  all_goals omega

/-- What was read from bytes of which the first `taken` are missing: it stood in front of what is
left, is written in no more bytes, and its lists stand at most `levels` deep. -/
structure Drawn (levels taken : Nat) (bytes : Bytes) (p : Element × Bytes) : Prop where
  front : ∃ front, bytes = front ++ p.2 ∧ p.1.encodedLen ≤ taken + front.length
  fits : p.1.fits = true
  shallow : p.1.depth ≤ levels

/-- An element without a size field, with `n` bytes of data. -/
structure IsPlain (n : Nat) (e : Element) : Prop where
  leaf : e.members? = none
  fits : e.fits = true
  length : e.encodedLen = 1 + n

section Body

variable {levels : Nat} {inner : Bytes → Except Fault (List Element)}

/-- What the reader of the contents of lists gives: members that are written in no more bytes, and
make a list that is not too deep. -/
def Gathers (levels : Nat) (inner : Bytes → Except Fault (List Element)) : Prop :=
  ∀ content, Within (fun ms => (∀ m ∈ ms, m.fits = true) ∧
    (ms.map encodedLen).sum ≤ content.length ∧ ∀ kind, (list kind ms).depth ≤ levels)
    (inner content)

private theorem within_word {n : Nat} (f : BitVec (8 * n) → Element)
    (plain : ∀ v, IsPlain n (f v)) (bytes : Bytes) :
    Within (Drawn levels 1 bytes) ((Read.guardedWord n bytes).map fun p => (f p.1, p.2)) := by
  apply (Read.within_guardedWord_append n bytes).map
  intro p eq
  refine ⟨⟨_, eq, ?_⟩, (plain p.1).fits, ?_⟩
  · rw [(plain p.1).length, Bytes.length_ofWord]
  · rw [depth_of_not_list (plain p.1).leaf]
    exact Nat.zero_le _

private theorem within_uuid {n : Nat} (f : BitVec (8 * n) → Uuid)
    (written : (fun v => uuidBytes (f v)) = Bytes.ofWord n) (bytes : Bytes) :
    Within (Drawn levels 1 bytes)
      ((Read.guardedWord n bytes).map fun p => (uuid (f p.1), p.2)) := by
  apply within_word fun v => uuid (f v)
  intro v
  have length : (uuidBytes (f v)).length = n := by
    rw [congrFun written v, Bytes.length_ofWord]
  exact ⟨rfl, rfl, by simp [encodedLen, dataLen, isSized, length]⟩

private theorem within_string (kind : StringKind) (sizeClass : Nat) (bytes : Bytes) :
    Within (Drawn levels 1 bytes)
      ((Read.sized sizeClass bytes).map fun p => (string kind p.1, p.2)) := by
  apply (Read.within_sized_append sizeClass bytes).map
  rintro ⟨s, rest⟩ ⟨limited, field, rfl, wide⟩
  refine ⟨⟨field ++ s, (List.append_assoc _ _ _).symm, ?_⟩, decide_eq_true limited, Nat.zero_le _⟩
  have written : (string kind s).encodedLen = 1 + sizeFieldLen s.length + s.length := by
    simp [encodedLen, dataLen, isSized]
  rw [written, List.length_append]
  show 1 + sizeFieldLen s.length + s.length ≤ 1 + (field.length + s.length)
  have : sizeFieldLen s.length ≤ field.length := wide
  omega

private theorem within_list (contents : Gathers levels inner) (kind : ListKind) (sizeClass : Nat)
    (bytes : Bytes) :
    Within (Drawn levels 1 bytes)
      ((Read.sized sizeClass bytes).bind fun p =>
        (inner p.1).map fun ms => (list kind ms, p.2)) := by
  apply (Read.within_sized_append sizeClass bytes).bind
  rintro ⟨content, rest⟩ ⟨limited, field, rfl, wide⟩
  apply (contents content).map
  rintro ms ⟨fit, short, shallow⟩
  rw [← dataLen_list kind] at short
  have narrow := sizeFieldLen_mono short
  have written : (list kind ms).encodedLen =
      1 + sizeFieldLen (list kind ms).dataLen + (list kind ms).dataLen := by
    simp [encodedLen, isSized]
  refine ⟨⟨field ++ content, (List.append_assoc _ _ _).symm, ?_⟩, ?_, shallow kind⟩
  · rw [written, List.length_append]
    have : sizeFieldLen content.length ≤ field.length := wide
    omega
  · exact fits_list_iff.mpr ⟨Nat.le_trans short limited, fit⟩

private theorem within_decodeBody_drawn (contents : Gathers levels inner)
    (typeNumber sizeClass : Nat) (bytes : Bytes) :
    Within (Drawn levels 1 bytes) (decodeBody inner typeNumber sizeClass bytes) := by
  unfold decodeBody
  split <;> first
    | exact ⟨⟨[], rfl, Nat.le_refl _⟩, rfl, Nat.zero_le _⟩
    | exact within_string _ _ bytes
    | exact within_list contents _ _ bytes
    | rfl
    | exact within_uuid (n := 2) .short rfl bytes
    | exact within_uuid (n := 4) .medium rfl bytes
    | exact within_uuid (n := 16) .full rfl bytes
    | exact within_word (fun v => bool (v != 0)) (fun _ => ⟨rfl, rfl, rfl⟩) bytes
    | apply within_word
      intro v
      exact ⟨rfl, rfl, by simp [encodedLen, dataLen, isSized, Width.bytes]⟩

/-- An element is written in no more bytes than it was read from. -/
theorem within_decodeWith_drawn (contents : Gathers levels inner) (bytes : Bytes) :
    Within (Drawn levels 0 bytes) (decodeWith inner bytes) := by
  apply (Read.within_guardedWord_append 1 bytes).bind
  rintro ⟨first, rest⟩ rfl
  apply (within_decodeBody_drawn contents _ _ rest).mono
  rintro p ⟨⟨front, rfl, short⟩, fits, shallow⟩
  refine ⟨⟨Bytes.ofWord 1 first ++ front, (List.append_assoc _ _ _).symm, ?_⟩, fits, shallow⟩
  rw [List.length_append, Bytes.length_ofWord]
  omega

end Body

private theorem Drawn.length_le {levels : Nat} {bytes : Bytes} {p : Element × Bytes}
    (h : Drawn levels 0 bytes p) : p.1.encodedLen + p.2.length ≤ bytes.length := by
  obtain ⟨front, rfl, short⟩ := h.front
  rw [List.length_append]
  omega

/-- The bound goes down with the levels: what holds of the members with one level less holds of the
list. -/
theorem within_decodeAt (levels : Nat) (bytes : Bytes) :
    Within (Drawn levels 0 bytes) (decodeAt levels bytes) := by
  induction levels generalizing bytes with
  | zero =>
    apply within_decodeWith_drawn
    intro content
    rfl
  | succ levels ih =>
    apply within_decodeWith_drawn
    intro content
    have draws (bytes : Bytes) :
        Within (fun p => (p.1.fits = true ∧ p.1.depth ≤ levels) ∧
          p.1.encodedLen + p.2.length ≤ bytes.length) (decodeAt levels bytes) :=
      (ih bytes).mono fun p drawn => ⟨⟨drawn.fits, drawn.shallow⟩, drawn.length_le⟩
    apply (Read.within_members (P := fun m => m.fits = true ∧ m.depth ≤ levels) encodedLen
      (consumes_decodeAt levels) draws content).mono
    rintro ms ⟨each, short⟩
    exact ⟨fun m there => (each m there).1, short,
      fun kind => depth_list_le_iff.mpr fun m there => (each m there).2⟩

/-! ### The number of elements -/

mutual

/-- How many elements an element consists of: itself, and those inside it. -/
def count : Element → Nat
  | list _ ms => countAll ms + 1
  | _ => 1

/-- How many elements the given ones consist of. -/
def countAll : List Element → Nat
  | [] => 0
  | m :: ms => m.count + countAll ms

end

private theorem countAll_le {ms : List Element} (h : ∀ m ∈ ms, m.count ≤ m.encodedLen) :
    countAll ms ≤ (ms.map encodedLen).sum := by
  induction ms with
  | nil => simp [countAll]
  | cons m ms ih =>
    rw [countAll, List.map_cons, List.sum_cons]
    exact Nat.add_le_add (h m List.mem_cons_self)
      (ih fun m' there => h m' (List.mem_cons_of_mem m there))

/-- Every element inside another one is written in a byte of its own at least. -/
theorem count_le_encodedLen (e : Element) : e.count ≤ e.encodedLen := by
  induction e using members_induction with
  | leaf e leaf =>
    have one : e.count = 1 := by
      cases e with
      | list kind ms => simp [members?] at leaf
      | _ => simp [count]
    rw [one, encodedLen]
    omega
  | node kind ms ih =>
    have members := countAll_le ih
    rw [← dataLen_list kind] at members
    rw [count, encodedLen]
    omega

/-! ### Writing what was read -/

/-- The written form of the element that a byte string starts with. -/
def reencode (bytes : Bytes) : Except Fault Bytes := (decode bytes).map fun p => p.1.encode

/-- What is read stood in front of what is left, and its written form is at most as long. The element
is within the bounds of the writer and of the reader, so that the written form is read back, and it
consists of no more elements than there were bytes. -/
theorem canonical_of_decode {bytes rest : Bytes} {e : Element} (h : decode bytes = .ok (e, rest)) :
    ∃ front, bytes = front ++ rest ∧ 1 ≤ front.length ∧ front.length ≤ bytes.length ∧
      e.depth ≤ maxNesting ∧ e.encodedLen ≤ front.length ∧ e.fits = true ∧
      decode e.encode = .ok (e, []) ∧
      (reencode bytes = .ok e.encode ∧ reencode e.encode = .ok e.encode) ∧
      e.count ≤ front.length := by
  have within := within_decodeAt maxNesting bytes
  rw [← decode, h] at within
  obtain ⟨⟨front, rfl, short⟩, fits, shallow⟩ := within
  rw [Nat.zero_add] at short
  have counted := Nat.le_trans e.count_le_encodedLen short
  have positive : 1 ≤ e.encodedLen := by
    rw [encodedLen]
    omega
  have back := decode_of_shallow fits shallow []
  rw [List.append_nil] at back
  have again : reencode e.encode = .ok e.encode := by
    rw [reencode, back]
    rfl
  have once : reencode (front ++ rest) = .ok e.encode := by
    rw [reencode, h]
    rfl
  refine ⟨front, rfl, Nat.le_trans positive short, ?_, shallow, short, fits, back, ⟨once, again⟩,
    counted⟩
  rw [List.length_append]
  exact Nat.le_add_right _ _

/-- A sequence whose size takes four bytes, with an empty element of size class 7, a truth value of 9
and an alternative whose size takes two bytes: it is read, and written in 11 bytes instead of 15. -/
theorem canonical_of_decode_wide :
    decode [0x37, 0, 0, 0, 10, 0x07, 0x28, 9, 0x3E, 0, 4, 0x25, 2, 0x41, 0x42, 0xFF] =
        .ok (sequence [null, bool true, alternative [string .text [0x41, 0x42]]], [0xFF]) ∧
      reencode [0x37, 0, 0, 0, 10, 0x07, 0x28, 9, 0x3E, 0, 4, 0x25, 2, 0x41, 0x42, 0xFF] =
        .ok [0x35, 9, 0, 0x28, 1, 0x3D, 4, 0x25, 2, 0x41, 0x42] := by
  have read : decode [0x37, 0, 0, 0, 10, 0x07, 0x28, 9, 0x3E, 0, 4, 0x25, 2, 0x41, 0x42, 0xFF] =
      .ok (sequence [null, bool true, alternative [string .text [0x41, 0x42]]], [0xFF]) := by
    rfl
  obtain ⟨front, -, -, -, -, -, -, -, ⟨once, -⟩, -⟩ := canonical_of_decode read
  exact ⟨read, once⟩

end Element

end A2dpSink.Sdp
