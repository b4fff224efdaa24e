import A2dpSink.Uuid

/-!
# UUIDs of different widths

Two UUIDs are equivalent when they stand for the same 128-bit value. The base has only zeros where a
short form puts its number, so the value of a short form is its number in front of the low bits of the
base (`expandMedium_eq_append`). Number and low bits can be told from the value again, and that settles
which UUIDs of which widths are equivalent (`equiv_exact`).
-/

namespace A2dpSink.Uuid

/-- A UUID in one of the two short forms, written with a number. -/
inductive Abbreviates : Uuid → Nat → Prop
  | short (n : BitVec 16) : Abbreviates (short n) n.toNat
  | medium (n : BitVec 32) : Abbreviates (medium n) n.toNat

/-- The low bits of the base, which stand behind the number of every short form. -/
def baseTail : BitVec 96 := base.extractLsb' 0 shift

/-! ### Values of short forms -/

private theorem expandMedium_eq_append (n : BitVec 32) : expandMedium n = n ++ baseTail := by
  -- This is where the top 32 bits of the base have to be zero.
  have zeros : base = BitVec.setWidth' (Nat.le_add_left 96 32) baseTail := by decide
  rw [BitVec.append_def, BitVec.shiftLeftZeroExtend_eq, ← zeros]
  rfl

private theorem expandMedium_inj {m n : BitVec 32} : expandMedium m = expandMedium n ↔ m = n := by
  rw [expandMedium_eq_append, expandMedium_eq_append]
  exact BitVec.append_left_inj baseTail

/-- A value is that of a short form if its low bits are those of the base, and its top bits are then
the number. -/
theorem eq_expandMedium_iff {u : BitVec 128} {n : BitVec 32} :
    u = expandMedium n ↔ u.extractLsb' 0 96 = baseTail ∧ u.extractLsb' 96 32 = n := by
  rw [expandMedium_eq_append]
  constructor
  · rintro rfl
    exact ⟨BitVec.extractLsb'_append_eq_right, BitVec.extractLsb'_append_eq_left⟩
  · rintro ⟨tail, rfl⟩
    rw [← tail]
    exact (@BitVec.extractLsb'_append_extractLsb' 32 96 u).symm

/-- A UUID of 16 bits stands for the same value when it is written with 32 bits first. -/
theorem expand_widen (n : BitVec 16) : (short n).expand = (medium (widen n)).expand := by
  have wide : n.setWidth 128 = (widen n).setWidth 128 :=
    (BitVec.setWidth_setWidth (by decide)).symm
  show n.setWidth 128 <<< shift ||| base = (widen n).setWidth 128 <<< shift ||| base
  rw [wide]

private theorem Abbreviates.exists_expand {s : Uuid} {n : Nat} (h : s.Abbreviates n) :
    ∃ w : BitVec 32, w.toNat = n ∧ s.expand = expandMedium w := by
  cases h with
  | short n =>
    refine ⟨widen n, ?_, expand_widen n⟩
    exact BitVec.toNat_setWidth_of_le (by decide)
  | medium n => exact ⟨n, rfl, rfl⟩

/-! ### Equivalence -/

private theorem Abbreviates.equiv_iff {s t : Uuid} {m n : Nat} (hs : s.Abbreviates m)
    (ht : t.Abbreviates n) : s ≈ t ↔ m = n := by
  obtain ⟨v, rfl, left⟩ := hs.exists_expand
  obtain ⟨w, rfl, right⟩ := ht.exists_expand
  show s.expand = t.expand ↔ _
  rw [left, right, expandMedium_inj, BitVec.toNat_inj]

private theorem Abbreviates.full_equiv_iff {s : Uuid} {n : Nat} (h : s.Abbreviates n)
    (u : BitVec 128) :
    full u ≈ s ↔ u.extractLsb' 0 96 = baseTail ∧ (u.extractLsb' 96 32).toNat = n := by
  obtain ⟨w, rfl, value⟩ := h.exists_expand
  show u = s.expand ↔ _
  rw [value, eq_expandMedium_iff, BitVec.toNat_inj]

/-- UUIDs of 16 bits mean the same class only if they are the same. -/
theorem short_equiv_iff {m n : BitVec 16} : short m ≈ short n ↔ m = n := by
  rw [(Abbreviates.short m).equiv_iff (.short n), BitVec.toNat_inj]

/-- What equivalence says of UUIDs of any two widths. Short forms are equivalent when their numbers are
equal, and a full UUID is equivalent to a short form when it has the low 96 bits of the base and the
number above them. Full UUIDs are equivalent only to themselves. A number of 16 bits stands for the
same value whether it is expanded at once or written with 32 bits first. -/
theorem equiv_exact :
    Equivalence (fun s t : Uuid => s ≈ t) ∧
      (∀ {s t : Uuid} {m n : Nat}, s.Abbreviates m → t.Abbreviates n → (s ≈ t ↔ m = n)) ∧
      (∀ {s : Uuid} {n : Nat} (u : BitVec 128), s.Abbreviates n →
        (full u ≈ s ↔
          u.extractLsb' 0 96 = base.extractLsb' 0 96 ∧ (u.extractLsb' 96 32).toNat = n)) ∧
      (∀ u v : BitVec 128, full u ≈ full v ↔ u = v) ∧
      ∀ n : BitVec 16, (short n).expand = (medium (widen n)).expand := by
  refine ⟨⟨Setoid.refl, Setoid.symm, Setoid.trans⟩, ?_, ?_, ?_, expand_widen⟩
  · exact fun hs ht => hs.equiv_iff ht
  · exact fun u h => h.full_equiv_iff u
  · exact fun u v => Iff.rfl

/-- The class of audio sinks in its three widths. It is neither the class whose number has the same low
16 bits, nor a full UUID with one other bit at its end. -/
theorem equiv_exact_audioSink :
    (short 0x110B).Abbreviates 0x110B ∧ (medium 0x110B).Abbreviates 0x110B ∧
      (medium 0x1110B).Abbreviates 0x1110B ∧
      short 0x110B ≈ medium 0x110B ∧ ¬ short 0x110B ≈ medium 0x1110B ∧
      full 0x0000110B_0000_1000_8000_00805F9B34FB#128 ≈ short 0x110B ∧
      ¬ full 0x0001110B_0000_1000_8000_00805F9B34FB#128 ≈ short 0x110B ∧
      full 0x0001110B_0000_1000_8000_00805F9B34FB#128 ≈ medium 0x1110B ∧
      ¬ full 0x0000110B_0000_1000_8000_00805F9B34FA#128 ≈ short 0x110B := by
  have sink : (short 0x110B).Abbreviates 0x110B := .short 0x110B
  have wide : (medium 0x110B).Abbreviates 0x110B := .medium 0x110B
  have other : (medium 0x1110B).Abbreviates 0x1110B := .medium 0x1110B
  obtain ⟨-, shorts, fulls, -⟩ := equiv_exact
  refine ⟨sink, wide, other, (shorts sink wide).mpr rfl, ?_, ?_, ?_, ?_, ?_⟩
  · rw [shorts sink other]
    decide
  · rw [fulls _ sink]
    decide
  · rw [fulls _ sink]
    decide
  · rw [fulls _ other]
    decide
  · rw [fulls _ sink]
    decide

end A2dpSink.Uuid
