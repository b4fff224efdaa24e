import A2dpSink.Sdp.Element.Decode
import A2dpSink.Sdp.Element.Encode
import Mathlib

/-!
# What readers make of written bytes

Each primitive reader undoes its writer and leaves what stands behind it alone, and what it has read
is what was written there. `members_flatMap` is the same for a sequence of values: they are read
back, unless one of them is refused.
-/

namespace A2dpSink

/-- Writing a number in `n` bytes and reading it back keeps what fits into them. -/
theorem Bytes.toNat_ofNat (n v : Nat) : toNat (ofNat n v) = v % 256 ^ n := by
  induction n generalizing v with
  | zero => simp [ofNat, toNat, Nat.mod_one]
  | succ n ih =>
    have low : (UInt8.ofNat (v % 256)).toNat = v % 256 := by simp
    rw [ofNat, toNat_append_singleton, ih, low, Nat.pow_succ, Nat.mul_comm (256 ^ n) 256,
      Nat.mod_mul]
    omega

/-- What is written is the part of a number that fits. -/
theorem Bytes.ofNat_mod (n v : Nat) : ofNat n (v % 2 ^ (8 * n)) = ofNat n v := by
  rw [Nat.pow_mul]
  show ofNat n (v % 256 ^ n) = ofNat n v
  induction n generalizing v with
  | zero => rfl
  | succ n ih =>
    have high : v % 256 ^ (n + 1) / 256 = v / 256 % 256 ^ n := by
      rw [Nat.pow_succ, Nat.mul_comm, Nat.mod_mul_right_div_self]
    have low : v % 256 ^ (n + 1) % 256 = v % 256 :=
      Nat.mod_mod_of_dvd v (Dvd.intro_left _ (Nat.pow_succ _ _).symm)
    rw [ofNat, ofNat, high, low, ih]

/-- A word is read back from its bytes. -/
@[simp] theorem Bytes.toWord_ofWord (n : Nat) (v : BitVec (8 * n)) :
    toWord n (ofWord n v) = v := by
  have bound : v.toNat < 256 ^ n := by
    have := v.isLt
    rwa [Nat.pow_mul] at this
  simp [toWord, ofWord, toNat_ofNat, Nat.mod_eq_of_lt bound]

/-- As many bytes as a number is written in spell a number that is written as these bytes. -/
theorem Bytes.ofNat_toNat (bytes : Bytes) : Bytes.ofNat bytes.length bytes.toNat = bytes := by
  induction bytes using List.reverseRecOn with
  | nil => rfl
  | append_singleton bytes b ih =>
    have low : b.toNat < 256 := b.toNat_lt
    have high : (Bytes.toNat bytes * 256 + b.toNat) / 256 = Bytes.toNat bytes := by omega
    have rest : (Bytes.toNat bytes * 256 + b.toNat) % 256 = b.toNat := by omega
    rw [List.length_append, List.length_singleton, Bytes.toNat_append_singleton, Bytes.ofNat, high,
      rest, ih, UInt8.ofNat_toNat]

/-- The number in some bytes is below 256 to the power of their length. -/
theorem Bytes.toNat_lt (bytes : Bytes) : bytes.toNat < 256 ^ bytes.length := by
  have spelled := Bytes.toNat_ofNat bytes.length bytes.toNat
  rw [Bytes.ofNat_toNat] at spelled
  rw [spelled]
  exact Nat.mod_lt _ (Nat.pow_pos (by decide))

private theorem Bytes.ofWord_toWord {n : Nat} {bytes : Bytes} (h : bytes.length = n) :
    Bytes.ofWord n (Bytes.toWord n bytes) = bytes := by
  subst h
  have bound : bytes.toNat < 2 ^ (8 * bytes.length) := by
    have := bytes.toNat_lt
    rwa [Nat.pow_mul]
  rw [Bytes.ofWord, Bytes.toWord, BitVec.toNat_ofNat, Nat.mod_eq_of_lt bound, Bytes.ofNat_toNat]

/-- A word of eight bits is one byte. -/
theorem Bytes.ofWord_one (v : BitVec (8 * 1)) : Bytes.ofWord 1 v = [UInt8.ofNat v.toNat] := by
  have small : v.toNat < 256 := v.isLt
  rw [Bytes.ofWord, Bytes.ofNat, Bytes.ofNat, Nat.mod_eq_of_lt small, List.nil_append]

namespace Sdp.Read

private theorem covers_append (front rest : Bytes) :
    Bytes.covers front.length (front ++ rest) = true := by
  rw [Bytes.covers_iff, List.length_append]
  exact Nat.le_add_right _ _

/-- Bytes that are there are enough. -/
theorem ensure_append (front rest : Bytes) : ensure front.length (front ++ rest) = .ok () := by
  rw [ensure, if_pos (covers_append front rest)]

/-- Bytes are taken from the front. -/
theorem take_append (front rest : Bytes) :
    take front.length (front ++ rest) = .ok (front, rest) := by
  rw [take, if_pos (covers_append front rest), List.splitAt_eq]
  simp

/-- A word is read back from its bytes. -/
theorem word_append (n : Nat) (v : BitVec (8 * n)) (rest : Bytes) :
    word n (Bytes.ofWord n v ++ rest) = .ok (v, rest) := by
  have taken := take_append (Bytes.ofWord n v) rest
  rw [Bytes.length_ofWord] at taken
  simp [word, taken, Except.map]

/-- A word is read back from the front. -/
theorem guardedWord_append (n : Nat) (v : BitVec (8 * n)) (rest : Bytes) :
    guardedWord n (Bytes.ofWord n v ++ rest) = .ok (v, rest) := by
  have there := ensure_append (Bytes.ofWord n v) rest
  rw [Bytes.length_ofWord] at there
  rw [guardedWord, there]
  exact word_append n v rest

/-- A single byte is read as the word it is. -/
theorem guardedWord_cons (b : UInt8) (rest : Bytes) :
    guardedWord 1 (b :: rest) = .ok (b.toBitVec, rest) := by
  have spelled : Bytes.ofWord 1 b.toBitVec = [b] := by
    rw [Bytes.ofWord_one]
    simp
  have := guardedWord_append 1 b.toBitVec rest
  rwa [spelled] at this

/-- A number that fits is read back from the front. -/
theorem guardedWord_ofNat {n v : Nat} (h : v < 2 ^ (8 * n)) (rest : Bytes) :
    guardedWord n (Bytes.ofNat n v ++ rest) = .ok (BitVec.ofNat (8 * n) v, rest) := by
  have spelled : Bytes.ofWord n (BitVec.ofNat (8 * n) v) = Bytes.ofNat n v := by
    rw [Bytes.ofWord, BitVec.toNat_ofNat, Nat.mod_eq_of_lt h]
  rw [← spelled, guardedWord_append]

/-- What was taken stood in front of what is left. -/
theorem take_ok {n : Nat} {bytes front rest : Bytes} (h : take n bytes = .ok (front, rest)) :
    bytes = front ++ rest ∧ front.length = n := by
  unfold take at h
  split at h
  · next covered =>
    have long := Bytes.covers_iff.mp covered
    simp only [List.splitAt_eq, Except.ok.injEq, Prod.mk.injEq] at h
    obtain ⟨rfl, rfl⟩ := h
    exact ⟨(List.take_append_drop n bytes).symm, List.length_take_of_le long⟩
  · cases h

/-- A word that was read stood, as it is written, in front of what is left. -/
theorem guardedWord_ok {n : Nat} {bytes rest : Bytes} {v : BitVec (8 * n)}
    (h : guardedWord n bytes = .ok (v, rest)) : bytes = Bytes.ofWord n v ++ rest := by
  unfold guardedWord at h
  cases there : ensure n bytes with
  | error fault => simp [there, Except.bind] at h
  | ok u =>
    cases taken : take n bytes with
    | error fault => simp [there, Except.bind, word, taken, Except.map] at h
    | ok pair =>
      obtain ⟨front, left⟩ := pair
      obtain ⟨eq, length⟩ := take_ok taken
      simp only [there, Except.bind, word, taken, Except.map, Except.ok.injEq,
        Prod.mk.injEq] at h
      obtain ⟨rfl, rfl⟩ := h
      rw [Bytes.ofWord_toWord length]
      exact eq

/-- A size field of the width that goes with its class is read back. -/
theorem size_append {n : Nat} (h : n < 2 ^ 32) (rest : Bytes) :
    size (sizeClassOf n) (Bytes.ofNat (sizeFieldLen n) n ++ rest) = .ok (n, rest) := by
  unfold sizeClassOf sizeFieldLen
  split
  · next short =>
    have small : n < 2 ^ (8 * 1) := by omega
    simp [size, guardedWord_ofNat small, Except.map]
    omega
  · split
    · next medium =>
      have small : n < 2 ^ (8 * 2) := by omega
      simp [size, guardedWord_ofNat small, Except.map]
      omega
    · have small : n < 2 ^ (8 * 4) := by omega
      simp [size, guardedWord_ofNat small, Except.map]
      omega

/-- Data behind a size field that tells its length is read back. -/
theorem sized_append {data : Bytes} (h : data.length < 2 ^ 32) (rest : Bytes) :
    sized (sizeClassOf data.length)
      (Bytes.ofNat (sizeFieldLen data.length) data.length ++ (data ++ rest)) =
        .ok (data, rest) := by
  rw [sized, size_append h]
  simp [Except.bind, ensure_append, take_append]

private theorem membersOnto_flatMap {α : Type} {item : Bytes → Reading α} {write : α → Bytes}
    {accepts : α → Prop} [DecidablePred accepts] {values : List α}
    (written : ∀ v ∈ values, write v ≠ [])
    (reads : ∀ v ∈ values, ∀ rest, item (write v ++ rest) =
      if accepts v then .ok (v, rest) else .error .malformed)
    (found : List α) (fuel : Nat) (enough : values.length ≤ fuel) :
    membersOnto item found fuel (values.flatMap write) =
      if ∀ v ∈ values, accepts v then .ok (found.reverse ++ values) else .error .malformed := by
  induction values generalizing found fuel with
  | nil => simp [membersOnto]
  | cons v values ih =>
    cases fuel with
    | zero => simp at enough
    | succ fuel =>
      obtain ⟨b, bytes, eq⟩ := List.exists_cons_of_ne_nil (written v List.mem_cons_self)
      have head := reads v List.mem_cons_self (values.flatMap write)
      have tail := ih (fun w h => written w (List.mem_cons_of_mem v h))
        (fun w h => reads w (List.mem_cons_of_mem v h)) (v :: found) fuel (by simpa using enough)
      rw [eq, List.cons_append] at head
      rw [List.flatMap_cons, eq, List.cons_append, membersOnto, head]
      · by_cases accepted : accepts v
        · simp [accepted, tail]
        · simp [accepted]
      · simp

private theorem length_le_length_flatMap {α : Type} {write : α → Bytes} {values : List α}
    (written : ∀ v ∈ values, write v ≠ []) : values.length ≤ (values.flatMap write).length := by
  induction values with
  | nil => simp
  | cons v values ih =>
    have first := List.length_pos_iff.mpr (written v List.mem_cons_self)
    have others := ih fun w h => written w (List.mem_cons_of_mem v h)
    rw [List.flatMap_cons, List.length_append, List.length_cons]
    omega

/-- Values written one after the other are read back if each of them is accepted, and refused if one
is not. -/
theorem members_flatMap {α : Type} {item : Bytes → Reading α} {write : α → Bytes}
    {accepts : α → Prop} [DecidablePred accepts] {values : List α}
    (written : ∀ v ∈ values, write v ≠ [])
    (reads : ∀ v ∈ values, ∀ rest, item (write v ++ rest) =
      if accepts v then .ok (v, rest) else .error .malformed) :
    members item (values.flatMap write) =
      if ∀ v ∈ values, accepts v then .ok values else .error .malformed := by
  rw [members, membersOnto_flatMap written reads [] _ (length_le_length_flatMap written)]
  simp

end Sdp.Read

end A2dpSink
