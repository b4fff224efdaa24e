/-!
# Byte strings and big-endian words

Byte strings are lists, so that every reader can be taken apart by recursion. `word` and `ofWord`
turn fixed-width numbers into bytes, most significant first, and back. `covers` asks whether a byte
string is long enough without walking past what is asked for.
-/

namespace A2dpSink

/-- A finite string of bytes. -/
abbrev Bytes := List UInt8

namespace Bytes

/-- The low `n` bytes of a number, most significant first. -/
def ofNat : Nat → Nat → Bytes
  | 0, _ => []
  | n + 1, v => ofNat n (v / 256) ++ [UInt8.ofNat (v % 256)]

/-- The number that bytes spell, most significant first. -/
def toNat (bytes : Bytes) : Nat :=
  bytes.foldl (fun acc b => acc * 256 + b.toNat) 0

/-- The bytes of a word of `n` bytes, most significant first. -/
def ofWord (n : Nat) (v : BitVec (8 * n)) : Bytes := ofNat n v.toNat

/-- The word of `n` bytes that bytes spell, most significant first. -/
def toWord (n : Nat) (bytes : Bytes) : BitVec (8 * n) := BitVec.ofNat (8 * n) bytes.toNat

/-- Whether at least `n` bytes are there. -/
def covers : Nat → Bytes → Bool
  | 0, _ => true
  | _ + 1, [] => false
  | n + 1, _ :: rest => covers n rest

/-- Bytes cover `n` if and only if there are at least `n` of them. -/
theorem covers_iff {n : Nat} {bytes : Bytes} : covers n bytes = true ↔ n ≤ bytes.length := by
  fun_induction covers n bytes with
  | case1 => simp
  | case2 => simp
  | case3 n b rest ih => simp [ih]

/-- A number is written in as many bytes as asked for. -/
@[simp] theorem length_ofNat (n v : Nat) : (ofNat n v).length = n := by
  induction n generalizing v with
  | zero => rfl
  | succ n ih => simp [ofNat, ih]

/-- A byte at the end is the lowest digit. -/
theorem toNat_append_singleton (bytes : Bytes) (b : UInt8) :
    toNat (bytes ++ [b]) = toNat bytes * 256 + b.toNat := by
  simp [toNat, List.foldl_append]

/-- A word is written in its own number of bytes. -/
@[simp] theorem length_ofWord (n : Nat) (v : BitVec (8 * n)) : (ofWord n v).length = n :=
  length_ofNat n v.toNat

end Bytes

end A2dpSink
