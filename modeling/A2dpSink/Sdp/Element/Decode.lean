import A2dpSink.Sdp.Element

/-!
# Reading data elements

The reader takes one element from the front of a byte string and gives back what follows it. It
accepts more than the writer produces: size fields wider than needed, any size class for the empty
element and any nonzero truth value. Lists may stand at most `maxNesting` deep.

Every read of bytes is guarded by a check that they are there. `Fault.malformed` is what the guards
report. A read without enough bytes would be `Fault.overrun`; keeping the two apart makes it a
statement about the guards that the second never arises.
-/

namespace A2dpSink.Sdp

/-- Why bytes could not be read. -/
inductive Fault where
  /-- The bytes are not the written form of anything. -/
  | malformed
  /-- More bytes were taken than are there. -/
  | overrun
  deriving DecidableEq, Repr

/-- What a reader gives: a value and the bytes behind it. -/
abbrev Reading (α : Type) := Except Fault (α × Bytes)

namespace Read

/-- Demands that at least `n` bytes are there. -/
def ensure (n : Nat) (bytes : Bytes) : Except Fault Unit :=
  if bytes.covers n then .ok () else .error .malformed

/-- Takes `n` bytes. -/
def take (n : Nat) (bytes : Bytes) : Reading Bytes :=
  if bytes.covers n then .ok (bytes.splitAt n) else .error .overrun

/-- Takes a word of `n` bytes, most significant first. -/
def word (n : Nat) (bytes : Bytes) : Reading (BitVec (8 * n)) :=
  (take n bytes).map fun (front, rest) => (Bytes.toWord n front, rest)

/-- Takes a word of `n` bytes after a check that it is there. -/
def guardedWord (n : Nat) (bytes : Bytes) : Reading (BitVec (8 * n)) :=
  (ensure n bytes).bind fun _ => word n bytes

/-- Takes the size field of a string or list. -/
def size (sizeClass : Nat) (bytes : Bytes) : Reading Nat :=
  match sizeClass with
  | 5 => (guardedWord 1 bytes).map fun (n, rest) => (n.toNat, rest)
  | 6 => (guardedWord 2 bytes).map fun (n, rest) => (n.toNat, rest)
  | 7 => (guardedWord 4 bytes).map fun (n, rest) => (n.toNat, rest)
  | _ => .error .malformed

/-- Takes a size field and as many bytes as it says. -/
def sized (sizeClass : Nat) (bytes : Bytes) : Reading Bytes :=
  (size sizeClass bytes).bind fun (n, rest) => (ensure n rest).bind fun _ => take n rest

end Read

/-- Reads one value after another until the bytes are used up, in front of which stand the values
of `found`, last one first. The number bounds the steps. -/
def Read.membersOnto {α : Type} (item : Bytes → Reading α) (found : List α) :
    Nat → Bytes → Except Fault (List α)
  | _, [] => .ok found.reverse
  | 0, _ :: _ => .error .malformed
  | fuel + 1, bytes =>
    match item bytes with
    | .error fault => .error fault
    | .ok (a, rest) => membersOnto item (a :: found) fuel rest

/-- Reads one value after another until the bytes are used up. Each value takes at least one byte,
so as many steps as there are bytes suffice. -/
def Read.members {α : Type} (item : Bytes → Reading α) (bytes : Bytes) : Except Fault (List α) :=
  membersOnto item [] bytes.length bytes

/-- The deepest nesting of lists that is read. -/
def maxNesting : Nat := 32

namespace Element

/-- Reads the data of an element whose first byte has been taken; `inner` reads the contents of a
list. -/
def decodeBody (inner : Bytes → Except Fault (List Element)) (typeNumber sizeClass : Nat)
    (bytes : Bytes) : Reading Element :=
  match typeNumber, sizeClass with
  | 0, _ => .ok (null, bytes)
  | 1, 0 => (Read.guardedWord 1 bytes).map fun (v, rest) => (unsigned .w8 v, rest)
  | 1, 1 => (Read.guardedWord 2 bytes).map fun (v, rest) => (unsigned .w16 v, rest)
  | 1, 2 => (Read.guardedWord 4 bytes).map fun (v, rest) => (unsigned .w32 v, rest)
  | 1, 3 => (Read.guardedWord 8 bytes).map fun (v, rest) => (unsigned .w64 v, rest)
  | 1, 4 => (Read.guardedWord 16 bytes).map fun (v, rest) => (unsigned .w128 v, rest)
  | 2, 0 => (Read.guardedWord 1 bytes).map fun (v, rest) => (signed .w8 v, rest)
  | 2, 1 => (Read.guardedWord 2 bytes).map fun (v, rest) => (signed .w16 v, rest)
  | 2, 2 => (Read.guardedWord 4 bytes).map fun (v, rest) => (signed .w32 v, rest)
  | 2, 3 => (Read.guardedWord 8 bytes).map fun (v, rest) => (signed .w64 v, rest)
  | 2, 4 => (Read.guardedWord 16 bytes).map fun (v, rest) => (signed .w128 v, rest)
  | 3, 1 => (Read.guardedWord 2 bytes).map fun (v, rest) => (uuid (.short v), rest)
  | 3, 2 => (Read.guardedWord 4 bytes).map fun (v, rest) => (uuid (.medium v), rest)
  | 3, 4 => (Read.guardedWord 16 bytes).map fun (v, rest) => (uuid (.full v), rest)
  | 4, c => (Read.sized c bytes).map fun (s, rest) => (string .text s, rest)
  | 5, 0 => (Read.guardedWord 1 bytes).map fun (v, rest) => (bool (v != 0), rest)
  | 6, c => (Read.sized c bytes).bind fun (content, rest) =>
    (inner content).map fun ms => (list .sequence ms, rest)
  | 7, c => (Read.sized c bytes).bind fun (content, rest) =>
    (inner content).map fun ms => (list .alternative ms, rest)
  | 8, c => (Read.sized c bytes).map fun (s, rest) => (string .url s, rest)
  | _, _ => .error .malformed

/-- Reads an element, the contents of lists with `inner`. -/
def decodeWith (inner : Bytes → Except Fault (List Element)) (bytes : Bytes) : Reading Element :=
  (Read.guardedWord 1 bytes).bind fun (first, rest) =>
    decodeBody inner (first.toNat / 8) (first.toNat % 8) rest

/-- Reads an element in which lists stand at most `levels` deep. -/
def decodeAt : (levels : Nat) → Bytes → Reading Element
  | 0 => decodeWith fun _ => .error .malformed
  | levels + 1 => decodeWith (Read.members (decodeAt levels))

/-- Reads an element from the front of a byte string. -/
def decode (bytes : Bytes) : Reading Element := decodeAt maxNesting bytes

/-- Reads elements from the front of a byte string until it is used up or one cannot be read, but at
least once. Each comes with the bytes behind it. The number bounds the steps. -/
def decodeRunOnto (found : List (Reading Element)) : Nat → Bytes → List (Reading Element)
  | 0, _ => found.reverse
  | fuel + 1, bytes =>
    match decode bytes with
    | .error fault => (.error fault :: found).reverse
    | .ok (e, []) => (.ok (e, []) :: found).reverse
    | .ok (e, rest) => decodeRunOnto (.ok (e, rest) :: found) fuel rest

/-- Reads elements from the front of a byte string until it is used up or one cannot be read, but at
least once. -/
def decodeRun (bytes : Bytes) : List (Reading Element) :=
  decodeRunOnto [] (bytes.length + 1) bytes

example : decode [0x35, 3, 0x09, 0x12, 0x34, 0xFF] = .ok (sequence [u16 0x1234], [0xFF]) := rfl
example : decode [0x35, 4, 0x09, 0x12, 0x34] = .error .malformed := rfl

end Element

end A2dpSink.Sdp
