import A2dpSink.Sdp.Element

/-!
# Writing data elements

An element is written as one byte that gives its type and size class, a size field if the type has
one, and its data. Strings and lists carry the length of their data in 1, 2 or 4 bytes, the fewest
that hold it. `encodedLen` computes the length of the written form without writing it, and the
writer takes the size fields from the same count.

Bytes are written back to front in front of a list, so that long lists of members need no deep
recursion; `encode` turns the result round.
-/

namespace A2dpSink.Sdp

/-- The size class of a fixed width: its place among the five widths. -/
def Width.sizeClass : Width → Nat
  | .w8 => 0
  | .w16 => 1
  | .w32 => 2
  | .w64 => 3
  | .w128 => 4

/-- The bytes of a UUID, most significant first. -/
def uuidBytes : Uuid → Bytes
  | .short n => Bytes.ofWord 2 n
  | .medium n => Bytes.ofWord 4 n
  | .full n => Bytes.ofWord 16 n

/-- The size class of a UUID. -/
def uuidSizeClass : Uuid → Nat
  | .short _ => 1
  | .medium _ => 2
  | .full _ => 4

/-- The type number of a byte string. -/
def StringKind.typeNumber : StringKind → Nat
  | .text => 4
  | .url => 8

/-- The type number of a list. -/
def ListKind.typeNumber : ListKind → Nat
  | .sequence => 6
  | .alternative => 7

/-- The first byte of an element. -/
def descriptor (typeNumber sizeClass : Nat) : UInt8 := UInt8.ofNat (typeNumber * 8 + sizeClass)

/-- How many bytes the size field of a string or list takes. -/
def sizeFieldLen (size : Nat) : Nat :=
  if size ≤ 0xFF then 1 else if size ≤ 0xFFFF then 2 else 4

/-- The size class of a string or list. -/
def sizeClassOf (size : Nat) : Nat :=
  if size ≤ 0xFF then 5 else if size ≤ 0xFFFF then 6 else 7

/-- The first byte and the size field of a string or list with `size` bytes of data. -/
def sizedHeader (typeNumber size : Nat) : Bytes :=
  descriptor typeNumber (sizeClassOf size) :: Bytes.ofNat (sizeFieldLen size) size

namespace Element

/-- Whether an element carries the length of its data. -/
def isSized : Element → Bool
  | string .. => true
  | list .. => true
  | _ => false

mutual

/-- The number of bytes of an element's data. -/
def dataLen : Element → Nat
  | null => 0
  | unsigned w _ => w.bytes
  | signed w _ => w.bytes
  | uuid u => (uuidBytes u).length
  | bool _ => 1
  | string _ s => s.length
  | list _ ms => encodedLenAll 0 ms

/-- A number plus the lengths of the written forms of the given elements. -/
def encodedLenAll (sum : Nat) : List Element → Nat
  | [] => sum
  | m :: ms =>
    let size := m.dataLen
    encodedLenAll (sum + (1 + (if m.isSized then sizeFieldLen size else 0) + size)) ms

end

/-- The length of the written form of an element. -/
def encodedLen (e : Element) : Nat :=
  let size := e.dataLen
  1 + (if e.isSized then sizeFieldLen size else 0) + size

mutual

/-- Writes an element back to front in front of `written`. -/
def encodeOnto (written : Bytes) : Element → Bytes
  | null => descriptor 0 0 :: written
  | unsigned w v => (Bytes.ofWord w.bytes v).reverseAux (descriptor 1 w.sizeClass :: written)
  | signed w v => (Bytes.ofWord w.bytes v).reverseAux (descriptor 2 w.sizeClass :: written)
  | uuid u => (uuidBytes u).reverseAux (descriptor 3 (uuidSizeClass u) :: written)
  | bool b => (if b then 1 else 0) :: descriptor 5 0 :: written
  | string kind s => s.reverseAux ((sizedHeader kind.typeNumber s.length).reverseAux written)
  | list kind ms =>
    encodeAllOnto ((sizedHeader kind.typeNumber (encodedLenAll 0 ms)).reverseAux written) ms

/-- Writes elements one after the other, back to front, in front of `written`. -/
def encodeAllOnto (written : Bytes) : List Element → Bytes
  | [] => written
  | m :: ms => encodeAllOnto (encodeOnto written m) ms

end

/-- The written form of an element. -/
def encode (e : Element) : Bytes := (encodeOnto [] e).reverse

example : (sequence [u16 0x1234, alternative [], bool true]).encode =
    [0x35, 7, 0x09, 0x12, 0x34, 0x3D, 0, 0x28, 1] := by decide
example : (sequence [u16 0x1234, alternative [], bool true]).encodedLen = 9 := by decide

end Element

end A2dpSink.Sdp
