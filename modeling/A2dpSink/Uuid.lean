import A2dpSink.Text.Hex

/-!
# Service identifiers

A UUID is written with 16, 32 or 128 bits. The two short forms stand for the 128-bit value that has
them in its top 32 bits and the Bluetooth base UUID below, and two UUIDs mean the same class when
these values agree: `a ≈ b`. Structural equality also compares the width.
-/

namespace A2dpSink

/-- A service or protocol identifier in one of its three widths. -/
inductive Uuid where
  | short (n : BitVec 16)
  | medium (n : BitVec 32)
  | full (n : BitVec 128)
  deriving DecidableEq, Repr

namespace Uuid

/-- The value that a short UUID of zero stands for. -/
def base : BitVec 128 := 0x00000000_0000_1000_8000_00805F9B34FB#128

/-- How far a short UUID stands above the base. -/
def shift : Nat := 96

/-- The 128-bit value of a 32-bit UUID. -/
def expandMedium (n : BitVec 32) : BitVec 128 := n.setWidth 128 <<< shift ||| base

/-- A 16-bit UUID written with 32 bits. -/
def widen (n : BitVec 16) : BitVec 32 := n.setWidth 32

/-- The 128-bit value a UUID stands for. -/
def expand : Uuid → BitVec 128
  | short n => n.setWidth 128 <<< shift ||| base
  | medium n => expandMedium n
  | full n => n

/-- UUIDs are equivalent when they stand for the same 128-bit value. -/
instance : Setoid Uuid where
  r a b := a.expand = b.expand
  iseqv := ⟨fun _ => rfl, Eq.symm, Eq.trans⟩

instance (a b : Uuid) : Decidable (a ≈ b) :=
  inferInstanceAs (Decidable (a.expand = b.expand))

/-- A 128-bit value in the five groups 8-4-4-4-12. -/
def grouped (n : BitVec 128) : String :=
  let part (width high : Nat) := Text.Hex.lower width (n.toNat >>> (high * 4))
  part 8 24 ++ "-" ++ part 4 20 ++ "-" ++ part 4 16 ++ "-" ++ part 4 12 ++ "-" ++ part 12 0

/-- The digits of a UUID, grouped by its width. -/
def digits : Uuid → String
  | short n => Text.Hex.lower 4 n.toNat
  | medium n => Text.Hex.lower 4 (n.toNat >>> 16) ++ "-" ++ Text.Hex.lower 4 n.toNat
  | full n => grouped n

/-- A UUID with its width, as it is shown in reports. -/
def describe (u : Uuid) : String :=
  match u with
  | short _ => s!"Uuid16({u.digits})"
  | medium _ => s!"Uuid32({u.digits})"
  | full _ => s!"Uuid128({u.digits})"

example : (short 0x110B).digits = "110b" := by decide
example : (medium 0x110B).digits = "0000-110b" := by decide
example : (full 0x0000110B_0000_1000_8000_00805F9B34FB#128).digits =
    "0000110b-0000-1000-8000-00805f9b34fb" := by decide
example : short 0x19 ≈ full 0x00000019_0000_1000_8000_00805F9B34FB#128 := by decide

end Uuid

/-! ## Identifiers used by the audio profiles -/

namespace ServiceClass

/-- The L2CAP protocol. -/
def l2cap : Uuid := .short 0x0100

/-- The audio and video transport protocol. -/
def avdtp : Uuid := .short 0x0019

/-- An A2DP source. -/
def audioSource : Uuid := .short 0x110A

/-- An A2DP sink. -/
def audioSink : Uuid := .short 0x110B

/-- The advanced audio distribution profile. -/
def advancedAudio : Uuid := .short 0x110D

/-- The root of the browse tree. -/
def browseRoot : Uuid := .short 0x1002

end ServiceClass

end A2dpSink
