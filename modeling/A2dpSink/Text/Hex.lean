/-!
# Hexadecimal text

Numbers written in base sixteen with a fixed least number of digits, in either letter case,
and the value of a hexadecimal digit.
-/

namespace A2dpSink.Text.Hex

/-- The letter case of the digits above nine. -/
inductive Case where
  | lower
  | upper
  deriving DecidableEq, Repr

/-- The digit of a number below sixteen. -/
def digit (c : Case) (n : Nat) : Char :=
  if n < 10 then Char.ofNat (48 + n)
  else match c with
    | .lower => Char.ofNat (87 + n)
    | .upper => Char.ofNat (55 + n)

/-- The last `width` digits of a number. -/
def fixed (c : Case) : Nat → Nat → List Char
  | 0, _ => []
  | width + 1, n => fixed c width (n / 16) ++ [digit c (n % 16)]

/-- How many digits a number has; zero has one. -/
def width (n : Nat) : Nat :=
  if n < 16 then 1 else width (n / 16) + 1

/-- All digits of a number, without padding. -/
def digits (c : Case) (n : Nat) : List Char := fixed c (width n) n

/-- The value of a digit in either letter case. -/
def value? (c : Char) : Option Nat :=
  if '0' ≤ c ∧ c ≤ '9' then some (c.toNat - 48)
  else if 'a' ≤ c ∧ c ≤ 'f' then some (c.toNat - 87)
  else if 'A' ≤ c ∧ c ≤ 'F' then some (c.toNat - 55)
  else none

/-- The last `width` digits of a number, in small letters, as text. -/
def lower (width n : Nat) : String := String.ofList (fixed .lower width n)

/-- The last `width` digits of a number, in capital letters, as text. -/
def upper (width n : Nat) : String := String.ofList (fixed .upper width n)

example : lower 4 0x110B = "110b" := by decide
example : upper 2 10 = "0A" := by decide

end A2dpSink.Text.Hex
