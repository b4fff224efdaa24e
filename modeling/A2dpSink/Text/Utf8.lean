/-!
# Bytes that should be UTF-8

`chunks` reads a byte string as UTF-8 from left to right and keeps what cannot be read: a byte
that starts no character, and the bytes of a character that breaks off. The ranges of the second
byte rule out overlong forms, surrogates and values above the last code point.
-/

namespace A2dpSink.Text.Utf8

/-- A piece of a byte string: a character, or a byte that belongs to none. -/
inductive Chunk where
  | char (c : Char)
  | stray (b : UInt8)
  deriving DecidableEq, Repr

/-- A continuation byte. -/
def isTail (b : UInt8) : Bool := 0x80 ≤ b && b ≤ 0xBF

/-- The bytes that may come second after a given first byte of a character of `n` bytes. -/
def isSecond (first b : UInt8) : Bool :=
  if first = 0xE0 then 0xA0 ≤ b && b ≤ 0xBF
  else if first = 0xED then 0x80 ≤ b && b ≤ 0x9F
  else if first = 0xF0 then 0x90 ≤ b && b ≤ 0xBF
  else if first = 0xF4 then 0x80 ≤ b && b ≤ 0x8F
  else isTail b

/-- How many bytes follow a first byte, if it may start a character. -/
def tailLength? (first : UInt8) : Option Nat :=
  if first < 0x80 then some 0
  else if 0xC2 ≤ first && first ≤ 0xDF then some 1
  else if 0xE0 ≤ first && first ≤ 0xEF then some 2
  else if 0xF0 ≤ first && first ≤ 0xF4 then some 3
  else none

/-- The bits a first byte contributes, by the number of bytes that follow. -/
def leadBits (first : UInt8) (tail : Nat) : Nat :=
  match tail with
  | 0 => first.toNat
  | 1 => first.toNat % 32
  | 2 => first.toNat % 16
  | _ => first.toNat % 8

/-- The longest start of `bytes`, at most `n` bytes, that may follow `first`. -/
def tailOf (first : UInt8) (n : Nat) (bytes : List UInt8) : List UInt8 :=
  match n, bytes with
  | 0, _ => []
  | _, [] => []
  | n + 1, b :: rest => if isSecond first b then b :: (rest.take n).takeWhile isTail else []

/-- The code point spelt by a first byte and the bytes after it. -/
def codePoint (first : UInt8) (tail : List UInt8) : Nat :=
  tail.foldl (fun acc b => acc * 64 + b.toNat % 64) (leadBits first tail.length)

/-- The first chunks of a nonempty byte string and how many further bytes they use up. -/
def step (first : UInt8) (rest : List UInt8) : List Chunk × Nat :=
  match tailLength? first with
  | none => ([.stray first], 0)
  | some n =>
    let tail := tailOf first n rest
    if tail.length = n then ([.char (Char.ofNat (codePoint first tail))], n)
    else (.stray first :: tail.map .stray, tail.length)

/-- Splits bytes into characters and stray bytes, in front of which stand the chunks of `acc`,
last one first. The first argument bounds the number of steps. -/
def chunksOnto (acc : List Chunk) : Nat → List UInt8 → List Chunk
  | 0, _ => acc.reverse
  | _, [] => acc.reverse
  | fuel + 1, b :: rest =>
    let (found, used) := step b rest
    chunksOnto (found.reverse ++ acc) fuel (rest.drop used)

/-- Splits bytes into characters and stray bytes. -/
def chunks (bytes : List UInt8) : List Chunk := chunksOnto [] bytes.length bytes

/-- The text of a byte string whose every byte belongs to a character. -/
def decode? (bytes : List UInt8) : Option String :=
  (chunks bytes).foldr (fun chunk acc =>
    match chunk with
    | .char c => acc.map (c :: ·)
    | .stray _ => none) (some []) |>.map String.ofList

example : chunks [0x61, 0xC3, 0xA9] = [.char 'a', .char 'é'] := by decide
example : chunks [0xE6, 0x97] = [.stray 0xE6, .stray 0x97] := by decide
example : chunks [0xED, 0xA0, 0x80] = [.stray 0xED, .stray 0xA0, .stray 0x80] := by decide

end A2dpSink.Text.Utf8
