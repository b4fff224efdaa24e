import A2dpSink.Bytes
import A2dpSink.Text.Hex

/-!
# Scanning JSON text

The pieces a JSON text is made of, read from the front of its bytes: blank space, words, strings and
numbers, and a way past a value nobody asked for. Three things can be wrong, and the first one in
text order is reported: the text breaks a rule of the format, it ends too early, or it holds a value
of another kind than the one asked for.

A value that is skipped is held to fewer rules than one that is read: its strings may hold lone
surrogates, its numbers may be of any size, and it may be nested without limit.
-/

namespace A2dpSink.Json

/-- What is wrong with a text. -/
inductive Fault where
  /-- The text breaks a rule of the format. -/
  | malformed
  /-- The text ends before its value does. -/
  | cutOff
  /-- A value is of another kind than the one asked for, or out of its range. -/
  | unexpected
  deriving DecidableEq, Repr

/-- What scanning gives: a value and the text behind it. -/
abbrev Scan (α : Type) := Except Fault (α × Bytes)

/-- The blank characters between the parts of a text. -/
def isBlank (b : UInt8) : Bool := b = 0x20 || b = 0x0A || b = 0x09 || b = 0x0D

/-- The text behind the blank characters at its front. -/
def skipBlank (text : Bytes) : Bytes := text.dropWhile isBlank

/-- A decimal digit. -/
def isDigit (b : UInt8) : Bool := 0x30 ≤ b && b ≤ 0x39

/-- The value of a decimal digit. -/
def digitValue (b : UInt8) : Nat := b.toNat - 0x30

/-- Demands that the text goes on with the given bytes, and takes them. -/
def expect : Bytes → Bytes → Except Fault Bytes
  | [], text => .ok text
  | _ :: _, [] => .error .cutOff
  | b :: more, c :: text => if b = c then expect more text else .error .malformed

/-! ### Strings -/

/-- The value of four hexadecimal digits. -/
def hex4 : Bytes → Scan Nat
  | a :: b :: c :: d :: text =>
    match [a, b, c, d].mapM fun digit => Text.Hex.value? (Char.ofNat digit.toNat) with
    | some values => .ok (values.foldl (fun n v => n * 16 + v) 0, text)
    | none => .error .malformed
  | _ => .error .cutOff

/-- The bytes of a code point. -/
def codePoint (n : Nat) : Bytes := String.utf8EncodeChar (Char.ofNat n)

/-- Reads what follows the escape of a leading surrogate: the escape of a trailing one. -/
def trailingSurrogate (lead : Nat) : Bytes → Scan Bytes
  | [] => .error .cutOff
  | a :: text =>
    if a ≠ 0x5C then .error .malformed
    else match text with
      | [] => .error .cutOff
      | b :: text =>
        if b ≠ 0x75 then .error .malformed
        else match hex4 text with
          | .error fault => .error fault
          | .ok (trail, text) =>
            if trail < 0xDC00 ∨ 0xDFFF < trail then .error .malformed
            else .ok (codePoint ((lead - 0xD800) * 0x400 + (trail - 0xDC00) + 0x10000), text)

/-- Reads an escape behind its backslash; surrogates have to come in pairs only if `strict`. -/
def escape (strict : Bool) : Bytes → Scan Bytes
  | [] => .error .cutOff
  | b :: text =>
    if b = 0x22 ∨ b = 0x5C ∨ b = 0x2F then .ok ([b], text)
    else if b = 0x62 then .ok ([0x08], text)
    else if b = 0x66 then .ok ([0x0C], text)
    else if b = 0x6E then .ok ([0x0A], text)
    else if b = 0x72 then .ok ([0x0D], text)
    else if b = 0x74 then .ok ([0x09], text)
    else if b = 0x75 then
      match hex4 text with
      | .error fault => .error fault
      | .ok (n, text) =>
        if !strict then .ok ([], text)
        else if 0xDC00 ≤ n ∧ n ≤ 0xDFFF then .error .malformed
        else if 0xD800 ≤ n ∧ n ≤ 0xDBFF then trailingSurrogate n text
        else .ok (codePoint n, text)
    else .error .malformed

/-- Reads a string behind its opening quote, behind the bytes of `found`, which stand last one
first. The number bounds the steps. -/
def stringOnto (strict : Bool) (found : Bytes) : Nat → Bytes → Scan Bytes
  | _, [] => .error .cutOff
  | 0, _ :: _ => .error .cutOff
  | fuel + 1, b :: text =>
    if b = 0x22 then .ok (found.reverse, text)
    else if b = 0x5C then
      match escape strict text with
      | .error fault => .error fault
      | .ok (bytes, text) => stringOnto strict (bytes.reverseAux found) fuel text
    else if b < 0x20 then .error .malformed
    else stringOnto strict (b :: found) fuel text

/-- Reads a string behind its opening quote. -/
def string (strict : Bool) (text : Bytes) : Scan Bytes := stringOnto strict [] text.length text

/-! ### Numbers -/

/-- The greatest number that counts as an integer. -/
def maxInteger : Nat := UInt64.size - 1

/-- The number nearest to `n` among those with 53 significant bits, the even one of two. -/
def nearest53 (n : Nat) : Nat :=
  let extra := n.log2 + 1 - 53
  let unit := Nat.pow 2 extra
  let low := n / unit
  let rest := n % unit
  if unit < 2 * rest ∨ (unit = 2 * rest ∧ low % 2 = 1) then (low + 1) * unit else low * unit

/-- Whether a decimal number is too large for a double: the product of the nearest doubles of its
digits and its power of ten rounds to infinity. -/
def tooLarge (significand : Nat) (exponent : Int) : Bool :=
  if significand = 0 ∨ exponent < 0 then false
  else 308 < exponent ∨
    Nat.pow 2 1024 - Nat.pow 2 970 ≤
      nearest53 significand * nearest53 (Nat.pow 10 exponent.toNat)

/-- A number as it is written. -/
inductive Number where
  /-- An integer from zero to `maxInteger`. -/
  | natural (n : Nat)
  /-- Any other number. -/
  | other
  deriving DecidableEq, Repr

/-- A number that is not an integer, unless it is too large. -/
def fraction (significand : Nat) (exponent : Int) (text : Bytes) : Scan Number :=
  if tooLarge significand exponent then .error .malformed else .ok (.other, text)

/-- Takes digits as long as the number they extend stays an integer. Gives the number and how many
digits were taken. -/
def takeInteger (n count : Nat) : Bytes → Nat × Nat × Bytes
  | [] => (n, count, [])
  | b :: text =>
    if isDigit b ∧ n * 10 + digitValue b ≤ maxInteger then
      takeInteger (n * 10 + digitValue b) (count + 1) text
    else (n, count, b :: text)

/-- The greatest exponent that is told apart from larger ones. -/
def maxExponent : Nat := UInt32.size / 2 - 1

/-- Reads an exponent behind its letter. -/
def exponent (significand : Nat) (before : Int) (text : Bytes) : Scan Number :=
  let (positive, text) := match text with
    | 0x2B :: rest => (true, rest)
    | 0x2D :: rest => (false, rest)
    | _ => (true, text)
  match text with
  | [] => .error .cutOff
  | b :: _ =>
    if !isDigit b then .error .malformed
    else
      let (digits, rest) := (text.takeWhile isDigit, text.dropWhile isDigit)
      let value := digits.foldl (fun n d => n * 10 + digitValue d) 0
      if maxExponent < value then
        if significand ≠ 0 ∧ positive then .error .malformed else .ok (.other, rest)
      else fraction significand (if positive then before + value else before - value) rest

/-- Reads what may follow the digits of a number that is no integer. -/
def fractionEnd (significand : Nat) (before : Int) (text : Bytes) : Scan Number :=
  match text with
  | 0x65 :: rest => exponent significand before rest
  | 0x45 :: rest => exponent significand before rest
  | _ => fraction significand before text

/-- Reads the digits behind the decimal point. -/
def decimals (significand : Nat) (before : Int) (text : Bytes) : Scan Number :=
  match text with
  | [] => .error .cutOff
  | b :: _ =>
    if !isDigit b then .error .malformed
    else
      let (n, count, rest) := takeInteger significand 0 text
      fractionEnd n (before - count) (rest.dropWhile isDigit)

/-- Reads what follows the digits before the decimal point: a fraction, an exponent, or nothing. -/
def numberEnd (significand : Nat) (surplus : Nat) (whole : Number) (text : Bytes) : Scan Number :=
  match text with
  | 0x2E :: rest => decimals significand surplus rest
  | 0x65 :: rest => exponent significand surplus rest
  | 0x45 :: rest => exponent significand surplus rest
  | _ => if surplus = 0 then .ok (whole, text) else fraction significand surplus text

/-- Reads a number behind its sign. A negative number and a negative zero are no integers here. -/
def number (positive : Bool) (text : Bytes) : Scan Number :=
  match text with
  | [] => .error .cutOff
  | 0x30 :: rest =>
    if rest.head?.any isDigit then .error .malformed
    else numberEnd 0 0 (if positive then .natural 0 else .other) rest
  | b :: _ =>
    if !isDigit b then .error .malformed
    else
      let (n, _, rest) := takeInteger 0 0 text
      let (surplus, rest) := (rest.takeWhile isDigit, rest.dropWhile isDigit)
      numberEnd n surplus.length (if positive then .natural n else .other) rest

/-! ### Values of the wrong kind -/

/-- Reads the value at the front of a text only to say that another kind was asked for. A list or an
object is not looked into. -/
def mismatch (text : Bytes) : Fault :=
  let verdict {α : Type} (r : Except Fault α) : Fault :=
    match r with
    | .error fault => fault
    | .ok _ => .unexpected
  match text with
  | 0x6E :: rest => verdict (expect [0x75, 0x6C, 0x6C] rest)
  | 0x74 :: rest => verdict (expect [0x72, 0x75, 0x65] rest)
  | 0x66 :: rest => verdict (expect [0x61, 0x6C, 0x73, 0x65] rest)
  | 0x2D :: rest => verdict (number false rest)
  | 0x22 :: rest => verdict (string true rest)
  | 0x5B :: _ => .unexpected
  | 0x7B :: _ => .unexpected
  | b :: _ => if isDigit b then verdict (number true text) else .malformed
  | [] => .malformed

/-! ### Skipping a value -/

/-- Skips an exponent behind its letter. -/
def skipExponent (text : Bytes) : Except Fault Bytes :=
  let text := match text with
    | 0x2B :: rest => rest
    | 0x2D :: rest => rest
    | _ => text
  if text.head?.any isDigit then .ok (text.dropWhile isDigit) else .error .malformed

/-- Skips what follows the digits of a number that may have an exponent. -/
def skipFractionEnd (text : Bytes) : Except Fault Bytes :=
  match text with
  | 0x65 :: rest => skipExponent rest
  | 0x45 :: rest => skipExponent rest
  | _ => .ok text

/-- Skips a number behind its sign. -/
def skipNumber (text : Bytes) : Except Fault Bytes :=
  let finish (text : Bytes) : Except Fault Bytes :=
    match text with
    | 0x2E :: rest =>
      if rest.head?.any isDigit then skipFractionEnd (rest.dropWhile isDigit)
      else .error .malformed
    | _ => skipFractionEnd text
  match text with
  | 0x30 :: rest => if rest.head?.any isDigit then .error .malformed else finish rest
  | b :: _ => if isDigit b then finish (text.dropWhile isDigit) else .error .malformed
  | [] => .error .malformed

/-- A list or object that is being skipped. -/
inductive Frame where
  | list
  | object
  deriving DecidableEq, Repr

/-- Skips the name of a member and the colon behind it. -/
def skipName (text : Bytes) : Except Fault Bytes :=
  match skipBlank text with
  | [] => .error .cutOff
  | b :: rest =>
    if b ≠ 0x22 then .error .malformed
    else match string false rest with
      | .error fault => .error fault
      | .ok (_, rest) =>
        match skipBlank rest with
        | [] => .error .cutOff
        | c :: rest => if c = 0x3A then .ok rest else .error .malformed

/-- Where skipping stands. -/
inductive SkipPlace where
  /-- In front of a value. -/
  | value
  /-- Inside the innermost list or object: behind a member if `true`, else behind the bracket. -/
  | inside (member : Bool)
  deriving DecidableEq, Repr

/-- One step of skipping inside a list or object: its end, or the start of the next member. Gives
the place to go on from, or `none` when all is skipped. -/
def skipInside (frame : Frame) (outer : List Frame) (member : Bool) (text : Bytes) :
    Except Fault (Option (SkipPlace × List Frame) × Bytes) :=
  let start (text : Bytes) : Except Fault (Option (SkipPlace × List Frame) × Bytes) :=
    match frame with
    | .list => .ok (some (.value, frame :: outer), text)
    | .object => (skipName text).map fun rest => (some (.value, frame :: outer), rest)
  let finish (text : Bytes) : Option (SkipPlace × List Frame) × Bytes :=
    if outer.isEmpty then (none, text) else (some (.inside true, outer), text)
  match skipBlank text with
  | [] => .error .cutOff
  | b :: rest =>
    if b = 0x2C ∧ member then start rest
    else if (b = 0x5D ∧ frame = .list) ∨ (b = 0x7D ∧ frame = .object) then .ok (finish rest)
    else if member then .error .malformed
    else start (b :: rest)

/-- Skips a value that has no members. -/
def skipScalar (text : Bytes) : Except Fault Bytes :=
  match text with
  | 0x6E :: rest => expect [0x75, 0x6C, 0x6C] rest
  | 0x74 :: rest => expect [0x72, 0x75, 0x65] rest
  | 0x66 :: rest => expect [0x61, 0x6C, 0x73, 0x65] rest
  | 0x2D :: rest => skipNumber rest
  | 0x22 :: rest => (string false rest).map (·.2)
  | b :: _ => if isDigit b then skipNumber text else .error .malformed
  | [] => .error .cutOff

/-- Skips values until the outermost list or object has ended. The number bounds the steps. -/
def skipFrom : Nat → SkipPlace → List Frame → Bytes → Except Fault Bytes
  | 0, _, _, _ => .error .cutOff
  | fuel + 1, .value, frames, text =>
    match skipBlank text with
    | 0x5B :: rest => skipFrom fuel (.inside false) (.list :: frames) rest
    | 0x7B :: rest => skipFrom fuel (.inside false) (.object :: frames) rest
    | text =>
      match skipScalar text with
      | .error fault => .error fault
      | .ok rest => if frames.isEmpty then .ok rest else skipFrom fuel (.inside true) frames rest
  | _ + 1, .inside _, [], text => .ok text
  | fuel + 1, .inside member, frame :: outer, text =>
    match skipInside frame outer member text with
    | .error fault => .error fault
    | .ok (none, rest) => .ok rest
    | .ok (some (place, frames), rest) => skipFrom fuel place frames rest

/-- Skips one value. Two steps for each byte suffice. -/
def skip (text : Bytes) : Except Fault Bytes := skipFrom (2 * text.length + 2) .value [] text

end A2dpSink.Json
