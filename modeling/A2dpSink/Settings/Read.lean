import A2dpSink.Json.Scan
import A2dpSink.Settings
import A2dpSink.Text.Utf8

/-!
# Reading settings

Settings are read from a JSON object, whose unknown members are skipped, or from a list of the
values in order. What is left out keeps its default. A member that is given twice is an unexpected
value. Integers have to be written as such and to fit their field.
-/

namespace A2dpSink.Settings

open Json (Fault Scan)

/-- The settings that can be given. -/
inductive Field where
  | controller
  | openTimeout
  | closeTimeout
  | communicationTimeout
  | discoveryTimeoutFactor
  | maxAttributeBytes
  | workers
  | queueDepth
  deriving DecidableEq, Repr

namespace Field

/-- All fields, in the order in which a list gives their values. -/
def all : List Field :=
  [controller, openTimeout, closeTimeout, communicationTimeout, discoveryTimeoutFactor,
    maxAttributeBytes, workers, queueDepth]

/-- The name of a field as the member of an object. -/
def name : Field → String
  | controller => "controller"
  | openTimeout => "openTimeout"
  | closeTimeout => "closeTimeout"
  | communicationTimeout => "communicationTimeout"
  | discoveryTimeoutFactor => "discoveryTimeoutFactor"
  | maxAttributeBytes => "maxAttributeBytes"
  | workers => "workers"
  | queueDepth => "queueDepth"

/-- The field with a given name. -/
def ofName? (name : String) : Option Field := all.find? (·.name = name)

end Field

/-- Reads a string value. -/
def readString (text : Bytes) : Scan String :=
  match Json.skipBlank text with
  | [] => .error .cutOff
  | 0x22 :: rest =>
    match Json.string true rest with
    | .error fault => .error fault
    | .ok (bytes, rest) =>
      match Text.Utf8.decode? bytes with
      | some s => .ok (s, rest)
      | none => .error .malformed
  | text => .error (Json.mismatch text)

/-- Reads an integer value that `w` bits hold. -/
def readWord (w : Nat) (text : Bytes) : Scan (BitVec w) :=
  let check : Scan Json.Number → Scan (BitVec w)
    | .error fault => .error fault
    | .ok (.other, _) => .error .unexpected
    | .ok (.natural n, rest) =>
      if n < Nat.pow 2 w then .ok (BitVec.ofNat w n, rest) else .error .unexpected
  match Json.skipBlank text with
  | [] => .error .cutOff
  | 0x2D :: rest => check (Json.number false rest)
  | b :: rest =>
    if Json.isDigit b then check (Json.number true (b :: rest))
    else .error (Json.mismatch (b :: rest))

/-- Reads the value of a field. -/
def readField (s : Settings) (field : Field) (text : Bytes) : Scan Settings :=
  match field with
  | .controller => (readString text).map fun (v, rest) => ({ s with controller := v }, rest)
  | .openTimeout => (readWord 64 text).map fun (v, rest) => ({ s with openTimeout := v }, rest)
  | .closeTimeout => (readWord 64 text).map fun (v, rest) => ({ s with closeTimeout := v }, rest)
  | .communicationTimeout =>
    (readWord 64 text).map fun (v, rest) => ({ s with communicationTimeout := v }, rest)
  | .discoveryTimeoutFactor =>
    (readWord 32 text).map fun (v, rest) => ({ s with discoveryTimeoutFactor := v }, rest)
  | .maxAttributeBytes =>
    (readWord 16 text).map fun (v, rest) => ({ s with maxAttributeBytes := v }, rest)
  | .workers => (readWord 64 text).map fun (v, rest) => ({ s with workers := v }, rest)
  | .queueDepth => (readWord 64 text).map fun (v, rest) => ({ s with queueDepth := v }, rest)

/-! ### Objects -/

/-- Reads the colon between the name of a member and its value. -/
def readColon (text : Bytes) : Except Fault Bytes :=
  match Json.skipBlank text with
  | [] => .error .cutOff
  | b :: rest => if b = 0x3A then .ok rest else .error .malformed

/-- Reads the name and the value of a member behind the opening quote of its name. `given` lists the
fields that have come before. -/
def readMember (s : Settings) (given : List Field) (text : Bytes) :
    Scan (Settings × List Field) :=
  match Json.string true text with
  | .error fault => .error fault
  | .ok (name, rest) =>
    match (Text.Utf8.decode? name).bind Field.ofName? with
    | none => (readColon rest).bind fun rest =>
      (Json.skip rest).map fun rest => ((s, given), rest)
    | some field =>
      if field ∈ given then .error .unexpected
      else (readColon rest).bind fun rest =>
        (readField s field rest).map fun (s, rest) => ((s, field :: given), rest)

/-- Reads the members of an object up to its end. The number bounds the steps. -/
def readMembers (s : Settings) (given : List Field) (first : Bool) : Nat → Bytes → Scan Settings
  | 0, _ => .error .cutOff
  | fuel + 1, text =>
    let member (rest : Bytes) : Scan Settings :=
      match readMember s given rest with
      | .error fault => .error fault
      | .ok ((s, given), rest) => readMembers s given false fuel rest
    match Json.skipBlank text with
    | [] => .error .cutOff
    | 0x7D :: rest => .ok (s, rest)
    | b :: rest =>
      if first then (if b = 0x22 then member rest else .error .malformed)
      else if b ≠ 0x2C then .error .malformed
      else match Json.skipBlank rest with
        | [] => .error .cutOff
        | c :: rest => if c = 0x22 then member rest else .error .malformed

/-! ### Lists -/

/-- Reads the end of a list all of whose values have been read. -/
def readListEnd (text : Bytes) : Except Fault Bytes :=
  match Json.skipBlank text with
  | [] => .error .cutOff
  | b :: rest => if b = 0x5D then .ok rest else .error .malformed

/-- Reads values for the given fields in order, up to the end of the list. -/
def readValues (s : Settings) (first : Bool) : List Field → Bytes → Scan Settings
  | [], text => (readListEnd text).map (s, ·)
  | field :: fields, text =>
    let value (text : Bytes) : Scan Settings :=
      match readField s field text with
      | .error fault => .error fault
      | .ok (s, rest) => readValues s false fields rest
    match Json.skipBlank text with
    | [] => .error .cutOff
    | 0x5D :: rest => .ok (s, rest)
    | b :: rest =>
      if first then value (b :: rest)
      else if b ≠ 0x2C then .error .malformed
      else match Json.skipBlank rest with
        | [] => .error .cutOff
        | 0x5D :: _ => .error .malformed
        | text => value text

/-! ### Whole texts -/

/-- Reads settings at the front of a text. -/
def readFront (text : Bytes) : Scan Settings :=
  match Json.skipBlank text with
  | [] => .error .cutOff
  | 0x5B :: rest => readValues {} true Field.all rest
  | 0x7B :: rest => readMembers {} [] true (rest.length + 1) rest
  | text => .error (Json.mismatch text)

/-- Reads settings from a text that holds nothing else. -/
def ofBytes (text : Bytes) : Except Fault Settings :=
  (readFront text).bind fun (s, rest) =>
    if (Json.skipBlank rest).isEmpty then .ok s else .error .malformed

/-- Reads settings from a JSON text. -/
def ofJson (text : String) : Except Fault Settings := ofBytes text.toUTF8.toList

example : (ofBytes []).toOption = none := by decide

end A2dpSink.Settings
