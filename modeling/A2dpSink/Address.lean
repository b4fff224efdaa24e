import A2dpSink.Bytes
import A2dpSink.Text.Quoted

/-!
# Device addresses

A Bluetooth device address has six octets, stored least significant first and written most
significant first, in hexadecimal with colons between. `parse?` reads the written form in either
letter case, with blank space around it; an octet may also be a plus sign and one digit.
-/

namespace A2dpSink

/-- The address of a Bluetooth adapter or device, least significant octet first. -/
structure Address where
  octets : Vector UInt8 6
  deriving DecidableEq, Repr

namespace Address

/-- The address whose octets are all zero. -/
def zero : Address := ⟨Vector.replicate 6 0⟩

instance : Inhabited Address := ⟨zero⟩

/-- The address with the given octets, if there are six. -/
def ofOctets? (octets : Bytes) : Option Address :=
  if h : octets.length = 6 then some ⟨⟨octets.toArray, by simpa using h⟩⟩ else none

/-- The octets as they are stored. -/
def toBytes (a : Address) : Bytes := a.octets.toList

/-- Reads an address from the front of a byte string. Nothing is read from one that is too short. -/
def read? (bytes : Bytes) : Option (Address × Bytes) :=
  (ofOctets? (bytes.take 6)).map (·, bytes.drop 6)

/-- The written form: capital hexadecimal octets with colons between, most significant first. -/
def text (a : Address) : String :=
  ":".intercalate (a.toBytes.reverse.map fun octet => Text.Hex.upper 2 octet.toNat)

instance : ToString Address := ⟨text⟩

/-- The stored octets in decimal, as they are shown in reports. -/
def describe (a : Address) : String :=
  "Address \x7b bytes: [" ++ ", ".intercalate (a.toBytes.map fun octet => toString octet.toNat)
    ++ "] \x7d"

/-- A text that is not an address. -/
structure ParseError where
  input : String
  deriving DecidableEq, Repr

/-- What is said about a text that is not an address. -/
def ParseError.message (e : ParseError) : String :=
  Text.Quoted.ofString e.input ++ " is not a bluetooth address"

/-- The text without the blank characters at its ends. -/
def trim (text : List Char) : List Char :=
  ((text.dropWhile Text.Visible.isBlank).reverse.dropWhile Text.Visible.isBlank).reverse

/-- The parts of a text between its colons. -/
def parts : List Char → List (List Char)
  | [] => [[]]
  | c :: rest =>
    if c = ':' then [] :: parts rest
    else match parts rest with
      | part :: more => (c :: part) :: more
      | [] => [[c]]

/-- The octet written by two hexadecimal digits, or by a plus sign and one digit. -/
def octet? : List Char → Option UInt8
  | [high, low] =>
    if high = '+' then (Text.Hex.value? low).map UInt8.ofNat
    else do
      let h ← Text.Hex.value? high
      let l ← Text.Hex.value? low
      return UInt8.ofNat (16 * h + l)
  | _ => none

/-- Reads the written form of an address. -/
def parse? (text : String) : Option Address := do
  let octets ← (parts (trim text.toList)).mapM octet?
  ofOctets? octets.reverse

/-- Reads the written form of an address, or reports the text as it was given. -/
def parse (text : String) : Except ParseError Address :=
  match parse? text with
  | some a => .ok a
  | none => .error ⟨text⟩

example : (parse? " 00:1a:7D:DA:71:+3").map (·.toBytes) = some [3, 0x71, 0xDA, 0x7D, 0x1A, 0] := by
  decide
example : parse? "00:11:22:33:44" = none := by decide
example : zero.text = "00:00:00:00:00:00" := by decide

end Address

/-- The kind of link a device is reached over. -/
inductive LinkKind where
  /-- The classic radio. -/
  | classic
  /-- Low energy with a public address. -/
  | lowEnergyPublic
  /-- Low energy with a random address. -/
  | lowEnergyRandom
  deriving DecidableEq, Repr, Inhabited

namespace LinkKind

/-- The number of a link kind in the kernel's interface. -/
def code : LinkKind → Nat
  | classic => 0
  | lowEnergyPublic => 1
  | lowEnergyRandom => 2

/-- The link kind with a given number. -/
def ofCode? : Int → Option LinkKind
  | 0 => some classic
  | 1 => some lowEnergyPublic
  | 2 => some lowEnergyRandom
  | _ => none

/-- The customary name of a link kind. -/
def name : LinkKind → String
  | classic => "BREDR"
  | lowEnergyPublic => "LEPublic"
  | lowEnergyRandom => "LERandom"

end LinkKind

end A2dpSink
