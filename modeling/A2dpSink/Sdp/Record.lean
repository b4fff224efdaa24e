import A2dpSink.Sdp.Pdu

/-!
# Service records

A service record is a table of attributes. The universal ones (handle, service classes, protocol
stack, profiles) are picked apart when the record is built; entries that do not parse are skipped,
so that one odd descriptor does not hide the rest. `Record.parseLists` reads all records of a
complete answer.
-/

namespace A2dpSink.Sdp

/-! ### Attributes -/

namespace AttributeId

/-- The handle of the record. -/
def recordHandle : AttributeId := 0x0000

/-- The classes the service belongs to. -/
def classIds : AttributeId := 0x0001

/-- The protocol stack the service is reached through. -/
def protocols : AttributeId := 0x0004

/-- The profiles the service follows. -/
def profiles : AttributeId := 0x0009

/-- The features of an audio service. -/
def supportedFeatures : AttributeId := 0x0311

/-- How many attributes the core specification names, from zero on. -/
def universalCount : Nat := 14

/-- An attribute number in four hexadecimal digits. -/
def text (id : AttributeId) : String := Text.Hex.lower 4 id.toNat

end AttributeId

/-- The attributes of a record in the order they were sent. -/
abbrev Attributes := List (AttributeId × Element)

namespace Attributes

/-- The value of an attribute; of several the last one counts. -/
def get? (a : Attributes) (id : AttributeId) : Option Element :=
  a.foldl (fun found (key, value) => if key = id then some value else found) none

/-- One pair for each attribute, sorted by number. -/
def table (a : Attributes) : Attributes :=
  (a.mergeSort fun p q => p.1.toNat ≤ q.1.toNat).foldr (fun pair later =>
    match later with
    | next :: _ => if pair.1 = next.1 then later else pair :: later
    | [] => [pair]) []

/-- The pairs of a flat list of alternating numbers and values, behind those of `found`, which
stand last one first. -/
def ofElementsOnto (found : Attributes) : List Element → Option Attributes
  | [] => some found.reverse
  | .unsigned .w16 id :: value :: rest => ofElementsOnto ((id, value) :: found) rest
  | _ => none

/-- The pairs of a flat list of alternating numbers and values. -/
def ofElements? (members : List Element) : Option Attributes := ofElementsOnto [] members

end Attributes

/-! ### Records -/

/-- A protocol of the stack a service is reached through, with its parameters. -/
structure ProtocolEntry where
  protocol : Uuid
  parameters : List Element
  deriving DecidableEq, Repr

namespace ProtocolEntry

/-- Reads an entry: a list that starts with a UUID. -/
def ofElement? (e : Element) : Option ProtocolEntry :=
  match e.members? with
  | some (first :: parameters) => first.toUuid?.map (⟨·, parameters⟩)
  | _ => none

/-- The first parameter, if it is a number of 16 bits. -/
def leading? (entry : ProtocolEntry) : Option (BitVec 16) :=
  entry.parameters.head?.bind (·.toU16?)

end ProtocolEntry

/-- A profile a service follows. -/
structure ProfileEntry where
  profile : Uuid
  /-- Major version in the high byte, minor version in the low byte. -/
  version : BitVec 16
  deriving DecidableEq, Repr

/-- Reads a profile: a list that starts with a UUID and a version. -/
def ProfileEntry.ofElement? (e : Element) : Option ProfileEntry :=
  match e.members? with
  | some (first :: second :: _) =>
    first.toUuid?.bind fun profile => second.toU16?.map (⟨profile, ·⟩)
  | _ => none

/-- A service record with its universal attributes picked apart. -/
structure Record where
  handle : Option (BitVec 32)
  classes : List Uuid
  protocols : List ProtocolEntry
  profiles : List ProfileEntry
  attributes : Attributes
  deriving Repr

namespace Record

/-- The handle an element holds: an unsigned integer of at most 64 bits that 32 bits hold. -/
def handleOf? (e : Element) : Option (BitVec 32) :=
  e.toNat?.bind fun n => if n < UInt32.size then some (BitVec.ofNat 32 n) else none

/-- The protocol stack of an attribute: the entries of a sequence, or those of the first stack of an
alternative. -/
def stackOf : Option Element → List ProtocolEntry
  | some (.list .sequence entries) => entries.filterMap ProtocolEntry.ofElement?
  | some (.list .alternative choices) =>
    match choices.head?.bind (·.members?) with
    | some entries => entries.filterMap ProtocolEntry.ofElement?
    | none => []
  | _ => []

/-- The members of an attribute that parse; none if it is not a list. -/
def listOf {α : Type} (parse : Element → Option α) (value : Option Element) : List α :=
  match value.bind (·.members?) with
  | some members => members.filterMap parse
  | none => []

/-- The record with the given attributes. -/
def ofAttributes (a : Attributes) : Record where
  handle := (a.get? .recordHandle).bind handleOf?
  classes := listOf Element.toUuid? (a.get? .classIds)
  protocols := stackOf (a.get? .protocols)
  profiles := listOf ProfileEntry.ofElement? (a.get? .profiles)
  attributes := a

/-- The value of an attribute. -/
def attribute? (r : Record) (id : AttributeId) : Option Element := r.attributes.get? id

/-- Whether the service belongs to a class. -/
def hasClass (r : Record) (u : Uuid) : Bool := r.classes.any fun c => decide (c ≈ u)

/-- The first entry of a profile. -/
def profile? (r : Record) (u : Uuid) : Option ProfileEntry :=
  r.profiles.find? fun p => decide (p.profile ≈ u)

/-- The first entry of a protocol. -/
def protocol? (r : Record) (u : Uuid) : Option ProtocolEntry :=
  r.protocols.find? fun p => decide (p.protocol ≈ u)

/-- The handle as it is shown in reports. -/
def handleText (r : Record) : String :=
  match r.handle with
  | some n => s!"Some({Text.Hex.lower 8 n.toNat})"
  | none => "None"

/-- The record an attribute list stands for. -/
def ofElement? : Element → Option Record
  | .list .sequence members => (Attributes.ofElements? members).map ofAttributes
  | _ => none

/-- Reads the complete attribute lists of an answer: a sequence with one sequence of alternating
numbers and values for each record. What stands behind it is left alone. -/
def parseLists (bytes : Bytes) : Except Fault (List Record) :=
  match Element.decode bytes with
  | .error fault => .error fault
  | .ok (.list .sequence lists, _) =>
    match lists.mapM ofElement? with
    | some records => .ok records
    | none => .error .malformed
  | .ok _ => .error .malformed

end Record

end A2dpSink.Sdp
