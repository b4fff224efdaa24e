import A2dpSink.Sdp.Record

/-!
# Writing audio records

The record an audio service publishes: its classes, the channel and transport version it is reached
with, the audio profile and its features. What is left out is not written at all. `readBack` sends a
record through the encoding and back.
-/

namespace A2dpSink.Sdp

/-- The record an audio service publishes. -/
structure AudioRecord where
  handle : BitVec 32 := 0x00010001
  /-- The short forms of the classes. -/
  classes : List (BitVec 16) := [0x110B]
  psm : Option (BitVec 16) := none
  transportVersion : Option (BitVec 16) := none
  profileVersion : Option (BitVec 16) := some 0x0103
  features : Option (BitVec 16) := none
  deriving DecidableEq, Repr

namespace AudioRecord

/-- The record of a sink that can be reached. -/
def sink (psm version : BitVec 16) : AudioRecord :=
  { psm := some psm, transportVersion := some version }

/-- The record of a source that can be reached. -/
def source (psm version : BitVec 16) : AudioRecord :=
  { classes := [0x110A], psm := some psm, transportVersion := some version }

/-- A protocol or profile with one parameter, if the parameter is given. -/
def descriptor (u : Uuid) (parameter : Option (BitVec 16)) : List Element :=
  match parameter with
  | some value => [.sequence [.uuid u, .u16 value]]
  | none => []

/-- An attribute that holds a list of descriptors; none if there are no descriptors. -/
def listAttribute (id : AttributeId) (descriptors : List Element) : List Element :=
  if descriptors.isEmpty then [] else [.u16 id, .sequence descriptors]

/-- The attribute list of the record: alternating numbers and values. -/
def toElement (r : AudioRecord) : Element :=
  .sequence <|
    [.u16 AttributeId.recordHandle, .u32 r.handle,
      .u16 AttributeId.classIds, .sequence (r.classes.map fun c => .uuid (.short c))] ++
    listAttribute .protocols
      (descriptor ServiceClass.l2cap r.psm ++ descriptor ServiceClass.avdtp r.transportVersion) ++
    listAttribute .profiles (descriptor ServiceClass.advancedAudio r.profileVersion) ++
    match r.features with
    | some mask => [.u16 AttributeId.supportedFeatures, .u16 mask]
    | none => []

end AudioRecord

/-- The record read from the encoding of an attribute list. -/
def Record.readBack (attributes : Element) : Except Fault Record :=
  (parseLists (Element.sequence [attributes]).encode).bind fun records =>
    match records with
    | record :: _ => .ok record
    | [] => .error .malformed

end A2dpSink.Sdp
