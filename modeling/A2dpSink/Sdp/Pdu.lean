import A2dpSink.Sdp.Element.Decode
import A2dpSink.Sdp.Element.Encode

/-!
# Protocol data units

Requests and responses of the service discovery protocol travel in units of a five-byte header (kind,
transaction number, length of the parameter) and a parameter. This file holds the kinds, the error
codes a server may answer with, the header, the one request the client sends and the fragment that
answers it.
-/

namespace A2dpSink.Sdp

/-- The number service discovery is reached under. -/
def psm : BitVec 16 := 1

/-! ### Kinds and error codes -/

/-- The kinds of protocol data units. -/
inductive PduKind where
  | errorResponse
  | searchRequest
  | searchResponse
  | attributeRequest
  | attributeResponse
  | searchAttributeRequest
  | searchAttributeResponse
  deriving DecidableEq, Repr

namespace PduKind

/-- The number of a kind on the wire. -/
def code : PduKind → Nat
  | errorResponse => 1
  | searchRequest => 2
  | searchResponse => 3
  | attributeRequest => 4
  | attributeResponse => 5
  | searchAttributeRequest => 6
  | searchAttributeResponse => 7

/-- The kind with a given number. -/
def ofCode? : Int → Option PduKind
  | 1 => some errorResponse
  | 2 => some searchRequest
  | 3 => some searchResponse
  | 4 => some attributeRequest
  | 5 => some attributeResponse
  | 6 => some searchAttributeRequest
  | 7 => some searchAttributeResponse
  | _ => none

/-- The name of a kind in the protocol's specification. -/
def name : PduKind → String
  | errorResponse => "ErrorResponse"
  | searchRequest => "ServiceSearchRequest"
  | searchResponse => "ServiceSearchResponse"
  | attributeRequest => "ServiceAttributeRequest"
  | attributeResponse => "ServiceAttributeResponse"
  | searchAttributeRequest => "ServiceSearchAttributeRequest"
  | searchAttributeResponse => "ServiceSearchAttributeResponse"

/-- A kind is found under its number. -/
theorem ofCode?_code (k : PduKind) : ofCode? k.code = some k := by cases k <;> rfl

end PduKind

/-- The reasons a server may give for refusing a request. -/
inductive ErrorCode where
  | unsupportedVersion
  | invalidRecordHandle
  | invalidRequestSyntax
  | invalidPduSize
  | invalidContinuationState
  | insufficientResources
  deriving DecidableEq, Repr

namespace ErrorCode

/-- The number of an error code on the wire. -/
def code : ErrorCode → Nat
  | unsupportedVersion => 1
  | invalidRecordHandle => 2
  | invalidRequestSyntax => 3
  | invalidPduSize => 4
  | invalidContinuationState => 5
  | insufficientResources => 6

/-- The error code with a given number. -/
def ofCode? : Int → Option ErrorCode
  | 1 => some unsupportedVersion
  | 2 => some invalidRecordHandle
  | 3 => some invalidRequestSyntax
  | 4 => some invalidPduSize
  | 5 => some invalidContinuationState
  | 6 => some insufficientResources
  | _ => none

/-- The name of an error code in the protocol's specification. -/
def name : ErrorCode → String
  | unsupportedVersion => "UnsupportedSdpVersion"
  | invalidRecordHandle => "InvalidServiceRecordHandle"
  | invalidRequestSyntax => "InvalidRequestSyntax"
  | invalidPduSize => "InvalidPduSize"
  | invalidContinuationState => "InvalidContinuationState"
  | insufficientResources => "InsufficientResources"

/-- An error is found under its number. -/
theorem ofCode?_code (c : ErrorCode) : ofCode? c.code = some c := by cases c <;> rfl

/-- Reads the parameter of an error response. -/
def decode (parameter : Bytes) : Except Fault ErrorCode :=
  (Read.guardedWord 2 parameter).bind fun (n, _) =>
    match ofCode? n.toNat with
    | some c => .ok c
    | none => .error .malformed

end ErrorCode

/-! ### Headers -/

/-- The number of bytes of a header. -/
def headerLen : Nat := 5

/-- What a header says. -/
structure Header where
  kind : PduKind
  transaction : BitVec 16
  length : Nat
  deriving DecidableEq, Repr

/-- Reads the five bytes of a header. -/
def Header.decode (bytes : Bytes) : Except Fault Header :=
  (Read.word 1 bytes).bind fun (code, rest) =>
    match PduKind.ofCode? code.toNat with
    | none => .error .malformed
    | some kind =>
      (Read.word 2 rest).bind fun (transaction, rest) =>
        (Read.word 2 rest).map fun (length, _) => ⟨kind, transaction, length.toNat⟩

/-- A protocol data unit. -/
structure Pdu where
  kind : PduKind
  transaction : BitVec 16
  parameter : Bytes
  deriving DecidableEq, Repr

/-- The written form of a unit. The length field holds the length of the parameter modulo 65536. -/
def Pdu.encode (p : Pdu) : Bytes :=
  UInt8.ofNat p.kind.code :: Bytes.ofWord 2 p.transaction ++
    Bytes.ofNat 2 p.parameter.length ++ p.parameter

/-! ### Requests -/

/-- Identifies an attribute of a service record. -/
abbrev AttributeId := BitVec 16

/-- The attributes a request asks for: one, or all from the first to the last. -/
inductive AttributeRange where
  | single (id : AttributeId)
  | span (first last : AttributeId)
  deriving DecidableEq, Repr

namespace AttributeRange

/-- Every attribute. -/
def all : AttributeRange := span 0x0000 0xFFFF

/-- A range as it is written in a request. -/
def toElement : AttributeRange → Element
  | single id => .u16 id
  | span first last => .u32 (first ++ last)

end AttributeRange

/-- Asks for attributes of all records that match a pattern. -/
structure Request where
  /-- The UUIDs a record has to contain. -/
  pattern : List Uuid
  /-- The most attribute bytes one response may carry. -/
  maxBytes : BitVec 16
  /-- The attributes asked for. -/
  ranges : List AttributeRange
  /-- Where the previous response left off; empty in a first request. -/
  continuation : Bytes
  deriving DecidableEq, Repr

namespace Request

/-- The parameter of a request. -/
def parameter (r : Request) : Bytes :=
  (Element.sequence (r.pattern.map .uuid)).encode ++ Bytes.ofWord 2 r.maxBytes ++
    (Element.sequence (r.ranges.map (·.toElement))).encode ++
    UInt8.ofNat r.continuation.length :: r.continuation

/-- The unit that carries a request. -/
def toPdu (r : Request) (transaction : BitVec 16) : Pdu :=
  ⟨.searchAttributeRequest, transaction, r.parameter⟩

end Request

/-! ### Responses -/

/-- The longest continuation state. -/
def maxContinuation : Nat := 16

/-- Reads a continuation state: a length of at most `maxContinuation` and as many bytes. -/
def decodeContinuation (bytes : Bytes) : Except Fault Bytes :=
  (Read.guardedWord 1 bytes).bind fun (n, rest) =>
    if maxContinuation < n.toNat then .error .malformed
    else (Read.ensure n.toNat rest).bind fun _ => (Read.take n.toNat rest).map (·.1)

/-- A part of an answer: some bytes of the attribute lists, and where the next part starts. -/
structure Fragment where
  data : Bytes
  continuation : Bytes
  deriving DecidableEq, Repr

/-- Reads the parameter of a response. -/
def Fragment.decode (parameter : Bytes) : Except Fault Fragment :=
  (Read.guardedWord 2 parameter).bind fun (n, rest) =>
    (Read.ensure n.toNat rest).bind fun _ =>
      (Read.take n.toNat rest).bind fun (data, rest) =>
        (decodeContinuation rest).map fun continuation => ⟨data, continuation⟩

end A2dpSink.Sdp
