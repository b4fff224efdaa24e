import A2dpSink.IoError
import A2dpSink.Sdp.Record

/-!
# The discovery client

A client asks one question at a time over a channel that carries bytes. Each question is a chain of
requests: the first one asks from the start, each further one hands back the continuation state of
the response before it, and the parts that come back are put together and read when the last one is
there.

What is under way is plain data. `Inquiry.need` says what the channel has to do next, and
`Inquiry.step` takes what the channel did and gives either the inquiry that goes on or its result. A
`Client` is what lasts from one question to the next, also when a question is given up half-way: the
next transaction number, and bytes that came in before they were asked for.
-/

namespace A2dpSink.Sdp

/-! ### Questions and answers -/

/-- Why a query failed. -/
inductive QueryError where
  /-- The channel failed. -/
  | io (e : IoError)
  /-- The server refused. -/
  | remote (c : ErrorCode)
  /-- The server's answer makes no sense. -/
  | invalid
  /-- The server's answer is of a kind that answers something else. -/
  | unexpected (k : PduKind)
  deriving DecidableEq, Repr

/-- What is said about a failed query. -/
def QueryError.message : QueryError → String
  | io _ => "an i/o error occurred"
  | remote c => "the remote device returned an error: " ++ c.name
  | invalid => "the remote device returned invalid data"
  | unexpected k => "the remote device answered with an unexpected pdu " ++ k.name

/-- Asks for attributes of all records that match a pattern. -/
structure Question where
  /-- The UUIDs a record has to contain. -/
  pattern : List Uuid
  /-- The most attribute bytes one response may carry. -/
  maxBytes : BitVec 16
  /-- The attributes asked for. -/
  ranges : List AttributeRange
  deriving DecidableEq, Repr

namespace Question

/-- The request that asks a question from a given place on. -/
def request (q : Question) (continuation : Bytes) : Request :=
  ⟨q.pattern, q.maxBytes, q.ranges, continuation⟩

/-- How many full responses the attribute lists of an answer may fill. -/
def maxResponses : Nat := 16

/-- The most attribute bytes an answer may have in all. -/
def limit (q : Question) : Nat := q.maxBytes.toNat * maxResponses

end Question

/-! ### Receiving blocks of bytes -/

/-- A block of bytes of known length that is coming in. -/
structure Intake where
  /-- What has come in, the latest part first. -/
  parts : List Bytes
  /-- How many bytes have not. -/
  missing : Nat
  deriving DecidableEq, Repr

namespace Intake

/-- A block of `n` bytes of which nothing has come in. -/
def ofLength (n : Nat) : Intake := ⟨[], n⟩

/-- Moves what is missing, as far as it is there, from a buffer to the block. -/
def take (i : Intake) (buffer : Bytes) : Intake × Bytes :=
  let (now, later) := buffer.splitAt i.missing
  (⟨now :: i.parts, i.missing - now.length⟩, later)

/-- The bytes that have come in. -/
def bytes (i : Intake) : Bytes := i.parts.reverse.flatten

/-- A block leaves no more in the buffer than there was. -/
theorem length_take_le (i : Intake) (buffer : Bytes) :
    (i.take buffer).2.length ≤ buffer.length := by
  simp [take, List.splitAt_eq]

/-- A block that is complete has taken the bytes it lacked from the buffer. -/
theorem length_take_of_complete {i : Intake} {buffer : Bytes}
    (h : (i.take buffer).1.missing = 0) :
    (i.take buffer).2.length + i.missing ≤ buffer.length := by
  simp [take, List.splitAt_eq] at h ⊢
  omega

end Intake

/-! ### The client -/

/-- What a client keeps from one question to the next. -/
structure Client where
  /-- The number of the next request. -/
  transaction : BitVec 16 := 0
  /-- Bytes that have come in and have not been looked at. -/
  buffer : Bytes := []
  deriving DecidableEq, Repr

/-- The most bytes asked of the channel at once. -/
def receiveSize : Nat := 65536

/-- How far the exchange of one request and its response has got. -/
inductive Stage where
  /-- The request is being written; these bytes are left. -/
  | sending (rest : Bytes)
  /-- The request is written and has to be sent off. -/
  | flushing
  /-- The header of the response is coming in. -/
  | header (block : Intake)
  /-- The parameter of the response is coming in. -/
  | parameter (head : Header) (block : Intake)
  deriving DecidableEq, Repr

/-- What a channel is asked to do. -/
inductive Need where
  /-- Take some of these bytes. -/
  | write (bytes : Bytes)
  /-- Send off what was written. -/
  | flush
  /-- Hand over bytes that came in, `receiveSize` at most. -/
  | read
  deriving DecidableEq, Repr

/-- What a channel did. -/
inductive Reaction where
  /-- It took this many bytes. -/
  | wrote (n : Nat)
  /-- It sent off what was written. -/
  | flushed
  /-- These bytes came in; none at the end of the stream. -/
  | received (bytes : Bytes)
  /-- It failed. -/
  | failed (e : IoError)
  deriving DecidableEq, Repr

/-- A question under way. -/
structure Inquiry where
  question : Question
  /-- The number of the request that is under way. -/
  transaction : BitVec 16
  /-- The attribute bytes of the responses so far, the latest response first. -/
  collected : List Bytes
  /-- How many bytes these are. -/
  size : Nat
  stage : Stage
  deriving DecidableEq, Repr

/-- The result of a question. -/
abbrev Result := Except QueryError (List Record)

/-- What comes of a step: the inquiry goes on, or there is a result. -/
inductive Progress where
  | going (i : Inquiry)
  | done (r : Result)

namespace Inquiry

/-- The next request of an inquiry: it takes the next transaction number, whatever becomes of it. -/
def ask (c : Client) (i : Inquiry) (continuation : Bytes) : Client × Inquiry :=
  let pdu := (i.question.request continuation).toPdu c.transaction
  ({ c with transaction := c.transaction + 1 },
    { i with transaction := c.transaction, stage := .sending pdu.encode })

/-- Starts a question with a request from the start. -/
def start (c : Client) (q : Question) : Client × Inquiry :=
  ask c ⟨q, c.transaction, [], 0, .flushing⟩ []

/-- What the channel has to do next. -/
def need (i : Inquiry) : Need :=
  match i.stage with
  | .sending rest => .write rest
  | .flushing => .flush
  | .header _ => .read
  | .parameter _ _ => .read

/-- Reads the records when the last part of the attribute lists has come in. -/
def conclude (i : Inquiry) : Result :=
  match Record.parseLists i.collected.reverse.flatten with
  | .ok records => .ok records
  | .error _ => .error .invalid

/-- Takes in one part of an answer and asks for the next one, if there is one. -/
def gather (c : Client) (i : Inquiry) (f : Fragment) : Client × Progress :=
  let size := i.size + f.data.length
  if i.question.limit < size then (c, .done (.error .invalid))
  else
    let i := { i with collected := f.data :: i.collected, size }
    if f.continuation.isEmpty then (c, .done i.conclude)
    else (ask c i f.continuation).map id .going

/-- Takes in a complete response. The transaction number is looked at first, then the kind. -/
def respond (c : Client) (i : Inquiry) (p : Pdu) : Client × Progress :=
  if p.transaction ≠ i.transaction then (c, .done (.error .invalid))
  else match p.kind with
    | .errorResponse =>
      match ErrorCode.decode p.parameter with
      | .ok code => (c, .done (.error (.remote code)))
      | .error _ => (c, .done (.error .invalid))
    | .searchAttributeResponse =>
      match Fragment.decode p.parameter with
      | .ok f => gather c i f
      | .error _ => (c, .done (.error .invalid))
    | other => (c, .done (.error (.unexpected other)))

/-- Moves bytes of the parameter from the buffer; the response is complete with the last one. -/
def takeParameter (c : Client) (i : Inquiry) (head : Header) (block : Intake) :
    Client × Progress :=
  let (block, buffer) := block.take c.buffer
  let c := { c with buffer }
  if block.missing = 0 then respond c i ⟨head.kind, head.transaction, block.bytes⟩
  else (c, .going { i with stage := .parameter head block })

/-- Moves bytes of the header from the buffer, and goes on to the parameter behind the last one. -/
def takeHeader (c : Client) (i : Inquiry) (block : Intake) : Client × Progress :=
  let (block, buffer) := block.take c.buffer
  let c := { c with buffer }
  if block.missing = 0 then
    match Header.decode block.bytes with
    | .ok head => takeParameter c i head (.ofLength head.length)
    | .error _ => (c, .done (.error .invalid))
  else (c, .going { i with stage := .header block })

/-- What comes of a reaction of the channel. A reaction to something else than was asked for changes
nothing. -/
def step (c : Client) (i : Inquiry) (r : Reaction) : Client × Progress :=
  match i.stage, r with
  | _, .failed e => (c, .done (.error (.io e)))
  | .sending rest, .wrote n =>
    if n = 0 then (c, .done (.error (.io ⟨.writeZero, none⟩)))
    else
      let rest := rest.drop n
      (c, .going { i with stage := if rest.isEmpty then .flushing else .sending rest })
  | .flushing, .flushed => takeHeader c i (.ofLength headerLen)
  | .header block, .received bytes =>
    if bytes.isEmpty then (c, .done (.error (.io ⟨.unexpectedEof, none⟩)))
    else takeHeader { c with buffer := c.buffer ++ bytes } i block
  | .parameter head block, .received bytes =>
    if bytes.isEmpty then (c, .done (.error (.io ⟨.unexpectedEof, none⟩)))
    else takeParameter { c with buffer := c.buffer ++ bytes } i head block
  | _, _ => (c, .going i)

end Inquiry

end A2dpSink.Sdp
