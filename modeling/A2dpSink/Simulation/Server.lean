import A2dpSink.Sdp.Client

/-!
# A small discovery server

A server that gives the same answer to every request: the records it was given, whatever is asked
for, in one piece or in parts; a refusal; or nothing. It reads requests as they come, waits if it was
told to be slow, and writes its response. A request that does not parse breaks it down.

Like the client, the server is a machine: `Server.need` is what it does next and `Server.step` takes
what came of it.
-/

namespace A2dpSink.Simulation

open Sdp

/-- What a server answers. -/
inductive Answer where
  /-- The attribute lists of these records. -/
  | records (lists : Array UInt8)
  | refusal (c : ErrorCode)
  | silence

/-- The answer that consists of records with the given attribute lists. -/
def Answer.ofElements (records : List Element) : Answer :=
  .records (Element.sequence records).encode.toArray

/-- How a server answers. -/
structure Conduct where
  answer : Answer
  /-- The most bytes of the attribute lists in one response, if there is a limit. -/
  part : Option Nat := none
  /-- How long it takes over a response, in milliseconds. -/
  delay : Nat := 0

namespace Conduct

/-- Where the client asks to go on: a continuation state of two bytes, and from the start for any
other. -/
def offset? (parameter : Bytes) : Except Fault Nat :=
  (Element.decode parameter).bind fun (_, rest) =>
    (Read.guardedWord 2 rest).bind fun (_, rest) =>
      (Element.decode rest).bind fun (_, rest) =>
        (Read.guardedWord 1 rest).bind fun (size, rest) =>
          if size = 2 then (Read.guardedWord 2 rest).map fun (n, _) => n.toNat else .ok 0

/-- The part of the lists from a place on, and where the part behind it starts. The numbers are
written in 16 bits. -/
def portion? (lists : Array UInt8) (part : Option Nat) (start : Nat) : Option Bytes :=
  let stop := match part with
    | some n => min (start + n) lists.size
    | none => lists.size
  if stop < start then none
  else
    let tail := if stop < lists.size then 2 :: Bytes.ofNat 2 stop else [0]
    some (Bytes.ofNat 2 (stop - start) ++ (lists.extract start stop).toList ++ tail)

/-- What a server makes of a request. -/
inductive Outcome where
  | respond (bytes : Bytes)
  | ignore
  | breakDown

/-- The response to a request with the given transaction number and parameter. -/
def respond (s : Conduct) (transaction : BitVec 16) (parameter : Bytes) : Outcome :=
  match s.answer with
  | .silence => .ignore
  | .refusal c =>
    .respond (Pdu.encode ⟨.errorResponse, transaction, Bytes.ofNat 2 c.code⟩)
  | .records lists =>
    match offset? parameter with
    | .error _ => .breakDown
    | .ok start =>
      match portion? lists s.part start with
      | some bytes => .respond (Pdu.encode ⟨.searchAttributeResponse, transaction, bytes⟩)
      | none => .breakDown

end Conduct

/-- How far a server has got with a request. -/
inductive Server.Stage where
  /-- The header of a request is coming in. -/
  | header (block : Intake)
  /-- The parameter of the request with this transaction number is coming in. -/
  | parameter (transaction : BitVec 16) (block : Intake)
  /-- A request has come in and the server takes its time. -/
  | pausing (transaction : BitVec 16) (parameter : Bytes)
  /-- The response is being written; these bytes are left. -/
  | sending (rest : Bytes)
  /-- The server has broken down or its client has left. -/
  | gone

/-- A server at work. -/
structure Server where
  conduct : Conduct
  stage : Server.Stage := .header (.ofLength headerLen)

namespace Server

/-- What a server does next. -/
inductive Need where
  /-- It reads at most so many bytes. -/
  | read (most : Nat)
  | write (bytes : Bytes)
  /-- It lets so much time pass. -/
  | pause (span : Nat)
  | nothing

/-- What came of it. -/
inductive Event where
  | received (bytes : Bytes)
  | wrote (n : Nat)
  | rested
  | failed

/-- What the server does next. -/
def need (s : Server) : Need :=
  match s.stage with
  | .header block => .read block.missing
  | .parameter _ block => .read block.missing
  | .pausing _ _ => .pause s.conduct.delay
  | .sending rest => .write rest
  | .gone => .nothing

/-- Waits for the next request. -/
def await (s : Server) : Server := { s with stage := .header (.ofLength headerLen) }

/-- Takes bytes of a parameter; a request counts as soon as the last one is there. -/
def takeParameter (s : Server) (transaction : BitVec 16) (block : Intake) (bytes : Bytes) :
    Server × Nat :=
  let block := (block.take bytes).1
  if block.missing = 0 then ({ s with stage := .pausing transaction block.bytes }, 1)
  else ({ s with stage := .parameter transaction block }, 0)

/-- What comes of a step, and how many requests it completes. -/
def step (s : Server) (e : Event) : Server × Nat :=
  match s.stage, e with
  | _, .failed => ({ s with stage := .gone }, 0)
  | .header block, .received bytes =>
    if bytes.isEmpty then ({ s with stage := .gone }, 0)
    else
      let block := (block.take bytes).1
      if block.missing = 0 then
        let bytes := block.bytes
        let length := Bytes.toNat (bytes.drop 3)
        takeParameter s (Bytes.toWord 2 ((bytes.drop 1).take 2)) (.ofLength length) []
      else ({ s with stage := .header block }, 0)
  | .parameter transaction block, .received bytes =>
    if bytes.isEmpty then ({ s with stage := .gone }, 0)
    else takeParameter s transaction block bytes
  | .pausing transaction parameter, .rested =>
    match s.conduct.respond transaction parameter with
    | .respond bytes => ({ s with stage := .sending bytes }, 0)
    | .ignore => (s.await, 0)
    | .breakDown => ({ s with stage := .gone }, 0)
  | .sending rest, .wrote n =>
    let rest := rest.drop n
    (if rest.isEmpty then s.await else { s with stage := .sending rest }, 0)
  | _, _ => (s, 0)

end Server

end A2dpSink.Simulation
