import A2dpSink.Sdp.Client

/-!
# Scripted peers

The far end of a discovery channel that follows a script: each request it receives takes the next
turn off the script, and the turn says what comes back, and when. A peer whose script is used up
hangs up. `Peer.attempt` is the channel as the client sees it: what it is asked to do is done, in
portions of limited size, or has to wait.
-/

namespace A2dpSink.Simulation

open Sdp

/-- What a peer does about a request. -/
inductive Reply where
  /-- It answers with a protocol data unit. The transaction number is that of the request and the
  length that of the parameter, unless others are given. -/
  | unit (code : UInt8) (transaction : Option (BitVec 16)) (length : Option (BitVec 16))
      (parameter : Bytes)
  /-- It answers with these bytes. -/
  | raw (bytes : Bytes)
  /-- It says nothing. -/
  | silence
  /-- It hangs up. -/
  | hangUp
  /-- The next read that finds no bytes fails. -/
  | failRead (e : IoError)
  /-- Every write fails for as long as this is the next turn. -/
  | failWrite (e : IoError)
  /-- Every write takes nothing for as long as this is the next turn. -/
  | refuseWrite
  /-- Sending off the request fails. -/
  | failFlush (e : IoError)
  deriving Repr

namespace Reply

/-- The transaction number in a request. -/
def transactionOf (request : Bytes) : Bytes := (request.drop 1).take 2

/-- The bytes a peer answers with. -/
def bytes (request : Bytes) : Reply → Bytes
  | unit code transaction length parameter =>
    let number := (transaction.map (Bytes.ofWord 2)).getD (transactionOf request)
    let length := length.getD (BitVec.ofNat 16 parameter.length)
    code :: number ++ Bytes.ofWord 2 length ++ parameter
  | raw bytes => bytes
  | _ => []

/-- How many bytes a peer answers with at most. -/
def size : Reply → Nat
  | unit _ _ _ parameter => parameter.length + 5
  | raw bytes => bytes.length
  | _ => 0

/-- A reply is written in as many bytes as its size says at most. -/
theorem length_bytes_le (request : Bytes) (r : Reply) : (r.bytes request).length ≤ r.size := by
  cases r with
  | unit code transaction length parameter =>
    cases transaction <;> simp [bytes, size, transactionOf] <;> omega
  | _ => simp [bytes, size]

end Reply

/-- One turn of a script. -/
structure Turn where
  reply : Reply
  /-- How long nothing can be read after the request, in milliseconds. -/
  delay : Nat := 0
  deriving Repr

/-- How many turns a script may have for its requests to be reported one by one. -/
def reportLimit : Nat := 64

/-- A scripted peer. -/
structure Peer where
  script : List Turn
  /-- Whether requests are reported. -/
  reports : Bool
  /-- The most bytes taken or handed over at once, if there is a limit. -/
  portion : Option Nat
  /-- What was written since the last request, last byte first. -/
  written : Bytes := []
  /-- Bytes sent to the client that it has not read. -/
  unread : Bytes := []
  /-- Before this time nothing can be read. -/
  readyAt : Nat := 0
  /-- What the next read that finds no bytes fails with. -/
  failure : Option IoError := none
  /-- Whether the stream ends behind the unread bytes. -/
  hungUp : Bool := false
  deriving Repr

namespace Peer

/-- A peer that starts a script. -/
def start (script : List Turn) (portion : Option Nat := none) : Peer where
  script
  reports := decide (script.length ≤ reportLimit)
  portion

/-- The most bytes taken or handed over at once; at least one. -/
def most (p : Peer) (n : Nat) : Nat :=
  match p.portion with
  | some k => min n (max 1 k)
  | none => n

/-- What the client may do next on the channel, and what is left of the peer then. -/
structure Response where
  reaction : Reaction
  peer : Peer
  /-- The request that is reported, if there is one. -/
  request : Option Bytes := none

/-- The client writes. -/
def write (p : Peer) (bytes : Bytes) : Response :=
  match p.script with
  | ⟨.failWrite e, _⟩ :: _ => ⟨.failed e, p, none⟩
  | ⟨.refuseWrite, _⟩ :: _ => ⟨.wrote 0, p, none⟩
  | _ =>
    let n := p.most bytes.length
    ⟨.wrote n, { p with written := (bytes.take n).reverse ++ p.written }, none⟩

/-- The client sends off a request, which takes a turn of the script. -/
def flush (p : Peer) (now : Nat) : Response :=
  let request := p.written.reverse
  let p := { p with written := [] }
  let report := if p.reports then some request else none
  match p.script with
  | [] => ⟨.flushed, { p with hungUp := true }, report⟩
  | turn :: script =>
    let p := { p with script, readyAt := max p.readyAt (now + turn.delay)
                      unread := p.unread ++ turn.reply.bytes request }
    match turn.reply with
    | .hangUp => ⟨.flushed, { p with hungUp := true }, report⟩
    | .failRead e => ⟨.flushed, { p with failure := some e }, report⟩
    | .failFlush e => ⟨.failed e, p, report⟩
    | _ => ⟨.flushed, p, report⟩

/-- The client reads. There is nothing to be had before the time of the last turn, or when all bytes
are read and the peer has not hung up. -/
def read (p : Peer) (now : Nat) : Option Response :=
  if now < p.readyAt then none
  else if p.unread.isEmpty then
    match p.failure with
    | some e => some ⟨.failed e, { p with failure := none }, none⟩
    | none => if p.hungUp then some ⟨.received [], p, none⟩ else none
  else
    let (bytes, unread) := p.unread.splitAt (p.most receiveSize)
    some ⟨.received bytes, { p with unread }, none⟩

/-- What becomes of what the client asks for at a given time; nothing if it has to wait. -/
def attempt (p : Peer) (now : Nat) : Need → Option Response
  | .write bytes => some (p.write bytes)
  | .flush => some (p.flush now)
  | .read => p.read now

end Peer

end A2dpSink.Simulation
