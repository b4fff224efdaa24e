import A2dpSink.Activity
import A2dpSink.Address

/-!
# The transport connection

The signalling link to an audio sink. It only has to exist; nothing is exchanged on it yet. Its
status is published to whoever follows it, and only changes are published.

Opening and closing take time, so each is cut in two: `connect` and `disconnect` are what happens
before the wait, `opened` and `closed` what happens after it.
-/

namespace A2dpSink

/-- The state of the connection to an audio sink. -/
inductive ConnectionStatus where
  /-- No device is assigned. -/
  | unassigned
  /-- A device is assigned but no transport link is open. -/
  | disconnected
  /-- The transport link is open and no stream is configured. -/
  | idle
  deriving DecidableEq, Repr, Inhabited

/-- The name of a status. -/
def ConnectionStatus.name : ConnectionStatus → String
  | unassigned => "Unassigned"
  | disconnected => "Disconnected"
  | idle => "Idle"

/-- An open transport link. -/
structure Transport.Channel where
  link : LinkId
  /-- What the link was opened to. -/
  psm : Psm
  deriving DecidableEq, Repr

/-- The transport connection to one device. -/
structure Transport where
  /-- The address of the device. -/
  remote : Address
  channel : Option Transport.Channel := none
  /-- The published status values, the latest one first. -/
  published : List ConnectionStatus := []
  deriving Repr

namespace Transport

/-- The current status. -/
def status (t : Transport) : ConnectionStatus := t.published.headD .unassigned

/-- Whether the link is open. -/
def isOpen (t : Transport) : Bool := t.channel.isSome

/-- What comes of a step: the connection then, what is done, and the reply `α` if the call is over. -/
structure Outcome (α : Type) where
  transport : Transport
  effects : List Effect
  reply : Option α := none

/-- Publishes a status, if it is another one than before. -/
def publish (t : Transport) (s : ConnectionStatus) : Transport × List Effect :=
  if t.status = s then (t, [])
  else ({ t with published := s :: t.published },
    [.log (.avdtp .info ("audio sink status: " ++ s.name))])

/-- The connection to a device that has just been assigned. -/
def create (remote : Address) : Transport × List Effect :=
  publish { remote } .disconnected

/-- Starts to open the link. -/
def connect (t : Transport) (psm : Psm) : Outcome (Except OpenError Unit) :=
  if t.isOpen then ⟨t, [], some (.error .alreadyOpen)⟩ else ⟨t, [.connect psm], none⟩

/-- The attempt to open the link has ended. -/
def opened (t : Transport) (psm : Psm) (o : OpenOutcome) : Outcome (Except OpenError Unit) :=
  match o.toExcept with
  | .ok link =>
    let text := "opened AVDTP link to " ++ t.remote.text ++ " on PSM " ++ toString psm.toNat
    let (t, effects) := { t with channel := some ⟨link, psm⟩ }.publish .idle
    ⟨t, .log (.avdtp .debug text) :: effects, some (.ok ())⟩
  | .error e =>
    let text := "failed to open AVDTP link to " ++ t.remote.text ++ ": " ++ e.message
    ⟨t, [.log (.avdtp .error text)], some (.error e)⟩

/-- Starts to close the link. One that is not open is closed already. -/
def disconnect (t : Transport) : Outcome (Except CloseError Unit) :=
  match t.channel with
  | some channel => ⟨{ t with channel := none }, [.shutdown channel.link], none⟩
  | none =>
    let (t, effects) := t.publish .disconnected
    ⟨t, effects, some (.ok ())⟩

/-- The attempt to close the link has ended. Whatever its outcome, there is no link any more. -/
def closed (t : Transport) (o : CloseOutcome) : Outcome (Except CloseError Unit) :=
  let line := match o.toExcept with
    | .ok _ => Log.Line.avdtp .debug "closed AVDTP link"
    | .error e => Log.Line.avdtp .error ("failed to close AVDTP link: " ++ e.message)
  let (t, effects) := t.publish .disconnected
  ⟨t, .log line :: effects, some o.toExcept⟩

end Transport

end A2dpSink
