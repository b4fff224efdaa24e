import A2dpSink.Activity
import A2dpSink.Address
import A2dpSink.AudioService
import A2dpSink.Lock
import A2dpSink.Pool
import A2dpSink.Settings

/-!
# Service discovery on one device

A session opens the discovery link of a device, lets rounds of discovery run on it in the background
and hands what a round finds to whoever asked for it. Calls from outside are `Request`s; a lock
serializes them among themselves and with the ends of rounds. A round runs on the link without the
lock, so the session may be closed and opened again before the round is over. The session counts the
changes of its link, and a round whose count is no longer current closes its own link and reports
nothing.

The session is a machine. `begin` starts a call and `resume` goes on with one; `startRound` and
`resumeRound` do so for rounds. What does not fit the place an activity has got to changes nothing.
-/

namespace A2dpSink

namespace Discovery

/-! ### Requests, rounds and what comes of them -/

/-- What a session is asked for. -/
inductive Request where
  /-- Is the link open, or a round using it? -/
  | isOpen
  /-- Open the link. -/
  | connect
  /-- Close the link, and abandon a round that uses it. -/
  | disconnect
  /-- Start a round. -/
  | discover
  deriving DecidableEq, Repr

/-- What a session answers. -/
inductive Reply where
  | isOpen (b : Bool)
  | connected (r : Except OpenError Unit)
  | disconnected (r : Except CloseError Unit)
  /-- A round was started, unless there was a reason not to. -/
  | asked

/-- Why a round has nothing to report. -/
inductive RoundError where
  | queryFailed (e : Sdp.QueryError)
  | timeout
  | noMatchingService
  deriving DecidableEq, Repr

/-- What is said about a round that has nothing to report. -/
def RoundError.message : RoundError → String
  | queryFailed e => "the service discovery query failed: " ++ e.message
  | timeout => "the service discovery query timed out"
  | noMatchingService => "the device offers no audio sink service"

/-- What a round has found; never an empty list. -/
abbrev Findings := Except RoundError (List AudioService)

/-- The place a call has got to. -/
inductive CallStage where
  /-- It waits for the lock. -/
  | waiting (r : Request)
  /-- It waits for the link to open. -/
  | opening
  /-- It waits for the link to close. -/
  | closing
  deriving DecidableEq, Repr

/-- The place a round has got to. -/
inductive RoundStage where
  /-- Its job waits in the queue. -/
  | queued
  /-- It waits for the answer to its query. -/
  | querying
  /-- It waits for the lock. -/
  | waiting (found : Findings)
  /-- It closes the link. -/
  | closing

/-- A round of discovery. -/
structure Round where
  /-- Tells the rounds of a session apart. -/
  number : Nat
  /-- The count of the session when the round was started. -/
  count : Nat
  /-- The link the round runs on. -/
  link : LinkId
  stage : RoundStage

/-- Who may hold the lock of a session. -/
inductive Party where
  | call (n : Nat)
  | round (n : Nat)
  deriving DecidableEq, Repr

/-- What a session does to the world. -/
inductive Action where
  | effect (e : Effect)
  /-- Let a round run as a job. -/
  | schedule (round : Nat)
  /-- Hand over services, as a job. -/
  | deliver (services : List AudioService)
  /-- Somebody who waited holds the lock now. -/
  | wake (p : Party)

/-- Reports a line. -/
abbrev Action.log (line : Log.Line) : Action := .effect (.log line)

end Discovery

/-! ### The session -/

/-- A session of service discovery on one device. -/
structure Discovery where
  /-- The address of the device. -/
  remote : Address
  /-- The longest time for a query, in milliseconds. -/
  queryLimit : Nat
  lock : Lock Discovery.Party := {}
  /-- The link, while it is open and no round uses it. -/
  link : Option LinkId := none
  /-- How often the link has changed. -/
  count : Nat := 0
  /-- Whether a round uses the link. -/
  discovering : Bool := false
  /-- The calls that wait for something. -/
  calls : List (Nat × Discovery.CallStage) := []
  /-- The rounds that are not over. -/
  rounds : List Discovery.Round := []
  /-- The number of the next round. -/
  nextRound : Nat := 0

namespace Discovery

/-- A session on a device. The settings have to allow for the longest time of a query. -/
def create (s : Settings) (remote : Address) : Except Settings.Excess Discovery :=
  s.discoveryTimeout.map fun queryLimit => { remote, queryLimit }

/-- What a round asks a device for: all attributes of its audio sinks. -/
def question (s : Settings) : Sdp.Question :=
  ⟨[ServiceClass.audioSink], s.maxAttributeBytes, [.all]⟩

/-- What comes of a step: the session then, what it does, and the reply if a call is over. -/
structure Outcome where
  session : Discovery
  actions : List Action
  reply : Option Reply := none

/-- Whether the link is open or a round uses it. -/
def isBusy (d : Discovery) : Bool := d.link.isSome || d.discovering

/-- The place a call has got to. -/
def callStage? (d : Discovery) (n : Nat) : Option CallStage := d.calls.lookup n

/-- A call has got to another place, or is over. -/
def setCall (d : Discovery) (n : Nat) (stage : Option CallStage) : Discovery :=
  let others := d.calls.filter fun c => c.1 ≠ n
  { d with calls := match stage with
                    | some s => (n, s) :: others
                    | none => others }

/-- A round with a given number. -/
def round? (d : Discovery) (n : Nat) : Option Round := d.rounds.find? fun r => r.number = n

/-- A round has got to another place, or is over. -/
def setRound (d : Discovery) (n : Nat) (stage : Option RoundStage) : Discovery :=
  { d with rounds := match stage with
      | some s => d.rounds.map fun r => if r.number = n then { r with stage := s } else r
      | none => d.rounds.filter fun r => r.number ≠ n }

/-- Gives up the lock; the next holder is told. -/
def release (d : Discovery) : Discovery × List Action :=
  let lock := d.lock.release
  ({ d with lock }, (lock.holder.map .wake).toList)

/-! ### Calls -/

/-- Ends a call that holds the lock. -/
def endCall (d : Discovery) (n : Nat) (actions : List Action) (reply : Reply) : Outcome :=
  let (d, woken) := (d.setCall n none).release
  ⟨d, actions ++ woken, some reply⟩

/-- Does what a call asks for, once it holds the lock. -/
def perform (d : Discovery) (admission : Except SubmitError Unit) (n : Nat) (r : Request) :
    Outcome :=
  match r with
  | .isOpen => d.endCall n [] (.isOpen d.isBusy)
  | .connect =>
    if d.isBusy then d.endCall n [] (.connected (.error .alreadyOpen))
    else ⟨d.setCall n (some .opening), [.effect (.connect Sdp.psm)], none⟩
  | .disconnect =>
    let abandoned := if d.discovering
      then [.log (.sdp .debug "abandoning discovery in progress")] else []
    let d := { d with count := d.count + 1, discovering := false }
    match d.link with
    | none => d.endCall n abandoned (.disconnected (.ok ()))
    | some link =>
      ⟨{ d with link := none }.setCall n (some .closing), abandoned ++ [.effect (.shutdown link)], none⟩
  | .discover =>
    if d.discovering then
      d.endCall n [.log (.sdp .debug "discovery already in progress")] .asked
    else match d.link with
      | none =>
        d.endCall n
          [.log (.sdp .warn "cannot discover services, the SDP link is not open")] .asked
      | some link =>
        match admission with
        | .ok _ =>
          let round : Round := ⟨d.nextRound, d.count, link, .queued⟩
          { d with link := none, discovering := true, nextRound := d.nextRound + 1
                   rounds := d.rounds ++ [round] }.endCall n [.schedule d.nextRound] .asked
        | .error e =>
          { d with link := none }.endCall n
            [.log (.sdp .error ("could not schedule discovery: " ++ e.message))] .asked

/-- Starts a call, which asks for the lock. -/
def begin (d : Discovery) (admission : Except SubmitError Unit) (n : Nat) (r : Request) :
    Outcome :=
  let free := d.lock.isFree
  let d := { d with lock := d.lock.request (.call n) }
  if free then d.perform admission n r else ⟨d.setCall n (some (.waiting r)), [], none⟩

/-- Goes on with a call. -/
def resume (d : Discovery) (admission : Except SubmitError Unit) (n : Nat) (s : Signal) : Outcome :=
  match d.callStage? n, s with
  | some (.waiting r), .granted =>
    if d.lock.holder = some (.call n) then d.perform admission n r else ⟨d, [], none⟩
  | some .opening, .opened o =>
    match o.toExcept with
    | .ok link =>
      { d with link := some link, count := d.count + 1 }.endCall n
        [.log (.sdp .debug ("opened SDP link to " ++ d.remote.text))] (.connected (.ok ()))
    | .error e =>
      let text := "failed to open SDP link to " ++ d.remote.text ++ ": " ++ e.message
      d.endCall n [.log (.sdp .error text)] (.connected (.error e))
  | some .closing, .closed o =>
    match o.toExcept with
    | .ok _ =>
      d.endCall n [.log (.sdp .debug ("closed SDP link to " ++ d.remote.text))]
        (.disconnected (.ok ()))
    | .error e =>
      let text := "failed to close SDP link to " ++ d.remote.text ++ ": " ++ e.message
      d.endCall n [.log (.sdp .error text)] (.disconnected (.error e))
  | _, _ => ⟨d, [], none⟩

/-! ### Rounds -/

/-- The lines that show what is in a record. -/
def dump (r : Sdp.Record) : List Log.Line :=
  let line := Log.Line.sdp .debug
  line ("record " ++ r.handleText) ::
    (r.classes.map fun c => line ("  class " ++ c.describe)) ++
    (r.profiles.map fun p =>
      line ("  profile " ++ p.profile.describe ++ " version " ++ (Version.ofWord p.version).text)) ++
    (r.protocols.map fun p =>
      line ("  protocol " ++ p.protocol.describe ++ " " ++
        Sdp.Element.describeList p.parameters))

/-- The records of audio sinks. -/
def sinks (records : List Sdp.Record) : List Sdp.Record :=
  records.filter fun r => r.hasClass ServiceClass.audioSink

/-- What the result of a query comes to. -/
def findings (r : Option Sdp.Result) : Findings :=
  match r with
  | none => .error .timeout
  | some (.error e) => .error (.queryFailed e)
  | some (.ok records) =>
    match (sinks records).map AudioService.ofRecord with
    | [] => .error .noMatchingService
    | services => .ok services

/-- What is reported while the result of a query is looked through. -/
def inspection (r : Option Sdp.Result) : List Log.Line :=
  match r with
  | some (.ok records) =>
    (sinks records).flatMap fun record => dump record ++ AudioService.remarks record
  | _ => []

/-- Starts a round whose turn has come. -/
def startRound (d : Discovery) (n : Nat) : Outcome :=
  match d.round? n with
  | some ⟨_, _, link, .queued⟩ =>
    ⟨d.setRound n (some .querying),
      [.log (.sdp .debug ("querying " ++ d.remote.text ++ " for audio sink services")),
        .effect (.query link d.queryLimit)], none⟩
  | _ => ⟨d, [], none⟩

/-- A round that holds the lock gives it up and closes its link. -/
def closeRound (d : Discovery) (r : Round) (before after : List Action) : Outcome :=
  let (d, woken) := (d.setRound r.number (some .closing)).release
  ⟨d, before ++ woken ++ after ++ [.effect (.shutdown r.link)], none⟩

/-- Ends a round, once it holds the lock. It reports if it is current and has found something;
otherwise it closes its link. -/
def conclude (d : Discovery) (admission : Except SubmitError Unit) (r : Round) (found : Findings) :
    Outcome :=
  let remote := d.remote.text
  if d.count ≠ r.count then
    d.closeRound r [] [.log (.sdp .debug ("discovery on " ++ remote ++ " outlived its link"))]
  else
    let d := { d with discovering := false }
    match found with
    | .ok services =>
      let offer := .log (.sdp .info
        (remote ++ " offers " ++ toString services.length ++ " audio sink service(s)"))
      match admission with
      | .ok _ =>
        let (d, woken) := ({ d with link := some r.link }.setRound r.number none).release
        ⟨d, [offer, .deliver services] ++ woken, none⟩
      | .error e =>
        { d with count := d.count + 1 }.closeRound r
          [offer, .log (.sdp .error ("could not report discovered services: " ++ e.message))] []
    | .error e =>
      let line := match e with
        | .noMatchingService => Log.Line.sdp .info (remote ++ ": " ++ e.message)
        | _ => Log.Line.sdp .error ("discovery on " ++ remote ++ " failed: " ++ e.message)
      { d with count := d.count + 1 }.closeRound r [.log line] []

/-- Goes on with a round. -/
def resumeRound (d : Discovery) (admission : Except SubmitError Unit) (n : Nat) (s : Signal) :
    Outcome :=
  match d.round? n with
  | none => ⟨d, [], none⟩
  | some r =>
    match r.stage, s with
    | .querying, .answered result =>
      let found := findings result
      let lines := (inspection result).map .log
      let free := d.lock.isFree
      let d := { d with lock := d.lock.request (.round n) }
      if free then
        let o := d.conclude admission r found
        { o with actions := lines ++ o.actions }
      else ⟨d.setRound n (some (.waiting found)), lines, none⟩
    | .waiting found, .granted =>
      if d.lock.holder = some (.round n) then d.conclude admission r found else ⟨d, [], none⟩
    | .closing, .closed _ => ⟨d.setRound n none, [], none⟩
    | _, _ => ⟨d, [], none⟩

/-! ### What activities wait for -/

/-- What a call waits for. -/
def callAwaits (d : Discovery) (n : Nat) : Await :=
  match d.callStage? n with
  | some (.waiting _) => .lock
  | some .opening => .opening
  | some .closing => .closing
  | none => .nothing

/-- What a round waits for. -/
def roundAwaits (d : Discovery) (n : Nat) : Await :=
  match d.round? n with
  | some ⟨_, _, _, .querying⟩ => .answer
  | some ⟨_, _, _, .waiting _⟩ => .lock
  | some ⟨_, _, _, .closing⟩ => .closing
  | _ => .nothing

end Discovery

end A2dpSink
