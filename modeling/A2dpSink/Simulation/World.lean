import A2dpSink.Simulation.Network

/-!
# The world of a simulation

One thread runs everything. Whoever can go on stands in a line and runs, when his turn comes, until
he has to wait. Time is a number that changes only when nobody can go on; it jumps to the next moment
somebody waits for. The caller is no part of the line: he runs between the turns of the others.

This file holds the state of a simulation and the small changes it is made of.
-/

namespace A2dpSink.Simulation

/-! ### What is recorded -/

/-- Something that happened. -/
inductive Item where
  | log (line : Log.Line)
  | connect (psm : Psm) (d : Device Observer)
  | request (bytes : Bytes)
  | shutdown (psm : Psm)
  | services (s : List AudioService)
  | started (job : String)
  | ended (job : String)
  /-- An observer from elsewhere was told about a change. -/
  | notified (observer : String)
  | poolStopped

/-! ### Jobs of the caller -/

/-- What a job of the caller does between its start and its end. -/
inductive Work where
  | nothing
  /-- It breaks down. -/
  | breakDown
  /-- It waits for a permit in its name. -/
  | gate
  /-- It sleeps for so many milliseconds. -/
  | sleep (span : Nat)
  /-- It waits for ever. -/
  | endless

/-- A job of the caller. -/
structure Job where
  name : String
  work : Work := .nothing

/-- Permits in one name, and who waits for them. -/
structure Gate where
  name : String
  permits : Nat := 0
  waiting : List Agent := []

/-! ### Waiting -/

/-- What an agent waits for. -/
inductive Wait where
  /-- Its first turn. -/
  | turn
  /-- A lock or a permit, which may have been granted meanwhile. -/
  | grant (given : Bool)
  /-- The end of something that takes its course, or the moment when patience ends. -/
  | course (c : Network.Course) (deadline : Nat) (late : Signal)
  /-- The answer to a query on a link, or the moment when patience ends. -/
  | answer (link : LinkId) (i : Sdp.Inquiry) (deadline : Nat)
  /-- A moment. -/
  | moment (time : Nat)
  /-- Something that others do: the other end of a channel, or the pool. -/
  | others

/-- A moment at which somebody is called. -/
structure Timer where
  time : Nat
  agent : Agent
  deriving DecidableEq, Repr

/-- For which calls the loop of the pool is listening. -/
structure Ears where
  jobs : Bool := false
  ends : Bool := false
  stop : Bool := false

/-! ### Calls of the caller -/

/-- What the caller waits for to happen. -/
inductive Condition where
  | status (s : ConnectionStatus)
  /-- The servers have received so many requests. -/
  | requests (n : Nat)

/-- The call that the caller has made and that is not over. -/
inductive Call where
  | none
  /-- A call of the stand-alone discovery session. -/
  | session
  /-- The stand-alone transport is opening its link. -/
  | opening (psm : Psm)
  /-- The stand-alone transport is closing its link. -/
  | closing
  /-- A task of an attachment; closing it may complete a revocation. -/
  | task (attachment n : Nat) (revoking : Option Assignment)
  /-- Time to pass. -/
  | rest
  /-- Something to become true before a given moment. -/
  | condition (c : Condition) (deadline : Nat)
  /-- A link that is opened for its own sake. -/
  | link
  /-- The answer to a question. -/
  | question

/-- What a call comes to. -/
inductive Result where
  | done
  /-- There is nothing to be told. -/
  | absent
  | truth (b : Bool)
  | opened (r : Except OpenError Unit)
  | closed (r : Except CloseError Unit)
  | submitted (r : Except SubmitError Unit)
  | observed (r : Except ObserverError Unit)
  | assigned (r : Except AttachError Unit)
  | service (s : AudioService)
  /-- Whether the status has changed, unless its source is gone, and the status. -/
  | status (changed : Option Bool) (s : ConnectionStatus)
  | channel (r : Except IoError Unit)
  | answer (r : Sdp.Result)
  /-- It came to nothing in good time. -/
  | stalled

/-- Follows the status of an attachment, or of the stand-alone transport. -/
structure Subscription where
  attachment : Option Nat
  /-- How many values had been published when the status was looked at last. -/
  seen : Nat

/-! ### The state -/

/-- How much anybody may do within one turn: locks taken, jobs taken from the queue, jobs looked
after. -/
def effortLimit : Nat := 128

/-- The state of a simulation. -/
structure World where
  settings : Settings := {}
  now : Nat := 0
  /-- Those who can go on, in the order of their turns. -/
  line : List Agent := []
  /-- Those who have used up their turn; they stand in line again when the line has moved on. -/
  tired : List Agent := []
  /-- Whether the caller can go on. -/
  called : Bool := false
  /-- How much the caller may still do before he has to let the others go first. -/
  allowance : Nat := effortLimit
  waits : List (Agent × Wait) := []
  /-- The moments at which somebody is called, in the order in which they were set. -/
  timers : List Timer := []
  /-- What happened, the latest first. -/
  trace : List Item := []
  pool : Pool Agent
  ears : Ears := {}
  /-- Whether somebody waits in the background for the pool to stop. -/
  awaited : Bool := false
  jobs : List Job := []
  gates : List Gate := []
  network : Network
  sink : Sink
  /-- A discovery session on the first device that stands alone. -/
  session : Option Discovery := none
  /-- A transport to the first device that stands alone. -/
  transport : Option Transport := none
  /-- What the stand-alone session has found, and has to be shown. -/
  findings : List (List AudioService) := []
  /-- The attachment that the caller owns. -/
  owned : Option Nat := none
  /-- Observers that were taken out of their devices and kept. -/
  stolen : List Observer := []
  subscription : Option Subscription := none
  /-- Whether the caller still owns the pool. -/
  ownsPool : Bool := true
  call : Call := .none
  result : Option Result := none

namespace World

/-- Records what happened. -/
def note (w : World) (i : Item) : World := { w with trace := i :: w.trace }

/-- What is said to a job that is submitted now. -/
def admission (w : World) : Except SubmitError Unit := w.pool.admission

/-- Somebody can go on; he has one place in the line. -/
def wake (w : World) (a : Agent) : World :=
  if a = .main then { w with called := true }
  else if a ∈ w.line then w
  else { w with line := w.line ++ [a] }

/-- Several can go on. -/
def wakeAll (w : World) (agents : List Agent) : World := agents.foldl wake w

/-- What an agent waits for. -/
def wait? (w : World) (a : Agent) : Option Wait := w.waits.lookup a

/-- An agent waits for something else, or for nothing. -/
def setWait (w : World) (a : Agent) (wait : Option Wait) : World :=
  let others := w.waits.filter fun p => p.1 ≠ a
  { w with waits := match wait with
                    | some x => (a, x) :: others
                    | none => others }

/-- An agent is not called at any moment any more. -/
def disarm (w : World) (a : Agent) : World :=
  { w with timers := w.timers.filter fun t => t.agent ≠ a }

/-- An agent is called at the given moments, those that lie ahead. A moment that was set before keeps
its place. -/
def arm (w : World) (a : Agent) (times : List Nat) : World :=
  let wanted := (times.filter fun t => w.now < t).map (⟨·, a⟩)
  let kept := w.timers.filter fun t => t.agent ≠ a || wanted.contains t
  { w with timers := kept ++ wanted.filter fun t => !kept.contains t }

/-- A new agent gets its first turn. -/
def spawn (w : World) (a : Agent) : World := (w.setWait a (some .turn)).wake a

/-- The first moment, in milliseconds, that is too far ahead to be told: the clock has 63 bits for the
seconds, and has been running for a day when a simulation begins. -/
def horizon : Nat := (UInt64.size / 2 - 86400) * 1000

/-- The moment when patience ends. One that cannot be told counts as thirty years ahead. -/
def deadline (w : World) (span : Nat) : Nat :=
  if w.now + span < horizon then w.now + span else w.now + 30 * 365 * 86400 * 1000

/-! ### The pool -/

/-- Calls the loop of the pool, if it listens for jobs. -/
def callForJobs (w : World) : World :=
  if w.ears.jobs then { w with ears := { w.ears with jobs := false } }.wake .pump else w

/-- Hands a job to the pool. -/
def submit (w : World) (a : Agent) : World × Except SubmitError Unit :=
  match w.pool.submit a with
  | .ok pool => ({ w with pool }.callForJobs, .ok ())
  | .error e => (w, .error e)

/-- Calls the loop of the pool, if it listens for jobs that have ended. -/
def callForEnds (w : World) : World :=
  if w.ears.ends then { w with ears := { w.ears with ends := false } }.wake .pump else w

/-- A job has ended. -/
def finishJob (w : World) (a : Agent) (broken : Bool) : World :=
  ({ w.disarm a with pool := w.pool.finish a broken }.setWait a none).callForEnds

/-- Those who have used up their turn stand in line again, and the loop of the pool hears of the jobs
that it has put off. -/
def rejoin (w : World) : World :=
  let rested := { w with pool := w.pool.readmit, tired := [] }
  (if w.pool.deferred.isEmpty then rested else rested.callForEnds).wakeAll w.tired

/-- Tells the pool to stop. -/
def stopPool (w : World) : World :=
  let w := { w with pool := w.pool.stop }
  if w.ears.stop then { w with ears := { w.ears with stop := false } }.wake .pump else w

/-! ### Gates -/

/-- The gate of a name. -/
def gate (w : World) (name : String) : Gate :=
  (w.gates.find? fun g => g.name = name).getD { name }

/-- Changes the gate of a name. -/
def setGate (w : World) (g : Gate) : World :=
  { w with gates := g :: w.gates.filter fun h => h.name ≠ g.name }

/-- Gives a permit to the one who has waited longest, or keeps it. -/
def release (w : World) (name : String) : World :=
  let g := w.gate name
  match g.waiting with
  | a :: waiting => ((w.setGate { g with waiting }).setWait a (some (.grant true))).wake a
  | [] => w.setGate { g with permits := g.permits + 1 }

/-- Takes a permit, or waits for one. -/
def pass (w : World) (name : String) (a : Agent) : World :=
  let g := w.gate name
  if 0 < g.permits then
    (w.setGate { g with permits := g.permits - 1 }).setWait a (some (.grant true))
  else (w.setGate { g with waiting := g.waiting ++ [a] }).setWait a (some (.grant false))

/-! ### The status of the sink -/

/-- Whether a condition of the caller holds. -/
def holds (w : World) : Condition → Bool
  | .status s => decide (w.sink.status = s)
  | .requests n => decide (n ≤ w.network.requests)

end World

end A2dpSink.Simulation
