import A2dpSink.Simulation.World

/-!
# Turns

What happens when somebody has a turn. An agent goes on for as long as what it waits for is there
already, and otherwise sets the moments at which it is called. A run lets everybody have a turn who
can go on; time passes when nobody can.
-/

namespace A2dpSink.Simulation

namespace World

/-! ### What the machines do -/

/-- The first device; the stand-alone machines work on it. -/
def firstDevice (w : World) : Option (Device Observer) := w.sink.controller.devices.head?

/-- The device of an attachment. -/
def deviceOf (w : World) (n : Nat) : Option (Device Observer) :=
  (w.sink.controller.attachments[n]?).bind fun p => w.sink.controller.devices[p.1]?

/-- Whether a network shows what is done with its links. -/
def showsLinks (w : World) : Bool :=
  match w.network.connector with
  | .ruled _ _ => true
  | .serving _ _ _ => false

/-- Starts to open a link for an agent, which waits for it until a given moment. -/
def connect (w : World) (a : Agent) (d : Option (Device Observer)) (psm : Psm) (deadline : Nat) :
    World :=
  match d with
  | none => w
  | some d =>
    let c := w.network.connect w.now d.localAddress psm
    let w := if w.showsLinks then w.note (.connect psm d) else w
    let w := { w with network := c.network }.setWait a
      (some (.course c.course deadline (.opened .expired)))
    match c.station with
    | some n => w.spawn (.server n)
    | none => w

/-- Does what a machine does on behalf of an agent. -/
def perform (w : World) (a : Agent) (d : Option (Device Observer)) : Effect → World
  | .log line => w.note (.log line)
  | .connect psm => w.connect a d psm (w.deadline w.settings.openTimeout.toNat)
  | .shutdown id =>
    let (network, course, calls) := w.network.shutdown w.now id
    let w := match w.network.links[id]? with
      | some l => if w.showsLinks then w.note (.shutdown l.psm) else w
      | none => w
    ({ w with network }.setWait a
      (some (.course course (w.deadline w.settings.closeTimeout.toNat) (.closed .expired)))).wakeAll
      calls
  | .query id limit =>
    let (network, i) := w.network.ask id (Discovery.question w.settings)
    { w with network }.setWait a (some (.answer id i (w.deadline limit)))

/-- A lock is granted to an agent. -/
def grant (w : World) (a : Agent) : World := (w.setWait a (some (.grant true))).wake a

/-- The agent that stands for somebody who works for an attachment. The caller stands for the task of
his call. -/
def agentOf (w : World) (n : Nat) (g : Attachment.Agent) : Agent :=
  match w.call, g with
  | .task m k _, .task l => if m = n ∧ k = l then .main else .attachment n g
  | _, _ => .attachment n g

/-- Does what attachments do, on behalf of an agent. -/
def attachmentActions (w : World) (a : Agent) : Controller.Actions → World
  | [] => w
  | (n, .effect e) :: rest => attachmentActions (w.perform a (w.deviceOf n) e) a rest
  | (n, .submit g) :: rest => attachmentActions (w.submit (.attachment n g)).1 a rest
  | (n, .wake g) :: rest => attachmentActions (w.grant (w.agentOf n g)) a rest
  | (_, .reply _ r) :: rest =>
    let result := match r with
      | .closed => Result.done
      | .service s => .service s
    attachmentActions { w with result := some result } a rest

/-- The agent that stands for a party of the stand-alone session. -/
def partyAgent : Discovery.Party → Agent
  | .call _ => .main
  | .round n => .round n

/-- Does what the stand-alone session does, on behalf of an agent. -/
def sessionActions (w : World) (a : Agent) : List Discovery.Action → World
  | [] => w
  | .effect e :: rest => sessionActions (w.perform a w.firstDevice e) a rest
  | .schedule n :: rest => sessionActions (w.submit (.round n)).1 a rest
  | .deliver services :: rest =>
    let n := w.findings.length
    let w := { w with findings := w.findings ++ [services] }
    sessionActions (w.submit (.reporter n)).1 a rest
  | .wake p :: rest => sessionActions (w.grant (partyAgent p)) a rest

/-- The stand-alone session has made a step. -/
def sessionStep (w : World) (a : Agent) (o : Discovery.Outcome) : World :=
  let w := { w with session := some o.session }.sessionActions a o.actions
  match o.reply with
  | none => w
  | some reply =>
    let result := match reply with
      | .isOpen b => Result.truth b
      | .connected r => .opened r
      | .disconnected r => .closed r
      | .asked => .done
    { w with result := some result }

/-- An event happens to an attachment, on behalf of an agent. -/
def attachmentStep (w : World) (a : Agent) (n : Nat) (e : Attachment.Event) : World :=
  let (controller, actions) := w.sink.controller.step n w.admission e
  { w with sink := { w.sink with controller } }.attachmentActions a actions

/-- The stand-alone transport has made a step. -/
def transportStep {α : Type} (w : World) (o : Transport.Outcome α) (result : α → Result) : World :=
  let w := o.effects.foldl (fun w e => w.perform .main w.firstDevice e)
    { w with transport := some o.transport }
  { w with result := o.reply.map result }

/-! ### The caller -/

/-- What the caller's call waits for, if it depends on a machine. -/
def callAwaits (w : World) : Await :=
  match w.call with
  | .session => (w.session.map (·.callAwaits 0)).getD .nothing
  | .task n k _ =>
    ((w.sink.controller.attachment? n).map (·.awaits (.task k))).getD .nothing
  | _ => .nothing

/-- A device is revoked as soon as its attachment is closed. -/
def noteRevocation (w : World) (revoking : Option Assignment) : World :=
  match revoking, w.result with
  | some assignment, some _ => w.note (.log (Sink.revokedLine assignment))
  | _, _ => w

/-- The caller's call goes on. -/
def resumeCall (w : World) (s : Signal) : World :=
  match w.call with
  | .none => w
  | .session =>
    match w.session with
    | some d => w.sessionStep .main (d.resume w.admission 0 s)
    | none => w
  | .opening psm =>
    match w.transport, s with
    | some t, .opened o => w.transportStep (t.opened psm o) .opened
    | _, _ => w
  | .closing =>
    match w.transport, s with
    | some t, .closed o => w.transportStep (t.closed o) .closed
    | _, _ => w
  | .task n k revoking =>
    (w.attachmentStep .main n (.resume k s)).noteRevocation revoking
  | .rest => { w with result := some .done }
  | .condition c deadline =>
    if w.holds c then { w with result := some (.truth true) }
    else if deadline ≤ w.now then { w with result := some (.truth false) }
    else w.setWait .main (some (.moment (w.now + 10)))
  | .link =>
    let result := match s with
      | .opened (.opened _) => Result.channel (.ok ())
      | .opened (.failed e) => .channel (.error e)
      | _ => .stalled
    { w with result := some result }
  | .question =>
    let result := match s with
      | .answered (some r) => Result.answer r
      | _ => .stalled
    { w with result := some result }

/-! ### Beginning and going on -/

/-- An agent has its first turn. -/
def begin (w : World) (a : Agent) : World :=
  match a with
  | .attachment n (.task k) => w.attachmentStep a n (.start k)
  | .attachment n (.round k) => w.attachmentStep a n (.startRound k)
  | .round k =>
    match w.session with
    | some d => w.sessionStep a (d.startRound k)
    | none => w
  | .reporter k =>
    match w.findings[k]? with
    | some services => w.note (.services services)
    | none => w
  | .job k =>
    match w.jobs[k]? with
    | none => w
    | some job =>
      let w := w.note (.started job.name)
      match job.work with
      | .nothing => w.note (.ended job.name)
      | .breakDown => w
      | .gate => w.pass job.name a
      | .sleep span => w.setWait a (some (.moment (w.now + span)))
      | .endless => w.setWait a (some .others)
  | .stopper => { w.stopPool with awaited := true }.setWait a (some .others)
  | _ => w

/-- An agent goes on with what it has waited for. -/
def resume (w : World) (a : Agent) (s : Signal) : World :=
  match a with
  | .main => w.resumeCall s
  | .attachment n (.task k) => w.attachmentStep a n (.resume k s)
  | .attachment n (.round k) => w.attachmentStep a n (.resumeRound k s)
  | .round k =>
    match w.session with
    | some d => w.sessionStep a (d.resumeRound w.admission k s)
    | none => w
  | .job k =>
    match w.jobs[k]? with
    | some job => w.note (.ended job.name)
    | none => w
  | .stopper => w.note .poolStopped
  | _ => w

/-- What an agent that belongs to a machine waits for. -/
def awaits (w : World) (a : Agent) : Await :=
  match a with
  | .main => w.callAwaits
  | .attachment n g => ((w.sink.controller.attachment? n).map (·.awaits g)).getD .nothing
  | .round k => (w.session.map (·.roundAwaits k)).getD .nothing
  | _ => .nothing

/-- Whether a job breaks down instead of ending. -/
def isBroken (w : World) : Agent → Bool
  | .job k =>
    match w.jobs[k]? with
    | some ⟨_, .breakDown⟩ => true
    | _ => false
  | _ => false

/-- An agent that does not wait for anything any more is over. -/
def conclude (w : World) (a : Agent) : World :=
  if a ∈ w.pool.running then w.finishJob a (w.isBroken a) else (w.disarm a).setWait a none

/-- A server works until it has to wait. -/
def serve (w : World) (station : Nat) (rested : Bool) : World :=
  let (network, idle, calls) := w.network.serve station rested
  let self := Agent.server station
  let w := { w.disarm self with network }.wakeAll calls
  match idle with
  | .client => w.setWait self (some .others)
  | .over => w.setWait self none
  | .pause span =>
    let time := w.now + span
    (w.setWait self (some (.moment time))).arm self [time]

/-- What an agent finds when it looks whether it can go on: the signal it goes on with, or nothing. -/
def look (w : World) (a : Agent) : World × Option Signal :=
  match w.wait? a with
  | some (.grant true) => (w, some .granted)
  | some (.course c deadline late) =>
    if c.time.any (· ≤ w.now) then (w, some c.signal)
    else if deadline ≤ w.now then (w, some late)
    else (w.arm a (c.time.toList ++ [deadline]), none)
  | some (.answer id i deadline) =>
    let step := w.network.advance w.now a id i
    let w := step.requests.foldl (fun w b => w.note (.request b)) { w with network := step.network }
    let w := w.wakeAll step.calls
    match step.progress with
    | .done r => (w, some (.answered (some r)))
    | .going i =>
      if deadline ≤ w.now then (w, some (.answered none))
      else ((w.setWait a (some (.answer id i deadline))).arm a (step.resumesAt.toList ++ [deadline]),
        none)
  | some (.moment time) =>
    if time ≤ w.now then (w, some .granted) else (w.arm a [time], none)
  | some .others =>
    if a = .stopper ∧ w.pool.phase matches .stopped then (w, some .granted) else (w, none)
  | _ => (w, none)

/-- What an agent waits for after a step. -/
def settleWait (w : World) (a : Agent) : World :=
  match w.awaits a with
  | .lock => w.setWait a (some (.grant false))
  | _ => w

/-- How many times an agent may go on within one turn. -/
def turnLimit : Nat := 1000

/-- An agent goes on for as long as it can. -/
def proceed (w : World) (a : Agent) : Nat → World
  | 0 => w
  | fuel + 1 =>
    match w.look a with
    | (w, none) => w
    | (w, some signal) =>
      let w := (((w.disarm a).setWait a none).resume a signal).settleWait a
      if (w.wait? a).isSome then proceed w a fuel else w.conclude a

/-- The loop of the pool is about to make a step. It listens from then on for what it looks for. -/
def pumpLooks (w : World) : World :=
  { w with ears := { w.ears with ends := w.ears.ends || w.pool.awaitsEnds, stop := true } }

/-- The loop of the pool waits, or is over. -/
def pumpRests (w : World) : World :=
  if w.pool.phase matches .stopped then
    if w.awaited then w.wake .stopper else w
  else { w with ears := { w.ears with jobs := w.ears.jobs || w.pool.awaitsJobs } }

/-- The loop of the pool has used up its turn. Usually it stands in line again when the line has moved
on. While it only looks after jobs that have ended it puts off the one it has come to until then, and
stands in line again at once for the sake of the others. -/
def pumpTires (w : World) : World :=
  match w.pool.phase with
  | .serving => { w with tired := w.tired ++ [.pump] }
  | .draining none => { w with tired := w.tired ++ [.pump] }
  | _ =>
    let w := w.pumpLooks
    if w.pool.ended.isEmpty then w.pumpRests
    else { w with pool := w.pool.defer }.wake .pump

/-- Does what the loop of the pool does. -/
def pumpEffect (w : World) : Pool.Effect Agent → World
  | .start a => w.spawn a
  | .report line => w.note (.log line)

/-- The loop of the pool makes its steps until it has to wait, or has made as many as it may. -/
def pumpTurn (w : World) : Nat → World
  | 0 => w.pumpTires
  | fuel + 1 =>
    let w := w.pumpLooks
    match w.pool.move with
    | none => w.pumpRests
    | some (pool, effects) => pumpTurn (effects.foldl pumpEffect { w with pool }) fuel

/-- An agent has a turn. -/
def turn (w : World) (a : Agent) : World :=
  match a with
  | .pump => w.pumpTurn effortLimit
  | .server n =>
    match w.wait? a with
    | some (.moment time) => if time ≤ w.now then w.serve n true else w
    | some _ => w.serve n false
    | none => w
  | _ =>
    match w.wait? a with
    | some .turn =>
      let w := ((w.setWait a none).begin a).settleWait a
      if (w.wait? a).isSome then w.proceed a turnLimit else w.conclude a
    | _ => w.proceed a turnLimit

/-! ### Runs -/

/-- How many turns there are before the caller is looked after. -/
def batch : Nat := 61

/-- The first ones in the line have their turns. -/
def turns (w : World) : Nat → World
  | 0 => w.rejoin
  | n + 1 =>
    match w.line with
    | [] => w.rejoin
    | a :: line => turns ({ w with line }.turn a) n

/-- Time passes until the next moment somebody is called at. -/
def elapse (w : World) : Option World :=
  match w.timers with
  | [] => none
  | t :: rest =>
    let now := rest.foldl (fun m s => min m s.time) t.time
    let (due, later) := w.timers.partition fun s => decide (s.time ≤ now)
    some ({ w with now, timers := later }.wakeAll (due.map Timer.agent))

/-- Everybody runs who can, and no time passes. -/
def settle (w : World) : Nat → World
  | 0 => w
  | fuel + 1 =>
    if w.line.isEmpty then { w with called := false, allowance := effortLimit }
    else settle (w.turns batch) fuel

/-- The caller's call goes on until it is over. What he has waited for is the first thing he does with
a new allowance. -/
def await (w : World) : Nat → World
  | 0 => w
  | fuel + 1 =>
    let w :=
      if w.called then { w with called := false, allowance := effortLimit - 1 }.proceed .main turnLimit
      else w
    if w.result.isSome then w
    else if w.line.isEmpty then
      match w.elapse with
      | some w => await w fuel
      | none => w
    else await (w.turns batch) fuel

end World

end A2dpSink.Simulation
