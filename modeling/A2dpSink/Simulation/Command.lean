import A2dpSink.Simulation.Turns

/-!
# Commands

What the caller of a simulation can do: change the world around the library, call the library, and
let time pass. A command is carried out until its call is over; after that the caller may let
everybody run who can.
-/

namespace A2dpSink.Simulation

/-- What changes about a rule; what is not given stays. -/
structure RuleChange where
  opening : Option Fate := none
  openingDelay : Option Nat := none
  closing : Option Fate := none
  closingDelay : Option Nat := none

/-- Applies a change to a rule. -/
def RuleChange.apply (c : RuleChange) (r : Rule) : Rule where
  opening := c.opening.getD r.opening
  openingDelay := c.openingDelay.getD r.openingDelay
  closing := c.closing.getD r.closing
  closingDelay := c.closingDelay.getD r.closingDelay

/-- What the caller can do. -/
inductive Command where
  /-- Set the flags of a device. -/
  | set (device : Nat) (bonded connected : Option Bool)
  /-- Call the observer of a device, so many times. -/
  | notify (device times : Nat)
  /-- Install an observer from elsewhere. -/
  | observe (device : Nat) (name : String)
  /-- Remove the observer of a device. -/
  | unobserve (device : Nat)
  /-- Take the observer out of a device and keep it. -/
  | steal (device : Nat)
  /-- Call the observers that were kept. -/
  | fire
  /-- Give another script to the peers of later links. -/
  | script (script : List Turn)
  /-- Change the rule for links to a number. -/
  | rule (psm : Psm) (change : RuleChange)
  /-- Give another conduct to the servers of later links. -/
  | serve (conduct : Conduct)
  /-- Refuse links to a number. -/
  | refuse (psm : Psm)
  /-- Let links to a number hang. -/
  | hang (psm : Psm)
  /-- Let time pass. -/
  | advance (span : Nat)
  /-- Wait for something for five seconds at most. -/
  | waitFor (c : Condition)
  | submit (job : Job)
  | release (name : String)
  /-- Stop the pool in the background. -/
  | stopPool
  | dropPool
  /-- Call the stand-alone session. -/
  | session (r : Discovery.Request)
  /-- Open the stand-alone transport. -/
  | connect (psm : Psm)
  /-- Close the stand-alone transport. -/
  | disconnect
  /-- Make an attachment to a device. -/
  | attach (device : Nat)
  | inquire
  | close
  | drop
  | assign (text : String)
  | revoke (text : String)
  /-- Follow the status of the stand-alone transport, of the attachment or of the sink. -/
  | subscribe
  /-- Look at the status that is followed. -/
  | watch
  /-- Open a link for its own sake. -/
  | link (psm : Psm)
  /-- Put a question on a link. -/
  | ask (link : LinkId) (q : Sdp.Question)

namespace World

/-! ### Setting up -/

/-- A world with devices and a pool. -/
def create (settings : Settings) (devices : List (Device Observer)) (connector : Connector) :
    Except Settings.Excess World :=
  settings.queueLength.map fun capacity =>
    { settings
      pool := .start settings.workerCount capacity
      network := { connector }
      sink := { controller := { settings, devices } } : World }.spawn .pump

/-- Adds a discovery session on the first device. -/
def withSession (w : World) : Except Settings.Excess World :=
  match w.firstDevice with
  | none => .ok w
  | some d =>
    (Discovery.create w.settings d.remoteAddress).map fun session =>
      { w with session := some session }

/-- Adds a transport to the first device. -/
def withTransport (w : World) : World :=
  match w.firstDevice with
  | none => w
  | some d =>
    let (transport, effects) := Transport.create d.remoteAddress
    effects.foldl (fun w e => w.perform .main w.firstDevice e)
      { w with transport := some transport }

/-! ### Carrying out commands -/

/-- A command is over. -/
def finish (w : World) (r : Result) : World := { w with result := some r }

/-- Changes a device. -/
def changeDevice (w : World) (place : Nat) (f : Device Observer → Device Observer) : World :=
  let c := w.sink.controller
  match c.devices[place]? with
  | some d => { w with sink := { w.sink with controller := c.setDevice place (f d) } }
  | none => w

/-- Changes who observes a device. -/
def changeObserver (w : World) (place : Nat)
    (f : Device Observer → Except ObserverError (Device Observer)) : World :=
  match w.sink.controller.devices[place]? with
  | none => w.finish .absent
  | some d =>
    match f d with
    | .ok d => (w.changeDevice place fun _ => d).finish (.observed (.ok ()))
    | .error e => w.finish (.observed (.error e))

/-- Calls an observer. -/
def callObserver (w : World) : Observer → World
  | .attachment n => w.attachmentStep .main n .notify
  | .other name => w.note (.notified name)

/-- Calls the observer of a device, so many times. -/
def notifyDevice (w : World) (place : Nat) : Nat → World
  | 0 => w
  | n + 1 =>
    match (w.sink.controller.devices[place]?).bind (·.observer) with
    | some o => notifyDevice (w.callObserver o) place n
    | none => w

/-- Lets a controller do something, and then does what its attachments do. -/
def control (w : World) (r : Controller × Controller.Actions) : World :=
  { w with sink := { w.sink with controller := r.1 } }.attachmentActions .main r.2

/-- Makes an attachment, and drops the one before it. -/
def attachTo (w : World) (place : Nat) : Except Settings.Excess World :=
  match w.sink.controller.devices[place]? with
  | none => .ok (w.finish .absent)
  | some d =>
    (w.sink.controller.attach d place w.admission).map fun attempt =>
      let w := w.control (attempt.controller, attempt.actions)
      match attempt.result with
      | .error e => w.finish (.assigned (.error (.observerRefused e)))
      | .ok n =>
        let w := match w.owned with
          | some old => w.control (w.sink.controller.drop old w.admission)
          | none => w
        { w with owned := some n }.finish .done

/-- A call of the caller has started a task of an attachment. -/
def startTask (w : World) (n : Nat) (revoking : Option Assignment) (sink : Sink)
    (actions : Controller.Actions) : World :=
  let next := ((w.sink.controller.attachment? n).map (·.nextTask)).getD 0
  let w := { w with sink, call := .task n next revoking }
  ((w.attachmentActions .main actions).noteRevocation revoking).settleWait .main

/-- The status that a subscription follows: whether its source is still there, how many values were
published, and the last one. -/
def followed (w : World) (s : Subscription) : Bool × Nat × ConnectionStatus :=
  let transport := match s.attachment with
    | some n =>
      (w.sink.controller.attachment? n).map fun (a : Attachment) => (a.isAlive, a.transport)
    | none => w.transport.map (true, ·)
  match transport with
  | some (alive, t) => (alive, t.published.length, t.status)
  | none => (false, 0, .unassigned)

/-- Follows the status of the stand-alone transport, of the attachment or of the sink. An attachment
gives its status as it was when the attachment was made; every change since then is news. If there is
nothing to follow, what was followed before is not followed any more. -/
def follow (w : World) : World :=
  match w.transport with
  | some t => { w with subscription := some ⟨none, t.published.length⟩ }.finish .done
  | none =>
    match w.owned <|> w.sink.assigned.map (·.attachment) with
    | some n => { w with subscription := some ⟨some n, 1⟩ }.finish (.truth true)
    | none => { w with subscription := none }.finish (.truth false)

/-- Looks at the status that is followed. -/
def readStatus (w : World) : World :=
  match w.subscription with
  | none => w.finish .absent
  | some s =>
    let (alive, published, status) := w.followed s
    let changed := if alive then some (published != s.seen) else none
    { w with subscription := some { s with seen := published } }.finish (.status changed status)

/-- How long the caller waits for a link or an answer, in milliseconds. -/
def patience : Nat := 86400000

/-- How long the caller waits for something to become true, in milliseconds. -/
def conditionLimit : Nat := 5000

/-- Starts to carry out a command. Fails if the settings do not allow for an attachment. -/
def start (w : World) (c : Command) : Except Settings.Excess World :=
  let w := { w with call := .none, result := none }
  match c with
  | .set place bonded connected =>
    .ok <| (w.changeDevice place fun d =>
      { d with flags := ⟨bonded.getD d.flags.bonded, connected.getD d.flags.connected⟩ }).finish .done
  | .notify place times => .ok ((w.notifyDevice place times).finish .done)
  | .observe place name => .ok (w.changeObserver place (·.register (.other name)))
  | .unobserve place => .ok (w.changeObserver place (·.unregister))
  | .steal place =>
    match (w.sink.controller.devices[place]?).bind (·.observer) with
    | some o =>
      let w := w.changeDevice place fun d => { d with observer := none }
      .ok ({ w with stolen := w.stolen ++ [o] }.finish (.truth true))
    | none => .ok (w.finish (.truth false))
  | .fire => .ok ((w.stolen.foldl callObserver w).finish .done)
  | .script script =>
    match w.network.connector with
    | .ruled _ rules =>
      .ok ({ w with network := { w.network with connector := .ruled script rules } }.finish .done)
    | _ => .ok (w.finish .done)
  | .rule psm change =>
    match w.network.connector with
    | .ruled script rules =>
      let rule := change.apply ((rules.lookup psm).getD {})
      let rules := (psm, rule) :: rules.filter fun r => r.1 ≠ psm
      .ok ({ w with network := { w.network with connector := .ruled script rules } }.finish .done)
    | _ => .ok (w.finish .done)
  | .serve conduct =>
    match w.network.connector with
    | .serving _ refused hanging =>
      let connector := .serving conduct refused hanging
      .ok ({ w with network := { w.network with connector } }.finish .done)
    | _ => .ok (w.finish .done)
  | .refuse psm =>
    match w.network.connector with
    | .serving conduct refused hanging =>
      let connector := .serving conduct (psm :: refused) hanging
      .ok ({ w with network := { w.network with connector } }.finish .done)
    | _ => .ok (w.finish .done)
  | .hang psm =>
    match w.network.connector with
    | .serving conduct refused hanging =>
      let connector := .serving conduct refused (psm :: hanging)
      .ok ({ w with network := { w.network with connector } }.finish .done)
    | _ => .ok (w.finish .done)
  | .advance span =>
    .ok ({ w with call := .rest }.setWait .main (some (.moment (w.now + span))))
  | .waitFor c =>
    .ok ({ w with call := .condition c (w.now + conditionLimit) }.resumeCall .granted)
  | .submit job =>
    let n := w.jobs.length
    let (w, r) := { w with jobs := w.jobs ++ [job] }.submit (.job n)
    .ok (w.finish (.submitted r))
  | .release name => .ok ((w.release name).finish .done)
  | .stopPool =>
    let w := if w.ownsPool then { w with ownsPool := false }.spawn .stopper else w
    .ok (w.finish .done)
  | .dropPool =>
    let w := if w.ownsPool then { w with ownsPool := false }.stopPool else w
    .ok (w.finish .done)
  | .session r =>
    match w.session with
    | some d =>
      .ok (({ w with call := .session }.sessionStep .main
        (d.begin w.admission 0 r)).settleWait .main)
    | none => .ok (w.finish .absent)
  | .connect psm =>
    match w.transport with
    | some t => .ok ({ w with call := .opening psm }.transportStep (t.connect psm) .opened)
    | none => .ok (w.finish .absent)
  | .disconnect =>
    match w.transport with
    | some t => .ok ({ w with call := .closing }.transportStep t.disconnect .closed)
    | none => .ok (w.finish .absent)
  | .attach place => w.attachTo place
  | .inquire =>
    match w.owned with
    | some n =>
      let (controller, actions) := w.sink.controller.step n w.admission .inquire
      .ok (w.startTask n none { w.sink with controller } actions)
    | none => .ok (w.finish .absent)
  | .close =>
    match w.owned with
    | some n =>
      let (controller, actions) := w.sink.controller.close n w.admission
      .ok ({ w with owned := none }.startTask n none { w.sink with controller } actions)
    | none => .ok (w.finish .absent)
  | .drop =>
    match w.owned with
    | some n =>
      let w := w.control (w.sink.controller.drop n w.admission)
      .ok ({ w with owned := none }.finish .done)
    | none => .ok (w.finish .done)
  | .assign text =>
    (w.sink.assign w.sink.controller.place? text w.admission).map fun attempt =>
      ({ w with sink := attempt.sink }.attachmentActions .main attempt.actions).finish
        (.assigned (attempt.result.map fun _ => ()))
  | .revoke text =>
    let attempt := w.sink.revoke text w.admission
    .ok <| match attempt.result with
      | .error e => w.finish (.assigned (.error e))
      | .ok assignment =>
        w.startTask assignment.attachment (some assignment) attempt.sink attempt.actions
  | .subscribe => .ok w.follow
  | .watch => .ok w.readStatus
  | .link psm =>
    .ok ({ w with call := .link }.connect .main w.firstDevice psm (w.now + patience))
  | .ask id q =>
    let (network, i) := w.network.ask id q
    .ok ({ w with network, call := .question }.setWait .main
      (some (.answer id i (w.now + patience))))

/-- How many times the caller is looked after at most during one command. -/
def runLimit : Nat := 1000000000

/-- How much a command takes out of the caller's allowance: one for each lock that it asks for, and one
for a moment that it waits for. -/
def effort (w : World) : Command → Nat
  | .session _ => 1
  | .inquire => if w.owned.isSome then 1 else 0
  | .close => if w.owned.isSome then 2 else 0
  | .revoke text => if (w.sink.vacate text).isOk then 2 else 0
  | .advance _ => 1
  | .waitFor c => if w.holds c then 0 else 1
  | _ => 0

/-- The caller makes an effort. If his allowance does not cover it he lets the others go first. -/
def useAllowance (w : World) (n : Nat) : World :=
  if n ≤ w.allowance then { w with allowance := w.allowance - n }
  else { w.turns batch with allowance := effortLimit - n }

/-- Carries out a command. Afterwards everybody runs who can, if that is wished for. -/
def run (w : World) (c : Command) (settling : Bool) : Except Settings.Excess World :=
  let w := w.useAllowance (w.effort c)
  (w.start c).map fun w =>
    let w := if w.result.isSome then w else w.proceed .main turnLimit
    let w := if w.result.isSome then w else w.await runLimit
    if settling then w.settle runLimit else w

/-- The pool goes away with all its jobs, and whoever waits for it to stop finds that out. -/
def lose (w : World) : World :=
  { w with pool := w.pool.abandon, line := [], tired := [], waits := [], timers := [] }.note
    (.log (.pool .error "dispatch pump failed: task N was cancelled"))

/-- Hands over what was recorded, the first first. -/
def takeTrace (w : World) : List Item × World := (w.trace.reverse, { w with trace := [] })

end World

end A2dpSink.Simulation
