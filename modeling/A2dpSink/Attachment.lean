import A2dpSink.Device
import A2dpSink.Discovery
import A2dpSink.Transport

/-!
# Attachments

An attachment takes care of one device: while the device is connected it finds out what audio service
the device offers, once per connection, and opens the transport link if it is a sink. It is told when
something about the device may have changed and then looks at the device's flags; what it was told
does not matter.

The work is done by tasks, most of them jobs of the worker pool. A lock serializes them; the rounds of
discovery run beside them and need it only through the task that a round hands its services to. The
attachment is a machine like the session it contains: each task keeps the place it has got to, and
`step` takes an event and gives the attachment then and what it does.
-/

namespace A2dpSink

namespace Attachment

/-! ### Tasks, events and actions -/

/-- What a task is there for. -/
inductive Errand where
  /-- Look at the flags of the device and act on them. -/
  | update
  /-- Take in the services a round has found. -/
  | report (services : List AudioService)
  /-- Close everything for good. -/
  | close
  /-- Say what is known about the audio service. -/
  | inquire

/-- The place a task has got to. -/
inductive Stage where
  /-- Its job waits in the queue. -/
  | queued
  /-- It waits for the lock. -/
  | waiting
  /-- It closes the discovery link. -/
  | parting
  /-- It closes the transport link. -/
  | hangingUp
  /-- It asks whether the discovery link is in use. -/
  | probing
  /-- It opens the discovery link. -/
  | connecting
  /-- It starts a round of discovery. -/
  | starting
  /-- It opens the transport link. -/
  | opening (psm : Psm)
  deriving DecidableEq, Repr

/-- A task that is not over. -/
structure Task where
  number : Nat
  errand : Errand
  stage : Stage

/-- Who works for an attachment. -/
inductive Agent where
  | task (n : Nat)
  | round (n : Nat)
  deriving DecidableEq, Repr

/-- What a task leaves behind for its caller. -/
inductive Reply where
  | closed
  | service (s : AudioService)

/-- What an attachment does to the world. -/
inductive Action where
  | effect (e : Effect)
  /-- Let somebody run as a job. -/
  | submit (a : Agent)
  /-- Somebody who waited holds a lock now. -/
  | wake (a : Agent)
  /-- A task that was called from outside is over. -/
  | reply (n : Nat) (r : Reply)

/-- Reports a line. -/
abbrev Action.log (line : Log.Line) : Action := .effect (.log line)

/-- What an attachment finds around it during one step. -/
structure Surroundings where
  flags : DeviceFlags
  /-- What the worker pool says to a job that is submitted now. -/
  admission : Except SubmitError Unit

/-- What may happen to an attachment. -/
inductive Event where
  /-- The device may have changed. -/
  | notify
  /-- The job of a task starts. -/
  | start (n : Nat)
  | resume (n : Nat) (s : Signal)
  /-- The job of a round starts. -/
  | startRound (n : Nat)
  | resumeRound (n : Nat) (s : Signal)
  /-- The owner asks what is known about the service. -/
  | inquire
  /-- The owner closes the attachment. What came of removing the observer is given. -/
  | close (removal : Except ObserverError Unit)
  /-- The owner lets go of the attachment without closing it. -/
  | drop (removal : Except ObserverError Unit)

end Attachment

/-! ### The attachment -/

/-- The care for one device. -/
structure Attachment where
  /-- The address of the device. -/
  remote : Address
  /-- Whether somebody owns the attachment. -/
  owned : Bool := true
  /-- Whether its observer is installed, as far as it knows. -/
  observing : Bool := true
  service : AudioService := {}
  closed : Bool := false
  lock : Lock Nat := {}
  discovery : Discovery
  transport : Transport
  tasks : List Attachment.Task := []
  nextTask : Nat := 0

namespace Attachment

/-- What comes of a step: the attachment then, and what it does. -/
structure Outcome where
  attachment : Attachment
  actions : List Action

/-- Does something first. -/
def Outcome.after (o : Outcome) (actions : List Action) : Outcome :=
  { o with actions := actions ++ o.actions }

/-- The status of the connection. -/
def status (a : Attachment) : ConnectionStatus := a.transport.status

/-- A task with a given number. -/
def task? (a : Attachment) (n : Nat) : Option Task := a.tasks.find? fun t => t.number = n

/-- A task has got to another place, or is over. -/
def setTask (a : Attachment) (n : Nat) (stage : Option Stage) : Attachment :=
  { a with tasks := match stage with
      | some s => a.tasks.map fun t => if t.number = n then { t with stage := s } else t
      | none => a.tasks.filter fun t => t.number ≠ n }

/-- A new task at a given place. -/
def addTask (a : Attachment) (errand : Errand) (stage : Stage) : Attachment :=
  { a with tasks := a.tasks ++ [⟨a.nextTask, errand, stage⟩], nextTask := a.nextTask + 1 }

/-- Whether a task keeps the attachment in being. A report does so from its start on. -/
def Task.holds (t : Task) : Bool :=
  match t.errand, t.stage with
  | .report _, .queued => false
  | _, _ => true

/-- Whether the attachment is still in being. -/
def isAlive (a : Attachment) : Bool := a.owned || a.tasks.any (·.holds)

/-- What the discovery session does, as something the attachment does. Services that are handed over
become a task. -/
def translate (a : Attachment) : List Discovery.Action → Outcome
  | [] => ⟨a, []⟩
  | .effect e :: rest => (translate a rest).after [.effect e]
  | .schedule n :: rest => (translate a rest).after [.submit (.round n)]
  | .wake (.call n) :: rest => (translate a rest).after [.wake (.task n)]
  | .wake (.round n) :: rest => (translate a rest).after [.wake (.round n)]
  | .deliver services :: rest =>
    (translate (a.addTask (.report services) .queued) rest).after [.submit (.task a.nextTask)]

/-- The discovery session has made a step. -/
def absorb (a : Attachment) (o : Discovery.Outcome) : Outcome :=
  { a with discovery := o.session }.translate o.actions

/-! ### The ends of tasks -/

/-- A task that holds the lock gives it up and is over. -/
def leave (a : Attachment) (n : Nat) (reply : Option Reply := none) : Outcome :=
  let lock := a.lock.release
  ⟨{ a with lock }.setTask n none,
    (lock.holder.map fun m => .wake (.task m)).toList ++ (reply.map (.reply n)).toList⟩

/-- Starts to open the transport link, if it is not open. -/
def openTransport (a : Attachment) (n : Nat) (psm : Psm) : Outcome :=
  let o := a.transport.connect psm
  let a := { a with transport := o.transport }
  let rest := match o.reply with
    | some _ => a.leave n
    | none => ⟨a.setTask n (some (.opening psm)), []⟩
  rest.after (o.effects.map .effect)

/-- What a task that has hung up leaves behind. -/
def farewell (t : Task) : Option Reply :=
  match t.errand with
  | .close => some .closed
  | _ => none

/-- Closes the transport link. -/
def hangUp (a : Attachment) (t : Task) : Outcome :=
  let o := a.transport.disconnect
  let a := { a with transport := o.transport }
  let rest := match o.reply with
    | some _ => a.leave t.number (farewell t)
    | none => ⟨a.setTask t.number (some .hangingUp), []⟩
  rest.after (o.effects.map .effect)

/-! ### Taking in services -/

/-- The service an attachment settles on: the first sink, or the first of all if there is none. -/
def pick (services : List AudioService) : Option AudioService :=
  (services.find? fun s => s.role = .sink) <|> services.head?

/-- The line that shows the service an attachment has settled on. -/
def pickedLine (remote : Address) (s : AudioService) : Log.Line :=
  .a2dp .info (remote.text ++ " is a " ++ s.role.name ++ " on PSM " ++ toString s.psm.toNat ++
    " (AVDTP " ++ s.transportVersion.text ++ ", A2DP " ++ s.profileVersion.text ++
    ", features " ++ s.features.describe ++ ")")

/-- Settles on a service and opens the transport link if it is a sink. -/
def settle (a : Attachment) (n : Nat) (services : List AudioService) : Outcome :=
  let choice := if 1 < services.length then
      [.log (.a2dp .info (a.remote.text ++ " offers " ++ toString services.length ++
        " audio sink services, picking one"))]
    else []
  match pick services with
  | none => (a.leave n).after choice
  | some service =>
    let a := { a with service }
    let rest := if service.role = .sink then a.openTransport n service.psm else a.leave n
    rest.after (choice ++ [.log (pickedLine a.remote service)])

/-! ### Calls of the discovery session -/

/-- The discovery link is closed. -/
def parted (a : Attachment) (t : Task) : Outcome :=
  match t.errand with
  | .report services => a.settle t.number services
  | _ => a.hangUp t

/-- What is said when a busy discovery session is left alone. -/
def busyLine (remote : Address) : Log.Line :=
  .a2dp .debug ("discovery on " ++ remote.text ++ " is already running")

/-- Calls the discovery session. Until the call is over the task stays at a given place. -/
def call (a : Attachment) (s : Surroundings) (n : Nat) (r : Discovery.Request) (stage : Stage)
    (continuation : Attachment → Discovery.Reply → Outcome) : Outcome :=
  let o := a.discovery.begin s.admission n r
  let done := a.absorb o
  let rest := match o.reply with
    | some reply => continuation done.attachment reply
    | none => ⟨done.attachment.setTask n (some stage), []⟩
  rest.after done.actions

/-- The discovery link was to be opened; if it is, a round starts. -/
def connected (a : Attachment) (s : Surroundings) (n : Nat) (reply : Discovery.Reply) : Outcome :=
  match reply with
  | .connected (.ok _) => a.call s n .discover .starting fun a _ => a.leave n
  | _ => a.leave n

/-- The discovery session has said whether it is busy. -/
def probed (a : Attachment) (s : Surroundings) (n : Nat) (reply : Discovery.Reply) : Outcome :=
  match reply with
  | .isOpen false => a.call s n .connect .connecting fun a reply => a.connected s n reply
  | _ => (a.leave n).after [.log (busyLine a.remote)]

/-- The discovery session has answered a task. -/
def answered (a : Attachment) (s : Surroundings) (t : Task) (reply : Discovery.Reply) : Outcome :=
  match t.stage with
  | .parting => a.parted t
  | .probing => a.probed s t.number reply
  | .connecting => a.connected s t.number reply
  | .starting => a.leave t.number
  | _ => ⟨a, []⟩

/-! ### What tasks do with the lock -/

/-- Closes the discovery link, and forgets the service, before the rest is closed. -/
def part (a : Attachment) (s : Surroundings) (t : Task) : Outcome :=
  a.call s t.number .disconnect .parting fun a _ => a.parted t

/-- Acts on the flags of the device. -/
def update (a : Attachment) (s : Surroundings) (t : Task) : Outcome :=
  if a.closed then a.leave t.number
  else if !s.flags.connected then
    ({ a with service := {} }.part s t).after
      [.log (.a2dp .debug (a.remote.text ++ " disconnected"))]
  else match a.service.role with
    | .unknown => a.call s t.number .isOpen .probing fun a reply => a.probed s t.number reply
    | .sink =>
      if a.transport.isOpen then a.leave t.number else a.openTransport t.number a.service.psm
    | _ =>
      (a.leave t.number).after [.log (.a2dp .info (a.remote.text ++ " is not an audio sink"))]

/-- Does what a task is there for, once it holds the lock. -/
def perform (a : Attachment) (s : Surroundings) (t : Task) : Outcome :=
  match t.errand with
  | .update => a.update s t
  | .report _ =>
    if a.closed || !s.flags.connected then
      (a.leave t.number).after
        [.log (.a2dp .debug ("discarding services of " ++ a.remote.text ++ ", it is gone"))]
    else a.part s t
  | .close => { a with closed := true, service := {} }.part s t
  | .inquire => a.leave t.number (some (.service a.service))

/-- Asks for the lock on behalf of a task. -/
def claim (a : Attachment) (s : Surroundings) (t : Task) : Outcome :=
  let free := a.lock.isFree
  let a := { a with lock := a.lock.request t.number }.setTask t.number (some .waiting)
  if free then a.perform s t else ⟨a, []⟩

/-! ### Steps -/

/-- Has the device looked at by a job. -/
def notify (a : Attachment) (s : Surroundings) : Outcome :=
  if a.isAlive then
    match s.admission with
    | .ok _ => ⟨a.addTask .update .queued, [.submit (.task a.nextTask)]⟩
    | .error e => ⟨a, [.log (.a2dp .warn ("dropping device update: " ++ e.message))]⟩
  else ⟨a, []⟩

/-- Starts the job of a task. Updates of a device that is not bonded are ignored, and services that
nobody is left for are dropped. -/
def start (a : Attachment) (s : Surroundings) (n : Nat) : Outcome :=
  match a.task? n with
  | some t =>
    match t.stage, t.errand with
    | .queued, .update =>
      if s.flags.bonded then a.claim s t
      else ⟨a.setTask n none,
        [.log (.a2dp .debug ("ignoring update of unbonded device " ++ a.remote.text))]⟩
    | .queued, .report _ => if a.isAlive then a.claim s t else ⟨a.setTask n none, []⟩
    | _, _ => ⟨a, []⟩
  | none => ⟨a, []⟩

/-- Goes on with a task. -/
def resume (a : Attachment) (s : Surroundings) (n : Nat) (signal : Signal) : Outcome :=
  match a.task? n with
  | none => ⟨a, []⟩
  | some t =>
    match t.stage, signal with
    | .waiting, .granted => if a.lock.holder = some n then a.perform s t else ⟨a, []⟩
    | .hangingUp, .closed outcome =>
      let o := a.transport.closed outcome
      ({ a with transport := o.transport }.leave n (farewell t)).after (o.effects.map .effect)
    | .opening psm, .opened outcome =>
      let o := a.transport.opened psm outcome
      ({ a with transport := o.transport }.leave n).after (o.effects.map .effect)
    | _, _ =>
      let o := a.discovery.resume s.admission n signal
      let done := a.absorb o
      let rest := match o.reply with
        | some reply => done.attachment.answered s t reply
        | none => ⟨done.attachment, []⟩
      rest.after done.actions

/-- Stops observing the device. -/
def stopObserving (a : Attachment) (removal : Except ObserverError Unit) : Outcome :=
  if a.observing then
    let a := { a with observing := false }
    match removal with
    | .ok _ => ⟨a, []⟩
    | .error e =>
      ⟨a, [.log (.a2dp .warn ("could not stop observing the device: " ++ e.message))]⟩
  else ⟨a, []⟩

/-- Starts a task on behalf of the owner. -/
def summon (a : Attachment) (s : Surroundings) (errand : Errand) : Outcome :=
  (a.addTask errand .waiting).claim s ⟨a.nextTask, errand, .waiting⟩

/-- What comes of an event. One that does not fit changes nothing. -/
def step (a : Attachment) (s : Surroundings) : Event → Outcome
  | .notify => a.notify s
  | .start n => a.start s n
  | .resume n signal => a.resume s n signal
  | .startRound n => a.absorb (a.discovery.startRound n)
  | .resumeRound n signal => a.absorb (a.discovery.resumeRound s.admission n signal)
  | .inquire => if a.owned then a.summon s .inquire else ⟨a, []⟩
  | .close removal =>
    if a.owned then
      let o := a.stopObserving removal
      ({ o.attachment with owned := false }.summon s .close).after o.actions
    else ⟨a, []⟩
  | .drop removal =>
    if a.owned then
      let o := a.stopObserving removal
      { o with attachment := { o.attachment with owned := false } }
    else ⟨a, []⟩

/-! ### Beginning -/

/-- Attaches to a device. What came of installing the observer is given; the device is looked at right
away. -/
def create (settings : Settings) (remote : Address) (registration : Except ObserverError Unit)
    (s : Surroundings) :
    Except Settings.Excess (Except ObserverError Attachment × List Action) :=
  (Discovery.create settings remote).map fun discovery =>
    let (transport, effects) := Transport.create remote
    match registration with
    | .error e =>
      (.error e, effects.map .effect ++
        [.log (.a2dp .error ("cannot observe " ++ remote.text ++ ": " ++ e.message))])
    | .ok _ =>
      let o := notify { remote, discovery, transport } s
      (.ok o.attachment, effects.map .effect ++ o.actions)

/-- What somebody who works for the attachment waits for. -/
def awaits (a : Attachment) : Agent → Await
  | .round n => a.discovery.roundAwaits n
  | .task n =>
    match a.task? n with
    | some ⟨_, _, .waiting⟩ => .lock
    | some ⟨_, _, .hangingUp⟩ => .closing
    | some ⟨_, _, .opening _⟩ => .opening
    | some ⟨_, _, .queued⟩ => .nothing
    | some _ => a.discovery.callAwaits n
    | none => .nothing

end Attachment

end A2dpSink
