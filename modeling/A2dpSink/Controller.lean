import A2dpSink.Attachment

/-!
# Devices and attachments together

The controller knows the devices, and for each attachment the device it is made to. It is what keeps
the two in step: an attachment is made by installing its observer on the device, it sees the flags of
the device whenever it makes a step, and its observer is removed when it is closed or dropped.
Attachments are numbered in the order in which they were made, and keep their number.
-/

namespace A2dpSink

/-- Who observes a device. -/
inductive Observer where
  | attachment (n : Nat)
  /-- Somebody else. -/
  | other (name : String)
  deriving DecidableEq, Repr

/-- Devices, and the attachments made to them. -/
structure Controller where
  settings : Settings
  devices : List (Device Observer)
  /-- Every attachment ever made, with the place of its device. -/
  attachments : List (Nat × Attachment) := []

namespace Controller

/-- What the attachments of a controller do, each with the number of the attachment. -/
abbrev Actions := List (Nat × Attachment.Action)

/-- The device with a given address, and its place. -/
def find? (c : Controller) (a : Address) : Option (Device Observer × Nat) :=
  c.devices.zipIdx.find? fun d => d.1.remoteAddress = a

/-- The place of the device with a given address. -/
def place? (c : Controller) (a : Address) : Option Nat := (c.find? a).map (·.2)

/-- Changes a device. -/
def setDevice (c : Controller) (place : Nat) (d : Device Observer) : Controller :=
  { c with devices := c.devices.set place d }

/-- An attachment with a given number. -/
def attachment? (c : Controller) (n : Nat) : Option Attachment := c.attachments[n]?.map (·.2)

/-- What an attachment to the device at a given place finds around it. -/
def surroundings (c : Controller) (place : Nat) (admission : Except SubmitError Unit) :
    Attachment.Surroundings :=
  ⟨(c.devices[place]?.map (·.flags)).getD {}, admission⟩

/-- What comes of an attempt to make an attachment: the controller then, the number of the attachment
or why there is none, and what was done. -/
structure Attempt where
  controller : Controller
  result : Except ObserverError Nat
  actions : Actions

/-- Makes an attachment to the device at a given place. -/
def attach (c : Controller) (d : Device Observer) (place : Nat)
    (admission : Except SubmitError Unit) : Except Settings.Excess Attempt :=
  let n := c.attachments.length
  let registered := d.register (.attachment n)
  (Attachment.create c.settings d.remoteAddress (registered.map fun _ => ())
    ⟨d.flags, admission⟩).map fun (made, actions) =>
      let actions := actions.map (n, ·)
      match registered, made with
      | .ok d, .ok a =>
        ⟨{ c.setDevice place d with attachments := c.attachments ++ [(place, a)] }, .ok n, actions⟩
      | .error e, _ => ⟨c, .error e, actions⟩
      | _, .error e => ⟨c, .error e, actions⟩

/-- An event happens to an attachment. -/
def step (c : Controller) (n : Nat) (admission : Except SubmitError Unit)
    (e : Attachment.Event) : Controller × Actions :=
  match c.attachments[n]? with
  | none => (c, [])
  | some (place, a) =>
    let o := a.step (c.surroundings place admission) e
    ({ c with attachments := c.attachments.set n (place, o.attachment) }, o.actions.map (n, ·))

/-- Takes the observer off the device of an attachment, if the attachment counts on having one there,
and then lets an event happen to the attachment that depends on what came of that. -/
def withdraw (c : Controller) (n : Nat) (admission : Except SubmitError Unit)
    (e : Except ObserverError Unit → Attachment.Event) : Controller × Actions :=
  match c.attachments[n]? with
  | none => (c, [])
  | some (place, a) =>
    match a.observing, c.devices[place]? with
    | true, some d =>
      match d.unregister with
      | .ok d => (c.setDevice place d).step n admission (e (.ok ()))
      | .error err => c.step n admission (e (.error err))
    | _, _ => c.step n admission (e (.ok ()))

/-- The owner closes an attachment. -/
def close (c : Controller) (n : Nat) (admission : Except SubmitError Unit) : Controller × Actions :=
  c.withdraw n admission .close

/-- The owner drops an attachment. -/
def drop (c : Controller) (n : Nat) (admission : Except SubmitError Unit) : Controller × Actions :=
  c.withdraw n admission .drop

end Controller

end A2dpSink
