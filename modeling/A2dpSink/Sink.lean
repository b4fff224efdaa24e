import A2dpSink.Controller

/-!
# The audio sink

The audio sink takes care of one device at a time. A device is assigned by its address and stays
assigned until it is revoked; a call that fails changes nothing.
-/

namespace A2dpSink

/-- Why a device was not assigned or not revoked. -/
inductive AttachError where
  | alreadyAssigned
  | deviceUnavailable
  | observerRefused (e : ObserverError)
  | notAssigned
  | invalidAddress (e : Address.ParseError)
  deriving DecidableEq, Repr

/-- What is said about a device that was not assigned or not revoked. -/
def AttachError.message : AttachError → String
  | alreadyAssigned => "a device is already assigned"
  | deviceUnavailable => "the device is not known to the controller"
  | observerRefused e => "could not observe the device: " ++ e.message
  | notAssigned => "the device is not assigned"
  | invalidAddress e => e.message

/-- A device the sink takes care of. -/
structure Assignment where
  address : Address
  /-- The number of the attachment. -/
  attachment : Nat
  deriving DecidableEq, Repr

/-- The audio sink, and the controller it finds devices through. -/
structure Sink where
  controller : Controller
  assigned : Option Assignment := none

namespace Sink

/-- Reads an address. -/
def address (text : String) : Except AttachError Address :=
  match Address.parse text with
  | .ok a => .ok a
  | .error e => .error (.invalidAddress e)

/-- What comes of a call: the sink then, the assignment that was made or ended, and what was
done. -/
structure Attempt where
  sink : Sink
  result : Except AttachError Assignment
  actions : Controller.Actions := []

/-- Assigns a device, given by its address. How its place is looked up is given too. -/
def assign (s : Sink) (lookup : Address → Option Nat) (text : String)
    (admission : Except SubmitError Unit) : Except Settings.Excess Attempt :=
  match address text with
  | .error e => .ok ⟨s, .error e, []⟩
  | .ok a =>
    match s.assigned with
    | some _ => .ok ⟨s, .error .alreadyAssigned, []⟩
    | none =>
      match (lookup a).bind fun place => s.controller.devices[place]?.map (·, place) with
      | none => .ok ⟨s, .error .deviceUnavailable, []⟩
      | some (d, place) =>
        (s.controller.attach d place admission).map fun attempt =>
          match attempt.result with
          | .error e => ⟨s, .error (.observerRefused e), attempt.actions⟩
          | .ok n =>
            ⟨⟨attempt.controller, some ⟨a, n⟩⟩, .ok ⟨a, n⟩,
              attempt.actions ++ [(n, .log (.a2dp .info ("assigned " ++ a.text)))]⟩

/-- Frees the place of a device, given by its address. Its attachment is left to be closed. -/
def vacate (s : Sink) (text : String) : Except AttachError (Sink × Assignment) :=
  match address text with
  | .error e => .error e
  | .ok a =>
    match s.assigned with
    | some assignment =>
      if assignment.address = a then .ok ({ s with assigned := none }, assignment)
      else .error .notAssigned
    | none => .error .notAssigned

/-- Revokes a device, given by its address. Its place is free at once, and its attachment is being
closed; the call is over when the attachment says that it is closed. -/
def revoke (s : Sink) (text : String) (admission : Except SubmitError Unit) : Attempt :=
  match s.vacate text with
  | .error e => ⟨s, .error e, []⟩
  | .ok (s, assignment) =>
    let (controller, actions) := s.controller.close assignment.attachment admission
    ⟨{ s with controller }, .ok assignment, actions⟩

/-- The line that reports a device as revoked, once its attachment is closed. -/
def revokedLine (a : Assignment) : Log.Line := .a2dp .info ("revoked " ++ a.address.text)

/-- The status of the device that is assigned. -/
def status (s : Sink) : ConnectionStatus :=
  match s.assigned.bind fun a => s.controller.attachment? a.attachment with
  | some a => a.status
  | none => .unassigned

end Sink

end A2dpSink
