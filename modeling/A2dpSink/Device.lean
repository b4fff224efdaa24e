import A2dpSink.Address

/-!
# Devices

A device as the Bluetooth stack shows it: its addresses, two flags that change without notice, and
room for one observer who is told about changes.
-/

namespace A2dpSink

/-- Why an observer could not be installed or removed. -/
inductive ObserverError where
  | alreadyRegistered
  | notRegistered
  deriving DecidableEq, Repr

/-- What is said about an observer that could not be installed or removed. -/
def ObserverError.message : ObserverError → String
  | alreadyRegistered => "an update handler is already registered"
  | notRegistered => "no update handler is registered"

/-- The flags of a device. -/
structure DeviceFlags where
  bonded : Bool := true
  connected : Bool := false
  deriving DecidableEq, Repr

/-- A device with observers of kind `α`. -/
structure Device (α : Type) where
  /-- The address of the adapter the device is reached through. -/
  localAddress : Address
  remoteAddress : Address
  kind : LinkKind := .classic
  flags : DeviceFlags := {}
  observer : Option α := none

namespace Device

variable {α : Type}

/-- Installs an observer, if there is none. -/
def register (d : Device α) (observer : α) : Except ObserverError (Device α) :=
  match d.observer with
  | some _ => .error .alreadyRegistered
  | none => .ok { d with observer := some observer }

/-- Removes the observer, if there is one. -/
def unregister (d : Device α) : Except ObserverError (Device α) :=
  match d.observer with
  | some _ => .ok { d with observer := none }
  | none => .error .notRegistered

end Device

end A2dpSink
