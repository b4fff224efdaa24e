/-!
# Settings

The limits an audio sink works with: how long opening, closing and asking may take, how much a
response may carry, and how many jobs run and wait. Times are in milliseconds. Not all that can be
asked for can be provided: the time a discovery query may take is a product, and it has to fit a span
of time, whose seconds are a 64-bit number; and a queue has an upper bound.
-/

namespace A2dpSink

/-- The limits an audio sink works with. -/
structure Settings where
  /-- Name under which the host exposes the Bluetooth controller. -/
  controller : String := "BluetoothControl"
  /-- The longest time for opening a connection. -/
  openTimeout : BitVec 64 := 1000
  /-- The longest time for closing a connection. -/
  closeTimeout : BitVec 64 := 5000
  /-- The base time of one exchange. -/
  communicationTimeout : BitVec 64 := 500
  /-- How many base times a discovery query may take. -/
  discoveryTimeoutFactor : BitVec 32 := 20
  /-- The most attribute bytes asked for in one response. -/
  maxAttributeBytes : BitVec 16 := 65535
  /-- How many jobs may run at once. -/
  workers : BitVec 64 := 4
  /-- How many jobs may wait. -/
  queueDepth : BitVec 64 := 32
  deriving DecidableEq, Repr, Inhabited

namespace Settings

/-- What settings may ask for that cannot be provided. -/
inductive Excess where
  /-- A span of time that does not fit. -/
  | span
  /-- A queue with more places than can be counted. -/
  | queue
  deriving DecidableEq, Repr

/-- What is said about settings that ask for too much. -/
def Excess.message : Excess → String
  | span => "overflow when multiplying duration by scalar"
  | queue => "a semaphore may not have more than MAX_PERMITS permits (2305843009213693951)"

/-- The spans of time, in milliseconds, that fit: their seconds are a 64-bit number. -/
def spanLimit : Nat := UInt64.size * 1000

/-- The time a discovery query may take, in milliseconds. -/
def discoveryTimeout (s : Settings) : Except Excess Nat :=
  let span := s.communicationTimeout.toNat * s.discoveryTimeoutFactor.toNat
  if span < spanLimit then .ok span else .error .span

/-- How many jobs may run at once; at least one. -/
def workerCount (s : Settings) : Nat := max 1 s.workers.toNat

/-- The most places a queue may have. -/
def queueLimit : Nat := UInt64.size / 8 - 1

/-- How many jobs may wait; at least one. -/
def queueLength (s : Settings) : Except Excess Nat :=
  let length := max 1 s.queueDepth.toNat
  if length ≤ queueLimit then .ok length else .error .queue

end Settings

end A2dpSink
