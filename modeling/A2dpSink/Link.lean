import A2dpSink.IoError

/-!
# Opening and closing links

A link is a channel to a device. Opening and closing one takes time and may fail; both are given up
after a while. This file says how the outcome of either looks to whoever asked for it.
-/

namespace A2dpSink

/-- Names one attempt to open a channel, and the channel it gave. -/
abbrev LinkId := Nat

/-! ### Opening -/

/-- How an attempt to open a link ended. -/
inductive OpenOutcome where
  | opened (link : LinkId)
  | failed (e : IoError)
  /-- The attempt was given up. -/
  | expired
  deriving DecidableEq, Repr

/-- Why a link was not opened. -/
inductive OpenError where
  | timeout
  | refused (e : IoError)
  /-- There is a link already, or a query is using it. -/
  | alreadyOpen
  deriving DecidableEq, Repr

/-- What is said about a link that was not opened. -/
def OpenError.message : OpenError → String
  | timeout => "timed out opening the connection"
  | refused e => "the connection was refused: " ++ e.message
  | alreadyOpen => "the connection is already open"

/-- A channel that reports a timeout of its own counts as given up. -/
def OpenError.ofIo (e : IoError) : OpenError :=
  if e.kind = .timedOut then timeout else refused e

/-- The link that was opened, or why none was. -/
def OpenOutcome.toExcept : OpenOutcome → Except OpenError LinkId
  | opened link => .ok link
  | failed e => .error (.ofIo e)
  | expired => .error .timeout

/-! ### Closing -/

/-- How an attempt to close a link ended. The link is released in any case. -/
inductive CloseOutcome where
  | closed
  | failed (e : IoError)
  /-- The attempt was given up. -/
  | expired
  deriving DecidableEq, Repr

/-- What went wrong when a link was closed. -/
inductive CloseError where
  | timeout
  | io (e : IoError)
  deriving DecidableEq, Repr

/-- What is said about a link that was not closed in good order. -/
def CloseError.message : CloseError → String
  | timeout => "timed out closing the connection"
  | io e => "IO error while closing the connection: " ++ e.message

/-- What went wrong, if anything did. -/
def CloseOutcome.toExcept : CloseOutcome → Except CloseError Unit
  | closed => .ok ()
  | failed e => .error (.io e)
  | expired => .error .timeout

end A2dpSink
