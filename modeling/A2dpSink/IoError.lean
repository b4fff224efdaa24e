/-!
# Failures of a channel

A channel to a device fails for one of a few reasons. A failure may come with a text of its own; one
that does not is described by its reason.
-/

namespace A2dpSink

/-- The reasons a channel fails for. -/
inductive IoError.Kind where
  | timedOut
  | connectionRefused
  | connectionReset
  | connectionAborted
  | notConnected
  | hostUnreachable
  | permissionDenied
  | brokenPipe
  | unexpectedEof
  | wouldBlock
  | writeZero
  | other
  deriving DecidableEq, Repr

/-- The customary text of a reason. -/
def IoError.Kind.text : IoError.Kind → String
  | timedOut => "timed out"
  | connectionRefused => "connection refused"
  | connectionReset => "connection reset"
  | connectionAborted => "connection aborted"
  | notConnected => "not connected"
  | hostUnreachable => "host unreachable"
  | permissionDenied => "permission denied"
  | brokenPipe => "broken pipe"
  | unexpectedEof => "unexpected end of file"
  | wouldBlock => "operation would block"
  | writeZero => "write zero"
  | other => "other error"

/-- A failure of a channel. -/
structure IoError where
  kind : IoError.Kind
  /-- What is said about this failure in particular. -/
  detail : Option String := none
  deriving DecidableEq, Repr

/-- What is said about a failure. -/
def IoError.message (e : IoError) : String := e.detail.getD e.kind.text

end A2dpSink
