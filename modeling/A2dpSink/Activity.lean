import A2dpSink.AudioService
import A2dpSink.Link
import A2dpSink.Sdp.Client

/-!
# Activities

What goes on around a device is a number of activities: calls from outside and jobs of the worker
pool. An activity runs until it has to wait and goes on when it gets what it waits for. Each machine
of this library keeps, for each of its activities, the place it has got to; this file says what there
is to wait for, and what an activity does on its way.
-/

namespace A2dpSink

/-- What an activity waits for. -/
inductive Await where
  /-- A lock. -/
  | lock
  /-- A link it asked to be opened. -/
  | opening
  /-- A link it asked to be closed. -/
  | closing
  /-- The answer to a discovery query. -/
  | answer
  /-- Nothing: it is over, or it has not begun. -/
  | nothing
  deriving DecidableEq, Repr

/-- What an activity goes on with. -/
inductive Signal where
  /-- It holds the lock it asked for. -/
  | granted
  | opened (o : OpenOutcome)
  | closed (o : CloseOutcome)
  /-- The result of a discovery query, unless time ran out. -/
  | answered (r : Option Sdp.Result)

/-- What an activity does to the world at once. -/
inductive Effect where
  | log (line : Log.Line)
  /-- It starts to open a link, and waits for that. -/
  | connect (psm : Psm)
  /-- It starts to close a link, and waits for that. -/
  | shutdown (link : LinkId)
  /-- It starts a query on a link, and waits for the answer, for so many milliseconds at most. -/
  | query (link : LinkId) (limit : Nat)

end A2dpSink
