/-!
# The record of what happened

Every part of the library reports what it does as lines with a severity and the part of the
connection they concern. Lines are plain data: what is done with them is up to the caller.
-/

namespace A2dpSink.Log

/-- How much a line matters. -/
inductive Level where
  | debug
  | info
  | warn
  | error
  deriving DecidableEq, Repr

/-- The part of the connection a line concerns. -/
inductive Flow where
  /-- Service discovery. -/
  | discovery
  /-- The transport connection. -/
  | transport
  /-- The audio service as a whole. -/
  | audio
  /-- Deferred execution. -/
  | dispatch
  deriving DecidableEq, Repr

/-- One line of the record. -/
structure Line where
  level : Level
  flow : Flow
  text : String
  deriving DecidableEq, Repr

namespace Line

/-- A line about service discovery. -/
def sdp (level : Level) (text : String) : Line := ⟨level, .discovery, text⟩

/-- A line about the transport connection. -/
def avdtp (level : Level) (text : String) : Line := ⟨level, .transport, text⟩

/-- A line about the audio service. -/
def a2dp (level : Level) (text : String) : Line := ⟨level, .audio, text⟩

/-- A line about deferred execution. -/
def pool (level : Level) (text : String) : Line := ⟨level, .dispatch, text⟩

end Line

end A2dpSink.Log
