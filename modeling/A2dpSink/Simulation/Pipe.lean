import A2dpSink.Bytes

/-!
# Pipes

One direction of a channel in memory: bytes go in at one end and come out at the other, in order, and
only so many fit. Whoever finds a pipe full or empty leaves a mark and is called when that changes.
-/

namespace A2dpSink.Simulation

/-- One direction of a channel in memory, with the marks `α` of those who wait. -/
structure Pipe (α : Type) where
  bytes : Bytes := []
  /-- One of the ends is gone. -/
  closed : Bool := false
  reader : Option α := none
  writer : Option α := none

namespace Pipe

variable {α : Type}

/-- How many bytes fit. -/
def capacity : Nat := 4096

/-- What comes of reading or writing. -/
inductive Outcome (α β : Type) where
  /-- It is done, and somebody may have to be called. -/
  | ready (value : β) (p : Pipe α) (call : Option α)
  /-- It has to wait. -/
  | pending (p : Pipe α)

/-- Reads at most so many bytes; none when the pipe is closed and empty. -/
def read (p : Pipe α) (most : Nat) (self : α) : Outcome α Bytes :=
  if p.bytes.isEmpty then
    if p.closed then .ready [] p none else .pending { p with reader := some self }
  else
    let (out, bytes) := p.bytes.splitAt most
    .ready out { p with bytes, writer := none } p.writer

/-- Writes as many of the bytes as fit, and says how many; fails if the pipe is closed. -/
def write (p : Pipe α) (bytes : Bytes) (self : α) : Outcome α (Option Nat) :=
  if p.closed then .ready none p none
  else
    let room := capacity - p.bytes.length
    if room = 0 then .pending { p with writer := some self }
    else
      let now := bytes.take room
      .ready (some now.length) { p with bytes := p.bytes ++ now, reader := none } p.reader

/-- The writing end goes away; the reader is called. -/
def closeWriter (p : Pipe α) : Pipe α × Option α :=
  ({ p with closed := true, reader := none }, p.reader)

/-- The reading end goes away; the writer is called. -/
def closeReader (p : Pipe α) : Pipe α × Option α :=
  ({ p with closed := true, writer := none }, p.writer)

end Pipe

end A2dpSink.Simulation
