import A2dpSink.Log

/-!
# Worker pools

Work that must not be done on the spot is handed to a pool as a job. A pool keeps a bounded queue of
accepted jobs and starts them in order, so many at a time. When it is stopped it takes no more jobs,
but runs those it has accepted.

`Pool.move` is one step of the loop that runs the pool. A job that has ended still fills its place
until the loop has looked after it.
-/

namespace A2dpSink

/-- Why a job was not accepted. -/
inductive SubmitError where
  | queueFull
  | shutDown
  deriving DecidableEq, Repr

/-- What is said about a job that was not accepted. -/
def SubmitError.message : SubmitError → String
  | queueFull => "the dispatch queue is full"
  | shutDown => "the worker pool has shut down"

/-- How far a pool is on its way to its end. -/
inductive Pool.Phase (J : Type) where
  /-- It accepts jobs. -/
  | serving
  /-- It starts what is left in the queue; a job that waits for a place may be at hand. -/
  | draining (next : Option J)
  /-- Every job has started. -/
  | emptying
  /-- Every job has ended. -/
  | stopped
  deriving DecidableEq, Repr

/-- A pool of workers for jobs `J`. -/
structure Pool (J : Type) where
  /-- How many jobs may run at once. -/
  workers : Nat
  /-- How many jobs may wait. -/
  capacity : Nat
  /-- Whether jobs are accepted. -/
  accepting : Bool := true
  /-- The jobs that wait, the next one first. -/
  queue : List J := []
  /-- The jobs that were started and have not ended. -/
  running : List J := []
  /-- The jobs that have ended and were not looked after, and whether they broke down. -/
  ended : List (J × Bool) := []
  /-- Of the jobs that have ended, those that the loop came to when it could do no more. The one that
  was put off last comes first. -/
  deferred : List (J × Bool) := []
  phase : Pool.Phase J := .serving
  /-- Whether the pool was told to stop. -/
  stopping : Bool := false
  deriving Repr

namespace Pool

variable {J : Type}

/-- A pool that may run `workers` jobs and keep `capacity` waiting, both at least one. -/
def start (workers capacity : Nat) : Pool J :=
  { workers := max 1 workers, capacity := max 1 capacity }

/-- How many places are taken. -/
def occupied (p : Pool J) : Nat := p.running.length + p.ended.length + p.deferred.length

/-- Whether a job would be accepted. -/
def admission (p : Pool J) : Except SubmitError Unit :=
  if !p.accepting then .error .shutDown
  else if p.capacity ≤ p.queue.length then .error .queueFull
  else .ok ()

/-- Puts a job into the queue, if it is accepted. -/
def submit (p : Pool J) (j : J) : Except SubmitError (Pool J) :=
  p.admission.map fun _ => { p with queue := p.queue ++ [j] }

/-- Tells the pool to stop. -/
def stop (p : Pool J) : Pool J := { p with stopping := true }

/-- A running job ends; it may have broken down. -/
def finish [DecidableEq J] (p : Pool J) (j : J) (broken : Bool) : Pool J :=
  if j ∈ p.running then
    { p with running := p.running.erase j, ended := p.ended ++ [(j, broken)] }
  else p

/-- The pool goes away with everything in it. -/
def abandon (p : Pool J) : Pool J :=
  { p with accepting := false, queue := [], running := [], ended := [], deferred := [],
           phase := .stopped }

/-- What a step of the loop does besides changing the pool. -/
inductive Effect (J : Type) where
  | start (j : J)
  | report (line : Log.Line)
  deriving Repr

/-- What comes of a step of the loop: the pool then, and what is done. -/
abbrev Step (J : Type) := Pool J × List (Effect J)

/-- Starts a job. -/
def launch (p : Pool J) (j : J) : Step J :=
  ({ p with running := p.running ++ [j] }, [.start j])

/-- Looks after the job that ended first, if one has ended. -/
def reap (p : Pool J) : Option (Step J) :=
  match p.ended with
  | [] => none
  | (_, broken) :: rest =>
    some ({ p with ended := rest },
      if broken then [.report (.pool .error "dispatched job panicked")] else [])

/-- Puts off looking after the job that ended first. It still fills its place. -/
def defer (p : Pool J) : Pool J :=
  match p.ended with
  | [] => p
  | e :: rest => { p with ended := rest, deferred := e :: p.deferred }

/-- What was put off has its turn after all other jobs that have ended. -/
def readmit (p : Pool J) : Pool J := { p with ended := p.ended ++ p.deferred, deferred := [] }

/-- Starts a job that was taken from the queue of a pool that is stopping, or keeps it at hand until
there is a place. -/
def place (p : Pool J) (j : J) : Step J :=
  if p.occupied < p.workers then launch { p with phase := .draining none } j
  else ({ p with phase := .draining (some j) }, [])

/-- Every job has started; if every job has been looked after too, the loop is over. -/
def windDown (p : Pool J) : Pool J :=
  { p with phase := if p.occupied = 0 then .stopped else .emptying }

/-- One step of the loop; none if it has to wait or is over. Stopping comes first, then the jobs that
have ended, then those that wait. -/
def move (p : Pool J) : Option (Step J) :=
  match p.phase with
  | .serving =>
    if p.stopping then
      some ({ p with accepting := false, phase := .draining none },
        [.report (.pool .debug s!"worker pool draining {p.occupied} running job(s)")])
    else
      p.reap <|> match p.queue with
        | j :: rest =>
          if p.occupied < p.workers then some (launch { p with queue := rest } j) else none
        | [] => none
  | .draining none =>
    match p.queue with
    | j :: rest => some ({ p with queue := rest }.place j)
    | [] => some (p.windDown, [])
  | .draining (some j) =>
    p.reap.map fun (p, effects) =>
      let (p, more) := p.place j
      (p, effects ++ more)
  | .emptying => p.reap.map fun (p, effects) => (p.windDown, effects)
  | .stopped => none

/-- Whether the loop waits for jobs to be submitted when it can do nothing. -/
def awaitsJobs (p : Pool J) : Bool :=
  match p.phase with
  | .serving => decide (p.occupied < p.workers)
  | _ => false

/-- Whether the next step of the loop looks for jobs that have ended. -/
def awaitsEnds (p : Pool J) : Bool :=
  p.occupied != 0 && match p.phase with
    | .serving => !p.stopping
    | .draining next => next.isSome
    | .emptying => true
    | .stopped => false

end Pool

end A2dpSink
