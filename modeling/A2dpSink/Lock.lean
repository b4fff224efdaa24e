/-!
# Locks

A lock has one holder at most. Whoever asks while it is taken waits, and a holder that leaves hands
the lock to the one who has waited longest, so it is granted in the order of the requests.
-/

namespace A2dpSink

/-- A lock on behalf of parties `α`. -/
structure Lock (α : Type) where
  holder : Option α := none
  /-- Those who wait, in the order in which they asked. -/
  waiting : List α := []
  deriving DecidableEq, Repr, Inhabited

namespace Lock

variable {α : Type}

/-- Whether nobody holds the lock. -/
def isFree (l : Lock α) : Bool := l.holder.isNone

/-- Asks for the lock. Whether it was free is said by `isFree`. -/
def request (l : Lock α) (a : α) : Lock α :=
  match l.holder with
  | none => { l with holder := some a }
  | some _ => { l with waiting := l.waiting ++ [a] }

/-- Gives the lock up; the next holder is the one who has waited longest. -/
def release (l : Lock α) : Lock α := ⟨l.waiting.head?, l.waiting.tail⟩

/-- Whoever asks for a free lock gets it. -/
@[simp] theorem holder_request_of_isFree {l : Lock α} (a : α) (h : l.isFree = true) :
    (l.request a).holder = some a := by
  simp_all [request, isFree]

/-- A lock that is given up goes to whoever has waited longest. -/
@[simp] theorem holder_release (l : Lock α) : l.release.holder = l.waiting.head? := rfl

/-- When the lock is given up, the others go on waiting. -/
@[simp] theorem waiting_release (l : Lock α) : l.release.waiting = l.waiting.tail := rfl

end Lock

end A2dpSink
