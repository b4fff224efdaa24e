import A2dpSink.Pool
import Mathlib

/-!
# Runs of a pool

A run is a list of events: jobs are submitted and end, the pool is told to stop, and its loop makes
steps, in any order. What shows of a run are its marks. `Moved` lists all that a step of the loop
may do, and `Sound` is what holds of a pool at every moment of a run (`Sound.after`).
-/

namespace A2dpSink.Pool

variable {J : Type}

/-! ### Events and marks -/

/-- What may happen to a pool. -/
inductive Event (J : Type) where
  | submit (j : J)
  /-- The pool is told to stop, or let go of. -/
  | stop
  /-- A running job ends; it may have broken down. -/
  | finish (j : J) (broken : Bool)
  /-- The loop makes a step, if it can. -/
  | move
  /-- The loop puts off looking after a job. -/
  | defer
  /-- What was put off has its turn again. -/
  | again

/-- What shows of a run. -/
inductive Mark (J : Type) where
  | accepted (j : J)
  | refused (j : J) (e : SubmitError)
  | started (j : J)
  | ended (j : J) (broken : Bool)
  | reported (line : Log.Line)

/-- What shows of an effect of the loop. -/
@[simp]
def Effect.mark : Effect J → Mark J
  | .start j => .started j
  | .report line => .reported line

/-- The job that was accepted. -/
@[simp]
def Mark.accepted? : Mark J → Option J
  | .accepted j => some j
  | _ => none

/-- The job that was refused. -/
@[simp]
def Mark.refused? : Mark J → Option J
  | .refused j _ => some j
  | _ => none

/-- The job that was started. -/
@[simp]
def Mark.started? : Mark J → Option J
  | .started j => some j
  | _ => none

/-- The job that has ended. -/
@[simp]
def Mark.ended? : Mark J → Option J
  | .ended j _ => some j
  | _ => none

/-- The jobs that were accepted, in that order. -/
@[simp]
abbrev acceptedIn (marks : List (Mark J)) : List J := marks.filterMap Mark.accepted?

/-- The jobs that were refused, in that order. -/
@[simp]
abbrev refusedIn (marks : List (Mark J)) : List J := marks.filterMap Mark.refused?

/-- The jobs that were started, in that order. -/
@[simp]
abbrev startedIn (marks : List (Mark J)) : List J := marks.filterMap Mark.started?

/-- The jobs that have ended, in that order. -/
@[simp]
abbrev endedIn (marks : List (Mark J)) : List J := marks.filterMap Mark.ended?

/-- The job that is submitted. -/
@[simp]
def Event.submitted? : Event J → Option J
  | .submit j => some j
  | _ => none

/-- The jobs that are submitted, in that order. -/
@[simp]
abbrev submittedIn (events : List (Event J)) : List J := events.filterMap Event.submitted?

section Runs

variable [DecidableEq J]

/-- What comes of an event, and what shows of it. -/
def step (p : Pool J) : Event J → Pool J × List (Mark J)
  | .submit j =>
    match p.submit j with
    | .ok p => (p, [.accepted j])
    | .error e => (p, [.refused j e])
  | .stop => (p.stop, [])
  | .finish j broken => if j ∈ p.running then (p.finish j broken, [.ended j broken]) else (p, [])
  | .move =>
    match p.move with
    | some (p, effects) => (p, effects.map Effect.mark)
    | none => (p, [])
  | .defer => (p.defer, [])
  | .again => (p.readmit, [])

/-- What is left of a pool after some events. -/
def after (p : Pool J) : List (Event J) → Pool J
  | [] => p
  | e :: rest => (p.step e).1.after rest

/-- What shows of some events. -/
def marks (p : Pool J) : List (Event J) → List (Mark J)
  | [] => []
  | e :: rest => (p.step e).2 ++ (p.step e).1.marks rest

/-- Events in two parts go on with the second where the first has left off. -/
theorem after_append (p : Pool J) (first second : List (Event J)) :
    p.after (first ++ second) = (p.after first).after second := by
  induction first generalizing p with
  | nil => rfl
  | cons e first ih => exact ih _

/-- Events in two parts show what the first part shows, and then what the second does. -/
theorem marks_append (p : Pool J) (first second : List (Event J)) :
    p.marks (first ++ second) = p.marks first ++ (p.after first).marks second := by
  induction first generalizing p with
  | nil => rfl
  | cons e first ih =>
    simp only [List.cons_append, marks, ih, List.append_assoc]
    rfl

/-- A job is refused for the reason that the pool gives, and else it is put at the end of the
queue. -/
theorem step_submit (p : Pool J) (j : J) :
    (∃ e, p.admission = .error e ∧ p.step (.submit j) = (p, [.refused j e])) ∨
      p.admission = .ok () ∧
        p.step (.submit j) = ({ p with queue := p.queue ++ [j] }, [.accepted j]) := by
  cases told : p.admission with
  | error e => exact .inl ⟨e, rfl, by simp [step, submit, told, Except.map]⟩
  | ok u => exact .inr ⟨rfl, by simp [step, submit, told, Except.map]⟩

end Runs

private theorem admission_eq_ok_iff {p : Pool J} :
    p.admission = .ok () ↔ p.accepting = true ∧ p.queue.length < p.capacity := by
  unfold admission
  split
  · next closed => simp_all
  · split <;> simp_all

/-- A job is refused for lack of room if and only if the queue of an open pool is full. -/
theorem admission_eq_queueFull_iff {p : Pool J} :
    p.admission = .error .queueFull ↔ p.accepting = true ∧ p.capacity ≤ p.queue.length := by
  unfold admission
  split
  · next closed => simp_all
  · split <;> simp_all

/-- A job is refused as late if and only if the pool is shutting down. -/
theorem admission_eq_shutDown_iff {p : Pool J} :
    p.admission = .error .shutDown ↔ p.accepting = false := by
  unfold admission
  split
  · next closed => simp_all
  · split <;> simp_all

/-! ### Steps of the loop -/

/-- The job that was taken from the queue and waits for a place. -/
def Phase.hand? : Phase J → Option J
  | .draining next => next
  | _ => none

/-- The jobs that wait to be started, the next one first. -/
def waiting (p : Pool J) : List J := p.phase.hand?.toList ++ p.queue

/-- What a step of the loop may do. -/
inductive Moved (p : Pool J) : Step J → Prop
  | close (line : Log.Line) : p.phase = .serving → p.stopping = true →
      Moved p ({ p with accepting := false, phase := .draining none }, [.report line])
  | reap (e : J × Bool) (rest : List (J × Bool)) (lines : List Log.Line) : p.phase = .serving →
      p.ended = e :: rest → Moved p ({ p with ended := rest }, lines.map .report)
  | launch (j : J) (rest : List J) : p.phase = .serving ∨ p.phase = .draining none →
      p.queue = j :: rest → p.occupied < p.workers →
      Moved p ({ p with queue := rest, running := p.running ++ [j] }, [.start j])
  | keep (j : J) (rest : List J) : p.phase = .draining none → p.queue = j :: rest →
      p.workers ≤ p.occupied →
      Moved p ({ p with queue := rest, phase := .draining (some j) }, [])
  | exhaust : p.phase = .draining none → p.queue = [] → Moved p (p.windDown, [])
  | follow (j : J) (e : J × Bool) (rest : List (J × Bool)) (lines : List Log.Line) :
      p.phase = .draining (some j) → p.ended = e :: rest → p.occupied ≤ p.workers →
      Moved p ({ p with ended := rest, phase := .draining none, running := p.running ++ [j] },
        lines.map .report ++ [.start j])
  | linger (j : J) (e : J × Bool) (rest : List (J × Bool)) (lines : List Log.Line) :
      p.phase = .draining (some j) → p.ended = e :: rest → p.workers < p.occupied →
      Moved p ({ p with ended := rest }, lines.map .report)
  | wind (e : J × Bool) (rest : List (J × Bool)) (lines : List Log.Line) : p.phase = .emptying →
      p.ended = e :: rest → Moved p ({ p with ended := rest }.windDown, lines.map .report)

private theorem reap_eq_some {p : Pool J} {o : Step J} (h : p.reap = some o) :
    ∃ e rest, ∃ lines : List Log.Line, p.ended = e :: rest ∧
      o = ({ p with ended := rest }, lines.map .report) := by
  unfold reap at h
  split at h
  · cases h
  · next j broken rest found =>
    rw [Option.some.injEq] at h
    subst h
    cases broken with
    | false => exact ⟨_, rest, [], found, rfl⟩
    | true => exact ⟨_, rest, [_], found, rfl⟩

/-- There is nothing to reap if and only if no job has ended. -/
theorem reap_eq_none_iff {p : Pool J} : p.reap = none ↔ p.ended = [] := by
  unfold reap
  split <;> simp_all

private theorem occupied_eq_succ {p : Pool J} {e : J × Bool} {rest : List (J × Bool)}
    (h : p.ended = e :: rest) : p.occupied = { p with ended := rest }.occupied + 1 := by
  simp only [occupied, h, List.length_cons]
  omega

/-- All that a step of the loop may do is in `Moved`. -/
theorem move_moved {p : Pool J} {o : Step J} (h : p.move = some o) : Moved p o := by
  unfold move at h
  split at h
  · next serving =>
    split at h
    · next stopping =>
      rw [Option.some.injEq] at h
      subst h
      exact .close _ serving stopping
    · cases reaped : p.reap with
      | some o' =>
        obtain ⟨e, rest, lines, found, rfl⟩ := reap_eq_some reaped
        obtain rfl : _ = o := by simpa [reaped] using h
        exact .reap e rest lines serving found
      | none =>
        simp only [reaped, Option.orElse_eq_orElse, Option.orElse] at h
        split at h
        · next j rest queue =>
          split at h
          · next room =>
            rw [Option.some.injEq] at h
            subst h
            exact .launch j rest (.inl serving) queue room
          · cases h
        · cases h
  · next draining =>
    split at h
    · next j rest queue =>
      rw [Option.some.injEq] at h
      subst h
      unfold place
      split
      · next room =>
        simp only [launch, ← draining]
        exact .launch j rest (.inr draining) queue room
      · next full => exact .keep j rest draining queue (Nat.le_of_not_lt full)
    · next queue =>
      rw [Option.some.injEq] at h
      subst h
      exact .exhaust draining queue
  · next j draining =>
    obtain ⟨o', reaped, rfl⟩ := Option.map_eq_some_iff.mp h
    obtain ⟨e, rest, lines, found, rfl⟩ := reap_eq_some reaped
    have occupied := occupied_eq_succ found
    by_cases room : ({ p with ended := rest } : Pool J).occupied < p.workers
    · simp only [place, room, if_true, launch]
      exact .follow j e rest lines draining found (occupied.trans_le room)
    · simp only [place, room, if_false, ← draining, List.append_nil]
      exact .linger j e rest lines draining found (by omega)
  · next emptying =>
    obtain ⟨o', reaped, rfl⟩ := Option.map_eq_some_iff.mp h
    obtain ⟨e, rest, lines, found, rfl⟩ := reap_eq_some reaped
    exact .wind e rest lines emptying found
  · cases h

/-! ### Sound pools -/

/-- What holds of a pool at every moment. -/
structure Sound (p : Pool J) : Prop where
  accepting_iff : p.accepting = true ↔ p.phase = .serving
  stopping : p.accepting = false → p.stopping = true
  workers_pos : 0 < p.workers
  queue_le : p.queue.length ≤ p.capacity
  occupied_le : p.occupied ≤ p.workers
  /-- A job is kept at hand only for want of a place. -/
  full : ∀ j, p.phase = .draining (some j) → p.workers ≤ p.occupied
  queue_eq_nil : p.phase = .emptying ∨ p.phase = .stopped → p.queue = []
  occupied_eq_zero : p.phase = .stopped → p.occupied = 0

/-- A pool starts sound. -/
theorem Sound.start (workers capacity : Nat) : (start workers capacity : Pool J).Sound where
  accepting_iff := by simp [Pool.start]
  stopping := by simp [Pool.start]
  workers_pos := by simp [Pool.start]
  queue_le := by simp [Pool.start]
  occupied_le := by simp [Pool.start, occupied]
  full := by simp [Pool.start]
  queue_eq_nil := by simp [Pool.start]
  occupied_eq_zero := by simp [Pool.start]

/-- As many jobs as before fill the places, whatever has become of them. -/
theorem Sound.same {p q : Pool J} (h : p.Sound) (accepting : q.accepting = p.accepting)
    (stopping : p.stopping = true → q.stopping = true) (phase : q.phase = p.phase)
    (workers : q.workers = p.workers) (capacity : q.capacity = p.capacity)
    (queue : q.queue = p.queue) (occupied : q.occupied = p.occupied) : q.Sound where
  accepting_iff := by rw [accepting, phase, h.accepting_iff]
  stopping closed := stopping (h.stopping (accepting ▸ closed))
  workers_pos := workers ▸ h.workers_pos
  queue_le := by rw [queue, capacity]; exact h.queue_le
  occupied_le := by rw [occupied, workers]; exact h.occupied_le
  full j hand := by rw [occupied, workers]; exact h.full j (phase ▸ hand)
  queue_eq_nil late := by rw [queue]; exact h.queue_eq_nil (phase ▸ late)
  occupied_eq_zero late := by rw [occupied]; exact h.occupied_eq_zero (phase ▸ late)

/-- A pool with an empty queue that accepts no jobs goes on to its end. -/
theorem Sound.windDown {p : Pool J} (closed : p.accepting = false) (stopping : p.stopping = true)
    (workers_pos : 0 < p.workers) (queue : p.queue = []) (occupied_le : p.occupied ≤ p.workers) :
    p.windDown.Sound := by
  have occupied : p.windDown.occupied = p.occupied := rfl
  constructor
  · simp only [Pool.windDown, closed]
    split <;> simp
  · exact fun _ => stopping
  · exact workers_pos
  · simp [Pool.windDown, queue]
  · exact occupied_le
  · intro j hand
    simp only [Pool.windDown] at hand
    split at hand <;> cases hand
  · exact fun _ => queue
  · intro late
    rw [occupied]
    by_contra busy
    simp [Pool.windDown, busy] at late

private theorem Sound.moved {p : Pool J} (h : p.Sound) {o : Step J} (moved : Moved p o) :
    o.1.Sound := by
  obtain ⟨accepting_iff, stopping, workers_pos, queue_le, occupied_le, full, nil, zero⟩ := h
  have closed : p.phase ≠ .serving → p.accepting = false := by
    intro late
    cases accepting : p.accepting with
    | false => rfl
    | true => exact absurd (accepting_iff.mp accepting) late
  cases moved with
  | close line serving told =>
    exact ⟨by simp, fun _ => told, workers_pos, queue_le, occupied_le, by simp, by simp, by simp⟩
  | reap e rest lines serving found =>
    have less := occupied_eq_succ found
    exact ⟨accepting_iff, stopping, workers_pos, queue_le, by simp only; omega,
      by simp [serving], by simp [serving], by simp [serving]⟩
  | launch j rest phase queue room =>
    have more : ({ p with queue := rest, running := p.running ++ [j] } : Pool J).occupied =
        p.occupied + 1 := by
      simp only [occupied, List.length_append, List.length_singleton]
      omega
    refine ⟨accepting_iff, stopping, workers_pos, ?_, more ▸ room, ?_, ?_, ?_⟩
    · rw [queue, List.length_cons] at queue_le
      exact Nat.le_of_succ_le queue_le
    · rcases phase with phase | phase <;> simp [phase]
    · rcases phase with phase | phase <;> simp [phase]
    · rcases phase with phase | phase <;> simp [phase]
  | keep j rest draining queue busy =>
    refine ⟨by simp [closed (by simp [draining])], stopping, workers_pos, ?_, occupied_le,
      fun _ _ => busy, by simp, by simp⟩
    rw [queue, List.length_cons] at queue_le
    exact Nat.le_of_succ_le queue_le
  | exhaust draining queue =>
    have closed := closed (by simp [draining])
    exact .windDown closed (stopping closed) workers_pos queue occupied_le
  | follow j e rest lines draining found room =>
    have same : ({ p with ended := rest, phase := .draining none, running := p.running ++ [j] } :
        Pool J).occupied = p.occupied := by
      simp only [occupied, found, List.length_append, List.length_cons, List.length_nil]
      omega
    exact ⟨by simp [closed (by simp [draining])], stopping, workers_pos, queue_le,
      same ▸ occupied_le, by simp, by simp, by simp⟩
  | linger j e rest lines draining found busy =>
    exact absurd occupied_le (Nat.not_le_of_lt busy)
  | wind e rest lines emptying found =>
    have closed := closed (by simp [emptying])
    have less := occupied_eq_succ found
    exact .windDown closed (stopping closed) workers_pos (nil (.inl emptying))
      (by simp only; omega)

section Steps

variable [DecidableEq J] {p : Pool J}

/-- An event leaves a pool sound. -/
theorem Sound.step (h : p.Sound) (e : Event J) : (p.step e).1.Sound := by
  cases e with
  | submit j =>
    rcases p.step_submit j with ⟨e, -, eq⟩ | ⟨room, eq⟩
    · rw [eq]
      exact h
    · rw [eq]
      obtain ⟨accepting, less⟩ := admission_eq_ok_iff.mp room
      have serving := h.accepting_iff.mp accepting
      exact ⟨h.accepting_iff, h.stopping, h.workers_pos, by simpa using less, h.occupied_le,
        h.full, by simp [serving], by simp [serving]⟩
  | stop => exact h.same rfl (fun _ => rfl) rfl rfl rfl rfl rfl
  | finish j broken =>
    simp only [Pool.step]
    split
    · next runs =>
      have occupied : (p.finish j broken).occupied = p.occupied := by
        have positive := List.length_pos_of_mem runs
        simp only [finish, runs, if_true, occupied, List.length_append, List.length_singleton,
          List.length_erase_of_mem runs]
        omega
      refine h.same ?_ ?_ ?_ ?_ ?_ ?_ occupied <;> simp [finish, runs]
    · exact h
  | move =>
    simp only [Pool.step]
    split
    · next q effects moves => exact h.moved (move_moved moves)
    · exact h
  | defer =>
    have occupied : p.defer.occupied = p.occupied := by
      unfold defer
      split
      · rfl
      · next e rest found =>
        simp only [occupied, found, List.length_cons]
        omega
    refine h.same ?_ ?_ ?_ ?_ ?_ ?_ occupied <;> simp only [Pool.step, defer] <;> split <;> simp
  | again =>
    refine h.same rfl id rfl rfl rfl rfl ?_
    simp only [Pool.step, readmit, occupied, List.length_append, List.length_nil]
    omega

/-- Events leave a pool sound. -/
theorem Sound.after (h : p.Sound) (events : List (Event J)) : (p.after events).Sound := by
  induction events generalizing p with
  | nil => exact h
  | cons e events ih => exact ih (h.step e)

/-- The pool keeps its size. -/
theorem step_size (p : Pool J) (e : Event J) :
    (p.step e).1.workers = p.workers ∧ (p.step e).1.capacity = p.capacity := by
  cases e with
  | submit j => rcases p.step_submit j with ⟨e, -, eq⟩ | ⟨-, eq⟩ <;> rw [eq] <;> exact ⟨rfl, rfl⟩
  | finish j broken =>
    simp only [step]
    split
    · simp only [finish]
      split <;> exact ⟨rfl, rfl⟩
    · exact ⟨rfl, rfl⟩
  | move =>
    simp only [step]
    split
    · next q effects moves => cases move_moved moves <;> exact ⟨rfl, rfl⟩
    · exact ⟨rfl, rfl⟩
  | defer =>
    simp only [step, defer]
    split <;> exact ⟨rfl, rfl⟩
  | _ => exact ⟨rfl, rfl⟩

/-- The bounds of a pool never change. -/
theorem after_size (p : Pool J) (events : List (Event J)) :
    (p.after events).workers = p.workers ∧ (p.after events).capacity = p.capacity := by
  induction events generalizing p with
  | nil => exact ⟨rfl, rfl⟩
  | cons e events ih =>
    obtain ⟨workers, capacity⟩ := p.step_size e
    rw [← workers, ← capacity]
    exact ih _

end Steps

end A2dpSink.Pool
