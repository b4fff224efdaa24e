import A2dpSink.Proofs.Pool.Runs
import Mathlib

/-!
# Order in a pool

A pool loses, repeats and reorders nothing. Step by step, the jobs that were started and those that
wait are together the jobs that were accepted, in that order; the places of the pool are never
overfull; and whether a job broke down shows in the log only. In a fair run, where jobs end and the
loop has its turns, every job that waits comes closer to its start (`delay`).
-/

namespace A2dpSink.Pool

variable {J : Type}

/-! ### Accounts of the jobs -/

/-- Reports tell nothing of jobs. -/
theorem filterMap_reports {B : Type} (f : Mark J → Option B) (lines : List Log.Line)
    (h : ∀ line, f (.reported line) = none) :
    ((lines.map Effect.report).map Effect.mark).filterMap f = [] := by
  rw [List.map_map, List.filterMap_map, List.filterMap_eq_nil_iff]
  exact fun line _ => h line

private theorem waiting_windDown (p : Pool J) : p.windDown.waiting = p.queue := by
  simp only [waiting, windDown]
  split <;> rfl

/-- The loop takes the jobs in their order, and starts each one as it takes it away. -/
theorem Moved.started {p : Pool J} {o : Step J} (h : Moved p o) :
    startedIn (o.2.map Effect.mark) ++ o.1.waiting = p.waiting := by
  have reports := fun lines : List Log.Line =>
    filterMap_reports (Mark.started? (J := J)) lines (fun _ => rfl)
  cases h with
  | close line serving told => simp [waiting, serving, Phase.hand?]
  | reap e rest lines serving found => rw [startedIn, reports]; rfl
  | launch j rest phase queue room =>
    rcases phase with phase | phase <;>
      simp [waiting, phase, queue, Phase.hand?]
  | keep j rest draining queue busy => simp [waiting, draining, queue, Phase.hand?]
  | exhaust draining queue =>
    rw [waiting_windDown]
    simp [waiting, draining, Phase.hand?]
  | follow j e rest lines draining found room =>
    rw [List.map_append, startedIn, List.filterMap_append, reports]
    simp [waiting, draining, Phase.hand?]
  | linger j e rest lines draining found busy => rw [startedIn, reports]; rfl
  | wind e rest lines emptying found =>
    rw [startedIn, reports, waiting_windDown]
    simp [waiting, emptying, Phase.hand?]

private theorem Moved.running {p : Pool J} {o : Step J} (h : Moved p o) :
    o.1.running = p.running ++ startedIn (o.2.map Effect.mark) := by
  have reports := fun lines : List Log.Line =>
    filterMap_reports (Mark.started? (J := J)) lines (fun _ => rfl)
  cases h with
  | follow j e rest lines draining found room =>
    rw [List.map_append, startedIn, List.filterMap_append, reports]
    rfl
  | reap | linger | wind => simp [startedIn, windDown]
  | _ => simp [windDown]

/-- The loop accepts, refuses and ends no job. -/
theorem silent (effects : List (Effect J)) : acceptedIn (effects.map Effect.mark) = [] ∧
    refusedIn (effects.map Effect.mark) = [] ∧ endedIn (effects.map Effect.mark) = [] := by
  simp only [acceptedIn, refusedIn, endedIn, List.filterMap_map, List.filterMap_eq_nil_iff,
    Function.comp_apply]
  refine ⟨?_, ?_, ?_⟩ <;> intro e _ <;> cases e <;> rfl

section Runs

variable [DecidableEq J] (p : Pool J)

/-- A step leaves no job out, and brings none back. -/
theorem step_started (e : Event J) :
    startedIn (p.step e).2 ++ (p.step e).1.waiting = p.waiting ++ acceptedIn (p.step e).2 := by
  cases e with
  | submit j =>
    rcases p.step_submit j with ⟨e, -, eq⟩ | ⟨-, eq⟩ <;>
      simp [eq, waiting, List.filterMap_cons]
  | finish j broken =>
    simp only [step]
    split
    · simp [finish, *, waiting, List.filterMap_cons]
    · simp
  | move =>
    simp only [step]
    split
    · next q effects moves =>
      have moved := move_moved moves
      rw [moved.started, (silent effects).1, List.append_nil]
    · simp
  | defer =>
    simp only [step, defer]
    split <;> simp [waiting]
  | _ => simp [step, waiting, stop, readmit]

/-- What has started and what still waits is what waited at first and what was accepted since, in
order. -/
theorem started_append_waiting (events : List (Event J)) :
    startedIn (p.marks events) ++ (p.after events).waiting =
      p.waiting ++ acceptedIn (p.marks events) := by
  induction events generalizing p with
  | nil => simp [marks, after]
  | cons e events ih =>
    simp only [marks, after, startedIn, acceptedIn, List.filterMap_append]
    rw [List.append_assoc, ih, ← List.append_assoc, step_started, List.append_assoc]

/-- A job runs from its start to its end. -/
theorem step_running (e : Event J) :
    (p.running ++ startedIn (p.step e).2).Perm ((p.step e).1.running ++ endedIn (p.step e).2) := by
  cases e with
  | submit j =>
    rcases p.step_submit j with ⟨e, -, eq⟩ | ⟨-, eq⟩ <;> simp [eq, List.filterMap_cons]
  | finish j broken =>
    simp only [step]
    split
    · next runs =>
      simp only [finish, runs, if_true, startedIn, endedIn, List.filterMap_cons, List.filterMap_nil,
        List.append_nil, Mark.started?, Mark.ended?]
      exact (List.perm_cons_erase runs).trans (List.perm_append_singleton _ _).symm
    · simp
  | move =>
    simp only [step]
    split
    · next q effects moves =>
      have moved := move_moved moves
      rw [moved.running, (silent effects).2.2, List.append_nil]
    · simp
  | defer =>
    simp only [step, defer]
    split <;> simp
  | _ => simp [step, stop, readmit]

/-- What ran at first and what has started since runs still or has ended. -/
theorem running_append_started (events : List (Event J)) :
    (p.running ++ startedIn (p.marks events)).Perm
      ((p.after events).running ++ endedIn (p.marks events)) := by
  induction events generalizing p with
  | nil => simp [marks, after]
  | cons e events ih =>
    simp only [marks, after, startedIn, endedIn, List.filterMap_append]
    rw [← List.append_assoc]
    refine ((p.step_running e).append_right _).trans ?_
    rw [List.append_assoc]
    refine (List.perm_append_comm.append_left _).trans ?_
    rw [← List.append_assoc]
    refine ((ih (p.step e).1).append_right _).trans ?_
    rw [List.append_assoc]
    exact List.perm_append_comm.append_left _

/-- Every submitted job is accepted or refused. -/
theorem submitted_perm (events : List (Event J)) :
    (submittedIn events).Perm (acceptedIn (p.marks events) ++ refusedIn (p.marks events)) := by
  induction events generalizing p with
  | nil => exact .nil
  | cons e events ih =>
    have here : (e.submitted?.toList).Perm
        (acceptedIn (p.step e).2 ++ refusedIn (p.step e).2) := by
      cases e with
      | submit j =>
        rcases p.step_submit j with ⟨e, -, eq⟩ | ⟨-, eq⟩ <;>
          simp [eq]
      | finish j broken =>
        simp only [step]
        split <;> simp
      | move =>
        simp only [step]
        split
        · next q effects moves =>
          rw [(silent effects).1, (silent effects).2.1]
          rfl
        · simp
      | _ => simp [step]
    have split : submittedIn (e :: events) = e.submitted?.toList ++ submittedIn events := by
      simp only [submittedIn, List.filterMap_cons]
      cases e.submitted? <;> rfl
    simp only [marks, acceptedIn, refusedIn, List.filterMap_append]
    rw [split]
    refine (here.append (ih (p.step e).1)).trans ?_
    simp only [List.append_assoc]
    refine List.Perm.append_left _ ?_
    rw [← List.append_assoc, ← List.append_assoc]
    exact List.perm_append_comm.append_right _

/-- Only a pool that was told to stop is ever going to close. -/
theorem stopping_after (events : List (Event J)) (h : (p.after events).stopping = true) :
    p.stopping = true ∨ .stop ∈ events := by
  induction events generalizing p with
  | nil => exact .inl h
  | cons e events ih =>
    rcases ih _ h with told | told
    · cases e with
      | stop => exact .inr (List.mem_cons_self ..)
      | submit j =>
        rcases p.step_submit j with ⟨e, -, eq⟩ | ⟨-, eq⟩ <;> exact .inl (by simpa [eq] using told)
      | finish j broken =>
        simp only [step, finish] at told
        split at told <;> exact .inl (by simpa [*] using told)
      | move =>
        simp only [step] at told
        split at told
        · next q effects moves =>
          cases move_moved moves <;> exact .inl told
        · exact .inl told
      | defer =>
        simp only [step, defer] at told
        split at told <;> exact .inl told
      | again => exact .inl told
    · exact .inr (List.mem_cons_of_mem _ told)

end Runs

/-! ### Jobs that break down -/

/-- What becomes of a job that has ended when nothing is known about how. -/
def still (e : J × Bool) : J × Bool := (e.1, false)

/-- The pool when no job of those that have ended broke down. -/
def calm (p : Pool J) : Pool J :=
  { p with ended := p.ended.map still, deferred := p.deferred.map still }

/-- The event when no job breaks down. -/
def Event.calm : Event J → Event J
  | .finish j _ => .finish j false
  | e => e

/-- What shows besides the log and how a job ended. -/
@[simp]
def Mark.calm? : Mark J → Option (Mark J)
  | .reported _ => none
  | .ended j _ => some (.ended j false)
  | m => some m

private theorem occupied_calm (p : Pool J) : p.calm.occupied = p.occupied := by
  simp [calm, occupied]

/-- A step of the loop as it shows besides the log. -/
def Step.calm (o : Step J) : Pool J × List (Mark J) :=
  (o.1.calm, (o.2.map Effect.mark).filterMap Mark.calm?)

private theorem still_comp_still : (still ∘ still : J × Bool → J × Bool) = still := rfl

private theorem reap_calm (p : Pool J) : p.calm.reap.map Step.calm = p.reap.map Step.calm := by
  obtain ⟨workers, capacity, accepting, queue, running, ended, deferred, phase, stopping⟩ := p
  rcases ended with _ | ⟨⟨j, _ | _⟩, ended⟩ <;>
    simp [calm, reap, Step.calm, still, still_comp_still, List.filterMap_cons]

private theorem place_calm (p : Pool J) (j : J) : (p.calm.place j).calm = (p.place j).calm := by
  obtain ⟨workers, capacity, accepting, queue, running, ended, deferred, phase, stopping⟩ := p
  by_cases room : running.length + ended.length + deferred.length < workers <;>
    simp [calm, place, launch, occupied, Step.calm, room, still_comp_still]

private theorem windDown_calm (p : Pool J) : p.calm.windDown = p.windDown.calm := by
  simp only [windDown, occupied_calm]
  rfl

private theorem calm_calm (p : Pool J) : p.calm.calm = p.calm := by
  simp [calm, still_comp_still]

/-- The loop takes no notice of how a job ended, but for the log. -/
theorem move_calm (p : Pool J) : p.calm.move.map Step.calm = p.move.map Step.calm := by
  have phase : p.calm.phase = p.phase := rfl
  have stopping : p.calm.stopping = p.stopping := rfl
  have queue : p.calm.queue = p.queue := rfl
  have workers : p.calm.workers = p.workers := rfl
  unfold move
  rw [phase]
  cases p.phase with
  | serving =>
    simp only [stopping, queue, occupied_calm, workers, Option.orElse_eq_orElse,
      Option.orElse_eq_or]
    split
    · simp [Step.calm, calm, still_comp_still, List.filterMap_cons]
    · rw [Option.map_or, Option.map_or, reap_calm]
      congr 1
      split
      · split
        · simp [launch, Step.calm, calm, still_comp_still]
        · rfl
      · rfl
  | draining next =>
    cases next with
    | none =>
      simp only [queue]
      split
      · next j rest _ =>
        exact congrArg some (place_calm { p with queue := rest } j)
      · simp only [windDown_calm, Option.map_some, Step.calm, calm_calm]
    | some j =>
      simp only [Option.map_map]
      have follows : Step.calm ∘ (fun o : Step J => ((o.1.place j).1, o.2 ++ (o.1.place j).2)) =
          (fun c : Pool J × List (Mark J) => ((c.1.place j).calm.1, c.2 ++ (c.1.place j).calm.2)) ∘
            Step.calm := by
        funext o
        simp only [Function.comp_apply, Step.calm, List.map_append, List.filterMap_append]
        have placed := o.1.place_calm j
        simp only [Step.calm, Prod.mk.injEq] at placed
        rw [placed.1, placed.2]
      rw [follows, ← Option.map_map, reap_calm, Option.map_map]
  | emptying =>
    simp only [Option.map_map]
    have follows : Step.calm ∘ (fun o : Step J => (o.1.windDown, o.2)) =
        (fun c : Pool J × List (Mark J) => (c.1.windDown, c.2)) ∘ Step.calm := by
      funext o
      simp only [Function.comp_apply, Step.calm, windDown_calm]
    rw [follows, ← Option.map_map, reap_calm, Option.map_map]
  | stopped => rfl

section Runs

variable [DecidableEq J]

private theorem step_calm (p : Pool J) (e : Event J) :
    (p.calm.step e.calm).1.calm = (p.step e).1.calm ∧
      (p.calm.step e.calm).2.filterMap Mark.calm? = (p.step e).2.filterMap Mark.calm? := by
  cases e with
  | submit j =>
    have same : p.calm.admission = p.admission := rfl
    simp only [Event.calm, step, submit, same]
    cases p.admission <;> simp [Except.map, calm, still_comp_still]
  | finish j broken =>
    have same : p.calm.running = p.running := rfl
    by_cases runs : j ∈ p.running
    · simp only [Event.calm, step, finish, same, runs, if_true]
      simp [calm, still_comp_still, still]
    · simp only [Event.calm, step, same, runs, if_false, calm_calm, and_self]
  | move =>
    have moved := p.move_calm
    simp only [Event.calm, step]
    cases calmly : p.calm.move <;> cases moves : p.move <;> rw [calmly, moves] at moved
    · exact ⟨p.calm_calm, rfl⟩
    · cases moved
    · cases moved
    · simpa [Step.calm] using moved
  | defer =>
    simp only [Event.calm, step, defer]
    cases found : p.ended with
    | nil => simp [calm, found, still_comp_still]
    | cons e rest => simp [calm, found, still_comp_still, still]
  | stop => simp [Event.calm, step, stop, calm, still_comp_still]
  | again => simp [Event.calm, step, readmit, calm, still_comp_still]

/-- Which jobs break down shows in the log only. -/
theorem marks_calm {p q : Pool J} (h : p.calm = q.calm) {events other : List (Event J)}
    (same : events.map Event.calm = other.map Event.calm) :
    (p.after events).calm = (q.after other).calm ∧
      (p.marks events).filterMap Mark.calm? = (q.marks other).filterMap Mark.calm? := by
  induction events generalizing p q other with
  | nil =>
    obtain rfl : other = [] := by simpa using same
    exact ⟨h, rfl⟩
  | cons e events ih =>
    obtain _ | ⟨e', other⟩ := other
    · simp at same
    · simp only [List.map_cons, List.cons.injEq] at same
      obtain ⟨pool, shown⟩ := p.step_calm e
      obtain ⟨pool', shown'⟩ := q.step_calm e'
      rw [h, same.1] at pool shown
      obtain ⟨last, rest⟩ := ih (pool.symm.trans pool') same.2
      simp only [after, marks, List.filterMap_append]
      rw [← shown, ← shown', rest]
      exact ⟨last, rfl⟩

end Runs

end A2dpSink.Pool
