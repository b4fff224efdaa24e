import A2dpSink.Proofs.Pool.Order
import Mathlib

/-!
# Progress of a pool

An endless run is fair if its jobs end and its loop has its turns. In a fair run every job that was
accepted is started in the end: as long as it waits, a job runs or the loop can make a step, and
whatever happens then brings it closer to its start (`delay`).
-/

namespace A2dpSink.Pool

variable {J : Type}

/-! ### What a job still has to wait for -/

/-- How many steps the phase itself may still ask for. -/
def Phase.lag : Phase J → Nat
  | .serving => 2
  | .draining (some _) => 0
  | _ => 1

/-- A bound for all that happens before `i` more jobs are started, apart from jobs that are
submitted and turns that are put off. -/
def delay (p : Pool J) (i : Nat) : Nat :=
  2 * p.running.length + p.ended.length + p.deferred.length + 4 * i + p.phase.lag

/-- A step of the loop brings the next jobs closer to their start. -/
theorem Moved.delay_lt {p : Pool J} {o : Step J} (h : Moved p o) (sound : p.Sound) {i : Nat}
    (pos : 0 < i) (le : i ≤ p.waiting.length) :
    o.1.delay (i - (startedIn (o.2.map Effect.mark)).length) < p.delay i := by
  have reports := fun lines : List Log.Line =>
    filterMap_reports (Mark.started? (J := J)) lines (fun _ => rfl)
  cases h with
  | close line serving told => simp [delay, serving, Phase.lag]
  | reap e rest lines serving found =>
    rw [startedIn, reports]
    simp only [delay, found, List.length_cons, List.length_nil]
    omega
  | launch j rest phase queue room =>
    simp [delay]
    omega
  | keep j rest draining queue busy => simp [delay, draining, Phase.lag]
  | exhaust draining queue =>
    simp [waiting, draining, queue, Phase.hand?] at le
    omega
  | follow j e rest lines draining found room =>
    rw [List.map_append, startedIn, List.filterMap_append, reports]
    simp [delay, draining, found, Phase.lag]
    omega
  | linger j e rest lines draining found busy =>
    exact absurd sound.occupied_le (Nat.not_le_of_lt busy)
  | wind e rest lines emptying found =>
    have queue := sound.queue_eq_nil (.inl emptying)
    simp [waiting, emptying, queue, Phase.hand?] at le
    omega

section Steps

variable {p : Pool J}

/-- Something happens: a running job ends, or the loop makes a step. -/
def Stirs (p : Pool J) : Event J → Prop
  | .finish j _ => j ∈ p.running
  | .move => p.move ≠ none
  | _ => False

/-- The loop can make a step when what it has put off has its turn. -/
def Ready (p : Pool J) : Prop := p.readmit.move ≠ none

private theorem delay_step [DecidableEq J] (sound : p.Sound) (e : Event J) {i : Nat} (pos : 0 < i)
    (le : i ≤ p.waiting.length) :
    (p.step e).1.delay (i - (startedIn (p.step e).2).length) ≤ p.delay i ∧
      (p.Stirs e → (p.step e).1.delay (i - (startedIn (p.step e).2).length) < p.delay i) := by
  cases e with
  | submit j =>
    rcases p.step_submit j with ⟨e, -, eq⟩ | ⟨-, eq⟩ <;>
      simp [eq, delay, Stirs, List.filterMap_cons]
  | finish j broken =>
    by_cases runs : j ∈ p.running
    · have positive := List.length_pos_of_mem runs
      simp only [step, finish, runs, if_true, startedIn, List.filterMap_cons, Mark.started?,
        List.filterMap_nil, delay, List.length_erase_of_mem, List.length_append, List.length_nil,
        List.length_singleton]
      omega
    · simp [step, runs, Stirs]
  | move =>
    simp only [step]
    split
    · next q effects moves =>
      have less := (move_moved moves).delay_lt sound pos le
      exact ⟨less.le, fun _ => less⟩
    · next stuck => simp [Stirs, stuck]
  | defer =>
    refine ⟨?_, False.elim⟩
    simp only [step, defer]
    split
    · simp
    · next e rest found =>
      simp only [delay, found, startedIn, List.filterMap_nil, List.length_cons, List.length_nil]
      omega
  | stop => exact ⟨le_rfl, False.elim⟩
  | again =>
    refine ⟨?_, False.elim⟩
    simp only [step, readmit, delay, startedIn, List.filterMap_nil, List.length_append,
      List.length_nil]
    omega

/-- While a job waits, another one runs or the loop has something to do. -/
theorem Sound.stirs (h : p.Sound) (waits : p.waiting ≠ []) : p.running ≠ [] ∨ p.Ready := by
  rw [or_iff_not_imp_left, not_not]
  intro idle
  have occupied : p.occupied = (p.ended ++ p.deferred).length := by
    simp [Pool.occupied, idle]
  have phase : p.readmit.phase = p.phase := rfl
  have reaps : p.occupied ≠ 0 → p.readmit.reap ≠ none := by
    intro busy stuck
    have none_ended : p.ended ++ p.deferred = [] := reap_eq_none_iff.mp stuck
    rw [occupied, none_ended] at busy
    exact busy rfl
  unfold Ready move
  rw [phase]
  cases current : p.phase with
  | serving =>
    simp only
    split
    · simp
    · intro stuck
      rw [Option.orElse_eq_orElse, Option.orElse_eq_or, Option.or_eq_none_iff] at stuck
      obtain ⟨none_ended, none_started⟩ := stuck
      have free : p.readmit.occupied < p.readmit.workers := by
        have none_occupied : p.occupied = 0 := by
          by_contra busy
          exact reaps busy none_ended
        have same : p.readmit.occupied = p.occupied := by
          simp only [Pool.occupied, readmit, List.length_append, List.length_nil]
          omega
        rw [same, none_occupied]
        exact h.workers_pos
      have queue : p.readmit.queue = p.waiting := by
        simp [waiting, current, Phase.hand?, readmit]
      rw [queue] at none_started
      obtain ⟨j, rest, queue⟩ := List.exists_cons_of_ne_nil waits
      simp [queue, free] at none_started
  | draining next =>
    cases next with
    | none =>
      simp only
      split <;> simp
    | some j =>
      have full := h.full j current
      have pos := h.workers_pos
      simpa using reaps (by omega)
  | emptying => exact absurd (by simp [waiting, current, Phase.hand?, h.queue_eq_nil (.inl current)]) waits
  | stopped => exact absurd (by simp [waiting, current, Phase.hand?, h.queue_eq_nil (.inr current)]) waits

end Steps

/-! ### Fair runs -/

/-- The first `n` events of an endless run. -/
def upTo (σ : Nat → Event J) (n : Nat) : List (Event J) := (List.range n).map σ

private theorem upTo_succ (σ : Nat → Event J) (n : Nat) : upTo σ (n + 1) = upTo σ n ++ [σ n] := by
  simp [upTo, List.range_succ]

section Runs

variable [DecidableEq J]

/-- A run in which no event that may happen is put off for ever. -/
structure Fair (p : Pool J) (σ : Nat → Event J) : Prop where
  /-- Jobs that run end. -/
  ends : ∀ n, (p.after (upTo σ n)).running ≠ [] →
    ∃ m, n ≤ m ∧ ∃ j broken, σ m = .finish j broken ∧ j ∈ (p.after (upTo σ m)).running
  /-- The loop makes the steps that it can make, now or when what it has put off has its turn. -/
  moves : ∀ n, (p.after (upTo σ n)).Ready →
    ∃ m, n ≤ m ∧ σ m = .move ∧ (p.after (upTo σ m)).move ≠ none

private theorem after_upTo_succ (p : Pool J) (σ : Nat → Event J) (n : Nat) :
    p.after (upTo σ (n + 1)) = ((p.after (upTo σ n)).step (σ n)).1 := by
  rw [upTo_succ, after_append]
  rfl

private theorem marks_upTo_succ (p : Pool J) (σ : Nat → Event J) (n : Nat) :
    p.marks (upTo σ (n + 1)) = p.marks (upTo σ n) ++ ((p.after (upTo σ n)).step (σ n)).2 := by
  rw [upTo_succ, marks_append]
  simp [marks]

/-- A number that never grows does not become less again and again. -/
theorem not_always_less (d : Nat → Nat) (n : Nat) (le : ∀ m, n ≤ m → d (m + 1) ≤ d m)
    (lt : ∀ m, n ≤ m → ∃ m', m ≤ m' ∧ d (m' + 1) < d m') : False := by
  suffices ∀ b m, n ≤ m → d m < b → False from this (d n + 1) n le_rfl (Nat.lt_succ_self _)
  intro b
  induction b with
  | zero => exact fun m _ less => absurd less (Nat.not_lt_zero _)
  | succ b ih =>
    intro m later less
    obtain ⟨m', later', drop⟩ := lt m later
    have kept : ∀ i, m ≤ i → d i ≤ d m := by
      intro i later'
      induction i, later' using Nat.le_induction with
      | base => exact le_rfl
      | succ i later' kept => exact (le i (later.trans later')).trans kept
    have lower := kept m' later'
    exact ih (m' + 1) (by omega) (by omega)

/-- In a fair run as many jobs are started as were accepted. -/
theorem Fair.starts {p : Pool J} {σ : Nat → Event J} (fair : Fair p σ) (sound : p.Sound) {n k : Nat}
    (le : k ≤ (startedIn (p.marks (upTo σ n))).length + (p.after (upTo σ n)).waiting.length) :
    ∃ m, n ≤ m ∧ k ≤ (startedIn (p.marks (upTo σ m))).length := by
  by_contra! never
  let started := fun m => (startedIn (p.marks (upTo σ m))).length
  have started_succ : ∀ m, started (m + 1) =
      started m + (startedIn ((p.after (upTo σ m)).step (σ m)).2).length := by
    intro m
    simp only [started, marks_upTo_succ, startedIn, List.filterMap_append, List.length_append]
  have waits : ∀ m, n ≤ m → k ≤ started m + (p.after (upTo σ m)).waiting.length := by
    intro m later
    induction m, later using Nat.le_induction with
    | base => exact le
    | succ m later ih =>
      have account := congrArg List.length ((p.after (upTo σ m)).step_started (σ m))
      rw [List.length_append, List.length_append] at account
      rw [started_succ, after_upTo_succ]
      omega
  have step := fun m (later : n ≤ m) => delay_step (sound.after (upTo σ m)) (σ m)
    (Nat.sub_pos_of_lt (never m later)) (Nat.sub_le_iff_le_add'.mpr (waits m later))
  have next : ∀ m, (p.after (upTo σ (m + 1))).delay (k - started (m + 1)) =
      ((p.after (upTo σ m)).step (σ m)).1.delay
        (k - started m - (startedIn ((p.after (upTo σ m)).step (σ m)).2).length) := by
    intro m
    rw [after_upTo_succ, started_succ, Nat.sub_add_eq]
  refine not_always_less (fun m => (p.after (upTo σ m)).delay (k - started m)) n ?_ ?_
  · intro m later
    simp only [next]
    exact (step m later).1
  · intro m later
    have ne_nil : (p.after (upTo σ m)).waiting ≠ [] := by
      intro none_
      have waits := waits m later
      rw [none_] at waits
      exact absurd (never m later) (Nat.not_lt_of_le waits)
    have stirs : ∃ m', m ≤ m' ∧ (p.after (upTo σ m')).Stirs (σ m') := by
      rcases (sound.after _).stirs ne_nil with running | moves
      · obtain ⟨m', later', j, broken, event, runs⟩ := fair.ends m running
        exact ⟨m', later', event ▸ runs⟩
      · obtain ⟨m', later', event, moves⟩ := fair.moves m moves
        exact ⟨m', later', event ▸ moves⟩
    obtain ⟨m', later', stirs⟩ := stirs
    refine ⟨m', later', ?_⟩
    simp only [next]
    exact (step m' (later.trans later')).2 stirs

/-! Fair runs exist: jobs end as soon as they run, and the loop moves on whenever it can. -/

/-- What happens next if nothing is put off. -/
def eager (p : Pool J) : Event J :=
  match p.running with
  | j :: _ => .finish j false
  | [] => if p.move.isSome then .move else .again

/-- A pool to which `eager` has happened so many times. -/
def eagerly (p : Pool J) : Nat → Pool J
  | 0 => p
  | n + 1 => ((p.eagerly n).step (p.eagerly n).eager).1

private theorem after_eager (p : Pool J) (n : Nat) :
    p.after (upTo (fun n => (p.eagerly n).eager) n) = p.eagerly n := by
  induction n with
  | zero => rfl
  | succ n ih => rw [after_upTo_succ, ih, eagerly]

/-- A job that ends gives the loop something to do. -/
theorem Ready.finish {p : Pool J} {j : J} (h : p.Ready) (runs : j ∈ p.running) (broken : Bool) :
    (p.finish j broken).Ready := by
  obtain ⟨q, eq⟩ : ∃ q, q = p.finish j broken := ⟨_, rfl⟩
  rw [← eq]
  have reaps : q.readmit.reap ≠ none := by
    intro stuck
    have none_ended := reap_eq_none_iff.mp stuck
    simp [eq, Pool.finish, runs, readmit] at none_ended
  have phase : q.readmit.phase = p.phase := by simp [eq, Pool.finish, runs, readmit]
  have phase' : p.readmit.phase = p.phase := rfl
  unfold Ready move at h ⊢
  rw [phase]
  rw [phase'] at h
  cases current : p.phase with
  | serving =>
    simp only
    split
    · simp
    · rw [Option.orElse_eq_orElse, Option.orElse_eq_or, ne_eq, Option.or_eq_none_iff]
      exact fun stuck => reaps stuck.1
  | draining next =>
    cases next with
    | none =>
      simp only
      split <;> simp
    | some j => simpa using reaps
  | emptying => simpa using reaps
  | stopped => simp [current] at h

private theorem eagerly_moves (p : Pool J) (b n : Nat) (less : (p.eagerly n).running.length < b)
    (h : (p.eagerly n).Ready) :
    ∃ m, n ≤ m ∧ (p.eagerly m).eager = .move ∧ (p.eagerly m).move ≠ none := by
  induction b generalizing n with
  | zero => exact absurd less (Nat.not_lt_zero _)
  | succ b ih =>
    cases running : (p.eagerly n).running with
    | cons j rest =>
      have runs : j ∈ (p.eagerly n).running := by simp [running]
      have next : p.eagerly (n + 1) = (p.eagerly n).finish j false := by
        simp [eagerly, eager, running, step]
      have left : (p.eagerly (n + 1)).running = rest := by
        simp [next, finish, running]
      have fewer : (p.eagerly (n + 1)).running.length < b := by
        rw [running, List.length_cons] at less
        rw [left]
        omega
      obtain ⟨m, later, moves⟩ := ih (n + 1) fewer (next ▸ h.finish runs false)
      exact ⟨m, Nat.le_of_succ_le later, moves⟩
    | nil =>
      by_cases moves : (p.eagerly n).move = none
      · have next : p.eagerly (n + 1) = readmit (p.eagerly n) := by
          simp [eagerly, eager, running, moves, step]
        have running' : (p.eagerly (n + 1)).running = [] := by
          rw [next]
          exact running
        have moves' : (p.eagerly (n + 1)).move ≠ none := next ▸ h
        have event : (p.eagerly (n + 1)).eager = .move := by
          simp [eager, running', Option.isSome_iff_ne_none.mpr moves']
        exact ⟨n + 1, Nat.le_succ n, event, moves'⟩
      · have event : (p.eagerly n).eager = .move := by
          simp [eager, running, Option.isSome_iff_ne_none.mpr moves]
        exact ⟨n, le_rfl, event, moves⟩

/-- Every pool can go on fairly. -/
theorem exists_fair (p : Pool J) : ∃ σ, Fair p σ := by
  refine ⟨fun n => (p.eagerly n).eager, ?_, ?_⟩
  · intro n running
    rw [after_eager] at running
    obtain ⟨j, rest, running⟩ := List.exists_cons_of_ne_nil running
    exact ⟨n, le_rfl, j, false, by simp [eager, running], by simp [after_eager, running]⟩
  · intro n moves
    rw [after_eager] at moves
    obtain ⟨m, later, event, moves⟩ := p.eagerly_moves _ n (Nat.lt_succ_self _) moves
    exact ⟨m, later, event, by rwa [after_eager]⟩

/-! ### What can be relied on -/

/-- What can be relied on when some events have happened to a pool of so many workers with a queue
for so many jobs, which has `shown` so much of it and has become `p`. -/
structure Orderly (workers depth : Nat) (events : List (Event J)) (shown : List (Mark J))
    (p : Pool J) : Prop where
  /-- The jobs that were started are the first of those that were accepted, in the same order. -/
  started : startedIn shown ++ p.waiting = acceptedIn shown
  /-- No job is started twice. -/
  once : (startedIn shown).Nodup
  /-- However the run goes on, if it is fair all jobs that were accepted are started. -/
  served : ∀ σ, Fair p σ → ∃ n, acceptedIn shown <+: startedIn (shown ++ p.marks (upTo σ n))
  /-- No job that was refused runs, then or later. -/
  refused : ∀ later, (submittedIn (events ++ later)).Nodup →
    ∀ j ∈ refusedIn shown, j ∉ startedIn (shown ++ p.marks later)
  running : (startedIn shown).Perm (p.running ++ endedIn shown)
  running_le : p.running.length ≤ max 1 workers
  queue_le : p.queue.length ≤ max 1 depth
  queueFull : ∀ j, (p.step (.submit j)).2 = [.refused j .queueFull] →
    p.queue.length = max 1 depth
  shutDown : ∀ j, (p.step (.submit j)).2 = [.refused j .shutDown] →
    p.accepting = false ∧ .stop ∈ events
  /-- Had other jobs broken down, everything would have gone the same way. -/
  unharmed : ∀ other, other.map Event.calm = events.map Event.calm →
    ((start workers depth).marks other).filterMap Mark.calm? = shown.filterMap Mark.calm?
  /-- When the pool has come to its end, every job that was accepted has ended. -/
  stopped : p.phase = .stopped → (endedIn shown).Perm (acceptedIn shown)

private theorem Fair.served {p : Pool J} {σ : Nat → Event J} (fair : Fair p σ) (sound : p.Sound) :
    ∃ n, p.waiting <+: startedIn (p.marks (upTo σ n)) := by
  have all : p.waiting.length ≤
      (startedIn (p.marks (upTo σ 0))).length + (p.after (upTo σ 0)).waiting.length :=
    Nat.le_add_left ..
  obtain ⟨n, -, long⟩ := fair.starts sound all
  have account := p.started_append_waiting (upTo σ n)
  exact ⟨n, List.prefix_of_prefix_length_le (List.prefix_append ..) ⟨_, account⟩ long⟩

/-- What a new pool has started was accepted. -/
theorem started_prefix_accepted (workers depth : Nat) (events : List (Event J)) :
    startedIn ((start workers depth).marks events) <+:
      acceptedIn ((start workers depth).marks events) :=
  ⟨_, (start workers depth).started_append_waiting events⟩

/-- Of jobs that differ, none is both accepted and refused, and none is accepted twice. -/
theorem accepted_apart (workers depth : Nat) {events : List (Event J)}
    (distinct : (submittedIn events).Nodup) :
    (acceptedIn ((start workers depth).marks events)).Nodup ∧
      (acceptedIn ((start workers depth).marks events)).Disjoint
        (refusedIn ((start workers depth).marks events)) := by
  have apart := ((start workers depth).submitted_perm events).nodup_iff.mp distinct
  exact ⟨apart.of_append_left, List.disjoint_of_nodup_append apart⟩

/-- A pool loses, repeats and reorders nothing. -/
theorem orderly (workers depth : Nat) (events : List (Event J))
    (distinct : (submittedIn events).Nodup) :
    Orderly workers depth events ((start workers depth).marks events)
      ((start workers depth).after events) := by
  have sound := (Sound.start (J := J) workers depth).after events
  obtain ⟨workers_eq, capacity_eq⟩ := (start workers depth : Pool J).after_size events
  have account : startedIn ((start workers depth).marks events) ++
      ((start workers depth).after events).waiting =
        acceptedIn ((start workers depth).marks events) :=
    (start workers depth).started_append_waiting events
  have running : (startedIn ((start workers depth).marks events)).Perm
      (((start workers depth).after events).running ++
        endedIn ((start workers depth).marks events)) :=
    (start workers depth).running_append_started events
  constructor
  case started => exact account
  case once =>
    have prefix_ := started_prefix_accepted workers depth events
    exact (accepted_apart workers depth distinct).1.sublist prefix_.sublist
  case served =>
    intro σ fair
    obtain ⟨n, all⟩ := fair.served sound
    refine ⟨n, ?_⟩
    rw [startedIn, List.filterMap_append, ← account]
    exact (List.prefix_append_right_inj _).mpr all
  case refused =>
    intro later distinct j told started
    rw [← marks_append] at started
    have accepted := (started_prefix_accepted workers depth (events ++ later)).subset started
    refine (accepted_apart workers depth distinct).2 accepted ?_
    rw [marks_append, refusedIn, List.filterMap_append]
    exact List.mem_append_left _ told
  case running => exact running
  case running_le =>
    have occupied_le := sound.occupied_le
    rw [workers_eq] at occupied_le
    have running_le : ((start workers depth).after events).running.length ≤
        ((start workers depth).after events).occupied := by
      rw [occupied]
      omega
    exact running_le.trans occupied_le
  case queue_le =>
    have queue_le := sound.queue_le
    rw [capacity_eq] at queue_le
    exact queue_le
  case queueFull =>
    intro j told
    rcases step_submit ((start workers depth).after events) j with ⟨e, why, eq⟩ | ⟨-, eq⟩
    · rw [eq] at told
      obtain rfl : e = .queueFull := by simpa using told
      have full := (admission_eq_queueFull_iff.mp why).2
      have queue_le := sound.queue_le
      rw [capacity_eq] at full queue_le
      exact queue_le.antisymm full
    · rw [eq] at told
      simp at told
  case shutDown =>
    intro j told
    rcases step_submit ((start workers depth).after events) j with ⟨e, why, eq⟩ | ⟨-, eq⟩
    · rw [eq] at told
      obtain rfl : e = .shutDown := by simpa using told
      have closed := admission_eq_shutDown_iff.mp why
      have told := stopping_after _ events (sound.stopping closed)
      exact ⟨closed, told.resolve_left (by simp [start])⟩
    · rw [eq] at told
      simp at told
  case unharmed => exact fun other same => (marks_calm rfl same).2
  case stopped =>
    intro last
    have queue := sound.queue_eq_nil (.inr last)
    have none_running : ((start workers depth).after events).running = [] := by
      have none_occupied := sound.occupied_eq_zero last
      rw [occupied] at none_occupied
      exact List.length_eq_zero_iff.mp (by omega)
    have none_waiting : ((start workers depth).after events).waiting = [] := by
      simp [waiting, last, queue, Phase.hand?]
    rw [none_waiting, List.append_nil] at account
    rw [none_running, List.nil_append, account] at running
    exact running.symm

/-- One worker, one place in the queue: the second job is refused, the first one breaks down, and
the third one, which waits when the pool is told to stop, is started after that. -/
theorem orderly_one_worker :
    let events : List (Event Nat) := [.submit 0, .submit 1, .move, .submit 2, .finish 0 true, .stop,
      .move, .submit 3, .move, .move, .finish 2 false]
    (submittedIn events).Nodup ∧
      Orderly 0 1 events ((start 0 1).marks events) ((start 0 1).after events) ∧
      startedIn ((start 0 1).marks events) = [0, 2] ∧
      refusedIn ((start 0 1).marks events) = [1, 3] ∧
      ∃ σ, Fair ((start 0 1).after events) σ := by
  intro events
  have distinct : (submittedIn events).Nodup := by decide
  exact ⟨distinct, orderly 0 1 events distinct, by decide, by decide, exists_fair _⟩

end Runs

end A2dpSink.Pool
