import A2dpSink.Proofs.Attachment.Moves

/-!
# Sound attachments

Whoever is on its way holds the lock, a call of the discovery session belongs to a task that waits
for its answer, and while the session is busy nothing is known about the service. `Fine` is what
holds at each point of a step; every move keeps it.
-/

namespace A2dpSink.Attachment

/-- A task at this place makes use of the lock. -/
def Stage.isActive : Stage → Bool
  | .queued => false
  | .waiting => false
  | _ => true

/-- A task at this place is about to find out what service there is. -/
def Stage.isAsking : Stage → Bool
  | .probing => true
  | .connecting => true
  | .starting => true
  | _ => false

/-- What holds of every attachment between its steps. -/
structure Sound (a : Attachment) : Prop where
  session : a.discovery.Sound
  lock : a.lock.Sound
  number_lt : ∀ n t, a.task? n = some t → n < a.nextTask
  present : ∀ n ∈ a.lock.parties, ∃ t, a.task? n = some t ∧ t.stage ≠ .queued
  active : ∀ n t, a.task? n = some t → t.stage.isActive = true → a.lock.holder = some n
  call : ∀ n stage, a.discovery.callStage? n = some stage →
    ∃ t, a.task? n = some t ∧ t.stage = .ofRequest stage.request
  asking : ∀ n t, a.task? n = some t → t.stage.isAsking = true →
    a.service.role = .unknown ∧ t.errand = .update
  busy : a.discovery.isBusy = true → a.service.role = .unknown

/-- A task runs that is still noted at a given place. It holds the lock, and no call is under
way. -/
structure Held (a : Attachment) (t : Task) (stage : Stage) : Prop where
  sound : a.Sound
  holder : a.lock.holder = some t.number
  task : a.task? t.number = some { t with stage }
  stage_ne : stage ≠ .queued
  calls : ∀ m, a.discovery.callStage? m = none

/-- What holds at the points of a step. -/
def Fine (a : Attachment) : Point → Prop
  | .rest => a.Sound
  | .perform t => ∃ stage, a.Held t stage ∧ stage.isAsking = false
  | .call t .disconnect => ∃ stage, a.Held t stage ∧ stage.isAsking = false
  | .call t _ => (∃ stage, a.Held t stage) ∧ a.service.role = .unknown ∧ t.errand = .update
  | .answered t .disconnect _ => ∃ stage, a.Held t stage ∧ stage.isAsking = false ∧
      a.discovery.isBusy = false
  | .answered t _ _ => (∃ stage, a.Held t stage) ∧ a.service.role = .unknown ∧ t.errand = .update
  | .settle t _ => ∃ stage, a.Held t stage ∧ stage.isAsking = false ∧ a.discovery.isBusy = false
  | .dial t _ => ∃ stage, a.Held t stage
  | .hangUp t => ∃ stage, a.Held t stage
  | .leave t _ => ∃ stage, a.Held t stage

variable {a b : Attachment} {t : Task} {stage : Stage}

/-- When a task makes use of the lock, nobody else holds it. -/
theorem Sound.eq_of_holder (h : a.Sound) {n m : Nat} {u : Task} (there : a.task? n = some t)
    (active : t.stage.isActive = true) (listed : a.task? m = some u)
    (holder : a.lock.holder = some m) : m = n ∧ u = t := by
  have same := h.active n t there active
  rw [holder, Option.some.injEq] at same
  subst same
  exact ⟨rfl, Option.some.inj (listed.symm.trans there)⟩

/-- Only one task makes use of the lock. -/
theorem Sound.eq_of_active (h : a.Sound) {n m : Nat} {u : Task} (there : a.task? n = some t)
    (active : t.stage.isActive = true) (listed : a.task? m = some u)
    (active' : u.stage.isActive = true) : m = n ∧ u = t :=
  h.eq_of_holder there active listed (h.active m u listed active')

/-- The task in hand is the only one that makes use of the lock. -/
theorem Held.eq_of_active (h : a.Held t stage) {n : Nat} {u : Task}
    (there : a.task? n = some u) (active : u.stage.isActive = true) :
    n = t.number ∧ u = { t with stage } := by
  have holder := h.sound.active n u there active
  rw [h.holder, Option.some.injEq] at holder
  subst holder
  exact ⟨rfl, Option.some.inj (there.symm.trans h.task)⟩

/-! ### Changes of one thing -/

/-- Soundness does not depend on the rest of the attachment. -/
theorem Sound.same (h : a.Sound) (discovery : b.discovery = a.discovery) (lock : b.lock = a.lock)
    (tasks : b.tasks = a.tasks) (nextTask : b.nextTask = a.nextTask)
    (service : b.service = a.service) : b.Sound := by
  have lookup := task?_eq_of_tasks tasks
  obtain ⟨h₁, h₂, h₃, h₄, h₅, h₆, h₇, h₈⟩ := h
  constructor
  all_goals simp only [discovery, lock, nextTask, service, lookup]
  all_goals assumption

/-- A task that runs goes on running while nothing it depends on changes. -/
theorem Held.same (h : a.Held t stage) (discovery : b.discovery = a.discovery)
    (lock : b.lock = a.lock) (tasks : b.tasks = a.tasks) (nextTask : b.nextTask = a.nextTask)
    (service : b.service = a.service) : b.Held t stage where
  sound := h.sound.same discovery lock tasks nextTask service
  holder := lock ▸ h.holder
  task := (task?_eq_of_tasks tasks _).trans h.task
  stage_ne := h.stage_ne
  calls := discovery ▸ h.calls

/-- Nothing is known about the service any more, or something is known about it and nobody is about
to find out. -/
theorem Held.service (h : a.Held t stage) (service : AudioService)
    (settled : service.role = .unknown ∨ stage.isAsking = false ∧ a.discovery.isBusy = false) :
    Held { a with service } t stage where
  sound := {
    session := h.sound.session
    lock := h.sound.lock
    number_lt := h.sound.number_lt
    present := h.sound.present
    active := h.sound.active
    call := h.sound.call
    asking := by
      intro n u there asks
      have old := h.sound.asking n u there asks
      rcases settled with unknown | ⟨quiet, -⟩
      · exact ⟨unknown, old.2⟩
      · -- Whoever asks holds the lock, so it is the task that runs, and that does not ask.
        have active : u.stage.isActive = true := by
          cases place : u.stage <;> simp_all [Stage.isAsking, Stage.isActive]
        have holder := h.sound.active n u there active
        rw [h.holder, Option.some.injEq] at holder
        subst holder
        have same := Option.some.inj (h.task.symm.trans there)
        rw [← same, quiet] at asks
        cases asks
    busy := by
      intro busy
      rcases settled with unknown | ⟨-, idle⟩
      · exact unknown
      · rw [idle] at busy
        cases busy }
  holder := h.holder
  task := h.task
  stage_ne := h.stage_ne
  calls := h.calls

/-- The session has answered. -/
theorem Held.discovery (h : a.Held t stage) {d : Discovery} (session : d.Sound)
    (calls : ∀ m, d.callStage? m = none) (busy : d.isBusy = true → a.service.role = .unknown) :
    Held { a with discovery := d } t stage where
  sound := {
    session
    lock := h.sound.lock
    number_lt := h.sound.number_lt
    present := h.sound.present
    active := h.sound.active
    call := by
      intro n place there
      rw [calls n] at there
      cases there
    asking := h.sound.asking
    busy }
  holder := h.holder
  task := h.task
  stage_ne := h.stage_ne
  calls := calls

/-- The task waits at another place. -/
theorem Held.sound_setTask (h : a.Held t stage) {d : Discovery} {place : Stage} (session : d.Sound)
    (busy : d.isBusy = true → a.service.role = .unknown)
    (call : ∀ m listed, d.callStage? m = some listed →
      m = t.number ∧ place = .ofRequest listed.request)
    (stage_ne : place ≠ .queued)
    (asking : place.isAsking = true → a.service.role = .unknown ∧ t.errand = .update) :
    ({ a with discovery := d }.setTask t.number (some place)).Sound := by
  have own : ({ a with discovery := d }.setTask t.number (some place)).task? t.number =
      some { t with stage := place } :=
    task?_setTask_self (a := { a with discovery := d }) h.task place
  have others : ∀ m, m ≠ t.number →
      ({ a with discovery := d }.setTask t.number (some place)).task? m = a.task? m :=
    fun m other => task?_setTask_of_ne _ other
  constructor
  · exact session
  · exact h.sound.lock
  · intro n u there
    by_cases same : n = t.number
    · rw [same]
      exact h.sound.number_lt _ _ h.task
    · exact h.sound.number_lt n u ((others n same).symm.trans there)
  · intro n party
    by_cases same : n = t.number
    · rw [same]
      exact ⟨_, own, stage_ne⟩
    · obtain ⟨u, there, ne⟩ := h.sound.present n party
      exact ⟨u, (others n same).trans there, ne⟩
  · intro n u there active
    by_cases same : n = t.number
    · rw [same]
      exact h.holder
    · exact h.sound.active n u ((others n same).symm.trans there) active
  · intro n listed there
    obtain ⟨rfl, eq⟩ := call n listed there
    exact ⟨_, own, eq⟩
  · intro n u there asks
    by_cases same : n = t.number
    · rw [same, own, Option.some.injEq] at there
      rw [← there] at asks ⊢
      exact asking asks
    · exact h.sound.asking n u ((others n same).symm.trans there) asks
  · exact busy

/-- The task is over. -/
theorem Held.sound_leave (h : a.Held t stage) (reply : Option Reply) :
    (a.leave t.number reply).attachment.Sound := by
  have gone : (a.leave t.number reply).attachment.task? t.number = none :=
    task?_setTask_none
  have others : ∀ m, m ≠ t.number → (a.leave t.number reply).attachment.task? m = a.task? m :=
    fun m other => task?_setTask_of_ne _ other
  have old : ∀ n u, (a.leave t.number reply).attachment.task? n = some u →
      n ≠ t.number ∧ a.task? n = some u := by
    intro n u there
    by_cases same : n = t.number
    · rw [same, gone] at there
      cases there
    · exact ⟨same, (others n same).symm.trans there⟩
  constructor
  · exact h.sound.session
  · exact h.sound.lock.release
  · intro n u there
    exact h.sound.number_lt n u (old n u there).2
  · intro n party
    have waits : n ∈ a.lock.waiting := by
      rwa [← Lock.parties_release]
    have other : n ≠ t.number := by
      rintro rfl
      exact h.sound.lock.not_mem_waiting h.holder waits
    have party : n ∈ a.lock.parties := by
      rw [Lock.parties_eq_cons h.holder]
      exact List.mem_cons_of_mem _ waits
    obtain ⟨u, there, ne⟩ := h.sound.present n party
    exact ⟨u, (others n other).trans there, ne⟩
  · intro n u there active
    obtain ⟨other, there⟩ := old n u there
    have holder := h.sound.active n u there active
    rw [h.holder, Option.some.injEq] at holder
    exact absurd holder.symm other
  · intro n place there
    have called : a.discovery.callStage? n = some place := there
    rw [h.calls n] at called
    cases called
  · intro n u there
    exact h.sound.asking n u (old n u there).2
  · exact h.sound.busy

/-! ### Moves -/

/-- A call of a task that runs does to the session what `Called` says. -/
theorem Held.called (h : a.Held t stage) (s : Surroundings) (r : Discovery.Request) :
    Discovery.Called a.discovery t.number r (a.discovery.begin s.admission t.number r) :=
  Discovery.begin_called h.sound.session s.admission r

private theorem Held.sound_begin (h : a.Held t stage) (s : Surroundings) (r : Discovery.Request) :
    (a.discovery.begin s.admission t.number r).session.Sound :=
  h.sound.session.begin (h.calls t.number) s.admission r

/-- A task that asks the session may make it busy only when it is to find out about the service. -/
theorem Held.unknown_of_busy (h : a.Held t stage) (s : Surroundings) {r : Discovery.Request}
    (asking : r = .disconnect ∨ a.service.role = .unknown)
    (busy : (a.discovery.begin s.admission t.number r).session.isBusy = true) :
    a.service.role = .unknown := by
  rcases (h.called s r).busy busy with before | connects
  · exact h.sound.busy before
  · rcases asking with rfl | unknown
    · cases connects
    · exact unknown

/-- The session takes its time. -/
theorem Held.sound_wait (h : a.Held t stage) (s : Surroundings) {r : Discovery.Request}
    (told : (a.discovery.begin s.admission t.number r).reply = none)
    (asking : r = .disconnect ∨ a.service.role = .unknown ∧ t.errand = .update) :
    ({ a with discovery := (a.discovery.begin s.admission t.number r).session }.setTask t.number
      (some (.ofRequest r))).Sound := by
  have called := h.called s r
  refine h.sound_setTask (h.sound_begin s r)
    (h.unknown_of_busy s (asking.imp_right And.left)) ?_ (by cases r <;> simp [Stage.ofRequest]) ?_
  · intro m place there
    by_cases own : m = t.number
    · subst own
      obtain ⟨place', there', request⟩ := called.pending told
      rw [there', Option.some.injEq] at there
      exact ⟨rfl, by rw [← there, request]⟩
    · rw [called.others m own, h.calls m] at there
      cases there
  · intro asks
    rcases asking with rfl | update
    · cases asks
    · exact update

/-- The session answers at once. -/
theorem Held.serve (h : a.Held t stage) (s : Surroundings) {r : Discovery.Request}
    {reply : Discovery.Reply}
    (told : (a.discovery.begin s.admission t.number r).reply = some reply)
    (asking : r = .disconnect ∨ a.service.role = .unknown) :
    Held { a with discovery := (a.discovery.begin s.admission t.number r).session } t stage := by
  have called := h.called s r
  refine h.discovery (h.sound_begin s r) ?_ (h.unknown_of_busy s asking)
  intro m
  by_cases own : m = t.number
  · subst own
    exact called.ended (by simp [told])
  · rw [called.others m own]
    exact h.calls m

/-- Every move keeps what holds at the points of a step. -/
theorem Fine.move {s : Surroundings} {p q : Point} {actions : List Action} (h : a.Fine p)
    (move : Move s a p actions b q) : b.Fine q := by
  cases move with
  | late => exact h.imp fun _ => And.left
  | reset =>
    obtain ⟨stage, held, quiet⟩ := h
    exact ⟨stage, held.service {} (.inl rfl), quiet⟩
  | probe update _ _ unknown =>
    obtain ⟨stage, held, -⟩ := h
    exact ⟨⟨stage, held⟩, unknown, update⟩
  | keep => exact h.imp fun _ => And.left
  | redial => exact h.imp fun _ => And.left
  | pass => exact h.imp fun _ => And.left
  | discard => exact h.imp fun _ => And.left
  | heed => exact h
  | shut =>
    obtain ⟨stage, held, quiet⟩ := h
    exact ⟨stage, (held.service {} (.inl rfl)).same rfl rfl rfl rfl rfl, quiet⟩
  | tell => exact h.imp fun _ => And.left
  | @wait t r told =>
    cases r with
    | disconnect =>
      obtain ⟨stage, held, -⟩ := h
      exact held.sound_wait s told (.inl rfl)
    | _ =>
      obtain ⟨⟨stage, held⟩, update⟩ := h
      exact held.sound_wait s told (.inr update)
  | @serve t r reply told =>
    cases r with
    | disconnect =>
      obtain ⟨stage, held, quiet⟩ := h
      exact ⟨stage, held.serve s told (.inl rfl), quiet,
        (held.called s .disconnect).parted rfl (by simp [told])⟩
    | _ =>
      obtain ⟨⟨stage, held⟩, unknown, update⟩ := h
      exact ⟨⟨stage, held.serve s told (.inr unknown)⟩, unknown, update⟩
  | busy => exact h.1
  | idle => exact h
  | connected => exact h
  | unconnected => exact h.1
  | started => exact h.1
  | parted => exact h
  | cleared => exact h.imp fun _ => And.left
  | nothing => exact h.imp fun _ => And.left
  | sink =>
    obtain ⟨stage, held, settled⟩ := h
    exact ⟨stage, held.service _ (.inr settled)⟩
  | other =>
    obtain ⟨stage, held, settled⟩ := h
    exact ⟨stage, held.service _ (.inr settled)⟩
  | dialing =>
    obtain ⟨stage, held⟩ := h
    refine Sound.same (held.sound_setTask held.sound.session held.sound.busy ?_ ?_ ?_)
      rfl rfl rfl rfl rfl
    · intro m place there
      rw [held.calls m] at there
      cases there
    · simp
    · intro asks
      cases asks
  | dialed =>
    obtain ⟨stage, held⟩ := h
    exact ⟨stage, held.same rfl rfl rfl rfl rfl⟩
  | hangingUp =>
    obtain ⟨stage, held⟩ := h
    refine Sound.same (held.sound_setTask held.sound.session held.sound.busy ?_ ?_ ?_)
      rfl rfl rfl rfl rfl
    · intro m place there
      rw [held.calls m] at there
      cases there
    · simp
    · intro asks
      cases asks
  | hungUp =>
    obtain ⟨stage, held⟩ := h
    exact ⟨stage, held.same rfl rfl rfl rfl rfl⟩
  | left =>
    obtain ⟨stage, held⟩ := h
    exact held.sound_leave _

private theorem Fine.held_of_call {r : Discovery.Request} (h : a.Fine (.call t r)) :
    ∃ stage, a.Held t stage := by
  cases r with
  | disconnect => exact h.imp fun _ => And.left
  | _ => exact h.1

/-- When a move leads to the point where nobody runs, the only task that makes use of the lock is
the one that was in hand, at its new place. -/
theorem Move.placed {s : Surroundings} {p : Point} {actions : List Action} (fine : a.Fine p)
    (move : Move s a p actions b .rest) {n : Nat} {u : Task} (there : b.task? n = some u)
    (active : u.stage.isActive = true) : p.Places n u.stage := by
  cases move with
  | @wait t r =>
    obtain ⟨stage, held⟩ := fine.held_of_call
    rcases task?_of_setTask_some there with ⟨other, old⟩ | ⟨rfl, u', -, rfl⟩
    · exact absurd (held.eq_of_active old active).1 other
    · exact .wait t r
  | @dialing t psm =>
    obtain ⟨stage, held⟩ := fine
    rcases task?_of_setTask_some there with ⟨other, old⟩ | ⟨rfl, u', -, rfl⟩
    · exact absurd (held.eq_of_active old active).1 other
    · exact .dial t psm
  | @hangingUp t =>
    obtain ⟨stage, held⟩ := fine
    rcases task?_of_setTask_some there with ⟨other, old⟩ | ⟨rfl, u', -, rfl⟩
    · exact absurd (held.eq_of_active old active).1 other
    · exact .hangUp t
  | left =>
    obtain ⟨stage, held⟩ := fine
    obtain ⟨other, old⟩ := task?_of_setTask_none there
    exact absurd (held.eq_of_active old active).1 other

/-- A chain of moves from a fine point ends with a sound attachment. -/
theorem Fine.moves {s : Surroundings} {p : Point} {actions : List Action} (h : a.Fine p)
    (moves : Moves s a p actions b) : b.Sound := by
  induction moves with
  | rest => exact h
  | move move _ ih => exact ih (h.move move)

end A2dpSink.Attachment
