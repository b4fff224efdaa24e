import A2dpSink.Proofs.Attachment.Guarded

/-!
# Clearing up after a device that is gone

An update that finds the device disconnected clears up: it forgets the service and closes both
links. As long as no job finds the device connected, there is an update that is still to come until
one clears up, and afterwards nothing comes back (`Clearing.run`).
-/

namespace A2dpSink

/-! ### Closing the transport link -/

namespace Transport

variable (t : Transport)

/-- The status is what was published last. -/
@[simp] theorem status_publish (status : ConnectionStatus) :
    (t.publish status).1.status = status := by
  unfold publish
  split
  · assumption
  · rfl

/-- Publishing a status leaves the link alone. -/
@[simp] theorem isOpen_publish (status : ConnectionStatus) :
    (t.publish status).1.isOpen = t.isOpen := by
  unfold publish
  split <;> rfl

/-- The status says so when the link has closed. -/
@[simp] theorem status_closed (outcome : CloseOutcome) :
    (t.closed outcome).transport.status = .disconnected :=
  t.status_publish _

/-- A link that has closed was let go of before. -/
@[simp] theorem isOpen_closed (outcome : CloseOutcome) :
    (t.closed outcome).transport.isOpen = t.isOpen :=
  t.isOpen_publish _

/-- There is no link from the moment it is to be closed. -/
@[simp] theorem isOpen_disconnect : t.disconnect.transport.isOpen = false := by
  unfold disconnect
  split
  · rfl
  · next shut =>
    rw [isOpen_publish, isOpen, shut]
    rfl

/-- The status says so when closing the link takes no time. -/
theorem status_disconnect (told : t.disconnect.reply ≠ none) :
    t.disconnect.transport.status = .disconnected := by
  unfold disconnect at told ⊢
  split at told
  · exact absurd rfl told
  · exact t.status_publish _

end Transport

namespace Attachment

variable {a b : Attachment} {s : Surroundings} {e : Event} {p q : Point} {actions : List Action}
  {K : Prop}

/-! ### What clearing up comes to -/

/-- Nothing is known about the service, and no link is there. -/
structure Cleared (a : Attachment) : Prop where
  status : a.status = .disconnected
  service : a.service = {}
  discovery : a.discovery.isBusy = false
  transport : a.transport.isOpen = false

/-- An update has forgotten the service. It closes the discovery link, or after that the transport
link. -/
def Halfway (a : Attachment) : Prop :=
  ∃ n t, a.task? n = some t ∧ t.errand = .update ∧ a.service = {} ∧
    (t.stage = .parting ∨
      t.stage = .hangingUp ∧ a.discovery.isBusy = false ∧ a.transport.isOpen = false)

/-- An update is still to get the lock, and it is not the given task. One whose job has not started
counts if `K` holds. -/
def Coming (K : Prop) (a : Attachment) (but : Option Nat) : Prop :=
  ∃ n t, some n ≠ but ∧ a.task? n = some t ∧ t.errand = .update ∧
    (t.stage = .waiting ∨ t.stage = .queued ∧ K)

/-- The task in hand clears up, or there is nothing left to clear up. -/
def Clears (a : Attachment) : Point → Prop
  | .rest => a.Halfway ∨ a.Cleared ∧ ∀ n t, a.task? n = some t → t.stage.isActive = false
  | .perform t => t.errand = .update ∨ a.Cleared
  | .call t .disconnect => t.errand = .update ∧ a.service = {}
  | .answered t .disconnect _ => t.errand = .update ∧ a.service = {}
  | .hangUp t => t.errand = .update ∧ a.service = {} ∧ a.discovery.isBusy = false
  | .leave _ _ => a.Cleared
  | _ => False

/-- The attachment is closed or abandoned, or an update clears up or is still to come, or there is
nothing left to clear up. -/
def Clearing (K : Prop) (a : Attachment) (p : Point) : Prop :=
  a.closed = true ∨ a.owned = false ∨ a.Coming K p.number? ∨ a.Clears p

/-- Nothing is left as long as nothing new comes. -/
theorem Cleared.imp (h : a.Cleared) (service : b.service = a.service)
    (busy : b.discovery.isBusy = true → a.discovery.isBusy = true)
    (transport : b.transport = a.transport) : b.Cleared where
  status := by
    rw [Attachment.status, transport]
    exact h.status
  service := service.trans h.service
  discovery := by
    have idle := h.discovery
    rw [← Bool.not_eq_true] at idle ⊢
    exact mt busy idle
  transport := transport ▸ h.transport

private theorem Halfway.imp (h : a.Halfway) (service : b.service = a.service)
    (busy : b.discovery.isBusy = true → a.discovery.isBusy = true)
    (transport : b.transport = a.transport)
    (kept : ∀ n t, a.task? n = some t → t.stage.isActive = true → b.task? n = some t) :
    b.Halfway := by
  obtain ⟨n, t, there, update, unknown, parting | ⟨hangingUp, idle, shut⟩⟩ := h
  · have active : t.stage.isActive = true := by
      rw [parting]
      rfl
    exact ⟨n, t, kept n t there active, update, service.trans unknown, .inl parting⟩
  · have active : t.stage.isActive = true := by
      rw [hangingUp]
      rfl
    rw [← Bool.not_eq_true] at idle
    refine ⟨n, t, kept n t there active, update, service.trans unknown, .inr ⟨hangingUp, ?_, ?_⟩⟩
    · rw [← Bool.not_eq_true]
      exact mt busy idle
    · exact transport ▸ shut

/-! ### Moves -/

/-- A move is about the task in hand, and leaves the others alone. -/
theorem Move.task?_of_ne (move : Move s a p actions b q) {n : Nat} (other : some n ≠ p.number?) :
    b.task? n = a.task? n := by
  have ne : ∀ {m}, p.number? = some m → n ≠ m := by
    rintro m eq rfl
    exact other eq.symm
  cases move with
  | wait => exact task?_setTask_of_ne _ (ne rfl)
  | dialing => exact task?_setTask_of_ne _ (ne rfl)
  | hangingUp => exact task?_setTask_of_ne _ (ne rfl)
  | left => exact task?_setTask_of_ne _ (ne rfl)
  | _ => rfl

private theorem Move.number? (move : Move s a p actions b q) :
    q.number? = p.number? ∨ q.number? = none := by
  cases move <;> first | exact .inl rfl | exact .inr rfl

private theorem Coming.move (h : a.Coming K p.number?) (move : Move s a p actions b q) :
    b.Coming K q.number? := by
  obtain ⟨n, t, other, there, update, stage⟩ := h
  refine ⟨n, t, ?_, (move.task?_of_ne other).trans there, update, stage⟩
  rcases move.number? with same | none
  · rw [same]
    exact other
  · rw [none]
    exact Option.some_ne_none n

/-- The task in hand, if it is a job, does not find the device connected. -/
def Misses (s : Surroundings) (a : Attachment) (p : Point) : Prop :=
  ∀ t, p = .perform t → t.IsJob → a.closed = false → s.flags.connected = false

/-- A job looks at the device when it gets the lock, and not again. -/
theorem Move.misses (move : Move s a p actions b q) : Misses s b q := by
  rintro t rfl
  cases move

/-- Unless a job finds the device connected, clearing up goes on. -/
theorem Clears.move (fine : a.Fine p) (h : a.Clears p) (misses : Misses s a p)
    (move : Move s a p actions b q) : b.closed = true ∨ b.Clears q := by
  have away : ∀ {t : Task}, p = .perform t → t.IsJob → a.closed = false →
      s.flags.connected ≠ true := by
    intro t performs job unclosed
    rw [misses t performs job unclosed]
    exact Bool.false_ne_true
  -- Whoever is not there for an update only acts when nothing is left.
  have plain : ∀ {t : Task}, p = .perform t → t.errand ≠ .update → a.Cleared := by
    rintro t rfl other
    exact h.resolve_left other
  cases move with
  | late _ closed => exact .inl closed
  | reset _ update => exact .inr ⟨update, rfl⟩
  | probe update unclosed connected => exact absurd connected (away rfl (.inl update) unclosed)
  | keep update unclosed connected => exact absurd connected (away rfl (.inl update) unclosed)
  | redial update unclosed connected => exact absurd connected (away rfl (.inl update) unclosed)
  | pass _ update unclosed connected => exact absurd connected (away rfl (.inl update) unclosed)
  | discard line report => exact .inr (plain rfl (by simp [report]))
  | heed report unclosed connected =>
    exact absurd connected (away rfl (.inr ⟨_, report⟩) unclosed)
  | shut => exact .inl rfl
  | tell inquire => exact .inr (plain rfl (by simp [inquire]))
  | @wait t r told =>
    cases r with
    | disconnect =>
      obtain ⟨stage, held, -⟩ := fine
      obtain ⟨update, unknown⟩ := h
      have own := task?_setTask_self
        (a := { a with discovery := (a.discovery.begin s.admission t.number .disconnect).session })
        held.task .parting
      exact .inr (.inl ⟨_, _, own, update, unknown, .inl rfl⟩)
    | _ => exact h.elim
  | @serve t r reply told =>
    cases r with
    | disconnect => exact .inr h
    | _ => exact h.elim
  | @parted t services reply report =>
    obtain ⟨update, -⟩ := h
    rw [report] at update
    cases update
  | cleared =>
    obtain ⟨stage, -, -, idle⟩ := fine
    exact .inr ⟨h.1, h.2, idle⟩
  | @hangingUp t told =>
    obtain ⟨stage, held⟩ := fine
    obtain ⟨update, unknown, idle⟩ := h
    have own := task?_setTask_self
      (a := { a with transport := a.transport.disconnect.transport }) held.task .hangingUp
    exact .inr (.inl ⟨_, _, own, update, unknown, .inr ⟨rfl, idle, a.transport.isOpen_disconnect⟩⟩)
  | hungUp told =>
    obtain ⟨-, unknown, idle⟩ := h
    right
    exact {
      status := a.transport.status_disconnect (by simp [told])
      service := unknown
      discovery := idle
      transport := a.transport.isOpen_disconnect }
  | left =>
    obtain ⟨stage, held⟩ := fine
    refine .inr (.inr ⟨Cleared.imp h rfl id rfl, ?_⟩)
    -- Only the task in hand made use of the lock.
    intro n u there
    obtain ⟨other, old⟩ := task?_of_setTask_none there
    rw [← Bool.not_eq_true]
    exact fun active => other (held.eq_of_active old active).1
  | _ => exact h.elim

private theorem Clearing.moves (fine : a.Fine p) (h : a.Clearing K p) (misses : Misses s a p)
    (moves : Moves s a p actions b) : b.Clearing K .rest := by
  induction moves with
  | rest => exact h
  | move move _ ih =>
    refine ih (fine.move move) ?_ move.misses
    rcases h with closed | disowned | coming | clears
    · exact .inl (move.closed closed)
    · exact .inr (.inl (move.owned.trans disowned))
    · exact .inr (.inr (.inl (coming.move move)))
    · rcases clears.move fine misses move with closed | clears
      · exact .inl closed
      · exact .inr (.inr (.inr clears))

/-! ### Entries -/

private theorem Entry.misses (entry : Entry s a e actions b p) (unseen : ∀ n, ¬ a.Finds s e n) :
    Misses s b p := by
  rintro t rfl job unclosed
  rw [entry.closed] at unclosed
  rw [← Bool.not_eq_true]
  exact fun connected => unseen t.number ⟨t, entry.performs job, rfl, job, unclosed, connected⟩

private theorem coming_start {n : Nat} {u : Task} (there : a.task? n = some u)
    (update : u.errand = .update) (queued : u.stage = .queued) (key : K)
    (bonded : s.flags.bonded = true) (entry : Entry s a (.start n) actions b p) :
    b.Coming K p.number? ∨ b.Clears p := by
  cases entry with
  | ignored =>
    exact .inl ⟨n, u, Option.some_ne_none n, there, update, .inr ⟨queued, key⟩⟩
  | unbonded _ _ _ _ unbonded =>
    rw [bonded] at unbonded
    cases unbonded
  | dropped listed _ report =>
    rw [there, Option.some.injEq] at listed
    rw [← listed, update] at report
    cases report
  | queue =>
    exact .inl ⟨n, _, Option.some_ne_none n, task?_claimed_self there, update, .inl rfl⟩
  | enter listed =>
    rw [there, Option.some.injEq] at listed
    exact .inr (.inl (listed ▸ update))
  | summoned summons => cases summons
  | received summons => cases summons

/-- An update that is still to come gets the lock, unless it has to wait. -/
theorem Coming.entry (h : a.Coming K none) (sound : a.Sound) (entry : Entry s a e actions b p)
    (bonded : K → s.flags.bonded = true) :
    b.owned = false ∨ b.Coming K p.number? ∨ b.Clears p := by
  obtain ⟨n, u, -, there, update, stage⟩ := h
  by_cases starts : u.stage = .queued ∧ e = .start n
  · obtain ⟨queued, rfl⟩ := starts
    rcases stage with waiting | ⟨-, key⟩
    · rw [queued] at waiting
      cases waiting
    · exact .inr (coming_start there update queued key (bonded key) entry)
  · have there' := entry.kept sound there fun queued start => starts ⟨queued, start⟩
    have kept : some n ≠ p.number? → b.owned = false ∨ b.Coming K p.number? ∨ b.Clears p :=
      fun other => .inr (.inl ⟨n, u, other, there', update, stage⟩)
    have idle : u.stage.isActive = false := by
      rcases stage with stage | ⟨stage, -⟩ <;> rw [stage] <;> rfl
    -- Another task is in hand when one goes on that makes use of the lock.
    have other : ∀ {m t}, a.task? m = some t → t.stage.isActive = true →
        some n ≠ some t.number := by
      rintro m t listed active same
      rw [Option.some.injEq, number_of_task? listed] at same
      subst same
      rw [there, Option.some.injEq] at listed
      rw [← listed, idle] at active
      cases active
    -- If it is the one that gets the lock, it clears up.
    have enters : ∀ {m t}, a.task? m = some t → p = .perform t →
        b.owned = false ∨ b.Coming K p.number? ∨ b.Clears p := by
      rintro m t listed rfl
      by_cases same : n = m
      · subst same
        rw [there, Option.some.injEq] at listed
        exact .inr (.inr (.inl (listed ▸ update)))
      · refine kept ?_
        rw [Point.number?, number_of_task? listed]
        simpa using same
    cases entry with
    | enter listed => exact enters listed rfl
    | grant listed => exact enters listed rfl
    | hungUp outcome listed hangingUp => exact kept (other listed (by rw [hangingUp]; rfl))
    | dialed psm outcome listed opening => exact kept (other listed (by rw [opening]; rfl))
    | @answered m t place reply signal listed called asks told =>
      exact kept (other listed (by rw [asks]; cases place.request <;> rfl))
    | received summons =>
      cases summons with
      | inquire =>
        refine kept fun same => ?_
        exact Nat.ne_of_lt (sound.number_lt n u there) (Option.some.inj same)
      | close => exact .inl rfl
    | _ => exact kept (Option.some_ne_none n)

/-- A round that goes on does not make the session busy. -/
theorem busy_absorb (sound : a.Sound) {n : Nat} {o : Discovery.Outcome}
    (advanced : Discovery.Advanced a.discovery n o)
    (busy : (a.absorb o).attachment.discovery.isBusy = true) : a.discovery.isBusy = true := by
  rw [attachment_absorb, discovery_addReports] at busy
  exact (advanced.passed sound.session).busy busy

/-- What the session does leaves the service alone. -/
theorem service_absorb (o : Discovery.Outcome) :
    (a.absorb o).attachment.service = a.service := by
  rw [attachment_absorb, service_addReports]

/-- What the session does leaves the transport link alone. -/
theorem transport_absorb (o : Discovery.Outcome) :
    (a.absorb o).attachment.transport = a.transport := by
  rw [attachment_absorb, transport_addReports]

private theorem Halfway.entry (h : a.Halfway) (sound : a.Sound) (entry : Entry s a e actions b p) :
    b.owned = false ∨ b.Clears p := by
  have kept : ∀ m u, a.task? m = some u → u.stage.isActive = true → b.task? m = some u := by
    intro m u there active
    refine entry.kept sound there fun queued _ => ?_
    rw [queued] at active
    cases active
  have same : b.service = a.service →
      (b.discovery.isBusy = true → a.discovery.isBusy = true) → b.transport = a.transport →
      b.Halfway :=
    fun service busy transport => h.imp service busy transport kept
  obtain ⟨n, t, there, update, unknown, stage⟩ := h
  have active : t.stage.isActive = true := by
    rcases stage with stage | ⟨stage, -⟩ <;> rw [stage] <;> rfl
  have holder := sound.active n t there active
  have taken : a.lock.isFree = false := Lock.isFree_eq_false_iff.mpr ⟨n, holder⟩
  -- The task in hand is the one that clears up: nobody else has the lock.
  have alone : ∀ {m u}, a.task? m = some u → u.stage.isActive = true → m = n ∧ u = t :=
    fun listed active' => sound.eq_of_active there active listed active'
  cases entry with
  | enter _ _ _ free =>
    rw [taken] at free
    cases free
  | grant listed waiting holder' =>
    obtain ⟨rfl, rfl⟩ := sound.eq_of_holder there active listed holder'
    rw [waiting] at active
    cases active
  | hungUp outcome listed hangingUp =>
    obtain ⟨rfl, rfl⟩ := alone listed (by rw [hangingUp]; rfl)
    rcases stage with parting | ⟨-, idle, shut⟩
    · rw [parting] at hangingUp
      cases hangingUp
    · right
      exact {
        status := a.transport.status_closed outcome
        service := unknown
        discovery := idle
        transport := (a.transport.isOpen_closed outcome).trans shut }
  | dialed psm outcome listed opening =>
    obtain ⟨rfl, rfl⟩ := alone listed (by rw [opening]; rfl)
    rcases stage with stage | ⟨stage, -⟩ <;> rw [opening] at stage <;> cases stage
  | @went m u place signal listed called asks told =>
    obtain ⟨rfl, rfl⟩ := alone listed (by rw [asks]; cases place.request <;> rfl)
    rcases stage with parting | ⟨hangingUp, -⟩
    · exact .inr (.inl ⟨m, u, there, update, unknown, .inl parting⟩)
    · rw [hangingUp] at asks
      cases request : place.request <;> simp [request, Stage.ofRequest] at asks
  | @answered m u place reply signal listed called asks told =>
    obtain ⟨rfl, rfl⟩ := alone listed (by rw [asks]; cases place.request <;> rfl)
    rcases stage with stage | ⟨stage, -⟩
    all_goals
      rw [stage] at asks
      cases request : place.request <;> simp [request, Stage.ofRequest] at asks
    exact .inr ⟨update, unknown⟩
  | startRound =>
    exact .inr (.inl (same (service_absorb _)
      (busy_absorb sound (Discovery.startRound_advanced _ _)) (transport_absorb _)))
  | resumeRound =>
    exact .inr (.inl (same (service_absorb _)
      (busy_absorb sound (Discovery.resumeRound_advanced _ _ _ _)) (transport_absorb _)))
  | summoned summons => cases summons <;> exact .inr (.inl (same rfl id rfl))
  | received summons free => cases summons <;> exact absurd (taken.symm.trans free) (by simp)
  | _ => exact .inr (.inl (same rfl id rfl))

private theorem Cleared.entry (h : a.Cleared)
    (quiet : ∀ n t, a.task? n = some t → t.stage.isActive = false) (sound : a.Sound)
    (entry : Entry s a e actions b p) : b.Clears p := by
  have idle : ∀ {n t}, a.task? n = some t → t.stage.isActive ≠ true := by
    intro n t there
    rw [quiet n t there]
    exact Bool.false_ne_true
  have quiet' : ∀ n t, b.task? n = some t → t.stage.isActive = false := by
    intro n t there
    rw [← Bool.not_eq_true]
    exact fun active => idle (entry.task_of_active there active) active
  cases entry with
  | enter => exact .inr (h.imp rfl id rfl)
  | grant => exact .inr h
  | hungUp outcome there hangingUp => exact absurd (by rw [hangingUp]; rfl) (idle there)
  | dialed psm outcome there opening => exact absurd (by rw [opening]; rfl) (idle there)
  | @went n t place signal there called asks =>
    exact absurd (by rw [asks]; cases place.request <;> rfl) (idle there)
  | @answered n t place reply signal there called asks =>
    exact absurd (by rw [asks]; cases place.request <;> rfl) (idle there)
  | startRound =>
    exact .inr ⟨h.imp (service_absorb _)
      (busy_absorb sound (Discovery.startRound_advanced _ _)) (transport_absorb _), quiet'⟩
  | resumeRound =>
    exact .inr ⟨h.imp (service_absorb _)
      (busy_absorb sound (Discovery.resumeRound_advanced _ _ _ _)) (transport_absorb _), quiet'⟩
  | summoned summons => cases summons <;> exact .inr ⟨h.imp rfl id rfl, quiet'⟩
  | received summons => cases summons <;> exact .inr (h.imp rfl id rfl)
  | _ => exact .inr ⟨h.imp rfl id rfl, quiet'⟩

private theorem Clearing.entry (h : a.Clearing K .rest) (sound : a.Sound)
    (entry : Entry s a e actions b p) (bonded : K → s.flags.bonded = true) :
    b.Clearing K p := by
  rcases h with closed | disowned | coming | halfway | ⟨cleared, quiet⟩
  · exact .inl (entry.closed.trans closed)
  · exact .inr (.inl (entry.owned.elim (fun same => same.trans disowned) id))
  · exact .inr (coming.entry sound entry bonded)
  · exact .inr ((halfway.entry sound entry).imp_right .inr)
  · exact .inr (.inr (.inr (cleared.entry quiet sound entry)))

/-! ### Runs -/

/-- Clearing up goes on in a step in which no job finds the device connected. -/
theorem Clearing.step (h : a.Clearing K .rest) (sound : a.Sound) (s : Surroundings) (e : Event)
    (unseen : ∀ n, ¬ a.Finds s e n) (bonded : K → s.flags.bonded = true) :
    (a.step s e).attachment.Clearing K .rest := by
  obtain ⟨_, b, p, _, entry, moves, -⟩ := exists_moves sound s e
  exact (h.entry sound entry bonded).moves (sound.entry entry) (entry.misses unseen) moves

/-- While no job finds the device connected, and the device stays bonded if updates in the queue are
to count, somebody clears up or there is nothing left to clear up. -/
theorem Clearing.run (h : a.Clearing K .rest) (sound : a.Sound) (script : Script)
    (unseen : ∀ n, ¬ a.HasFound script n)
    (bonded : K → ∀ turn ∈ script, turn.1.flags.bonded = true) :
    (a.run script).Clearing K .rest := by
  induction script generalizing a with
  | nil => exact h
  | cons turn script ih =>
    obtain ⟨s, e⟩ := turn
    have first := List.mem_cons_self (a := (s, e)) (l := script)
    have now : ∀ n, ¬ a.Finds s e n := fun n finds => unseen n (sometime_cons.mpr (.inl finds))
    refine ih (h.step sound s e now fun key => bonded key (s, e) first) (sound.step s e) ?_ ?_
    · exact fun n found => unseen n (sometime_cons.mpr (.inr found))
    · exact fun key later there => bonded key later (List.mem_cons_of_mem (s, e) there)

/-! ### How clearing up begins -/

/-- An update that finds the device gone clears up. -/
theorem Resets.clearing (h : Resets a s e) (sound : a.Sound) (K : Prop) :
    (a.step s e).attachment.Clearing K .rest := by
  obtain ⟨t, performs, update, -, gone⟩ := h
  obtain ⟨b, entry, eq, -⟩ := performs.step_eq
  have clears : b.Clearing K (.perform t) := .inr (.inr (.inr (.inl update)))
  rw [eq]
  exact clears.moves (sound.entry entry) (fun _ _ _ _ => gone) (moves_go b s (.perform t))

/-- An update is noted when the attachment is told that the device may have changed. -/
theorem clearing_notify (sound : a.Sound) (room : s.admission = .ok ()) :
    (a.step s .notify).attachment.Clearing True .rest := by
  by_cases alive : a.isAlive = true
  · have noted : (a.step s .notify).attachment = a.addTask .update .queued := by
      simp [step, notify, alive, room]
    have fresh := task?_addTask_self .update .queued sound.fresh
    rw [noted]
    exact .inr (.inr (.inl
      ⟨a.nextTask, _, Option.some_ne_none _, fresh, rfl, .inr ⟨rfl, trivial⟩⟩))
  · have ignored : (a.step s .notify).attachment = a := by
      simp [step, notify, alive]
    have both : a.owned = false ∧ ∀ t ∈ a.tasks, t.holds = false := by
      simpa [isAlive] using alive
    rw [ignored]
    exact .inr (.inl both.1)

/-- There is nothing to clear up at first. -/
theorem clearing_create {settings : Settings} {remote : Address}
    (created : create settings remote (.ok ()) s = .ok (.ok a, actions)) :
    a.Clearing False .rest := by
  obtain ⟨limit, rfl, -⟩ := create_eq_ok created
  have blank : Clearing False
      { remote, discovery := { remote, queryLimit := limit }
        transport := (Transport.create remote).1 } .rest := by
    refine .inr (.inr (.inr (.inr ⟨⟨rfl, rfl, rfl, rfl⟩, ?_⟩)))
    intro n t there
    cases there
  refine blank.step (Sound.blank remote limit _) s .notify ?_ nofun
  rintro n ⟨t, performs, -⟩
  cases performs

/-- What clearing up comes to when no job is left. -/
theorem Clearing.cleared (h : a.Clearing K .rest) (owned : a.owned = true)
    (unclosed : a.closed = false) (quiet : ∀ t ∈ a.tasks, ¬ t.IsJob) : a.Cleared := by
  have jobless : ∀ {n t}, a.task? n = some t → t.errand ≠ .update :=
    fun there update => quiet _ (List.mem_of_find?_eq_some there) (.inl update)
  rcases h with closed | disowned | coming | halfway | ⟨cleared, -⟩
  · rw [unclosed] at closed
    cases closed
  · rw [owned] at disowned
    cases disowned
  · obtain ⟨n, t, -, there, update, -⟩ := coming
    exact absurd update (jobless there)
  · obtain ⟨n, t, there, update, -⟩ := halfway
    exact absurd update (jobless there)
  · exact cleared

end Attachment

end A2dpSink
