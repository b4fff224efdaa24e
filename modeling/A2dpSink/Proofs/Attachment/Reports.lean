import A2dpSink.Proofs.Attachment.Runs

/-!
# What becomes of the services a round has found

A round hands its services to a report. The job of the report finds the device connected or not; if
it does, the discovery link is closed and then the services are taken in.
-/

namespace A2dpSink.Attachment

variable {a b : Attachment} {s : Surroundings} {e : Event} {p q : Point} {actions : List Action}

/-! ### Turns of a report -/

/-- A round hands over services, and a new report takes care of them. -/
inductive Reports (a : Attachment) (s : Surroundings) : Event → Nat → Nat → Prop
  | mk {n : Nat} {signal : Signal} :
      a.nextTask < (a.step s (.resumeRound n signal)).attachment.nextTask →
      Reports a s (.resumeRound n signal) n a.nextTask

/-- The job of a report finds the device connected. -/
structure Heeds (a : Attachment) (s : Surroundings) (e : Event) (t : Task) : Prop where
  performs : Performs a s e t
  report : ∃ services, t.errand = .report services
  unclosed : a.closed = false
  connected : s.flags.connected = true

/-- The services of a report are taken in: the discovery link is closed for it, at once or after a
while. -/
inductive Takes (a : Attachment) (s : Surroundings) : Event → Task → List AudioService → Prop
  | atOnce {e : Event} {t : Task} {services : List AudioService} : Heeds a s e t →
      t.errand = .report services →
      (a.discovery.begin s.admission t.number .disconnect).reply ≠ none → Takes a s e t services
  | later {n : Nat} {t : Task} {services : List AudioService} (signal : Signal) :
      a.task? n = some t → t.stage = .parting → t.errand = .report services →
      (a.discovery.resume s.admission n signal).reply ≠ none →
      Takes a s (.resume n signal) t services

/-- A task that gets the lock is there. -/
theorem Performs.task {t : Task} (h : Performs a s e t) : a.task? t.number = some t := by
  cases h with
  | start there => rwa [number_of_task? there]
  | grant there => rwa [number_of_task? there]

/-- What is taken in is what a report that is there has. -/
theorem Takes.task {t : Task} {services : List AudioService} (h : Takes a s e t services) :
    a.task? t.number = some t ∧ t.errand = .report services := by
  cases h with
  | atOnce heeds found => exact ⟨heeds.performs.task, found⟩
  | later signal there _ found => exact ⟨by rwa [number_of_task? there], found⟩

/-! ### Tasks that get the lock -/

/-- A task that gets the lock does what it is there for. -/
theorem Performs.step_eq {t : Task} (h : Performs a s e t) :
    ∃ b : Attachment, Entry s a e [] b (.perform t) ∧ a.step s e = b.go s (.perform t) ∧
      b.discovery = a.discovery ∧ b.closed = a.closed ∧ b.service = a.service ∧
      b.task? t.number = some { t with stage := .waiting } := by
  cases h with
  | @start n t there queued admitted free =>
    have claims : a.step s (.start n) = a.claim s t := by
      obtain ⟨m, errand, stage⟩ := t
      cases queued
      rcases admitted with ⟨update, bonded⟩ | ⟨services, report, alive⟩
      · cases update
        simp [step, Attachment.start, there, bonded]
      · cases report
        simp [step, Attachment.start, there, alive]
    obtain rfl := number_of_task? there
    refine ⟨_, .enter there queued admitted free, ?_, rfl, rfl, rfl, ?_⟩
    · rw [claims, claim_eq, if_pos free]
    · exact task?_claimed_self there
  | @grant n t there waiting holder =>
    refine ⟨_, .grant there waiting holder, ?_, rfl, rfl, rfl, ?_⟩
    · obtain ⟨m, errand, stage⟩ := t
      cases waiting
      simp [step, resume, there, holder, go]
    · obtain rfl := number_of_task? there
      rw [there, ← waiting]

private theorem Entry.transport_of_perform {t : Task} (entry : Entry s a e actions b (.perform t)) :
    b.transport = a.transport := by
  cases entry with
  | received summons => cases summons <;> rfl
  | _ => rfl

/-- The services of a report that finds the device connected are taken in at once, or the task waits
for the discovery link to close. -/
theorem Heeds.step {t : Task} (h : Heeds a s e t) : ∃ services, t.errand = .report services ∧
    (Takes a s e t services ∨
      (a.step s e).attachment.task? t.number = some { t with stage := .parting } ∧
        (a.step s e).attachment.service = a.service ∧
        (a.step s e).attachment.transport = a.transport) := by
  obtain ⟨services, found⟩ := h.report
  refine ⟨services, found, ?_⟩
  obtain ⟨b, entry, eq, discovery, closed, service, there⟩ := h.performs.step_eq
  cases told : (a.discovery.begin s.admission t.number .disconnect).reply with
  | some reply => exact .inl (.atOnce h found (by rw [told]; simp))
  | none =>
    right
    have quiet := Discovery.begin_quiet b.discovery s.admission t.number .disconnect
    rw [← discovery] at told
    have parts : a.step s e = b.part s t := by
      rw [eq, go, perform]
      simp [found, closed, h.unclosed, h.connected]
    rw [parts]
    simp only [part, call, told, attachment_after, attachment_absorb_of_quiet quiet]
    refine ⟨?_, service, entry.transport_of_perform⟩
    exact task?_setTask_self
      (a := { b with
        discovery := (b.discovery.begin s.admission t.number .disconnect).session })
      there .parting

private theorem task?_leave (a : Attachment) (n : Nat) (reply : Option Reply) :
    (a.leave n reply).attachment.task? n = none :=
  task?_setTask_none

/-- A task that has taken in services is over, or it opens the transport link. -/
theorem stage_of_settle {n : Nat} {services : List AudioService} {u : Task}
    (h : (a.settle n services).attachment.task? n = some u) : ∃ psm, u.stage = .opening psm := by
  have left : ∀ c : Attachment, (c.leave n).attachment.task? n ≠ some u := by
    intro c
    rw [task?_leave]
    simp
  cases picked : pick services with
  | none =>
    simp only [settle, picked, attachment_after] at h
    exact absurd h (left _)
  | some service =>
    by_cases sink : service.role = .sink
    · simp only [settle, picked, sink, if_true, openTransport, attachment_after] at h
      split at h
      · exact absurd h (left _)
      · simp only [task?_setTask_some, Option.map_eq_some_iff] at h
        obtain ⟨u', -, rfl⟩ := h
        exact ⟨_, rfl⟩
    · simp only [settle, picked, sink, if_false, attachment_after] at h
      exact absurd h (left _)

/-- When the services of a report are taken in, the discovery link is closed, and the rest is as it
was. -/
theorem Takes.step_eq {t : Task} {services : List AudioService} (h : Takes a s e t services)
    (sound : a.Sound) :
    ∃ (b : Attachment) (first : List Action), b.Fine (.settle t services) ∧
      b.transport = a.transport ∧ b.service = a.service ∧
      a.step s e = (b.settle t.number services).after first := by
  cases h with
  | atOnce heeds found told =>
    obtain ⟨b, entry, eq, discovery, closed, service, -⟩ := heeds.performs.step_eq
    rw [← discovery] at told
    obtain ⟨reply, told⟩ := Option.ne_none_iff_exists'.mp told
    have quiet := Discovery.begin_quiet b.discovery s.admission t.number .disconnect
    have fine : b.Fine (.perform t) := sound.entry entry
    have asking := fine.move (.heed found (closed.trans heeds.unclosed) heeds.connected)
    have parts : a.step s e = b.part s t := by
      rw [eq, go, perform]
      simp [found, closed, heeds.unclosed, heeds.connected]
    refine ⟨{ b with discovery := (b.discovery.begin s.admission t.number .disconnect).session },
      (b.absorb (b.discovery.begin s.admission t.number .disconnect)).actions,
      (asking.move (.serve told)).move (s := s) (.parted found), entry.transport_of_perform,
      service, ?_⟩
    rw [parts]
    simp only [part, call, told, parted, found, attachment_absorb_of_quiet quiet]
  | @later n t services signal there parting found told =>
    obtain ⟨reply, told⟩ := Option.ne_none_iff_exists'.mp told
    have quiet := (Discovery.resume_resumed a.discovery s.admission n signal).quiet
    have resumes : a.step s (.resume n signal) =
        (({ a with discovery := (a.discovery.resume s.admission n signal).session } :
          Attachment).answered s t reply).after
            (a.absorb (a.discovery.resume s.admission n signal)).actions := by
      obtain ⟨m, errand, stage⟩ := t
      cases parting
      simp [step, resume, there, told, attachment_absorb_of_quiet quiet]
    obtain ⟨place, listed⟩ : ∃ place, a.discovery.callStage? n = some place := by
      cases listed : a.discovery.callStage? n with
      | some place => exact ⟨place, rfl⟩
      | none => simp [Discovery.resume_of_none listed] at told
    have request : place.request = .disconnect := by
      obtain ⟨t', there', stage⟩ := sound.call n place listed
      rw [there, Option.some.injEq] at there'
      rw [← there', parting] at stage
      cases asked : place.request <;> simp [asked, Stage.ofRequest] at stage
      rfl
    have answers := sound.entry
      (.answered signal there listed (by rw [parting, request]; rfl) told)
    rw [request] at answers
    refine ⟨{ a with discovery := (a.discovery.resume s.admission n signal).session },
      (a.absorb (a.discovery.resume s.admission n signal)).actions,
      answers.move (s := s) (.parted found), rfl, rfl, ?_⟩
    rw [resumes]
    simp only [answered, parting, parted, found]

/-! ### Tasks that wait for the discovery link to close -/

/-- A report that waits for the discovery link to close stays and everything with it, or its
services are taken in. -/
theorem step_of_parting (sound : a.Sound) {n : Nat} {t : Task} {services : List AudioService}
    (there : a.task? n = some t) (found : t.errand = .report services)
    (parting : t.stage = .parting) (s : Surroundings) (e : Event) :
    (a.step s e).attachment.task? n = some t ∧ (a.step s e).attachment.service = a.service ∧
      (a.step s e).attachment.transport = a.transport ∨ Takes a s e t services := by
  have holder := sound.active n t there (by rw [parting]; rfl)
  have taken : a.lock.isFree = false := Lock.isFree_eq_false_iff.mpr ⟨n, holder⟩
  have less := sound.number_lt n t there
  -- Another task that is on its way would hold the lock too.
  have own : ∀ {m u}, a.task? m = some u → u.stage.isActive = true → m = n ∧ u = t :=
    fun listed active => sound.eq_of_active there (by rw [parting]; rfl) listed active
  have queued : ∀ {m u}, a.task? m = some u → u.stage = .queued → n ≠ m := by
    rintro m u listed queued rfl
    rw [there, Option.some.injEq] at listed
    rw [← listed, parting] at queued
    cases queued
  obtain ⟨_, b, p, _, entry, moves, -⟩ := exists_moves sound s e
  have stays : p = .rest → b.task? n = some t → b.service = a.service →
      b.transport = a.transport →
      (a.step s e).attachment.task? n = some t ∧ (a.step s e).attachment.service = a.service ∧
        (a.step s e).attachment.transport = a.transport ∨ Takes a s e t services := by
    rintro rfl kept service transport
    rw [moves.eq_of_rest]
    exact .inl ⟨kept, service, transport⟩
  cases entry with
  | ignored => exact stays rfl there rfl rfl
  | noted => exact stays rfl ((task?_addTask_of_ne _ _ (Nat.ne_of_lt less)).trans there) rfl rfl
  | unbonded _ listed queued' =>
    exact stays rfl ((task?_setTask_of_ne _ (queued listed queued')).trans there) rfl rfl
  | dropped listed queued' =>
    exact stays rfl ((task?_setTask_of_ne _ (queued listed queued')).trans there) rfl rfl
  | queue listed queued' =>
    exact stays rfl ((task?_setTask_of_ne _ (queued listed queued')).trans there) rfl rfl
  | enter _ _ _ free =>
    rw [taken] at free
    cases free
  | grant listed waiting holder' =>
    rw [holder, Option.some.injEq] at holder'
    subst holder'
    rw [there, Option.some.injEq] at listed
    rw [← listed, parting] at waiting
    cases waiting
  | hungUp outcome listed stage =>
    obtain ⟨rfl, rfl⟩ := own listed (by rw [stage]; rfl)
    rw [parting] at stage
    cases stage
  | dialed psm outcome listed stage =>
    obtain ⟨rfl, rfl⟩ := own listed (by rw [stage]; rfl)
    rw [parting] at stage
    cases stage
  | went signal => exact stays rfl there rfl rfl
  | @answered m u place reply signal listed _ eq told =>
    right
    obtain ⟨rfl, rfl⟩ := own listed (by rw [eq]; cases place.request <;> rfl)
    exact .later signal there parting found (by rw [told]; simp)
  | startRound =>
    exact stays rfl ((task?_absorb_of_lt less _).trans there) (by simp [attachment_absorb])
      (by simp [attachment_absorb])
  | resumeRound =>
    exact stays rfl ((task?_absorb_of_lt less _).trans there) (by simp [attachment_absorb])
      (by simp [attachment_absorb])
  | summoned summons =>
    cases summons <;>
      exact stays rfl ((task?_summoned_of_ne (Nat.ne_of_lt less)).trans there) rfl rfl
  | received summons free =>
    cases summons <;> exact absurd (taken.symm.trans free) (by simp)
  | disowned => exact stays rfl there rfl rfl

/-! ### Where reports come from -/

private theorem Move.nextTask (move : Move s a p actions b q) : b.nextTask = a.nextTask := by
  cases move <;> rfl

private theorem Moves.nextTask (moves : Moves s a p actions b) : b.nextTask = a.nextTask := by
  induction moves with
  | rest => rfl
  | move move _ ih => exact ih.trans move.nextTask

/-- A move leaves the errands of the tasks alone. -/
theorem Moves.errand (moves : Moves s a p actions b) {n : Nat} {t : Task}
    (there : b.task? n = some t) : ∃ t', a.task? n = some t' ∧ t'.errand = t.errand := by
  induction moves with
  | rest => exact ⟨t, there, rfl⟩
  | move move _ ih =>
    obtain ⟨t', listed, same⟩ := ih there
    rcases move.task listed with old | ⟨u, place, old, rfl, -⟩
    · exact ⟨t', old, same⟩
    · exact ⟨u, old, same⟩

/-- Asking for the lock changes no errand. -/
theorem errand_of_claimed {n m : Nat} {u : Task} (h : (a.claimed n).task? m = some u) :
    ∃ u', a.task? m = some u' ∧ u'.errand = u.errand :=
  errand_of_setTask (a := { a with lock := a.lock.request n }) h

/-- A report is an old one, or a round has handed over its services. -/
theorem reports_of_step (sound : a.Sound) {n : Nat} {t : Task} {services : List AudioService}
    (there : (a.step s e).attachment.task? n = some t) (found : t.errand = .report services) :
    (∃ t', a.task? n = some t' ∧ t'.errand = .report services) ∨ ∃ k, Reports a s e k n := by
  obtain ⟨_, b, p, _, entry, moves, -⟩ := exists_moves sound s e
  obtain ⟨u, listed, same⟩ := moves.errand there
  rw [found] at same
  have old : a.task? n = some u →
      (∃ t', a.task? n = some t' ∧ t'.errand = .report services) ∨ ∃ k, Reports a s e k n :=
    fun listed => .inl ⟨u, listed, same⟩
  have placed : (∃ u', a.task? n = some u' ∧ u'.errand = u.errand) →
      (∃ t', a.task? n = some t' ∧ t'.errand = .report services) ∨ ∃ k, Reports a s e k n := by
    rintro ⟨u', old, errand⟩
    exact .inl ⟨u', old, errand.trans same⟩
  -- Whoever is sent by the owner is no report.
  have summoned : ∀ {errand c lines}, Summons a e errand c lines →
      ((c.addTask errand .waiting).claimed c.nextTask).task? n = some u →
      (∃ t', a.task? n = some t' ∧ t'.errand = .report services) ∨ ∃ k, Reports a s e k n := by
    intro errand c lines summons claims
    obtain ⟨u', added, errand'⟩ := errand_of_claimed claims
    rcases task?_of_addTask _ _ added with kept | ⟨-, rfl⟩
    · cases summons <;> exact placed ⟨u', kept, errand'⟩
    · rw [← errand'] at same
      cases summons <;> cases same
  cases entry with
  | noted =>
    rcases task?_of_addTask _ _ listed with listed | ⟨-, rfl⟩
    · exact old listed
    · cases same
  | unbonded => exact placed (errand_of_setTask listed)
  | dropped => exact placed (errand_of_setTask listed)
  | queue => exact placed (errand_of_claimed listed)
  | enter => exact placed (errand_of_claimed listed)
  | startRound =>
    rw [attachment_absorb, Discovery.deliveries_startRound] at listed
    exact old listed
  | @resumeRound m signal =>
    have passed := (Discovery.resumeRound_advanced a.discovery s.admission m signal).passed
      sound.session
    rw [attachment_absorb] at listed
    rcases passed.delivered with silent | ⟨list, one, -⟩
    · rw [silent] at listed
      exact old listed
    · rw [one] at listed
      rcases task?_of_addTask _ _ listed with listed | ⟨rfl, -⟩
      · exact old listed
      · refine .inr ⟨m, .mk ?_⟩
        rw [moves.nextTask, attachment_absorb, nextTask_addReports, one]
        exact Nat.lt_succ_self _
  | summoned summons => exact summoned summons listed
  | received summons => exact summoned summons listed
  | _ => exact old listed

end A2dpSink.Attachment
