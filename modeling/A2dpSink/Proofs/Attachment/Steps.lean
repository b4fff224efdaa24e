import A2dpSink.Proofs.Attachment.Entries

/-!
# Steps keep attachments sound

Every entry leads to a fine point, and so every step leaves an attachment sound (`Sound.step`).
-/

namespace A2dpSink.Attachment

variable {a b : Attachment} {s : Surroundings}

namespace Sound

/-- The number of the next task is a new one. -/
theorem fresh (h : a.Sound) : a.task? a.nextTask = none := by
  cases there : a.task? a.nextTask with
  | none => rfl
  | some t => exact absurd (h.number_lt _ t there) (Nat.lt_irrefl _)

/-- A task that has no use of the lock yet is new. -/
theorem addTask (h : a.Sound) (errand : Errand) {place : Stage} (idle : place.isActive = false) :
    (a.addTask errand place).Sound := by
  have own := task?_addTask_self errand place h.fresh
  have others : ∀ n, n ≠ a.nextTask → (a.addTask errand place).task? n = a.task? n :=
    fun n other => task?_addTask_of_ne errand place other
  have old : ∀ {n t}, a.task? n = some t → (a.addTask errand place).task? n = some t := by
    intro n t there
    exact (others n (Nat.ne_of_lt (h.number_lt n t there))).trans there
  have quiet : place.isAsking = false := by
    cases place <;> simp_all [Stage.isActive, Stage.isAsking]
  constructor
  · exact h.session
  · exact h.lock
  · intro n t there
    by_cases new : n = a.nextTask
    · rw [new]
      exact Nat.lt_succ_self _
    · exact Nat.lt_succ_of_lt (h.number_lt n t ((others n new).symm.trans there))
  · intro n party
    obtain ⟨t, there, ne⟩ := h.present n party
    exact ⟨t, old there, ne⟩
  · intro n t there active
    by_cases new : n = a.nextTask
    · rw [new, own, Option.some.injEq] at there
      rw [← there] at active
      exact absurd active (by simp [idle])
    · exact h.active n t ((others n new).symm.trans there) active
  · intro n stage there
    obtain ⟨t, listed, eq⟩ := h.call n stage there
    exact ⟨t, old listed, eq⟩
  · intro n t there asks
    by_cases new : n = a.nextTask
    · rw [new, own, Option.some.injEq] at there
      rw [← there] at asks
      exact absurd asks (by simp [quiet])
    · exact h.asking n t ((others n new).symm.trans there) asks
  · exact h.busy

private theorem addReports (h : a.Sound) (found : List (List AudioService)) :
    (a.addReports found).Sound := by
  induction found generalizing a with
  | nil => exact h
  | cons services found ih => exact ih (h.addTask (.report services) rfl)

/-- A task whose job has not started goes away. -/
theorem forget (h : a.Sound) {n : Nat} {t : Task} (there : a.task? n = some t)
    (queued : t.stage = .queued) : (a.setTask n none).Sound := by
  have others : ∀ m, m ≠ n → (a.setTask n none).task? m = a.task? m :=
    fun m other => task?_setTask_of_ne none other
  have old : ∀ m u, (a.setTask n none).task? m = some u → a.task? m = some u := by
    intro m u listed
    by_cases same : m = n
    · rw [same, task?_setTask_none] at listed
      cases listed
    · exact (others m same).symm.trans listed
  have kept : ∀ m u, a.task? m = some u → u.stage ≠ .queued →
      (a.setTask n none).task? m = some u := by
    intro m u listed ne
    refine (others m ?_).trans listed
    rintro rfl
    rw [there, Option.some.injEq] at listed
    exact ne (listed ▸ queued)
  constructor
  · exact h.session
  · exact h.lock
  · exact fun m u listed => h.number_lt m u (old m u listed)
  · intro m party
    obtain ⟨u, listed, ne⟩ := h.present m party
    exact ⟨u, kept m u listed ne, ne⟩
  · exact fun m u listed => h.active m u (old m u listed)
  · intro m stage listed
    obtain ⟨u, place, eq⟩ := h.call m stage listed
    refine ⟨u, kept m u place ?_, eq⟩
    rw [eq]
    cases stage.request <;> simp [Stage.ofRequest]
  · exact fun m u listed => h.asking m u (old m u listed)
  · exact h.busy

/-- A task that does not use the lock yet asks for it. -/
theorem claimed (h : a.Sound) {n : Nat} {t : Task} (there : a.task? n = some t)
    (new : n ∉ a.lock.parties) (idle : t.stage.isActive = false) : (a.claimed n).Sound := by
  have own : (a.claimed n).task? n = some { t with stage := .waiting } :=
    task?_claimed_self there
  have others : ∀ m, m ≠ n → (a.claimed n).task? m = a.task? m :=
    fun m other => task?_setTask_of_ne _ other
  constructor
  · exact h.session
  · exact h.lock.request new
  · intro m u listed
    by_cases same : m = n
    · rw [same]
      exact h.number_lt n t there
    · exact h.number_lt m u ((others m same).symm.trans listed)
  · intro m party
    by_cases same : m = n
    · rw [same]
      exact ⟨_, own, by simp⟩
    · have party : m ∈ a.lock.parties := by
        have grown : m ∈ (a.lock.request n).parties := party
        rw [h.lock.parties_request, List.mem_append, List.mem_singleton] at grown
        exact grown.resolve_right same
      obtain ⟨u, listed, ne⟩ := h.present m party
      exact ⟨u, (others m same).trans listed, ne⟩
  · intro m u listed active
    by_cases same : m = n
    · rw [same, own, Option.some.injEq] at listed
      rw [← listed] at active
      cases active
    · have holder := h.active m u ((others m same).symm.trans listed) active
      have taken := Lock.isFree_eq_false_iff.mpr ⟨m, holder⟩
      exact (Lock.holder_request_of_taken taken).trans holder
  · intro m stage listed
    obtain ⟨u, place, eq⟩ := h.call m stage listed
    have other : m ≠ n := by
      rintro rfl
      rw [there, Option.some.injEq] at place
      rw [← place] at eq
      rw [eq] at idle
      cases request : stage.request <;> simp [request, Stage.ofRequest, Stage.isActive] at idle
    exact ⟨u, (others m other).trans place, eq⟩
  · intro m u listed asks
    by_cases same : m = n
    · rw [same, own, Option.some.injEq] at listed
      rw [← listed] at asks
      cases asks
    · exact h.asking m u ((others m same).symm.trans listed) asks
  · exact h.busy

/-- Nobody has a call under way when a task without one holds the lock. -/
theorem held (h : a.Sound) {n : Nat} {t : Task} (there : a.task? n = some t)
    (holder : a.lock.holder = some n) (started : t.stage ≠ .queued)
    (silent : ∀ r, t.stage ≠ .ofRequest r) : a.Held t t.stage := by
  have number := number_of_task? there
  refine ⟨h, number.symm ▸ holder, ?_, started, ?_⟩
  · have own : a.task? t.number = some t := number.symm ▸ there
    exact own
  · intro m
    cases place : a.discovery.callStage? m with
    | none => rfl
    | some stage =>
      exfalso
      obtain ⟨u, listed, eq⟩ := h.call m stage place
      have active : u.stage.isActive = true := by
        rw [eq]
        cases stage.request <;> rfl
      have same := h.active m u listed active
      rw [holder, Option.some.injEq] at same
      subst same
      rw [there, Option.some.injEq] at listed
      exact silent _ (listed ▸ eq)

/-- The first one to ask for a free lock runs. -/
theorem held_claimed (h : a.Sound) {n : Nat} {t : Task} (there : a.task? n = some t)
    (free : a.lock.isFree = true) (idle : t.stage.isActive = false) :
    (a.claimed n).Held t .waiting := by
  have nobody := Lock.isFree_iff.mp free
  have new : n ∉ a.lock.parties := by
    simp [Lock.parties, nobody, h.lock.waiting_eq_nil nobody]
  have held := (h.claimed there new idle).held (task?_claimed_self there)
    (Lock.holder_request_of_isFree n free) (by simp) (by rintro ⟨⟩ <;> simp [Stage.ofRequest])
  exact ⟨held.sound, held.holder, held.task, held.stage_ne, held.calls⟩

/-- A task goes on with its call: it waits again, or it has its answer. -/
theorem resume (h : a.Sound) {n : Nat} {t : Task} {place : Discovery.CallStage} (signal : Signal)
    (there : a.task? n = some t) (listed : a.discovery.callStage? n = some place)
    (eq : t.stage = .ofRequest place.request) :
    Sound { a with discovery := (a.discovery.resume s.admission n signal).session } ∧
      ((a.discovery.resume s.admission n signal).reply ≠ none →
        Held { a with discovery := (a.discovery.resume s.admission n signal).session } t
          t.stage) := by
  have called := Discovery.resume_called h.session listed s.admission signal
  have number := number_of_task? there
  have active : t.stage.isActive = true := by
    rw [eq]
    cases place.request <;> rfl
  have holder := h.active n t there active
  have sound : Sound
      { a with discovery := (a.discovery.resume s.admission n signal).session } := {
    session := h.session.resumed (Discovery.resume_resumed _ _ _ _)
    lock := h.lock
    number_lt := h.number_lt
    present := h.present
    active := h.active
    call := by
      intro m stage' there'
      by_cases same : m = n
      · subst same
        cases told : (a.discovery.resume s.admission m signal).reply with
        | some reply =>
          rw [called.ended (by simp [told])] at there'
          cases there'
        | none =>
          obtain ⟨stage, there'', request⟩ := called.pending told
          rw [there''] at there'
          cases there'
          exact ⟨t, there, by rw [eq, request]⟩
      · exact h.call m stage' ((called.others m same).symm.trans there')
    asking := h.asking
    busy := by
      intro busy
      rcases called.busy busy with before | connects
      · exact h.busy before
      · rw [connects] at eq
        exact (h.asking n t there (by rw [eq]; rfl)).1 }
  refine ⟨sound, fun told => ⟨sound, number.symm ▸ holder, ?_, ?_, ?_⟩⟩
  · have own : a.task? t.number = some t := number.symm ▸ there
    exact own
  · rw [eq]
    cases place.request <;> simp [Stage.ofRequest]
  · intro m
    by_cases same : m = n
    · rw [same]
      exact called.ended told
    · rw [called.others m same]
      cases there' : a.discovery.callStage? m with
      | none => rfl
      | some stage =>
        obtain ⟨u, listed', eq'⟩ := h.call m stage there'
        have active' : u.stage.isActive = true := by
          rw [eq']
          cases stage.request <;> rfl
        have holder' := h.active m u listed' active'
        rw [holder, Option.some.injEq] at holder'
        exact absurd holder'.symm same

/-- A round goes on. -/
theorem advanced (h : a.Sound) {n : Nat} {o : Discovery.Outcome}
    (advanced : Discovery.Advanced a.discovery n o) : (a.absorb o).attachment.Sound := by
  have passed := advanced.passed h.session
  rw [attachment_absorb]
  refine addReports ?_ _
  exact {
    session := h.session.advanced advanced
    lock := h.lock
    number_lt := h.number_lt
    present := h.present
    active := h.active
    call := fun m stage there => h.call m stage ((passed.calls m).symm.trans there)
    asking := h.asking
    busy := fun busy => h.busy (passed.busy busy) }

/-- An attachment is sound when its owner asks for something. -/
theorem summons (h : a.Sound) {e : Event} {errand : Errand} {lines : List Log.Line}
    (summons : Summons a e errand b lines) : b.Sound := by
  cases summons with
  | inquire => exact h
  | close => exact h.same rfl rfl rfl rfl rfl

/-- An entry leaves an attachment at a fine point. -/
theorem entry (h : a.Sound) {e : Event} {actions : List Action} {p : Point}
    (entry : Entry s a e actions b p) : b.Fine p := by
  cases entry with
  | ignored => exact h
  | noted => exact h.addTask .update rfl
  | unbonded _ there queued => exact h.forget there queued
  | dropped there queued => exact h.forget there queued
  | @queue n t there queued =>
    refine h.claimed there ?_ (by rw [queued]; rfl)
    intro party
    obtain ⟨u, listed, ne⟩ := h.present n party
    rw [there, Option.some.injEq] at listed
    exact ne (listed ▸ queued)
  | enter there queued _ free => exact ⟨_, h.held_claimed there free (by rw [queued]; rfl), rfl⟩
  | grant there waiting holder =>
    refine ⟨_, h.held there holder (by simp [waiting]) ?_, by rw [waiting]; rfl⟩
    rw [waiting]
    rintro ⟨⟩ <;> simp [Stage.ofRequest]
  | @hungUp n t outcome there stage =>
    have holder := h.active n t there (by rw [stage]; rfl)
    have held := h.held there holder (by simp [stage])
      (by rw [stage]; rintro ⟨⟩ <;> simp [Stage.ofRequest])
    exact ⟨_, held.same rfl rfl rfl rfl rfl⟩
  | @dialed n t psm outcome there stage =>
    have holder := h.active n t there (by rw [stage]; rfl)
    have held := h.held there holder (by simp [stage])
      (by rw [stage]; rintro ⟨⟩ <;> simp [Stage.ofRequest])
    exact ⟨_, held.same rfl rfl rfl rfl rfl⟩
  | went signal there place eq told => exact (h.resume signal there place eq).1
  | @answered n t place reply signal there listed eq told =>
    have held := (h.resume signal there listed eq (s := s)).2 (by simp [told])
    have called := Discovery.resume_called h.session listed s.admission signal
    have asking := h.asking n t there
    cases request : place.request with
    | disconnect =>
      refine ⟨_, held, by rw [eq, request]; rfl, ?_⟩
      exact called.parted request (by simp [told])
    | _ => exact ⟨⟨_, held⟩, asking (by rw [eq, request]; rfl)⟩
  | startRound => exact h.advanced (Discovery.startRound_advanced _ _)
  | resumeRound => exact h.advanced (Discovery.resumeRound_advanced _ _ _ _)
  | @summoned e errand c lines summons taken =>
    have sound := h.summons summons
    refine (sound.addTask errand rfl).claimed (task?_addTask_self _ _ sound.fresh) ?_ rfl
    intro party
    obtain ⟨u, listed, -⟩ := sound.present _ party
    rw [sound.fresh] at listed
    cases listed
  | @received e errand c lines summons free =>
    have sound := h.summons summons
    exact ⟨_, (sound.addTask errand rfl).held_claimed (task?_addTask_self _ _ sound.fresh) free
      rfl, rfl⟩
  | disowned => exact h.same rfl rfl rfl rfl rfl

/-- A step leaves an attachment sound. -/
theorem step (h : a.Sound) (s : Surroundings) (e : Event) : (a.step s e).attachment.Sound := by
  obtain ⟨_, b, p, _, entry, moves, -⟩ := exists_moves h s e
  exact (h.entry entry).moves moves

/-- An attachment about which nothing is known and for which nobody works. -/
theorem blank (remote : Address) (limit : Nat) (transport : Transport) :
    Sound { remote, discovery := { remote, queryLimit := limit }, transport } where
  session := .blank remote limit
  lock := ⟨fun _ => rfl, List.nodup_nil⟩
  number_lt := nofun
  present := nofun
  active := nofun
  call := nofun
  asking := nofun
  busy := nofun

end Sound

end A2dpSink.Attachment
