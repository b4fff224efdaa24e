import A2dpSink.Proofs.Attachment.Sound

/-!
# What an event starts with

`Entry` lists what an event may start with. The rest of its step is a chain of moves
(`exists_moves`), so a property of steps is proved by going through the entries and the moves.
-/

namespace A2dpSink.Attachment

variable {a b : Attachment} {s : Surroundings}

/-! ### Entries -/

/-- The job of a task that is let in: the device is bonded, or somebody is left for a report. -/
def Admitted (a : Attachment) (s : Surroundings) (t : Task) : Prop :=
  t.errand = .update ∧ s.flags.bonded = true ∨
    ∃ services, t.errand = .report services ∧ a.isAlive = true

/-- A task asks for the lock. -/
def claimed (a : Attachment) (n : Nat) : Attachment :=
  { a with lock := a.lock.request n }.setTask n (some .waiting)

/-- A task that has asked for the lock waits for it. -/
theorem task?_claimed_self {n : Nat} {t : Task} (there : a.task? n = some t) :
    (a.claimed n).task? n = some { t with stage := .waiting } :=
  task?_setTask_self (a := { a with lock := a.lock.request n }) there .waiting

/-- A new task that asks for the lock leaves the others alone. -/
theorem task?_summoned_of_ne {errand : Errand} {n : Nat} (other : n ≠ a.nextTask) :
    ((a.addTask errand .waiting).claimed a.nextTask).task? n = a.task? n :=
  (task?_setTask_of_ne _ other).trans (task?_addTask_of_ne _ _ other)

/-- What the owner asks for: the errand, the attachment before it is taken care of, and what is
reported. -/
inductive Summons (a : Attachment) : Event → Errand → Attachment → List Log.Line → Prop
  | inquire : a.owned = true → Summons a .inquire .inquire a []
  | close (removal : Except ObserverError Unit) (lines : List Log.Line) : a.owned = true →
      Summons a (.close removal) .close { a with observing := false, owned := false } lines

/-- What may come of an event before a task runs. -/
inductive Entry (s : Surroundings) (a : Attachment) :
    Event → List Action → Attachment → Point → Prop
  | ignored {e : Event} (lines : List Log.Line) : Entry s a e (lines.map .log) a .rest
  | noted : a.isAlive = true → Entry s a .notify [.submit (.task a.nextTask)]
      (a.addTask .update .queued) .rest
  | unbonded {n : Nat} {t : Task} (line : Log.Line) : a.task? n = some t → t.stage = .queued →
      t.errand = .update → s.flags.bonded = false →
      Entry s a (.start n) [.log line] (a.setTask n none) .rest
  | dropped {n : Nat} {t : Task} {services : List AudioService} : a.task? n = some t →
      t.stage = .queued → t.errand = .report services → a.isAlive = false →
      Entry s a (.start n) [] (a.setTask n none) .rest
  | queue {n : Nat} {t : Task} : a.task? n = some t → t.stage = .queued → a.Admitted s t →
      a.lock.isFree = false → Entry s a (.start n) [] (a.claimed n) .rest
  | enter {n : Nat} {t : Task} : a.task? n = some t → t.stage = .queued → a.Admitted s t →
      a.lock.isFree = true → Entry s a (.start n) [] (a.claimed n) (.perform t)
  | grant {n : Nat} {t : Task} : a.task? n = some t → t.stage = .waiting →
      a.lock.holder = some n → Entry s a (.resume n .granted) [] a (.perform t)
  | hungUp {n : Nat} {t : Task} (outcome : CloseOutcome) : a.task? n = some t →
      t.stage = .hangingUp →
      Entry s a (.resume n (.closed outcome)) ((a.transport.closed outcome).effects.map .effect)
        { a with transport := (a.transport.closed outcome).transport } (.leave t (farewell t))
  | dialed {n : Nat} {t : Task} (psm : Psm) (outcome : OpenOutcome) : a.task? n = some t →
      t.stage = .opening psm →
      Entry s a (.resume n (.opened outcome))
        ((a.transport.opened psm outcome).effects.map .effect)
        { a with transport := (a.transport.opened psm outcome).transport } (.leave t none)
  | went {n : Nat} {t : Task} {place : Discovery.CallStage} (signal : Signal) :
      a.task? n = some t → a.discovery.callStage? n = some place →
      t.stage = .ofRequest place.request →
      (a.discovery.resume s.admission n signal).reply = none →
      Entry s a (.resume n signal) (a.absorb (a.discovery.resume s.admission n signal)).actions
        { a with discovery := (a.discovery.resume s.admission n signal).session } .rest
  | answered {n : Nat} {t : Task} {place : Discovery.CallStage} {reply : Discovery.Reply}
      (signal : Signal) : a.task? n = some t → a.discovery.callStage? n = some place →
      t.stage = .ofRequest place.request →
      (a.discovery.resume s.admission n signal).reply = some reply →
      Entry s a (.resume n signal) (a.absorb (a.discovery.resume s.admission n signal)).actions
        { a with discovery := (a.discovery.resume s.admission n signal).session }
        (.answered t place.request reply)
  | startRound {n : Nat} :
      Entry s a (.startRound n) (a.absorb (a.discovery.startRound n)).actions
        (a.absorb (a.discovery.startRound n)).attachment .rest
  | resumeRound {n : Nat} (signal : Signal) :
      Entry s a (.resumeRound n signal)
        (a.absorb (a.discovery.resumeRound s.admission n signal)).actions
        (a.absorb (a.discovery.resumeRound s.admission n signal)).attachment .rest
  | summoned {e : Event} {errand : Errand} {c : Attachment} {lines : List Log.Line} :
      Summons a e errand c lines → c.lock.isFree = false →
      Entry s a e (lines.map .log) ((c.addTask errand .waiting).claimed c.nextTask) .rest
  | received {e : Event} {errand : Errand} {c : Attachment} {lines : List Log.Line} :
      Summons a e errand c lines → c.lock.isFree = true →
      Entry s a e (lines.map .log) ((c.addTask errand .waiting).claimed c.nextTask)
        (.perform ⟨c.nextTask, errand, .waiting⟩)
  | disowned (removal : Except ObserverError Unit) (lines : List Log.Line) : a.owned = true →
      Entry s a (.drop removal) (lines.map .log) { a with observing := false, owned := false } .rest

/-- In a step, a task gets the lock and does what it is there for. -/
inductive Performs (a : Attachment) (s : Surroundings) : Event → Task → Prop
  | start {n : Nat} {t : Task} : a.task? n = some t → t.stage = .queued → a.Admitted s t →
      a.lock.isFree = true → Performs a s (.start n) t
  | grant {n : Nat} {t : Task} : a.task? n = some t → t.stage = .waiting →
      a.lock.holder = some n → Performs a s (.resume n .granted) t

/-- When a task gets the lock, nobody else makes use of it. -/
theorem Performs.inactive {e : Event} {t : Task} (performs : Performs a s e t) (sound : a.Sound)
    {n : Nat} {u : Task} (there : a.task? n = some u) : u.stage.isActive = false := by
  by_contra active
  rw [Bool.not_eq_false] at active
  have holder := sound.active n u there active
  cases performs with
  | start _ _ _ free =>
    rw [Lock.isFree_iff.mp free] at holder
    cases holder
  | grant listed waiting own =>
    rw [own, Option.some.injEq] at holder
    subst holder
    rw [there, Option.some.injEq] at listed
    rw [listed, waiting] at active
    cases active

/-- Behind reports a task is an old one, or a new report in the queue. -/
theorem addReports_task? (found : List (List AudioService)) {n : Nat} {u : Task}
    (h : (a.addReports found).task? n = some u) :
    a.task? n = some u ∨
      a.nextTask ≤ n ∧ u.stage = .queued ∧ ∃ services, u.errand = .report services := by
  induction found generalizing a with
  | nil => exact .inl h
  | cons services found ih =>
    rcases ih h with old | ⟨late, queued⟩
    · rcases task?_of_addTask _ _ old with old | ⟨rfl, eq⟩
      · exact .inl old
      · exact .inr ⟨Nat.le_refl _, by rw [eq], services, by rw [eq]⟩
    · exact .inr ⟨Nat.le_of_succ_le late, queued⟩

/-- An entry may let a task wait for the lock, and there may be new tasks. -/
theorem Entry.task {e : Event} {actions : List Action} {p : Point}
    (entry : Entry s a e actions b p) {n : Nat} {u : Task} (h : b.task? n = some u) :
    a.task? n = some u ∨
      (∃ u', a.task? n = some u' ∧ u'.stage = .queued ∧ u = { u' with stage := .waiting }) ∨
      a.nextTask ≤ n ∧ (u.stage = .queued ∨ u.stage = .waiting) := by
  -- The owner's task is new, and waits at once.
  have summoned : ∀ {c : Attachment} {errand : Errand} {lines : List Log.Line},
      Summons a e errand c lines →
      ((c.addTask errand .waiting).claimed c.nextTask).task? n = some u →
      a.task? n = some u ∨ a.nextTask ≤ n ∧ u.stage = .waiting := by
    intro c errand lines summons h
    have same : c.tasks = a.tasks ∧ c.nextTask = a.nextTask := by
      cases summons <;> exact ⟨rfl, rfl⟩
    rcases task?_of_setTask_some h with ⟨other, old⟩ | ⟨rfl, u', old, eq⟩
    · rcases task?_of_addTask _ _ old with old | ⟨own, -⟩
      · exact .inl ((task?_eq_of_tasks same.1 n).symm.trans old)
      · exact absurd own other
    · exact .inr ⟨Nat.le_of_eq same.2.symm, by rw [eq]⟩
  have queued : ∀ {m : Nat} {t : Task}, a.task? m = some t → t.stage = .queued →
      (a.claimed m).task? n = some u → a.task? n = some u ∨
        ∃ u', a.task? n = some u' ∧ u'.stage = .queued ∧ u = { u' with stage := .waiting } := by
    intro m t there place h
    rcases task?_of_setTask_some h with ⟨-, old⟩ | ⟨rfl, u', old, eq⟩
    · exact .inl old
    · have same : some u' = some t := Eq.trans old.symm there
      cases same
      exact .inr ⟨_, there, place, eq⟩
  cases entry with
  | noted =>
    rcases task?_of_addTask _ _ h with old | ⟨rfl, eq⟩
    · exact .inl old
    · exact .inr (.inr ⟨Nat.le_refl _, .inl (by rw [eq])⟩)
  | unbonded => exact .inl (task?_of_setTask_none h).2
  | dropped => exact .inl (task?_of_setTask_none h).2
  | queue there place => exact (queued there place h).imp_right .inl
  | enter there place => exact (queued there place h).imp_right .inl
  | startRound =>
    rw [attachment_absorb] at h
    rcases addReports_task? _ h with old | ⟨late, place, -⟩
    · exact .inl old
    · exact .inr (.inr ⟨late, .inl place⟩)
  | resumeRound =>
    rw [attachment_absorb] at h
    rcases addReports_task? _ h with old | ⟨late, place, -⟩
    · exact .inl old
    · exact .inr (.inr ⟨late, .inl place⟩)
  | summoned summons =>
    exact (summoned summons h).imp_right fun ⟨late, place⟩ => .inr ⟨late, .inr place⟩
  | received summons =>
    exact (summoned summons h).imp_right fun ⟨late, place⟩ => .inr ⟨late, .inr place⟩
  | _ => exact .inl h

/-- A task that makes use of the lock is as it was before the entry. -/
theorem Entry.task_of_active {e : Event} {actions : List Action} {p : Point}
    (entry : Entry s a e actions b p) {n : Nat} {u : Task} (there : b.task? n = some u)
    (active : u.stage.isActive = true) : a.task? n = some u := by
  rcases entry.task there with old | ⟨u', -, -, rfl⟩ | ⟨-, idle | idle⟩
  · exact old
  · cases active
  · rw [idle] at active
    cases active
  · rw [idle] at active
    cases active

/-- An entry leaves alone a task whose job it does not start. -/
theorem Entry.kept {e : Event} {actions : List Action} {p : Point}
    (entry : Entry s a e actions b p) (sound : a.Sound) {n : Nat} {u : Task}
    (there : a.task? n = some u) (elsewhere : u.stage = .queued → e ≠ .start n) :
    b.task? n = some u := by
  have less := sound.number_lt n u there
  have fresh : n ≠ a.nextTask := Nat.ne_of_lt less
  have other : ∀ {m : Nat} {t : Task}, a.task? m = some t → t.stage = .queued → e = .start m →
      n ≠ m := by
    rintro m t listed queued starts rfl
    rw [there, Option.some.injEq] at listed
    exact elsewhere (listed ▸ queued) starts
  have summoned : ∀ {c : Attachment} {errand : Errand} {lines : List Log.Line},
      Summons a e errand c lines →
      ((c.addTask errand .waiting).claimed c.nextTask).task? n = some u := by
    intro c errand lines summons
    cases summons <;> exact (task?_summoned_of_ne fresh).trans there
  cases entry with
  | noted => exact (task?_addTask_of_ne _ _ fresh).trans there
  | unbonded _ listed queued => exact (task?_setTask_of_ne _ (other listed queued rfl)).trans there
  | dropped listed queued => exact (task?_setTask_of_ne _ (other listed queued rfl)).trans there
  | queue listed queued => exact (task?_setTask_of_ne _ (other listed queued rfl)).trans there
  | enter listed queued => exact (task?_setTask_of_ne _ (other listed queued rfl)).trans there
  | startRound => exact (task?_absorb_of_lt less _).trans there
  | resumeRound => exact (task?_absorb_of_lt less _).trans there
  | summoned summons => exact summoned summons
  | received summons => exact summoned summons
  | _ => exact there

/-- An event starts with an entry, and the rest of its step is done from there on. -/
def Entering (a : Attachment) (s : Surroundings) (e : Event) : Prop :=
  ∃ actions b p, Entry s a e actions b p ∧ a.step s e = (b.go s p).after actions

private theorem entering_of_lines {e : Event} (lines : List Log.Line)
    (eq : a.step s e = ⟨a, lines.map .log⟩) : a.Entering s e :=
  ⟨_, _, _, .ignored lines, by simpa [go, Outcome.after] using eq⟩

private theorem entering_notify : a.Entering s .notify := by
  have eq : a.step s .notify = a.notify s := rfl
  unfold notify at eq
  split at eq
  · next alive =>
    split at eq
    · exact ⟨_, _, _, .noted alive, eq⟩
    · exact entering_of_lines [_] eq
  · exact entering_of_lines [] eq

/-- A task that asks for the lock runs at once if the lock is free. -/
theorem claim_eq (a : Attachment) (s : Surroundings) (t : Task) :
    a.claim s t =
      if a.lock.isFree then (a.claimed t.number).go s (.perform t) else ⟨a.claimed t.number, []⟩ :=
  rfl

private theorem entering_start (n : Nat) : a.Entering s (.start n) := by
  have eq : a.step s (.start n) = a.start s n := rfl
  unfold start at eq
  split at eq
  · next t there =>
    have number := number_of_task? there
    have claims : a.Admitted s t → t.stage = .queued → a.step s (.start n) = a.claim s t →
        a.Entering s (.start n) := by
      intro admitted queued eq
      rw [claim_eq, number] at eq
      split at eq
      · next free => exact ⟨_, _, _, .enter there queued admitted free, eq⟩
      · next taken =>
        rw [Bool.not_eq_true] at taken
        exact ⟨_, _, _, .queue there queued admitted taken, eq⟩
    split at eq
    · next queued update =>
      split at eq
      · next bonded => exact claims (.inl ⟨update, bonded⟩) queued eq
      · next unbonded =>
        rw [Bool.not_eq_true] at unbonded
        exact ⟨_, _, _, .unbonded _ there queued update unbonded, eq⟩
    · next services queued found =>
      split at eq
      · next alive => exact claims (.inr ⟨services, found, alive⟩) queued eq
      · next gone =>
        rw [Bool.not_eq_true] at gone
        exact ⟨_, _, _, .dropped there queued found gone, eq⟩
    · exact entering_of_lines [] eq
  · exact entering_of_lines [] eq

private theorem entering_session (h : a.Sound) {n : Nat} {t : Task} {signal : Signal}
    (there : a.task? n = some t)
    (eq : a.step s (.resume n signal) =
      let o := a.discovery.resume s.admission n signal
      let done := a.absorb o
      let rest := match o.reply with
        | some reply => done.attachment.answered s t reply
        | none => ⟨done.attachment, []⟩
      rest.after done.actions) : a.Entering s (.resume n signal) := by
  cases place : a.discovery.callStage? n with
  | none =>
    rw [Discovery.resume_of_none place] at eq
    exact entering_of_lines [] eq
  | some stage =>
    obtain ⟨t', there', listed⟩ := h.call n stage place
    rw [there, Option.some.injEq] at there'
    subst there'
    have quiet := (Discovery.resume_resumed a.discovery s.admission n signal).quiet
    simp only at eq
    rw [attachment_absorb_of_quiet quiet] at eq
    split at eq
    · next reply told =>
      refine ⟨_, _, _, .answered signal there place listed told, ?_⟩
      rw [eq, go, ← listed]
    · next told => exact ⟨_, _, _, .went signal there place listed told, eq⟩

private theorem entering_resume (h : a.Sound) (n : Nat) (signal : Signal) :
    a.Entering s (.resume n signal) := by
  have eq : a.step s (.resume n signal) = a.resume s n signal := rfl
  unfold resume at eq
  split at eq
  · exact entering_of_lines [] eq
  · next t there =>
    split at eq
    · next waiting =>
      split at eq
      · next holder => exact ⟨_, _, _, .grant there waiting holder, eq⟩
      · exact entering_of_lines [] eq
    · next outcome hangingUp =>
      refine ⟨_, _, _, .hungUp outcome there hangingUp, ?_⟩
      rw [go, number_of_task? there, eq]
    · next psm outcome opening =>
      refine ⟨_, _, _, .dialed psm outcome there opening, ?_⟩
      rw [go, number_of_task? there, eq]
    · exact entering_session h there eq

private theorem attachment_stopObserving (removal : Except ObserverError Unit) :
    ∃ lines : List Log.Line,
      a.stopObserving removal = ⟨{ a with observing := false }, lines.map .log⟩ := by
  unfold stopObserving
  split
  · split
    · exact ⟨[], rfl⟩
    · exact ⟨[_], rfl⟩
  · next blind =>
    rw [Bool.not_eq_true] at blind
    refine ⟨[], ?_⟩
    rw [← blind]
    rfl

private theorem entering_summon {e : Event} {errand : Errand} {lines : List Log.Line}
    (summons : Summons a e errand b lines)
    (eq : a.step s e = (b.summon s errand).after (lines.map .log)) : a.Entering s e := by
  unfold summon at eq
  rw [claim_eq] at eq
  split at eq
  · next free => exact ⟨_, _, _, .received summons free, eq⟩
  · next taken =>
    rw [Bool.not_eq_true] at taken
    exact ⟨_, _, _, .summoned summons taken, eq⟩

/-- Every event starts with an entry. -/
theorem entering (h : a.Sound) (e : Event) : a.Entering s e := by
  cases e with
  | notify => exact entering_notify
  | start n => exact entering_start n
  | resume n signal => exact entering_resume h n signal
  | startRound n => exact ⟨_, _, _, .startRound, by simp [step, go, Outcome.after]⟩
  | resumeRound n signal =>
    exact ⟨_, _, _, .resumeRound signal, by simp [step, go, Outcome.after]⟩
  | inquire =>
    by_cases owned : a.owned = true
    · refine entering_summon (.inquire owned) ?_
      simp only [step, owned, if_true]
      rfl
    · refine entering_of_lines [] ?_
      simp [step, owned]
  | close removal =>
    obtain ⟨lines, stops⟩ := attachment_stopObserving (a := a) removal
    by_cases owned : a.owned = true
    · refine entering_summon (.close removal lines owned) ?_
      simp only [step, owned, if_true, stops]
    · refine entering_of_lines [] ?_
      simp [step, owned]
  | drop removal =>
    obtain ⟨lines, stops⟩ := attachment_stopObserving (a := a) removal
    by_cases owned : a.owned = true
    · refine ⟨_, _, _, .disowned removal lines owned, ?_⟩
      simp only [step, owned, if_true, stops, go, Outcome.after, List.append_nil]
    · refine entering_of_lines [] ?_
      simp [step, owned]

/-- A step is an entry and a chain of moves. -/
theorem exists_moves (h : a.Sound) (s : Surroundings) (e : Event) :
    ∃ first b p later, Entry s a e first b p ∧
      Moves s b p later (a.step s e).attachment ∧ (a.step s e).actions = first ++ later := by
  obtain ⟨first, b, p, entry, eq⟩ := entering h e (s := s)
  refine ⟨first, b, p, _, entry, ?_, by rw [eq, actions_after]⟩
  rw [eq, attachment_after]
  exact moves_go b s p

end A2dpSink.Attachment
