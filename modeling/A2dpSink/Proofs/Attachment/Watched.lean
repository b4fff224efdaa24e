import A2dpSink.Proofs.Attachment.Runs

/-!
# Who sees to the discovery link

Once a discovery link is open, somebody is there who will close it or use it up: a task that is
about to, or a report that came over it. There is one way out. A report that finds the device
disconnected is discarded and leaves the link open (`watched_run`).
-/

namespace A2dpSink.Attachment

variable {a b : Attachment} {s : Surroundings} {p q : Point} {actions : List Action}

/-! ### Who sees to the link -/

/-- A task that is run as a job. -/
def Task.IsJob (t : Task) : Prop :=
  t.errand = .update ∨ ∃ services, t.errand = .report services

/-- A task that will close the discovery link or use it up, unless it is discarded. -/
inductive Task.Leads (t : Task) : Prop
  | calling : t.IsJob → t.stage = .parting ∨ t.stage = .starting → t.Leads
  | reporting (services : List AudioService) : t.errand = .report services →
      t.stage = .queued ∨ t.stage = .waiting → t.Leads

/-- Some task leads, and it is not the given one. -/
def Covered (a : Attachment) (but : Option Nat) : Prop :=
  ∃ n t, some n ≠ but ∧ a.task? n = some t ∧ t.Leads

/-- The task in hand at a point. -/
def Point.number? : Point → Option Nat
  | .rest => none
  | .perform t => some t.number
  | .call t _ => some t.number
  | .answered t _ _ => some t.number
  | .settle t _ => some t.number
  | .dial t _ => some t.number
  | .hangUp t => some t.number
  | .leave t _ => some t.number

/-- A step discards a report while the link is open. -/
def Strands (a : Attachment) (s : Surroundings) (e : Event) : Prop :=
  a.discovery.link.isSome = true ∧ s.flags.connected = false ∧
    ∃ t services, Performs a s e t ∧ t.errand = .report services

/-- In a run a report was discarded while the link was open, at a given count of its changes. -/
def StrandedAt (a : Attachment) (script : Script) (count : Nat) : Prop :=
  a.Sometime script fun b s e => Strands b s e ∧ b.discovery.count = count

/-- In a run a report was discarded while the link was open, and the link has not changed
since. -/
def Stranded (a : Attachment) (script : Script) : Prop :=
  StrandedAt a script (a.run script).discovery.count

/-- If the link is open, some task leads, or the link was left open at a count of which `K`
holds. -/
def Open (K : Nat → Prop) (a : Attachment) (but : Option Nat) : Prop :=
  a.discovery.link.isSome = true → a.Covered but ∨ K a.discovery.count

/-- What holds of the link at the points of a step. -/
def Minded (s : Surroundings) (K : Nat → Prop) (a : Attachment) : Point → Prop
  | .perform t => a.Open K (some t.number) ∨
      (∃ services, t.errand = .report services) ∧ (s.flags.connected = false →
        a.discovery.link.isSome = true → K a.discovery.count)
  | .call t .disconnect => t.IsJob
  | .call _ .discover => True
  | .answered _ .connect (.connected (.ok ())) => True
  | p => a.Open K p.number?

/-- The attachment is closed or abandoned, or the link is minded, and only jobs are about to close
it. -/
def Watched (s : Surroundings) (K : Nat → Prop) (a : Attachment) (p : Point) : Prop :=
  a.closed = true ∨ a.owned = false ∨
    (∀ n t, a.task? n = some t → t.stage = .parting → t.IsJob) ∧ a.Minded s K p

private theorem covered {n : Nat} {t : Task} (there : a.task? n = some t) (leads : t.Leads) :
    a.Covered none :=
  ⟨n, t, Option.some_ne_none n, there, leads⟩

private theorem Covered.imp {but but' : Option Nat} (h : a.Covered but)
    (kept : ∀ n t, some n ≠ but → a.task? n = some t → t.Leads →
      some n ≠ but' ∧ b.task? n = some t) : b.Covered but' := by
  obtain ⟨n, t, other, there, leads⟩ := h
  obtain ⟨other', there'⟩ := kept n t other there leads
  exact ⟨n, t, other', there', leads⟩

private theorem Open.imp {K : Nat → Prop} {but but' : Option Nat} (h : a.Open K but)
    (discovery : b.discovery = a.discovery)
    (kept : ∀ n t, some n ≠ but → a.task? n = some t → t.Leads →
      some n ≠ but' ∧ b.task? n = some t) : b.Open K but' := by
  intro link
  rw [discovery] at link ⊢
  exact (h link).imp_left fun covered => covered.imp kept

/-- While a task waits, or when it is over, the others are as they were. -/
theorem Open.rest {K : Nat → Prop} {n : Nat} (h : a.Open K (some n))
    (discovery : b.discovery = a.discovery) (tasks : ∀ m, m ≠ n → b.task? m = a.task? m) :
    b.Open K none := by
  refine h.imp discovery fun m t other there _ => ⟨by simp, (tasks m ?_).trans there⟩
  rintro rfl
  exact other rfl

-- Unless the link was opened, it is minded as before when there is an answer.
private theorem minded_unconnected {K : Nat → Prop} {t : Task} {reply : Discovery.Reply}
    (other : reply ≠ .connected (.ok ())) :
    a.Minded s K (.answered t .connect reply) ↔ a.Open K (some t.number) := by
  cases reply with
  | connected r =>
    cases r with
    | ok u => exact absurd rfl other
    | error e => exact Iff.rfl
  | _ => exact Iff.rfl

/-! ### Moves -/

/-- A closed attachment stays closed in a move. -/
theorem Move.closed (move : Move s a p actions b q) (closed : a.closed = true) :
    b.closed = true := by
  cases move <;> first | exact closed | rfl

/-- A move leaves the owner alone. -/
theorem Move.owned (move : Move s a p actions b q) : b.owned = a.owned := by
  cases move <;> rfl

/-- The session is asked whether it is busy, or to connect: the link stays as it is until there is
an answer. -/
theorem Held.open_called {K : Nat → Prop} {t : Task} {stage : Stage} (held : a.Held t stage)
    (h : a.Open K (some t.number)) {r : Discovery.Request} (asks : r ≠ .disconnect)
    (told : (a.discovery.begin s.admission t.number r).reply ≠ some (.connected (.ok ()))) :
    Open K { a with discovery := (a.discovery.begin s.admission t.number r).session }
      (some t.number) := by
  intro link
  have called := held.called s r
  have before : a.discovery.link.isSome = true := by
    rcases called.link link with before | ⟨-, connected⟩
    · exact before
    · exact absurd connected told
  have count := called.count_eq asks told
  rcases h before with covered | known
  · exact .inl covered
  · right
    have same : K (a.discovery.begin s.admission t.number r).session.count := count ▸ known
    exact same

private theorem Minded.move {K : Nat → Prop} (fine : a.Fine p) (h : a.Minded s K p)
    (move : Move s a p actions b q) : b.closed = true ∨ b.Minded s K q := by
  -- A task that is there for something else than a report has no exception.
  have plain : ∀ {t : Task}, p = .perform t → (∀ services, t.errand ≠ .report services) →
      a.Open K (some t.number) := by
    rintro t rfl other
    rcases h with open_ | ⟨⟨services, report⟩, -⟩
    · exact open_
    · exact absurd report (other services)
  cases move with
  | late _ closed => exact .inl closed
  | reset _ update => exact .inr (.inl update)
  | probe update => exact .inr (plain rfl (by simp [update]))
  | keep update => exact .inr (plain rfl (by simp [update]))
  | redial update => exact .inr (plain rfl (by simp [update]))
  | pass _ update => exact .inr (plain rfl (by simp [update]))
  | discard line report gone =>
    by_cases closed : a.closed = true
    · exact .inl closed
    · have gone : s.flags.connected = false := by simpa [closed] using gone
      right
      intro link
      rcases h with open_ | ⟨-, known⟩
      · exact open_ link
      · exact .inr (known gone link)
  | heed report => exact .inr (.inr ⟨_, report⟩)
  | shut => exact .inl rfl
  | tell inquire => exact .inr (plain rfl (by simp [inquire]))
  | @wait t r told =>
    right
    have others : ∀ m, m ≠ t.number →
        ({ a with discovery := (a.discovery.begin s.admission t.number r).session }.setTask
          t.number (some (.ofRequest r))).task? m = a.task? m :=
      fun m other => task?_setTask_of_ne _ other
    have own : ∀ stage, a.Held t stage →
        ({ a with discovery := (a.discovery.begin s.admission t.number r).session }.setTask
          t.number (some (.ofRequest r))).task? t.number =
            some { t with stage := .ofRequest r } :=
      fun stage held => task?_setTask_self
        (a := { a with discovery := (a.discovery.begin s.admission t.number r).session })
        held.task (.ofRequest r)
    cases r with
    | disconnect =>
      obtain ⟨stage, held, -⟩ := fine
      exact fun _ => .inl (covered (own stage held) (.calling h (.inl rfl)))
    | discover =>
      obtain ⟨⟨stage, held⟩, -, update⟩ := fine
      exact fun _ => .inl (covered (own stage held) (.calling (.inl update) (.inr rfl)))
    | isOpen =>
      obtain ⟨⟨stage, held⟩, -⟩ := fine
      exact (held.open_called h (by simp) (by simp [told])).rest rfl others
    | connect =>
      obtain ⟨⟨stage, held⟩, -⟩ := fine
      exact (held.open_called h (by simp) (by simp [told])).rest rfl others
  | @serve t r reply told =>
    right
    cases r with
    | disconnect =>
      obtain ⟨stage, held, -⟩ := fine
      have idle := (held.called s .disconnect).parted rfl (by simp [told])
      intro link
      rw [(Discovery.isBusy_eq_false_iff.mp idle).1] at link
      cases link
    | discover =>
      obtain ⟨⟨stage, held⟩, -⟩ := fine
      intro link
      rw [(held.called s .discover).discovered rfl (by simp [told])] at link
      cases link
    | isOpen =>
      obtain ⟨⟨stage, held⟩, -⟩ := fine
      have called := held.called s .isOpen
      by_cases linked : reply = .connected (.ok ())
      · intro link
        rcases called.link link with before | ⟨connects, -⟩
        · rw [called.linked (told.trans (congrArg some linked))] at before
          cases before
        · cases connects
      · exact held.open_called h (by simp) (by simpa [told] using linked)
    | connect =>
      obtain ⟨⟨stage, held⟩, -⟩ := fine
      by_cases linked : reply = .connected (.ok ())
      · rw [linked]
        trivial
      · rw [minded_unconnected linked]
        exact held.open_called h (by simp) (by simpa [told] using linked)
  | busy => exact .inr h
  | idle => exact .inr h
  | connected => exact .inr trivial
  | unconnected other =>
    rw [minded_unconnected other] at h
    exact .inr h
  | started => exact .inr h
  | parted => exact .inr h
  | cleared => exact .inr h
  | nothing => exact .inr h
  | sink => exact .inr h
  | other => exact .inr h
  | dialing => exact .inr (h.rest rfl fun m other => task?_setTask_of_ne _ other)
  | dialed => exact .inr h
  | hangingUp => exact .inr (h.rest rfl fun m other => task?_setTask_of_ne _ other)
  | hungUp => exact .inr h
  | left => exact .inr (h.rest rfl fun m other => task?_setTask_of_ne _ other)

private theorem Watched.moves {K : Nat → Prop} (fine : a.Fine p) (h : a.Watched s K p)
    (moves : Moves s a p actions b) : b.Watched s K .rest := by
  induction moves with
  | rest => exact h
  | @move a b c p q now later move _ ih =>
    refine ih (fine.move move) ?_
    rcases h with closed | disowned | ⟨jobs, minded⟩
    · exact .inl (move.closed closed)
    · exact .inr (.inl (move.owned.trans disowned))
    · rcases minded.move fine move with closed | minded'
      · exact .inl closed
      · refine .inr (.inr ⟨?_, minded'⟩)
        intro n u there parting
        rcases move.task there with old | ⟨u', place, old, rfl, places⟩
        · exact jobs n u old parting
        · cases places with
          | wait t r =>
            cases r with
            | disconnect =>
              -- The task in hand is a job, and it is the one that is noted.
              obtain ⟨stage, held, -⟩ := fine
              rw [held.task, Option.some.injEq] at old
              subst old
              exact minded
            | _ => cases parting
          | dial => cases parting
          | hangUp => cases parting

/-! ### Entries -/

/-- An entry closes no attachment and opens none again. -/
theorem Entry.closed {e : Event} (entry : Entry s a e actions b p) : b.closed = a.closed := by
  cases entry with
  | startRound => rw [attachment_absorb, closed_addReports]
  | resumeRound => rw [attachment_absorb, closed_addReports]
  | summoned summons => cases summons <;> rfl
  | received summons => cases summons <;> rfl
  | _ => rfl

/-- An entry leaves the owner alone, or the owner lets go. -/
theorem Entry.owned {e : Event} (entry : Entry s a e actions b p) :
    b.owned = a.owned ∨ b.owned = false := by
  cases entry with
  | startRound => rw [attachment_absorb, owned_addReports]; exact .inl rfl
  | resumeRound => rw [attachment_absorb, owned_addReports]; exact .inl rfl
  | summoned summons =>
    cases summons with
    | inquire => exact .inl rfl
    | close => exact .inr rfl
  | received summons =>
    cases summons with
    | inquire => exact .inl rfl
    | close => exact .inr rfl
  | disowned => exact .inr rfl
  | _ => exact .inl rfl

/-- A task that starts to run is a report that is maybe discarded, or it did not lead. -/
theorem Open.perform {K : Nat → Prop} {e : Event} {t : Task} {n : Nat} (h : a.Open K none)
    (performs : Performs a s e t) (there : a.task? n = some t)
    (idle : t.stage = .queued ∨ t.stage = .waiting) (discovery : b.discovery = a.discovery)
    (tasks : ∀ m, m ≠ n → b.task? m = a.task? m)
    (strands : Strands a s e → K a.discovery.count) : b.Minded s K (.perform t) := by
  by_cases report : ∃ services, t.errand = .report services
  · right
    refine ⟨report, fun gone link => ?_⟩
    rw [discovery] at link ⊢
    obtain ⟨services, report⟩ := report
    exact strands ⟨link, gone, t, services, performs, report⟩
  · left
    refine h.imp discovery fun m u _ listed leads => ?_
    have other : m ≠ n := by
      rintro rfl
      rw [there, Option.some.injEq] at listed
      subst listed
      cases leads with
      | calling _ stage => rcases idle with idle | idle <;> simp [idle] at stage
      | reporting services found => exact report ⟨services, found⟩
    refine ⟨?_, (tasks m other).trans listed⟩
    rw [number_of_task? there]
    exact fun same => other (Option.some.inj same)

/-- A task that has waited for something else did not lead. -/
theorem Open.resume {K : Nat → Prop} {t : Task} {n : Nat} (h : a.Open K none)
    (there : a.task? n = some t) (idle : ¬ t.Leads) (discovery : b.discovery = a.discovery)
    (tasks : b.tasks = a.tasks) : b.Open K (some t.number) := by
  refine h.imp discovery fun m u _ listed leads => ⟨?_, (task?_eq_of_tasks tasks m).trans listed⟩
  rintro same
  rw [Option.some.injEq, number_of_task? there] at same
  subst same
  rw [there, Option.some.injEq] at listed
  exact idle (listed ▸ leads)

/-- A step of the session on behalf of a task that waits. -/
theorem Open.session {K : Nat → Prop} {n : Nat} {place : Discovery.CallStage}
    (h : a.Open K none) (signal : Signal) (sound : a.Sound)
    (listed : a.discovery.callStage? n = some place) (asks : place.request ≠ .disconnect)
    (told : (a.discovery.resume s.admission n signal).reply ≠ some (.connected (.ok ()))) :
    Open K { a with discovery := (a.discovery.resume s.admission n signal).session } none := by
  intro link
  have called := Discovery.resume_called sound.session listed s.admission signal
  have before : a.discovery.link.isSome = true := by
    rcases called.link link with before | ⟨-, connected⟩
    · exact before
    · exact absurd connected told
  have count := called.count_eq asks told
  rcases h before with covered | known
  · exact .inl covered
  · right
    have same : K (a.discovery.resume s.admission n signal).session.count := count ▸ known
    exact same

/-- A round gives the link back together with a report. -/
theorem Open.advanced {K : Nat → Prop} {n : Nat} {o : Discovery.Outcome} (h : a.Open K none)
    (sound : a.Sound) (advanced : Discovery.Advanced a.discovery n o) :
    (a.absorb o).attachment.Open K none := by
  have passed := advanced.passed sound.session
  rw [attachment_absorb]
  intro link
  rw [discovery_addReports] at link ⊢
  rcases passed.delivered with silent | ⟨services, one, -⟩
  · rw [silent]
    rcases passed.link link with before | delivers
    · rcases h before with covered | known
      · exact .inl covered
      · right
        have same : K o.session.count := (passed.count_eq link) ▸ known
        exact same
    · exact absurd silent delivers
  · rw [one]
    left
    have added := task?_addTask_self (.report services) .queued
      (a := { a with discovery := o.session }) sound.fresh
    exact covered added (.reporting services rfl (.inl rfl))

private theorem Minded.entry {K : Nat → Prop} {e : Event} (h : a.Open K none) (sound : a.Sound)
    (jobs : ∀ n t, a.task? n = some t → t.stage = .parting → t.IsJob)
    (entry : Entry s a e actions b p) (strands : Strands a s e → K a.discovery.count) :
    b.owned = false ∨ b.Minded s K p := by
  have asking : ∀ m u, a.task? m = some u → m ≠ a.nextTask ∧
      ((a.addTask .inquire .waiting).claimed a.nextTask).task? m = a.task? m := by
    intro m u there
    have other := Nat.ne_of_lt (sound.number_lt m u there)
    exact ⟨other, task?_summoned_of_ne other⟩
  cases entry with
  | ignored => exact .inr h
  | noted =>
    refine .inr (h.imp rfl fun m u other there _ => ⟨other, ?_⟩)
    exact (task?_addTask_of_ne _ _ (Nat.ne_of_lt (sound.number_lt m u there))).trans there
  | unbonded _ there queued update =>
    refine .inr (h.imp rfl fun m u other listed leads => ⟨other, ?_⟩)
    refine (task?_setTask_of_ne _ ?_).trans listed
    rintro rfl
    rw [there, Option.some.injEq] at listed
    subst listed
    cases leads with
    | calling _ stage => simp [queued] at stage
    | reporting services found => simp [update] at found
  | dropped _ _ _ gone =>
    left
    have both : a.owned = false ∧ a.tasks.any Task.holds = false := by
      simpa [isAlive] using gone
    exact both.1
  | @queue n t there queued admitted taken =>
    right
    intro link
    rcases h link with ⟨m, u, -, listed, leads⟩ | known
    · left
      by_cases same : m = n
      · subst same
        rw [there, Option.some.injEq] at listed
        subst listed
        cases leads with
        | calling _ stage => simp [queued] at stage
        | reporting services found =>
          exact covered (task?_claimed_self there) (.reporting services found (.inr rfl))
      · exact covered ((task?_setTask_of_ne _ same).trans listed) leads
    · exact .inr known
  | @enter n t there queued admitted free =>
    exact .inr (h.perform (.start there queued admitted free) there (.inl queued) rfl
      (fun m other => task?_setTask_of_ne _ other) strands)
  | @grant n t there waiting holder =>
    exact .inr (h.perform (.grant there waiting holder) there (.inr waiting) rfl
      (fun m other => rfl) strands)
  | @hungUp n t outcome there stage =>
    refine .inr (h.resume there ?_ rfl rfl)
    rintro (⟨-, place⟩ | ⟨services, -, place⟩) <;> simp [stage] at place
  | @dialed n t psm outcome there stage =>
    refine .inr (h.resume there ?_ rfl rfl)
    rintro (⟨-, place⟩ | ⟨services, -, place⟩) <;> simp [stage] at place
  | @went n t place signal there listed eq told =>
    right
    by_cases asks : place.request = .disconnect
    · -- The task is about to close the link.
      rw [asks] at eq
      intro _
      exact .inl (covered there (.calling (jobs n t there eq) (.inl eq)))
    · exact h.session signal sound listed asks (by simp [told])
  | @answered n t place reply signal there listed eq told =>
    right
    have called := Discovery.resume_called sound.session listed s.admission signal
    have asked : place.request = .isOpen ∨ place.request = .connect →
        reply ≠ .connected (.ok ()) →
        Open K { a with discovery := (a.discovery.resume s.admission n signal).session }
          (some t.number) := by
      intro request other
      have before := h.session (s := s) signal sound listed
        (by rcases request with request | request <;> simp [request])
        (by simpa [told] using other)
      refine before.resume there ?_ rfl rfl
      rintro (⟨-, stage⟩ | ⟨services, -, stage⟩) <;>
        rcases request with request | request <;> simp [eq, request, Stage.ofRequest] at stage
    cases request : place.request with
    | disconnect =>
      intro link
      have idle := called.parted request (by simp [told])
      rw [(Discovery.isBusy_eq_false_iff.mp idle).1] at link
      cases link
    | discover =>
      intro link
      rw [called.discovered request (by simp [told])] at link
      cases link
    | isOpen =>
      by_cases linked : reply = .connected (.ok ())
      · intro link
        rcases called.link link with before | ⟨connects, -⟩
        · rw [called.linked (told.trans (congrArg some linked))] at before
          cases before
        · rw [request] at connects
          cases connects
      · exact asked (.inl request) linked
    | connect =>
      by_cases linked : reply = .connected (.ok ())
      · rw [linked]
        trivial
      · rw [minded_unconnected linked]
        exact asked (.inr request) linked
  | startRound => exact .inr (h.advanced sound (Discovery.startRound_advanced _ _))
  | resumeRound => exact .inr (h.advanced sound (Discovery.resumeRound_advanced _ _ _ _))
  | summoned summons taken =>
    cases summons with
    | inquire =>
      exact .inr (h.imp rfl fun m u _ there _ =>
        ⟨Option.some_ne_none m, (asking m u there).2.trans there⟩)
    | close => exact .inl rfl
  | received summons free =>
    cases summons with
    | inquire =>
      refine .inr (.inl (h.imp rfl fun m u _ there _ => ?_))
      obtain ⟨other, same⟩ := asking m u there
      exact ⟨fun same => other (Option.some.inj same), same.trans there⟩
    | close => exact .inl rfl
  | disowned => exact .inl rfl

private theorem Watched.entry {K : Nat → Prop} {s' : Surroundings} {e : Event}
    (h : a.Watched s' K .rest) (sound : a.Sound) (entry : Entry s a e actions b p)
    (strands : Strands a s e → K a.discovery.count) : b.Watched s K p := by
  rcases h with closed | disowned | ⟨jobs, open_⟩
  · exact .inl (entry.closed.trans closed)
  · exact .inr (.inl (entry.owned.elim (fun same => same.trans disowned) id))
  · rcases Minded.entry open_ sound jobs entry strands with disowned | minded
    · exact .inr (.inl disowned)
    · refine .inr (.inr ⟨?_, minded⟩)
      intro n u there parting
      exact jobs n u (entry.task_of_active there (by rw [parting]; rfl)) parting

/-! ### Runs -/

private theorem Watched.imp {K K' : Nat → Prop} {s' : Surroundings} (h : a.Watched s K .rest)
    (imp : ∀ count, K count → K' count) : a.Watched s' K' .rest := by
  rcases h with closed | disowned | ⟨jobs, open_⟩
  · exact .inl closed
  · exact .inr (.inl disowned)
  · exact .inr (.inr ⟨jobs, fun link => (open_ link).imp_right (imp _)⟩)

/-- Somebody sees to the link after a step, unless the step strands it. -/
theorem Watched.step {K : Nat → Prop} {s' : Surroundings} (h : a.Watched s K .rest)
    (sound : a.Sound) (s : Surroundings) (e : Event)
    (strands : Strands a s e → K a.discovery.count) :
    (a.step s e).attachment.Watched s' K .rest := by
  obtain ⟨_, b, p, _, entry, moves, -⟩ := exists_moves sound s e
  have after := (h.entry sound entry strands).moves (sound.entry entry) moves
  exact after.imp fun _ known => known

/-- In every run, the open link is minded or was left open when a report was discarded. -/
theorem watched_run (begun : a.Begun) (script : Script) (s : Surroundings) :
    (a.run script).Watched s (StrandedAt a script) .rest := by
  induction script using List.reverseRecOn generalizing s with
  | nil =>
    obtain ⟨remote, limit, transport, s', rfl⟩ := begun.eq
    refine Watched.step (s := s') (.inr (.inr ⟨?_, ?_⟩))
      (Sound.blank remote limit transport) s' .notify ?_
    · intro n t there
      simp [task?] at there
    · intro link
      cases link
    · rintro ⟨link, -⟩
      cases link
  | append_singleton script turn ih =>
    obtain ⟨s', e⟩ := turn
    have before : (a.run script).Watched s' (StrandedAt a (script ++ [(s', e)])) .rest :=
      (ih s').imp fun _ known => sometime_append.mpr (.inl known)
    rw [run_append]
    exact before.step (begun.sound.run script) s' e fun strands =>
      sometime_append.mpr (.inr ⟨strands, rfl⟩)

end A2dpSink.Attachment
