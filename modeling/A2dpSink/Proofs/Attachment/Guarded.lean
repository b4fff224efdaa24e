import A2dpSink.Proofs.Attachment.Attempts

/-!
# Every attempt is guarded

Whoever opens a link works for a job that has found the device connected, and the attachment not
closed (`Sighted`). Together with what is known about links that are being opened, this gives the
guards of every attempt (`attempts_guarded`).
-/

namespace A2dpSink.Attachment

variable {a b x : Attachment} {s : Surroundings} {e : Event} {p q : Point} {actions : List Action}
  {K : Nat → Prop}

/-! ### What a task has found -/

/-- The job of the task `n` finds the device connected, and the attachment is not closed. -/
def Finds (a : Attachment) (s : Surroundings) (e : Event) (n : Nat) : Prop :=
  ∃ t, Performs a s e t ∧ t.number = n ∧ t.IsJob ∧ a.closed = false ∧ s.flags.connected = true

/-- A task that may still open a link before it gives up the lock. -/
def Task.Reaches (t : Task) : Prop :=
  t.stage.isAsking = true ∨ (∃ psm, t.stage = .opening psm) ∨
    t.stage = .parting ∧ ∃ services, t.errand = .report services

/-- The attachment is not closed, and the task `n` has found the device connected: in the step of
`x`, or `K` holds of it. -/
def Found (x : Attachment) (s : Surroundings) (e : Event) (K : Nat → Prop) (a : Attachment)
    (n : Nat) : Prop :=
  a.closed = false ∧ (K n ∨ Finds x s e n)

/-- What is known about the task in hand at a point of a step. -/
def Sighting (x : Attachment) (s : Surroundings) (e : Event) (K : Nat → Prop) (a : Attachment) :
    Point → Prop
  | .perform t => a.task? t.number = some { t with stage := .waiting } ∧ a.closed = x.closed ∧
      (t.IsJob → Performs x s e t)
  | .call t .disconnect => (∃ services, t.errand = .report services) → Found x s e K a t.number
  | .call t _ => Found x s e K a t.number
  | .answered t .disconnect _ =>
      (∃ services, t.errand = .report services) → Found x s e K a t.number
  | .answered t _ _ => Found x s e K a t.number
  | .settle t _ => Found x s e K a t.number
  | .dial t _ => Found x s e K a t.number
  | _ => True

/-- Tasks that may open a link have found the device connected. -/
structure Sighted (x : Attachment) (s : Surroundings) (e : Event) (K : Nat → Prop)
    (a : Attachment) (p : Point) : Prop where
  tasks : ∀ n t, a.task? n = some t → t.Reaches → Found x s e K a n
  point : Sighting x s e K a p

private theorem Task.Reaches.active {t : Task} (h : t.Reaches) : t.stage.isActive = true := by
  rcases h with asking | ⟨psm, stage⟩ | ⟨stage, -⟩
  · cases place : t.stage <;> simp_all [Stage.isAsking, Stage.isActive]
  · rw [stage]
    rfl
  · rw [stage]
    rfl

/-- The task in hand goes to a place from where it may open a link only if it has found the device
connected. -/
theorem Sighting.places (fine : a.Fine p) (h : Sighting x s e K a p) {n : Nat} {u : Task}
    {place : Stage} (there : a.task? n = some u) (places : p.Places n place)
    (reaches : Task.Reaches { u with stage := place }) : Found x s e K a n := by
  cases places with
  | wait t r =>
    cases r with
    | disconnect =>
      obtain ⟨stage, held, -⟩ := fine
      rw [held.task, Option.some.injEq] at there
      subst there
      rcases reaches with asking | ⟨psm, place⟩ | ⟨-, report⟩
      · cases asking
      · cases place
      · exact h report
    | _ => exact h
  | dial => exact h
  | hangUp =>
    rcases reaches with asking | ⟨psm, place⟩ | ⟨place, -⟩
    · cases asking
    · cases place
    · cases place

private theorem Sighted.move (fine : a.Fine p) (h : Sighted x s e K a p)
    (move : Move s a p actions b q) : Sighted x s e K b q := by
  obtain ⟨tasks, point⟩ := h
  have kept : b.closed = a.closed →
      ∀ n t, b.task? n = some t → t.Reaches → Found x s e K b n := by
    intro closed n t there reaches
    rw [Found, closed]
    rcases move.task there with old | ⟨u, place, old, rfl, places⟩
    · exact tasks n t old reaches
    · exact point.places fine old places reaches
  cases move with
  | reset line update =>
    refine ⟨kept rfl, ?_⟩
    rintro ⟨services, report⟩
    rw [update] at report
    cases report
  | probe update unclosed connected =>
    obtain ⟨-, closed, performs⟩ := point
    have performs := performs (.inl update)
    exact ⟨kept rfl, unclosed, .inr ⟨_, performs, rfl, .inl update, closed ▸ unclosed, connected⟩⟩
  | redial update unclosed connected =>
    obtain ⟨-, closed, performs⟩ := point
    have performs := performs (.inl update)
    exact ⟨kept rfl, unclosed, .inr ⟨_, performs, rfl, .inl update, closed ▸ unclosed, connected⟩⟩
  | @heed t services report unclosed connected =>
    obtain ⟨-, closed, performs⟩ := point
    have performs := performs (.inr ⟨services, report⟩)
    exact ⟨kept rfl, fun _ => ⟨unclosed, .inr ⟨t, performs, rfl, .inr ⟨services, report⟩,
      closed ▸ unclosed, connected⟩⟩⟩
  | @shut t close =>
    obtain ⟨stage, held, -⟩ := fine
    constructor
    · -- Only the task that closes makes use of the lock, and it has not gone anywhere yet.
      intro n u there reaches
      obtain ⟨rfl, rfl⟩ := held.eq_of_active there reaches.active
      have waiting := Option.some.inj (held.task.symm.trans point.1)
      rw [waiting] at reaches
      have active := reaches.active
      cases active
    · rintro ⟨services, report⟩
      rw [close] at report
      cases report
  | @serve t r reply told => cases r <;> exact ⟨kept rfl, point⟩
  | idle => exact ⟨kept rfl, point⟩
  | connected => exact ⟨kept rfl, point⟩
  | parted report => exact ⟨kept rfl, point ⟨_, report⟩⟩
  | sink => exact ⟨kept rfl, point⟩
  | _ => exact ⟨kept rfl, trivial⟩

private theorem Sighted.moves (fine : a.Fine p) (h : Sighted x s e K a p)
    (moves : Moves s a p actions b) : Sighted x s e K b .rest := by
  induction moves with
  | rest => exact h
  | move move _ ih => exact ih (fine.move move) (h.move fine move)

/-- An entry lets a job do what it is there for only when it gets the lock. -/
theorem Entry.performs {t : Task} (entry : Entry s a e actions b (.perform t)) (job : t.IsJob) :
    Performs a s e t := by
  cases entry with
  | enter there queued admitted free => exact .start there queued admitted free
  | grant there waiting holder => exact .grant there waiting holder
  | received summons =>
    cases summons <;> rcases job with update | ⟨services, report⟩ <;> contradiction

private theorem Entry.sighted (sound : a.Sound)
    (h : ∀ n t, a.task? n = some t → t.Reaches → a.closed = false ∧ K n)
    (entry : Entry s a e actions b p) : Sighted a s e K b p := by
  have closed := entry.closed
  have tasks : ∀ n t, b.task? n = some t → t.Reaches → Found a s e K b n := by
    intro n t there reaches
    obtain ⟨unclosed, known⟩ := h n t (entry.task_of_active there reaches.active) reaches
    exact ⟨closed.trans unclosed, .inl known⟩
  have performs : ∀ t, p = .perform t → t.IsJob → Performs a s e t := by
    rintro t rfl
    exact entry.performs
  refine ⟨tasks, ?_⟩
  cases entry with
  | @enter n t there =>
    have number := number_of_task? there
    subst number
    exact ⟨task?_claimed_self there, rfl, performs t rfl⟩
  | @grant n t there waiting =>
    have number := number_of_task? there
    subst number
    exact ⟨by rw [there, ← waiting], rfl, performs t rfl⟩
  | @answered n t place reply signal there listed stage told =>
    have number := number_of_task? there
    subst number
    cases request : place.request with
    | disconnect =>
      exact fun report => tasks _ t there (.inr (.inr ⟨by rw [stage, request]; rfl, report⟩))
    | _ => exact tasks _ t there (.inl (by rw [stage, request]; rfl))
  | @received e errand c lines summons free =>
    have fresh : c.task? c.nextTask = none := (sound.summons summons).fresh
    exact ⟨task?_claimed_self (task?_addTask_self errand .waiting fresh), closed, performs _ rfl⟩
  | _ => trivial

private theorem found_of_step (sound : a.Sound)
    (h : ∀ n t, a.task? n = some t → t.Reaches → a.closed = false ∧ K n) {n : Nat} {t : Task}
    (there : (a.step s e).attachment.task? n = some t) (reaches : t.Reaches) :
    Found a s e K (a.step s e).attachment n := by
  obtain ⟨first, b, p, later, entry, moves, -⟩ := exists_moves sound s e
  exact ((entry.sighted sound h).moves (sound.entry entry) moves).tasks n t there reaches

/-- In a run, a task has found the device connected. -/
def HasFound (a : Attachment) (script : Script) (n : Nat) : Prop :=
  a.Sometime script fun b s e => Finds b s e n

/-- Whoever may open a link has found the device connected, and the attachment was not closed then
and is not closed now. -/
theorem sighted_run (begun : a.Begun) (script : Script) {n : Nat} {t : Task}
    (there : (a.run script).task? n = some t) (reaches : t.Reaches) :
    (a.run script).closed = false ∧ a.HasFound script n := by
  induction script using List.reverseRecOn generalizing n t with
  | nil =>
    obtain ⟨remote, limit, transport, s, rfl⟩ := begun.eq
    have sound := Sound.blank remote limit transport
    obtain ⟨-, never | ⟨t, performs, -⟩⟩ := found_of_step (K := fun _ => False) sound
      (fun n t there => by cases there) there reaches
    · exact never.elim
    · cases performs
  | append_singleton script turn ih =>
    obtain ⟨s, e⟩ := turn
    rw [run_append] at there ⊢
    obtain ⟨unclosed, found⟩ :=
      found_of_step (begun.sound.run script) (fun n t there reaches => ih there reaches) there
        reaches
    exact ⟨unclosed, sometime_append.mpr found⟩

/-! ### Attempts -/

/-- The guards of an attempt: `b` becomes `c` in a step that starts to open a link to `psm` for the
task `n`. -/
structure Guarded (b c : Attachment) (n : Nat) (psm : Psm) : Prop where
  holder : c.lock.holder = some n
  unclosed : c.closed = false
  /-- Nobody was waiting for a link to open. -/
  free : ∀ g, b.awaits g ≠ .opening
  /-- Now the task is, and nobody else. -/
  alone : ∀ g, c.awaits g = .opening ↔ g = .task n
  /-- It is the discovery link, and nothing is known and nobody discovers; or it is the link to the
  channel of the sink that is known, and there is none yet. -/
  target :
    psm = Sdp.psm ∧ c.service.role = .unknown ∧ c.discovery.link = none ∧
        (∀ r ∈ c.discovery.rounds, r.count ≠ c.discovery.count) ∨
      psm = c.service.psm ∧ psm ≠ 0 ∧ c.service.role = .sink ∧ c.transport.channel = none

/-- The task for which a link is being opened. -/
theorem Opens.task {n : Nat} {psm : Psm} (h : a.Opens n psm) (sound : a.Sound) :
    ∃ t, a.task? n = some t ∧ t.Reaches ∧
      ((∃ psm, t.stage = .opening psm) ∨ a.discovery.callStage? n = some .opening) := by
  cases h with
  | discovery called =>
    obtain ⟨t, there, stage⟩ := sound.call n _ called
    exact ⟨t, there, .inl (by rw [stage]; rfl), .inr called⟩
  | transport there stage => exact ⟨_, there, .inr (.inl ⟨_, stage⟩), .inl ⟨_, stage⟩⟩

private theorem Opens.alone {n : Nat} {psm : Psm} (h : a.Opens n psm) (sound : a.Sound)
    (g : Agent) : a.awaits g = .opening ↔ g = .task n := by
  obtain ⟨t, there, reaches, opening⟩ := h.task sound
  constructor
  · intro waits
    obtain ⟨m, u, rfl, listed, opening'⟩ := sound.awaits_opening_iff.mp waits
    have active := sound.active_of_opening listed opening'
    rw [(sound.eq_of_active there reaches.active listed active).1]
  · rintro rfl
    exact sound.awaits_opening_iff.mpr ⟨n, t, rfl, there, opening⟩

private theorem Opens.target {n : Nat} {psm : Psm} (h : a.Opens n psm) (sound : a.Sound)
    (usable : a.service.Usable) :
    psm = Sdp.psm ∧ a.service.role = .unknown ∧ a.discovery.link = none ∧
        (∀ r ∈ a.discovery.rounds, r.count ≠ a.discovery.count) ∨
      psm = a.service.psm ∧ psm ≠ 0 ∧ a.service.role = .sink ∧ a.transport.channel = none := by
  cases h with
  | discovery called =>
    obtain ⟨t, there, stage⟩ := sound.call n _ called
    have unknown := (sound.asking n t there (by rw [stage]; rfl)).1
    have idle := (sound.session.linking n (.inl called)).2
    obtain ⟨link, quiet⟩ := Discovery.isBusy_eq_false_iff.mp idle
    refine .inl ⟨rfl, unknown, link, fun r there current => ?_⟩
    rw [sound.session.ordered.discovering r there current] at quiet
    cases quiet
  | transport _ _ sink shut => exact .inr ⟨rfl, usable sink, sink, shut⟩

private theorem attempts_notify (a : Attachment) (s : Surroundings) :
    attempts (a.notify s).actions = [] := by
  unfold notify
  split
  · split <;> rfl
  · rfl

private theorem attempts_create {settings : Settings} {remote : Address} {s : Surroundings}
    {actions : List Action}
    (created : create settings remote (.ok ()) s = .ok (.ok a, actions)) :
    attempts actions = [] := by
  obtain ⟨limit, -, rfl⟩ := create_eq_ok created
  have assigned : (Transport.create remote).2.filterMap Effect.connect? = [] :=
    Transport.attempts_publish _ _
  rw [attempts_append, attempts_effect, assigned, attempts_notify]
  rfl

/-- Every attempt to open a link is guarded: the creation of an attachment makes none, and a step
makes at most one, for a task that has found the device connected. -/
theorem attempts_guarded {settings : Settings} {remote : Address} {s₀ : Surroundings}
    {first : List Action} (created : create settings remote (.ok ()) s₀ = .ok (.ok a, first)) :
    attempts first = [] ∧ ∀ (script : Script) (s : Surroundings) (e : Event),
      attempts ((a.run script).step s e).actions = [] ∨
        ∃ n psm, attempts ((a.run script).step s e).actions = [psm] ∧
          Guarded (a.run script) ((a.run script).step s e).attachment n psm ∧
          a.HasFound (script ++ [(s, e)]) n := by
  have begun : a.Begun := ⟨settings, remote, s₀, first, created⟩
  refine ⟨attempts_create created, fun script s e => ?_⟩
  have sound := begun.sound.run script
  rcases attempts_step sound s e with quiet | ⟨n, psm, one, opens⟩
  · exact .inl quiet
  · right
    have run : a.run (script ++ [(s, e)]) = ((a.run script).step s e).attachment :=
      run_append a script [(s, e)]
    have sound' := sound.step s e
    have usable := begun.usable.run begun.sound (script ++ [(s, e)])
    rw [run] at usable
    obtain ⟨t, there, reaches, -⟩ := opens.task sound'
    have holder := sound'.active n t there reaches.active
    rw [← run] at there
    obtain ⟨unclosed, found⟩ := sighted_run begun _ there reaches
    rw [run] at unclosed
    refine ⟨n, psm, one, ⟨holder, unclosed, ?_, opens.alone sound', opens.target sound'
      usable.service⟩, found⟩
    intro g waits
    rw [attempts_of_opening sound waits] at one
    cases one

/-- The first update and the first report of a speaker make an attempt each. -/
theorem attempts_guarded_finding : ∃ first,
    create {} attached.remote (.ok ()) present = .ok (.ok attached, first) ∧
    attempts (attached.step present (.start 0)).actions = [Sdp.psm] ∧
    attempts ((attached.run finding).step present (.resume 1 (.closed .closed))).actions = [25] ∧
    (attempts first = [] ∧ ∀ (script : Script) (s : Surroundings) (e : Event),
      attempts ((attached.run script).step s e).actions = [] ∨
        ∃ n psm, attempts ((attached.run script).step s e).actions = [psm] ∧
          Guarded (attached.run script) ((attached.run script).step s e).attachment n psm ∧
          attached.HasFound (script ++ [(s, e)]) n) := by
  obtain ⟨first, created⟩ := attached_created (s := present) rfl
  exact ⟨first, created, rfl, rfl, attempts_guarded created⟩

end A2dpSink.Attachment
