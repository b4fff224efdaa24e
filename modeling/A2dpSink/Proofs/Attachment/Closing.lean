import A2dpSink.Proofs.Attachment.Attempts
import A2dpSink.Proofs.Attachment.Settled
import A2dpSink.Proofs.Discovery.Rounds

/-!
# Closing an attachment

The task that closes an attachment closes it to everybody else first, and then closes both links.
When it is over the attachment is shut (`Closable.shut`): nobody owns it, nothing is known and no
link is there. Jobs that are still in the queue, rounds that still wait for an answer and whatever
comes later leave it as it is and open no link (`Shut.step`).
-/

namespace A2dpSink.Attachment

variable {a b c : Attachment} {s : Surroundings} {e : Event} {p q : Point} {actions : List Action}

/-! ### The observer -/

private theorem Move.observing (move : Move s a p actions b q) : b.observing = a.observing := by
  cases move <;> rfl

private theorem Moves.observing (moves : Moves s a p actions b) : b.observing = a.observing := by
  induction moves with
  | rest => rfl
  | move move _ ih => exact ih.trans move.observing

/-- Only the owner who closes or drops the attachment gives up its observer. -/
theorem Entry.observing (entry : Entry s a e actions b p) :
    b.observing = a.observing ∧ b.owned = a.owned ∨
      b.observing = false ∧ b.owned = false ∧
        ∃ removal, e = .close removal ∨ e = .drop removal := by
  have absorbed : ∀ o, (a.absorb o).attachment.observing = a.observing ∧
      (a.absorb o).attachment.owned = a.owned := by
    intro o
    rw [attachment_absorb, owned_addReports, observing_addReports]
    exact ⟨rfl, rfl⟩
  cases entry with
  | startRound => exact .inl (absorbed _)
  | resumeRound => exact .inl (absorbed _)
  | summoned summons =>
    cases summons with
    | inquire => exact .inl ⟨rfl, rfl⟩
    | close removal => exact .inr ⟨rfl, rfl, removal, .inl rfl⟩
  | received summons =>
    cases summons with
    | inquire => exact .inl ⟨rfl, rfl⟩
    | close removal => exact .inr ⟨rfl, rfl, removal, .inl rfl⟩
  | disowned removal => exact .inr ⟨rfl, rfl, removal, .inr rfl⟩
  | _ => exact .inl ⟨rfl, rfl⟩

/-- The observer is taken away only by closing or by letting go. -/
theorem observing_step (sound : a.Sound)
    (kept : ∀ removal, e ≠ .close removal ∧ e ≠ .drop removal) :
    (a.step s e).attachment.observing = a.observing := by
  obtain ⟨_, b, p, _, entry, moves, -⟩ := exists_moves sound s e
  rw [moves.observing]
  rcases entry.observing with ⟨same, -⟩ | ⟨-, -, removal, closes | drops⟩
  · exact same
  · exact absurd closes (kept removal).1
  · exact absurd drops (kept removal).2

/-- An attachment observes its device at first. -/
theorem Begun.observing (h : a.Begun) : a.observing = true := by
  obtain ⟨remote, limit, transport, s, rfl⟩ := h.eq
  exact observing_step (Sound.blank remote limit transport) fun _ => ⟨nofun, nofun⟩

/-! ### The task that closes -/

/-- The task that closes the attachment has closed it to others and forgotten the service. It leaves
when nothing is left to clear up. -/
def Closing (a : Attachment) : Point → Prop
  | .rest => ∀ n t, a.task? n = some t → t.errand = .close → t.stage.isActive = true →
      a.closed = true ∧ a.service = {} ∧ (t.stage = .parting ∨
        t.stage = .hangingUp ∧ a.discovery.isBusy = false ∧ a.transport.isOpen = false)
  | .perform _ => True
  | .call t _ => t.errand = .close → a.closed = true ∧ a.service = {}
  | .answered t _ _ => t.errand = .close → a.closed = true ∧ a.service = {}
  | .settle t _ => t.errand ≠ .close
  | .dial t _ => t.errand ≠ .close
  | .hangUp t =>
    t.errand = .close → a.closed = true ∧ a.service = {} ∧ a.discovery.isBusy = false
  | .leave t reply => reply = some .closed → t.errand = .close ∧ a.closed = true ∧ a.Cleared

-- The task in hand is the only one that makes use of the lock.
private theorem Held.closing_setTask {t : Task} {stage place : Stage} (held : a.Held t stage)
    (tasks : b.tasks = (a.setTask t.number (some place)).tasks)
    (own : t.errand = .close → place.isActive = true →
      b.closed = true ∧ b.service = {} ∧ (place = .parting ∨
        place = .hangingUp ∧ b.discovery.isBusy = false ∧ b.transport.isOpen = false)) :
    b.Closing .rest := by
  intro n u there close active
  rw [task?_eq_of_tasks tasks] at there
  rcases task?_of_setTask_some there with ⟨other, old⟩ | ⟨rfl, u', old, rfl⟩
  · exact absurd (held.eq_of_active old active).1 other
  · rw [held.task, Option.some.injEq] at old
    subst old
    exact own close active

private theorem farewell_eq_closed {t : Task} (h : farewell t = some .closed) :
    t.errand = .close := by
  unfold farewell at h
  split at h
  · assumption
  · cases h

private theorem Closing.move (fine : a.Fine p) (h : a.Closing p) (move : Move s a p actions b q) :
    b.Closing q := by
  cases move with
  | reset _ update => exact fun close => absurd (update.symm.trans close) nofun
  | probe update => exact fun close => absurd (update.symm.trans close) nofun
  | redial update => exact fun close => absurd (update.symm.trans close) nofun
  | heed report => exact fun close => absurd (report.symm.trans close) nofun
  | shut => exact fun _ => ⟨rfl, rfl⟩
  | @wait t r told =>
    cases r with
    | disconnect =>
      obtain ⟨stage, held, -⟩ := fine
      refine held.closing_setTask rfl ?_
      intro close _
      exact ⟨(h close).1, (h close).2, .inl rfl⟩
    | _ =>
      obtain ⟨⟨stage, held⟩, -, update⟩ := fine
      refine held.closing_setTask rfl ?_
      intro close
      rw [update] at close
      cases close
  | serve => exact h
  | idle => exact h
  | connected => exact h
  | parted report => exact fun close => absurd (report.symm.trans close) nofun
  | cleared =>
    obtain ⟨stage, -, -, idle⟩ := fine
    exact fun close => ⟨(h close).1, (h close).2, idle⟩
  | sink => exact h
  | dialing =>
    obtain ⟨stage, held⟩ := fine
    refine held.closing_setTask rfl ?_
    exact fun close => absurd close h
  | hangingUp =>
    obtain ⟨stage, held⟩ := fine
    refine held.closing_setTask rfl ?_
    intro close _
    obtain ⟨closed, unknown, idle⟩ := h close
    exact ⟨closed, unknown, .inr ⟨rfl, idle, a.transport.isOpen_disconnect⟩⟩
  | hungUp told =>
    intro reply
    have close := farewell_eq_closed reply
    obtain ⟨closed, unknown, idle⟩ := h close
    refine ⟨close, closed, ?_⟩
    exact {
      status := a.transport.status_disconnect (by simp [told])
      service := unknown
      discovery := idle
      transport := a.transport.isOpen_disconnect }
  | @left t reply =>
    obtain ⟨stage, held⟩ := fine
    intro n u there close active
    obtain ⟨other, old⟩ := task?_of_setTask_none there
    exact absurd (held.eq_of_active old active).1 other
  | _ => exact fun reply => nomatch reply

/-- What holds of an attachment on its way to be closed: one task does it, sent by the last owner,
and its observer is gone by then. -/
structure Closable (a : Attachment) (p : Point) : Prop where
  closing : a.Closing p
  letGo : a.LetGo
  alone : ∀ n m t u, a.task? n = some t → a.task? m = some u →
    t.errand = .close → u.errand = .close → n = m
  unobserved : a.owned = false → a.observing = false

/-- A move gives no task another errand. -/
theorem Move.errand (move : Move s a p actions b q) {n : Nat} {t : Task}
    (there : b.task? n = some t) : ∃ t', a.task? n = some t' ∧ t'.errand = t.errand := by
  rcases move.task there with old | ⟨t', place, old, rfl, -⟩
  · exact ⟨t, old, rfl⟩
  · exact ⟨t', old, rfl⟩

private theorem Closable.move (fine : a.Fine p) (h : a.Closable p) (move : Move s a p actions b q) :
    b.Closable q where
  closing := h.closing.move fine move
  letGo := h.letGo.move fine move
  alone n m t u there listed close close' := by
    obtain ⟨t', there', same⟩ := move.errand there
    obtain ⟨u', at', same'⟩ := move.errand listed
    exact h.alone n m t' u' there' at' (same.trans close) (same'.trans close')
  unobserved disowned := by
    rw [move.observing]
    exact h.unobserved (move.owned.symm.trans disowned)

/-! ### Entries -/

private theorem Closing.entry (h : a.Closing .rest) (sound : a.Sound)
    (entry : Entry s a e actions b p) : b.Closing p := by
  -- Unless the task that closes goes on, it finds everything as it was.
  have kept : b.service = a.service →
      (b.discovery.isBusy = true → a.discovery.isBusy = true) → b.transport = a.transport →
      b.Closing .rest := by
    intro service busy transport n t there close active
    obtain ⟨closed, unknown, stage⟩ := h n t (entry.task_of_active there active) close active
    refine ⟨entry.closed.trans closed, service.trans unknown, ?_⟩
    rcases stage with parting | ⟨hangingUp, idle, shut⟩
    · exact .inl parting
    · refine .inr ⟨hangingUp, ?_, transport ▸ shut⟩
      rw [← Bool.not_eq_true] at idle ⊢
      exact mt busy idle
  cases entry with
  | enter => trivial
  | grant => trivial
  | @hungUp n t outcome there hangingUp =>
    intro reply
    have close := farewell_eq_closed reply
    obtain ⟨closed, unknown, stage⟩ := h n t there close (by rw [hangingUp]; rfl)
    rcases stage with parting | ⟨-, idle, shut⟩
    · rw [hangingUp] at parting
      cases parting
    · refine ⟨close, closed, ?_⟩
      exact {
        status := a.transport.status_closed outcome
        service := unknown
        discovery := idle
        transport := (a.transport.isOpen_closed outcome).trans shut }
  | dialed => exact fun reply => nomatch reply
  | @went n t place signal there listed asks told =>
    intro m u there' close active
    have active' : t.stage.isActive = true := by
      rw [asks]
      cases place.request <;> rfl
    obtain ⟨rfl, rfl⟩ := sound.eq_of_active there active' there' active
    obtain ⟨closed, unknown, parting | ⟨hangingUp, -⟩⟩ := h m u there close active
    · exact ⟨closed, unknown, .inl parting⟩
    · rw [hangingUp] at asks
      cases request : place.request <;> simp [request, Stage.ofRequest] at asks
  | @answered n t place reply signal there listed asks told =>
    intro close
    have active : t.stage.isActive = true := by
      rw [asks]
      cases place.request <;> rfl
    obtain ⟨closed, unknown, -⟩ := h n t there close active
    exact ⟨closed, unknown⟩
  | startRound =>
    exact kept (service_absorb _) (busy_absorb sound (Discovery.startRound_advanced _ _))
      (transport_absorb _)
  | resumeRound =>
    exact kept (service_absorb _) (busy_absorb sound (Discovery.resumeRound_advanced _ _ _ _))
      (transport_absorb _)
  | summoned summons => cases summons <;> exact kept rfl id rfl
  | received => trivial
  | _ => exact kept rfl id rfl

private theorem Closable.entry (h : a.Closable .rest) (sound : a.Sound)
    (entry : Entry s a e actions b p) : b.Closable p where
  closing := h.closing.entry sound entry
  letGo := h.letGo.entry entry
  alone n m t u there listed close close' := by
    -- Two tasks that close are both old, for the owner who sends one owns nothing afterwards.
    have disowned : ∀ {n' t'}, a.task? n' = some t' → t'.errand = .close → a.owned ≠ true := by
      intro n' t' old closes
      rw [h.letGo.closing n' t' old closes]
      exact Bool.false_ne_true
    rcases entry.closing there close with ⟨t', old, closes⟩ | ⟨rfl, owned, -⟩
    · rcases entry.closing listed close' with ⟨u', old', closes'⟩ | ⟨-, owned, -⟩
      · exact h.alone n m t' u' old old' closes closes'
      · exact absurd owned (disowned old closes)
    · rcases entry.closing listed close' with ⟨u', old', closes'⟩ | ⟨rfl, -, -⟩
      · exact absurd owned (disowned old' closes')
      · rfl
  unobserved disowned := by
    rcases entry.observing with ⟨observing, owned⟩ | ⟨unobserved, -⟩
    · rw [observing]
      exact h.unobserved (owned.symm.trans disowned)
    · exact unobserved

private theorem Closable.moves (fine : a.Fine p) (h : a.Closable p)
    (moves : Moves s a p actions b) : b.Closable .rest := by
  induction moves with
  | rest => exact h
  | move move _ ih => exact ih (fine.move move) (h.move fine move)

/-- A step leaves an attachment closable. -/
theorem Closable.step (h : a.Closable .rest) (sound : a.Sound) (s : Surroundings) (e : Event) :
    (a.step s e).attachment.Closable .rest := by
  obtain ⟨_, b, p, _, entry, moves, -⟩ := exists_moves sound s e
  exact (h.entry sound entry).moves (sound.entry entry) moves

/-- A run leaves an attachment closable. -/
theorem Closable.run (h : a.Closable .rest) (sound : a.Sound) (script : Script) :
    (a.run script).Closable .rest := by
  induction script generalizing a with
  | nil => exact h
  | cons turn script ih =>
    exact ih (h.step sound turn.1 turn.2) (sound.step turn.1 turn.2)

private theorem Begun.closable (h : a.Begun) : a.Closable .rest := by
  obtain ⟨remote, limit, transport, s, rfl⟩ := h.eq
  have blank : Closable { remote, discovery := { remote, queryLimit := limit }, transport }
      .rest := by
    constructor
    · intro n t there
      cases there
    · exact ⟨nofun, fun n t there => nomatch there⟩
    · intro n m t u there
      cases there
    · intro disowned
      cases disowned
  exact blank.run (Sound.blank remote limit transport) _

/-- An attachment is closable at any time of its life. -/
theorem Reached.closable (h : a.Reached) : a.Closable .rest := by
  obtain ⟨a₀, script, begun, rfl⟩ := h
  exact begun.closable.run begun.sound script

/-! ### When closing is over -/

/-- Nobody owns the attachment, and there is nothing left to do for it. -/
structure Shut (a : Attachment) : Prop where
  closed : a.closed = true
  owned : a.owned = false
  observing : a.observing = false
  cleared : a.Cleared
  idle : ∀ n t, a.task? n = some t → t.stage.isActive = false ∧ t.errand ≠ .close

private theorem reply_not_mem_absorb (a : Attachment) (o : Discovery.Outcome) {n : Nat}
    {r : Reply} : Action.reply n r ∉ (a.absorb o).actions := by
  rw [absorb]
  generalize { a with discovery := o.session } = a'
  induction o.actions generalizing a' with
  | nil => simp [translate]
  | cons action actions ih =>
    cases action with
    | wake party => cases party <;> simpa [translate] using ih a'
    | deliver services => simpa [translate] using ih _
    | _ => simpa [translate] using ih a'

private theorem Entry.reply_not_mem (entry : Entry s a e actions b p) {n : Nat} {r : Reply} :
    Action.reply n r ∉ actions := by
  cases entry with
  | went | answered | startRound | resumeRound => exact reply_not_mem_absorb _ _
  | _ => simp

/-- Only a task that leaves says so. -/
theorem Move.reply (move : Move s a p actions b q) {n : Nat} {r : Reply}
    (replies : Action.reply n r ∈ actions) :
    ∃ t, p = .leave t (some r) ∧ t.number = n ∧ q = .rest ∧
      b = (a.leave t.number (some r)).attachment := by
  cases move with
  | wait => exact absurd replies (reply_not_mem_absorb _ _)
  | serve => exact absurd replies (reply_not_mem_absorb _ _)
  | @left t reply =>
    simp only [leave, List.mem_append, Option.mem_toList, Option.map_eq_some_iff, reduceCtorEq,
      and_false, exists_false, false_or] at replies
    obtain ⟨r', rfl, same⟩ := replies
    obtain ⟨rfl, rfl⟩ := Action.reply.inj same
    exact ⟨t, rfl, rfl, rfl, rfl⟩
  | _ => simp at replies

private theorem Closable.shut_leave {t : Task} {stage : Stage} (held : a.Held t stage)
    (h : a.Closable (.leave t (some .closed))) :
    (a.leave t.number (some .closed)).attachment.Shut := by
  obtain ⟨close, closed, cleared⟩ := h.closing rfl
  have disowned : a.owned = false := h.letGo.closing _ _ held.task close
  constructor
  · exact closed
  · exact disowned
  · exact h.unobserved disowned
  · exact cleared.imp rfl id rfl
  · intro n u there
    obtain ⟨other, old⟩ := task?_of_setTask_none there
    constructor
    · rw [← Bool.not_eq_true]
      exact fun active => other (held.eq_of_active old active).1
    · intro closes
      exact other (h.alone n t.number u _ old held.task closes close)

private theorem Closable.shut_moves (fine : a.Fine p) (h : a.Closable p)
    (moves : Moves s a p actions b)
    {n : Nat} (returned : Action.reply n .closed ∈ actions) : b.Shut := by
  induction moves with
  | rest => cases returned
  | move move moves ih =>
    rcases List.mem_append.mp returned with now | later
    · obtain ⟨t, rfl, -, rfl, rfl⟩ := move.reply now
      obtain ⟨stage, held⟩ := fine
      rw [moves.eq_of_rest]
      exact h.shut_leave held
    · exact ih (fine.move move) (h.move fine move) later

/-- An attachment is shut when the task that closes it is over. -/
theorem Closable.shut (h : a.Closable .rest) (sound : a.Sound) {n : Nat}
    (returned : Action.reply n .closed ∈ (a.step s e).actions) : (a.step s e).attachment.Shut := by
  obtain ⟨first, b, p, later, entry, moves, eq⟩ := exists_moves sound s e
  rw [eq] at returned
  rcases List.mem_append.mp returned with now | later
  · exact absurd now entry.reply_not_mem
  · exact (h.entry sound entry).shut_moves (sound.entry entry) moves later

/-! ### Afterwards -/

/-- The service, the status and both links are the same. -/
structure Same (a b : Attachment) : Prop where
  service : b.service = a.service
  transport : b.transport = a.transport
  link : b.discovery.link = a.discovery.link
  discovering : b.discovery.discovering = a.discovery.discovering
  count : b.discovery.count = a.discovery.count

/-- What an attachment shows of itself stays the same when nothing happens. -/
theorem Same.refl (a : Attachment) : a.Same a := ⟨rfl, rfl, rfl, rfl, rfl⟩

/-- What an attachment shows of itself stays the same over two stretches if it does over each. -/
theorem Same.trans (h : a.Same b) (h' : b.Same c) : a.Same c where
  service := h'.service.trans h.service
  transport := h'.transport.trans h.transport
  link := h'.link.trans h.link
  discovering := h'.discovering.trans h.discovering
  count := h'.count.trans h.count

private theorem Cleared.same (h : a.Cleared) (same : a.Same b) : b.Cleared := by
  refine h.imp same.service ?_ same.transport
  rw [Discovery.isBusy, Discovery.isBusy, same.link, same.discovering]
  exact id

/-- Nobody makes use of the lock from this point on. -/
def Point.IsVain : Point → Prop
  | .rest => True
  | .perform t => t.errand ≠ .close
  | .leave _ _ => True
  | _ => False

private theorem Shut.move (h : a.Shut) (vain : p.IsVain) (move : Move s a p actions b q) :
    q.IsVain ∧ a.Same b ∧ attempts actions = [] ∧ b.Shut := by
  have unclosed : a.closed ≠ false := by simp [h.closed]
  cases move with
  | late => exact ⟨trivial, .refl a, rfl, h⟩
  | discard => exact ⟨trivial, .refl a, rfl, h⟩
  | tell => exact ⟨trivial, .refl a, rfl, h⟩
  | shut close => exact absurd close vain
  | reset _ _ open_ => exact absurd open_ unclosed
  | probe _ open_ => exact absurd open_ unclosed
  | keep _ open_ => exact absurd open_ unclosed
  | redial _ open_ => exact absurd open_ unclosed
  | pass _ _ open_ => exact absurd open_ unclosed
  | heed _ open_ => exact absurd open_ unclosed
  | @left t reply =>
    have same : a.Same (a.leave t.number reply).attachment := ⟨rfl, rfl, rfl, rfl, rfl⟩
    refine ⟨trivial, same, attempts_leave _ _ _, ?_⟩
    refine ⟨h.closed, h.owned, h.observing, h.cleared.same same, ?_⟩
    intro n u there
    exact h.idle n u (task?_of_setTask_none there).2
  | _ => exact vain.elim

private theorem Shut.moves (h : a.Shut) (vain : p.IsVain) (moves : Moves s a p actions b) :
    a.Same b ∧ attempts actions = [] ∧ b.Shut := by
  induction moves with
  | rest => exact ⟨.refl _, rfl, h⟩
  | move move _ ih =>
    obtain ⟨vain, same, quiet, h⟩ := h.move vain move
    obtain ⟨same', quiet', h⟩ := ih h vain
    refine ⟨same.trans same', ?_, h⟩
    rw [attempts_append, quiet, quiet']
    rfl

-- Rounds that were under way when the attachment was closed come to nothing.
private theorem Shut.same_absorb (h : a.Shut) (sound : a.Sound) {n : Nat} {o : Discovery.Outcome}
    (advanced : Discovery.Advanced a.discovery n o) : a.Same (a.absorb o).attachment := by
  have idle := (Discovery.isBusy_eq_false_iff.mp h.cleared.discovery).2
  obtain ⟨link, discovering, count⟩ := advanced.unchanged sound.session.ordered idle
  constructor
  · exact service_absorb o
  · exact transport_absorb o
  all_goals rw [attachment_absorb, discovery_addReports]
  · exact link
  · exact discovering
  · exact count

/-- What an event may start with when the attachment is shut: a job that finds nothing to do. -/
theorem Shut.entry (h : a.Shut) (sound : a.Sound) (entry : Entry s a e actions b p) :
    p.IsVain ∧ a.Same b ∧ attempts actions = [] ∧ b.Shut := by
  have idle : ∀ {n t}, a.task? n = some t → t.stage.isActive ≠ true := by
    intro n t there
    simp [(h.idle n t there).1]
  have ownerless : a.owned ≠ true := by simp [h.owned]
  have shut : a.Same b → b.Shut := by
    intro same
    constructor
    · exact entry.closed.trans h.closed
    · exact entry.owned.elim (fun same => same.trans h.owned) id
    · exact entry.observing.elim (fun same => same.1.trans h.observing) And.left
    · exact h.cleared.same same
    · intro n t there
      constructor
      · rw [← Bool.not_eq_true]
        exact fun active => idle (entry.task_of_active there active) active
      · intro close
        rcases entry.closing there close with ⟨t', old, closes⟩ | ⟨-, owned, -⟩
        · exact (h.idle n t' old).2 closes
        · exact ownerless owned
  have still : a.Same b → p.IsVain → attempts actions = [] →
      p.IsVain ∧ a.Same b ∧ attempts actions = [] ∧ b.Shut :=
    fun same vain quiet => ⟨vain, same, quiet, shut same⟩
  cases entry with
  | ignored lines => exact still (.refl a) trivial (attempts_log lines)
  | enter there => exact still ⟨rfl, rfl, rfl, rfl, rfl⟩ (h.idle _ _ there).2 rfl
  | grant there => exact still (.refl a) (h.idle _ _ there).2 rfl
  | hungUp outcome there hangingUp => exact absurd (by rw [hangingUp]; rfl) (idle there)
  | dialed psm outcome there opening => exact absurd (by rw [opening]; rfl) (idle there)
  | @went n t place signal there listed asks =>
    exact absurd (by rw [asks]; cases place.request <;> rfl) (idle there)
  | @answered n t place reply signal there listed asks =>
    exact absurd (by rw [asks]; cases place.request <;> rfl) (idle there)
  | startRound =>
    have advanced := Discovery.startRound_advanced a.discovery
    refine still (h.same_absorb sound (advanced _)) trivial ?_
    rw [attempts_absorb]
    exact (advanced _).attempts
  | resumeRound signal =>
    have advanced := Discovery.resumeRound_advanced a.discovery s.admission
    refine still (h.same_absorb sound (advanced _ signal)) trivial ?_
    rw [attempts_absorb]
    exact (advanced _ signal).attempts
  | summoned summons => cases summons <;> exact absurd ‹a.owned = true› ownerless
  | received summons => cases summons <;> exact absurd ‹a.owned = true› ownerless
  | disowned _ _ owned => exact absurd owned ownerless
  | _ => exact still ⟨rfl, rfl, rfl, rfl, rfl⟩ trivial rfl

/-- Whatever happens to an attachment that is shut, it stays as it is and opens no link. -/
theorem Shut.step (h : a.Shut) (sound : a.Sound) (s : Surroundings) (e : Event) :
    a.Same (a.step s e).attachment ∧ attempts (a.step s e).actions = [] ∧
      (a.step s e).attachment.Shut := by
  obtain ⟨first, b, p, later, entry, moves, eq⟩ := exists_moves sound s e
  obtain ⟨vain, same, quiet, shut⟩ := h.entry sound entry
  obtain ⟨same', quiet', shut'⟩ := shut.moves vain moves
  refine ⟨same.trans same', ?_, shut'⟩
  rw [eq, attempts_append, quiet, quiet']
  rfl

end A2dpSink.Attachment
