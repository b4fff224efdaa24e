import A2dpSink.Proofs.Attachment.Findings
import A2dpSink.Proofs.Attachment.Knowledge
import A2dpSink.Proofs.Attachment.Watched

/-!
# Attempts to open a link

A step opens one link at most, and only while no other one is being opened. The task that waits for
it holds the lock and has found the device connected (`sighted_run`); it opens the discovery link
when nothing is known and nobody discovers, or the transport link to the sink that is known.
-/

namespace A2dpSink

/-! ### What is opened -/

/-- What a link is to be opened to. -/
@[simp]
def Effect.connect? : Effect → Option Psm
  | .connect psm => some psm
  | _ => none

namespace Transport

/-- Publishing a status opens no link. -/
theorem attempts_publish (t : Transport) (status : ConnectionStatus) :
    (t.publish status).2.filterMap Effect.connect? = [] := by
  unfold publish
  split <;> simp

/-- A link that has closed opens no other. -/
theorem attempts_closed (t : Transport) (outcome : CloseOutcome) :
    (t.closed outcome).effects.filterMap Effect.connect? = [] := by
  simp only [closed, List.filterMap_cons, Effect.connect?]
  exact t.attempts_publish _

/-- A link that has opened, or failed to, opens no other. -/
theorem attempts_opened (t : Transport) (psm : Psm) (outcome : OpenOutcome) :
    (t.opened psm outcome).effects.filterMap Effect.connect? = [] := by
  unfold opened
  split
  · simp only [List.filterMap_cons, Effect.connect?]
    exact attempts_publish _ _
  · simp

/-- Closing the link opens none. -/
theorem attempts_disconnect (t : Transport) :
    t.disconnect.effects.filterMap Effect.connect? = [] := by
  unfold disconnect
  split
  · simp
  · exact t.attempts_publish _

/-- A transport that is not open starts to connect, and one that is does not. -/
theorem attempts_connect (t : Transport) (psm : Psm) :
    (t.connect psm).reply = none ∧ t.channel = none ∧ (t.connect psm).transport = t ∧
        (t.connect psm).effects.filterMap Effect.connect? = [psm] ∨
      (t.connect psm).reply ≠ none ∧ (t.connect psm).effects.filterMap Effect.connect? = [] := by
  unfold connect
  split
  · exact .inr ⟨by simp, rfl⟩
  · next shut =>
    refine .inl ⟨rfl, ?_, rfl, rfl⟩
    simpa [isOpen] using shut

end Transport

namespace Discovery

variable {d : Discovery} {n : Nat}

/-- What links are to be opened to. -/
def attempts (actions : List Action) : List Psm :=
  actions.filterMap fun
    | .effect e => e.connect?
    | _ => none

/-- Attempts are counted action by action. -/
@[simp] theorem attempts_append (a b : List Action) :
    attempts (a ++ b) = attempts a ++ attempts b :=
  List.filterMap_append

/-- Reporting something opens no link. -/
@[simp] theorem attempts_log (lines : List Log.Line) : attempts (lines.map .log) = [] := by
  simp [attempts]

/-- Giving up the lock opens no link. -/
@[simp] theorem attempts_release (d : Discovery) : attempts d.release.2 = [] := by
  simp only [release]
  cases d.lock.release.holder <;> rfl

private theorem attempts_endCall (d : Discovery) (n : Nat) (actions : List Action) (reply : Reply) :
    attempts (d.endCall n actions reply).actions = attempts actions := by
  simp [endCall]

private theorem attempts_closeRound (d : Discovery) (r : Round) (before after : List Action) :
    attempts (d.closeRound r before after).actions = attempts before ++ attempts after := by
  simp only [closeRound, attempts_append, attempts_release, List.append_nil]
  exact List.append_nil _

/-- Only a call to connect opens a link, and it waits for that. -/
theorem Served.attempts {r : Request} {o : Outcome} (h : Served d n r o) :
    attempts o.actions = [] ∨ r = .connect ∧ attempts o.actions = [Sdp.psm] ∧
      o.session.callStage? n = some .opening ∧ o.reply = none := by
  cases h with
  | opening => exact .inr ⟨rfl, rfl, callStage?_setCall_self d n _, rfl⟩
  | closing lines link =>
    left
    rw [attempts_append, attempts_log]
    rfl
  | unlinked lines => exact .inl (by rw [attempts_endCall, attempts_log])
  | _ => exact .inl (by rw [attempts_endCall]; rfl)

private theorem begin_attempts (d : Discovery) (admission : Except SubmitError Unit) (n : Nat)
    (r : Request) : attempts (d.begin admission n r).actions = [] ∨
      r = .connect ∧ attempts (d.begin admission n r).actions = [Sdp.psm] ∧
        (d.begin admission n r).session.callStage? n = some .opening ∧
        (d.begin admission n r).reply = none := by
  simp only [begin]
  split
  · exact (perform_served _ admission n r).attempts
  · exact .inl rfl

private theorem Resumed.attempts {o : Outcome} (h : Resumed d n o) :
    attempts o.actions = [] ∨ d.callStage? n = some (.waiting .connect) ∧
      attempts o.actions = [Sdp.psm] ∧ o.session.callStage? n = some .opening ∧
      o.reply = none := by
  cases h with
  | still => exact .inl rfl
  | served place holder served =>
    rcases served.attempts with quiet | ⟨rfl, one⟩
    · exact .inl quiet
    · exact .inr ⟨place, one⟩
  | _ => exact .inl (by rw [attempts_endCall]; rfl)

private theorem Concluded.attempts {r : Round} {o : Outcome} (h : Concluded d r o) :
    attempts o.actions = [] := by
  cases h with
  | outlived => exact attempts_closeRound _ _ _ _
  | reported =>
    rw [attempts_append, attempts_release]
    rfl
  | failed lines =>
    rw [attempts_closeRound, attempts_log]
    rfl

/-- A round that goes on opens no link. -/
theorem Advanced.attempts {o : Outcome} (h : Advanced d n o) : attempts o.actions = [] := by
  cases h with
  | waiting => exact attempts_log _
  | answered r lines _ _ _ concluded =>
    rw [attempts_append, attempts_log, concluded.attempts]
    rfl
  | granted r found _ _ _ concluded => exact concluded.attempts
  | _ => rfl

end Discovery

namespace Attachment

variable {a b x : Attachment} {s : Surroundings} {e : Event} {p q : Point} {actions : List Action}

/-- What links are to be opened to. -/
def attempts (actions : List Action) : List Psm :=
  actions.filterMap fun
    | .effect e => e.connect?
    | _ => none

/-- Attempts are counted action by action. -/
@[simp] theorem attempts_append (a b : List Action) :
    attempts (a ++ b) = attempts a ++ attempts b :=
  List.filterMap_append

/-- Reporting something opens no link. -/
@[simp] theorem attempts_log (lines : List Log.Line) : attempts (lines.map .log) = [] := by
  simp [attempts]

/-- The attempts among effects are the links they open. -/
theorem attempts_effect (effects : List Effect) :
    attempts (effects.map .effect) = effects.filterMap Effect.connect? := by
  rw [attempts, List.filterMap_map]
  rfl

/-- The session's attempts are the attachment's. -/
theorem attempts_absorb (a : Attachment) (o : Discovery.Outcome) :
    attempts (a.absorb o).actions = Discovery.attempts o.actions := by
  rw [absorb]
  generalize { a with discovery := o.session } = a'
  induction o.actions generalizing a' with
  | nil => rfl
  | cons action actions ih =>
    cases action with
    | effect e =>
      simp only [translate, actions_after, attempts_append, ih]
      cases e <;> rfl
    | schedule n => simpa [translate, attempts, Discovery.attempts] using ih a'
    | wake p => cases p <;> simpa [translate, attempts, Discovery.attempts] using ih a'
    | deliver services => simpa [translate, attempts, Discovery.attempts] using ih _

/-! ### Links that are being opened -/

/-- A link is being opened for the task `n`, and it is not open yet. -/
inductive Opens (a : Attachment) (n : Nat) : Psm → Prop
  | discovery : a.discovery.callStage? n = some .opening → Opens a n Sdp.psm
  | transport {t : Task} : a.task? n = some t → t.stage = .opening a.service.psm →
      a.service.role = .sink → a.transport.channel = none → Opens a n a.service.psm

/-- Whoever dials does so to the sink that is known. -/
def Aimed (a : Attachment) : Point → Prop
  | .dial _ psm => a.service.role = .sink ∧ psm = a.service.psm
  | _ => True

private theorem Move.aimed (move : Move s a p actions b q) : b.Aimed q := by
  cases move with
  | redial _ _ _ sink => exact ⟨sink, rfl⟩
  | sink lines picked sink => exact ⟨sink, rfl⟩
  | _ => trivial

private theorem Entry.aimed (entry : Entry s a e actions b p) : b.Aimed p := by
  cases entry <;> trivial

/-- Giving up the lock opens no link. -/
theorem attempts_leave (a : Attachment) (n : Nat) (reply : Option Reply) :
    attempts (a.leave n reply).actions = [] := by
  simp only [leave]
  cases a.lock.release.holder <;> cases reply <;> rfl

/-- A move that opens a link is the last one of its step. -/
theorem Move.opens (fine : a.Fine p) (aimed : a.Aimed p) (move : Move s a p actions b q) :
    attempts actions = [] ∨ q = .rest ∧ ∃ n psm, attempts actions = [psm] ∧ b.Opens n psm := by
  cases move with
  | @wait t r told =>
    rw [attempts_absorb]
    rcases a.discovery.begin_attempts s.admission t.number r with quiet | ⟨-, one, opening, -⟩
    · exact .inl quiet
    · exact .inr ⟨rfl, t.number, Sdp.psm, one, .discovery opening⟩
  | @serve t r reply told =>
    rw [attempts_absorb]
    rcases a.discovery.begin_attempts s.admission t.number r with quiet | ⟨-, -, -, silent⟩
    · exact .inl quiet
    · rw [told] at silent
      cases silent
  | @dialing t psm told =>
    rw [attempts_effect]
    rcases a.transport.attempts_connect psm with ⟨-, shut, same, one⟩ | ⟨answers, -⟩
    · obtain ⟨stage, held⟩ := fine
      obtain ⟨sink, rfl⟩ := aimed
      have there := task?_setTask_self
        (a := { a with transport := (a.transport.connect a.service.psm).transport }) held.task
        (.opening a.service.psm)
      refine .inr ⟨rfl, t.number, a.service.psm, one, .transport there rfl sink ?_⟩
      rw [transport_setTask, same]
      exact shut
    · exact absurd told answers
  | @dialed t psm reply told =>
    rw [attempts_effect]
    rcases a.transport.attempts_connect psm with ⟨silent, -⟩ | ⟨-, quiet⟩
    · rw [told] at silent
      cases silent
    · exact .inl quiet
  | hangingUp | hungUp =>
    left
    rw [attempts_effect]
    exact a.transport.attempts_disconnect
  | left => exact .inl (attempts_leave _ _ _)
  | nothing lines | sink lines | other lines => exact .inl (attempts_log lines)
  | _ => exact .inl rfl

private theorem Moves.opens (fine : a.Fine p) (aimed : a.Aimed p) (moves : Moves s a p actions b) :
    attempts actions = [] ∨ ∃ n psm, attempts actions = [psm] ∧ b.Opens n psm := by
  induction moves with
  | rest => exact .inl rfl
  | move move moves ih =>
    rw [attempts_append]
    rcases move.opens fine aimed with quiet | ⟨rfl, n, psm, one, opens⟩
    · rw [quiet]
      exact ih (fine.move move) move.aimed
    · right
      cases moves with
      | rest => exact ⟨n, psm, by rw [one]; rfl, opens⟩
      | move move' => cases move'

/-- An entry that opens a link is all of its step. -/
theorem Entry.opens (entry : Entry s a e actions b p) :
    attempts actions = [] ∨ p = .rest ∧ ∃ n, attempts actions = [Sdp.psm] ∧ b.Opens n Sdp.psm := by
  cases entry with
  | @went n t place signal there listed eq told =>
    rw [attempts_absorb]
    have resumed := Discovery.resume_resumed a.discovery s.admission n signal
    rcases resumed.attempts with quiet | ⟨-, one, opening, -⟩
    · exact .inl quiet
    · exact .inr ⟨rfl, n, one, .discovery opening⟩
  | @answered n t place reply signal there listed eq told =>
    rw [attempts_absorb]
    have resumed := Discovery.resume_resumed a.discovery s.admission n signal
    rcases resumed.attempts with quiet | ⟨-, -, -, silent⟩
    · exact .inl quiet
    · rw [told] at silent
      cases silent
  | startRound =>
    rw [attempts_absorb]
    exact .inl (Discovery.startRound_advanced _ _).attempts
  | resumeRound =>
    rw [attempts_absorb]
    exact .inl (Discovery.resumeRound_advanced _ _ _ _).attempts
  | hungUp outcome =>
    rw [attempts_effect]
    exact .inl (a.transport.attempts_closed outcome)
  | dialed psm outcome =>
    rw [attempts_effect]
    exact .inl (a.transport.attempts_opened psm outcome)
  | ignored lines | disowned removal lines => exact .inl (attempts_log lines)
  | @summoned e errand c lines => exact .inl (attempts_log lines)
  | @received e errand c lines => exact .inl (attempts_log lines)
  | _ => exact .inl rfl

/-- A step opens one link at most, and is over when it does. -/
theorem attempts_step (sound : a.Sound) (s : Surroundings) (e : Event) :
    attempts (a.step s e).actions = [] ∨
      ∃ n psm, attempts (a.step s e).actions = [psm] ∧ (a.step s e).attachment.Opens n psm := by
  obtain ⟨first, b, p, later, entry, moves, eq⟩ := exists_moves sound s e
  rw [eq, attempts_append]
  rcases entry.opens with quiet | ⟨rfl, n, one, opens⟩
  · rw [quiet]
    exact moves.opens (sound.entry entry) entry.aimed
  · right
    cases moves with
    | rest => exact ⟨n, Sdp.psm, by rw [one]; rfl, opens⟩
    | move move => cases move

/-! ### One at a time -/

/-- Somebody waits for a link to open: the task that holds the lock. -/
theorem Sound.awaits_opening_iff (h : a.Sound) {g : Agent} : a.awaits g = .opening ↔
    ∃ n t, g = .task n ∧ a.task? n = some t ∧
      ((∃ psm, t.stage = .opening psm) ∨ a.discovery.callStage? n = some .opening) := by
  constructor
  · intro waits
    cases g with
    | round n =>
      simp only [awaits, Discovery.roundAwaits] at waits
      split at waits <;> cases waits
    | task n =>
      cases there : a.task? n with
      | none => simp [awaits, there] at waits
      | some t =>
        refine ⟨n, t, rfl, there, ?_⟩
        obtain ⟨m, errand, stage⟩ := t
        simp only [awaits, there] at waits
        have called : a.discovery.callAwaits n = .opening →
            a.discovery.callStage? n = some .opening := by
          intro called
          simp only [Discovery.callAwaits] at called
          split at called <;> first | assumption | cases called
        cases stage with
        | opening psm => exact .inl ⟨psm, rfl⟩
        | queued | waiting | hangingUp => cases waits
        | _ => exact .inr (called waits)
  · rintro ⟨n, t, rfl, there, ⟨psm, stage⟩ | called⟩
    · obtain ⟨m, errand, stage'⟩ := t
      cases stage
      simp [awaits, there]
    · obtain ⟨t', there', stage⟩ := h.call n _ called
      obtain ⟨m, errand, stage'⟩ := t'
      cases stage
      rw [awaits, there']
      simp [Discovery.callAwaits, called]

/-- From a point on, no link is opened. -/
def Point.IsSilent : Point → Prop
  | .rest => True
  | .leave _ _ => True
  | .answered _ .connect _ => True
  | .call _ .discover => True
  | .answered _ .discover _ => True
  | _ => False

private theorem Move.silent (move : Move s a p actions b q) (silent : p.IsSilent) :
    q.IsSilent ∧ attempts actions = [] := by
  cases move with
  | @wait t r told =>
    cases r with
    | discover =>
      rw [attempts_absorb]
      rcases a.discovery.begin_attempts s.admission t.number .discover with quiet | ⟨other, -⟩
      · exact ⟨trivial, quiet⟩
      · cases other
    | _ => exact silent.elim
  | @serve t r reply told =>
    cases r with
    | discover =>
      rw [attempts_absorb]
      rcases a.discovery.begin_attempts s.admission t.number .discover with quiet | ⟨other, -⟩
      · exact ⟨trivial, quiet⟩
      · cases other
    | _ => exact silent.elim
  | connected | unconnected | started => exact ⟨trivial, rfl⟩
  | left => exact ⟨trivial, attempts_leave _ _ _⟩
  | _ => exact silent.elim

private theorem Moves.silent (moves : Moves s a p actions b) (silent : p.IsSilent) :
    attempts actions = [] := by
  induction moves with
  | rest => rfl
  | move move _ ih =>
    obtain ⟨silent, quiet⟩ := move.silent silent
    rw [attempts_append, quiet, ih silent]
    rfl

/-- The task for which a link is being opened makes use of the lock. -/
theorem Sound.active_of_opening (h : a.Sound) {n : Nat} {t : Task} (there : a.task? n = some t)
    (waits : (∃ psm, t.stage = .opening psm) ∨ a.discovery.callStage? n = some .opening) :
    t.stage.isActive = true := by
  rcases waits with ⟨psm, stage⟩ | called
  · rw [stage]
    rfl
  · obtain ⟨t', there', stage⟩ := h.call n _ called
    rw [there, Option.some.injEq] at there'
    rw [there', stage]
    rfl

-- A call that goes on while a link is being opened is the one that opens it.
private theorem callStage_of_opening (sound : a.Sound) {n m : Nat} {t u : Task}
    {place : Discovery.CallStage} (there : a.task? n = some t)
    (waits : (∃ psm, t.stage = .opening psm) ∨ a.discovery.callStage? n = some .opening)
    (listed : a.task? m = some u) (called : a.discovery.callStage? m = some place)
    (asks : u.stage = .ofRequest place.request) : place = .opening := by
  have active : u.stage.isActive = true := by
    rw [asks]
    cases place.request <;> rfl
  obtain ⟨rfl, rfl⟩ :=
    sound.eq_of_active there (sound.active_of_opening there waits) listed active
  rcases waits with ⟨psm, stage⟩ | opening
  · rw [stage] at asks
    cases request : place.request <;> simp [request, Stage.ofRequest] at asks
  · exact Option.some.inj (called.symm.trans opening)

private theorem attempts_resume_of_opening {n : Nat} {place : Discovery.CallStage}
    (signal : Signal) (called : a.discovery.callStage? n = some place) (opening : place = .opening) :
    attempts (a.absorb (a.discovery.resume s.admission n signal)).actions = [] := by
  subst opening
  rw [attempts_absorb]
  have resumed := Discovery.resume_resumed a.discovery s.admission n signal
  rcases resumed.attempts with quiet | ⟨other, -⟩
  · exact quiet
  · rw [called] at other
    cases other

/-- While a link is being opened for a task that holds the lock, nobody else starts to open one. -/
theorem Entry.silent (entry : Entry s a e actions b p) (sound : a.Sound) {n : Nat} {t : Task}
    (there : a.task? n = some t)
    (waits : (∃ psm, t.stage = .opening psm) ∨ a.discovery.callStage? n = some .opening) :
    p.IsSilent ∧ attempts actions = [] := by
  have active := sound.active_of_opening there waits
  have taken : a.lock.isFree = false :=
    Lock.isFree_eq_false_iff.mpr ⟨n, sound.active n t there active⟩
  cases entry with
  | ignored lines => exact ⟨trivial, attempts_log lines⟩
  | enter _ _ _ free =>
    rw [taken] at free
    cases free
  | grant listed waiting holder =>
    obtain ⟨rfl, rfl⟩ := sound.eq_of_holder there active listed holder
    rw [waiting] at active
    cases active
  | hungUp outcome listed stage =>
    obtain ⟨rfl, rfl⟩ := sound.eq_of_active there active listed (by rw [stage]; rfl)
    rcases waits with ⟨psm, stage'⟩ | called
    · rw [stage] at stage'
      cases stage'
    · obtain ⟨t', there', stage'⟩ := sound.call _ _ called
      rw [there, Option.some.injEq] at there'
      rw [← there', stage] at stage'
      cases stage'
  | dialed psm outcome =>
    rw [attempts_effect]
    exact ⟨trivial, a.transport.attempts_opened psm outcome⟩
  | went signal listed called stage =>
    have opening := callStage_of_opening sound there waits listed called stage
    exact ⟨trivial, attempts_resume_of_opening signal called opening⟩
  | answered signal listed called stage =>
    obtain rfl := callStage_of_opening sound there waits listed called stage
    exact ⟨trivial, attempts_resume_of_opening signal called rfl⟩
  | startRound =>
    rw [attempts_absorb]
    exact ⟨trivial, (Discovery.startRound_advanced _ _).attempts⟩
  | resumeRound =>
    rw [attempts_absorb]
    exact ⟨trivial, (Discovery.resumeRound_advanced _ _ _ _).attempts⟩
  | @summoned e errand c lines => exact ⟨trivial, attempts_log lines⟩
  | received summons free =>
    cases summons <;> exact absurd (taken.symm.trans free) (by simp)
  | disowned removal lines => exact ⟨trivial, attempts_log lines⟩
  | _ => exact ⟨trivial, rfl⟩

/-- While a link is being opened, no other one is. -/
theorem attempts_of_opening (sound : a.Sound) {g : Agent} (opening : a.awaits g = .opening)
    (s : Surroundings) (e : Event) : attempts (a.step s e).actions = [] := by
  obtain ⟨n, t, rfl, there, waits⟩ := sound.awaits_opening_iff.mp opening
  obtain ⟨first, b, p, later, entry, moves, eq⟩ := exists_moves sound s e
  obtain ⟨silent, quiet⟩ := entry.silent sound there waits
  rw [eq, attempts_append, quiet, moves.silent silent]
  rfl

end Attachment

end A2dpSink
