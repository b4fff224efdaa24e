import A2dpSink.Proofs.Attachment.Attempts
import A2dpSink.Proofs.Attachment.Course

/-!
# What a dropped attachment still does

An owner that lets go of an attachment without closing it leaves behind whatever keeps the
attachment in being: updates, and reports that have started. Up to the end of the last of them
nothing tells a dropped attachment from one that is still owned (`step_disown`), so they open what
they would have opened. From then on nothing is opened, whatever rounds are still to end and whatever
reports they leave (`step_of_not_alive`). `drop_outlived` puts the two together.
-/

namespace A2dpSink.Attachment

variable {a : Attachment} {s : Surroundings} {e : Event}

/-! ### Letting go -/

/-- Nobody owns the attachment any more. -/
def disown (a : Attachment) : Attachment := { a with observing := false, owned := false }

/-- What comes of a step, with nobody to own it. -/
def Outcome.disown (o : Outcome) : Outcome := ⟨o.attachment.disown, o.actions⟩

private theorem step_drop (owned : a.owned = true) (s : Surroundings)
    (removal : Except ObserverError Unit) :
    (a.step s (.drop removal)).attachment = a.disown := by
  simp only [step, owned, if_true, stopObserving]
  split
  · cases removal <;> rfl
  · next blind =>
    rw [Bool.not_eq_true] at blind
    rw [disown, ← blind]

/-- The event comes from the owner. -/
def Event.IsOwners : Event → Prop
  | .inquire | .close _ | .drop _ => True
  | _ => False

/-! ### The owner makes no difference to what is done

Whatever a task does reads neither of the two fields. -/

private theorem after_disown {o o' : Outcome} (same : o' = o.disown) (actions : List Action) :
    o'.after actions = (o.after actions).disown := by
  rw [same]
  rfl

private theorem leave_disown (a : Attachment) (n : Nat) (reply : Option Reply) :
    a.disown.leave n reply = (a.leave n reply).disown := rfl

private theorem openTransport_disown (a : Attachment) (n : Nat) (psm : Psm) :
    a.disown.openTransport n psm = (a.openTransport n psm).disown := by
  have same : a.disown.transport = a.transport := rfl
  simp only [openTransport, same]
  cases (a.transport.connect psm).reply <;> rfl

private theorem hangUp_disown (a : Attachment) (t : Task) :
    a.disown.hangUp t = (a.hangUp t).disown := by
  have same : a.disown.transport = a.transport := rfl
  simp only [hangUp, same]
  cases a.transport.disconnect.reply <;> rfl

private theorem settle_disown (a : Attachment) (n : Nat) (services : List AudioService) :
    a.disown.settle n services = (a.settle n services).disown := by
  simp only [settle]
  cases pick services with
  | none => rfl
  | some service =>
    simp only
    split
    · have opened := openTransport_disown { a with service } n service.psm
      exact after_disown opened _
    · rfl

private theorem parted_disown (a : Attachment) (t : Task) :
    a.disown.parted t = (a.parted t).disown := by
  simp only [parted]
  cases t.errand with
  | report services => exact settle_disown a t.number services
  | _ => exact hangUp_disown a t

private theorem absorb_disown (a : Attachment) (o : Discovery.Outcome) :
    a.disown.absorb o = (a.absorb o).disown := by
  have translated : ∀ (a : Attachment) (actions : List Discovery.Action),
      a.disown.translate actions = (a.translate actions).disown := by
    intro a actions
    induction actions generalizing a with
    | nil => rfl
    | cons action actions ih =>
      cases action with
      | effect e => exact after_disown (ih a) _
      | schedule n => exact after_disown (ih a) _
      | wake p => cases p <;> exact after_disown (ih a) _
      | deliver services =>
        exact after_disown (ih (a.addTask (.report services) .queued)) _
  exact translated { a with discovery := o.session } o.actions

private theorem call_disown (a : Attachment) (s : Surroundings) (n : Nat) (r : Discovery.Request)
    (stage : Stage) {continuation : Attachment → Discovery.Reply → Outcome}
    (same : ∀ b reply, continuation b.disown reply = (continuation b reply).disown) :
    a.disown.call s n r stage continuation = (a.call s n r stage continuation).disown := by
  have session : a.disown.discovery = a.discovery := rfl
  simp only [call, session, absorb_disown]
  cases (a.discovery.begin s.admission n r).reply with
  | none => rfl
  | some reply =>
    exact after_disown (same (a.absorb _).attachment reply) _

private theorem connected_disown (a : Attachment) (s : Surroundings) (n : Nat)
    (reply : Discovery.Reply) : a.disown.connected s n reply = (a.connected s n reply).disown := by
  unfold connected
  split
  · exact call_disown a s n .discover .starting fun b _ => leave_disown b n none
  · rfl

private theorem probed_disown (a : Attachment) (s : Surroundings) (n : Nat)
    (reply : Discovery.Reply) : a.disown.probed s n reply = (a.probed s n reply).disown := by
  unfold probed
  split
  · exact call_disown a s n .connect .connecting fun b reply => connected_disown b s n reply
  · rfl

private theorem answered_disown (a : Attachment) (s : Surroundings) (t : Task)
    (reply : Discovery.Reply) : a.disown.answered s t reply = (a.answered s t reply).disown := by
  unfold answered
  cases t.stage with
  | parting => exact parted_disown a t
  | probing => exact probed_disown a s t.number reply
  | connecting => exact connected_disown a s t.number reply
  | _ => rfl

private theorem part_disown (a : Attachment) (s : Surroundings) (t : Task) :
    a.disown.part s t = (a.part s t).disown :=
  call_disown a s t.number .disconnect .parting fun b _ => parted_disown b t

private theorem perform_disown (a : Attachment) (s : Surroundings) (t : Task) :
    a.disown.perform s t = (a.perform s t).disown := by
  unfold perform
  cases t.errand with
  | update =>
    have closed : a.disown.closed = a.closed := rfl
    have service : a.disown.service = a.service := rfl
    have transport : a.disown.transport = a.transport := rfl
    simp only [update, closed, service, transport]
    split
    · rfl
    · split
      · have parted := part_disown { a with service := {} } s t
        exact after_disown parted _
      · cases a.service.role with
        | unknown =>
          exact call_disown a s t.number .isOpen .probing fun b reply =>
            probed_disown b s t.number reply
        | sink =>
          simp only
          split
          · rfl
          · exact openTransport_disown a t.number a.service.psm
        | _ => rfl
  | report services =>
    have closed : a.disown.closed = a.closed := rfl
    simp only [closed]
    split
    · rfl
    · exact part_disown a s t
  | close => exact part_disown { a with closed := true, service := {} } s t
  | inquire => rfl

private theorem claim_disown (a : Attachment) (s : Surroundings) (t : Task) :
    a.disown.claim s t = (a.claim s t).disown := by
  have lock : a.disown.lock = a.lock := rfl
  have waiting : { a.disown with lock := a.lock.request t.number }.setTask t.number
        (some .waiting) =
      ({ a with lock := a.lock.request t.number }.setTask t.number (some .waiting)).disown := rfl
  simp only [claim, lock, waiting]
  split
  · exact perform_disown _ s t
  · rfl

private theorem resume_disown (a : Attachment) (s : Surroundings) (n : Nat) (signal : Signal) :
    a.disown.resume s n signal = (a.resume s n signal).disown := by
  have there : a.disown.task? n = a.task? n := rfl
  have lock : a.disown.lock = a.lock := rfl
  have session : a.disown.discovery = a.discovery := rfl
  have transport : a.disown.transport = a.transport := rfl
  unfold resume
  rw [there]
  cases a.task? n with
  | none => rfl
  | some t =>
    simp only [lock, session, transport, absorb_disown]
    split
    · split
      · exact perform_disown a s t
      · rfl
    · rfl
    · rfl
    · split
      · next reply _ => exact after_disown (answered_disown (a.absorb _).attachment s t reply) _
      · rfl

/-- As long as a task keeps it in being, an attachment does the same with and without an owner. -/
theorem step_disown (held : a.tasks.any (·.holds) = true) (others : ¬ e.IsOwners)
    (s : Surroundings) : a.disown.step s e = (a.step s e).disown := by
  have alive : a.isAlive = true := by
    rw [isAlive, held, Bool.or_true]
  have alive' : a.disown.isAlive = true := held
  cases e with
  | notify =>
    simp only [step, notify, alive, alive', if_true]
    cases s.admission <;> rfl
  | start n =>
    have there : a.disown.task? n = a.task? n := rfl
    simp only [step, start, there, alive, alive', if_true]
    cases a.task? n with
    | none => rfl
    | some t =>
      simp only
      split
      · split
        · exact claim_disown a s t
        · rfl
      · exact claim_disown a s t
      · rfl
  | resume n signal => exact resume_disown a s n signal
  | startRound n => exact absorb_disown a (a.discovery.startRound n)
  | resumeRound n signal => exact absorb_disown a (a.discovery.resumeRound s.admission n signal)
  | inquire | close | drop => exact absurd trivial others

/-! ### Nothing left -/

/-- All that is left of an attachment that nothing keeps in being are reports in the queue. -/
theorem report_of_not_alive (gone : a.isAlive = false) {n : Nat} {t : Task}
    (there : a.task? n = some t) : t.stage = .queued ∧ ∃ services, t.errand = .report services := by
  rw [isAlive, Bool.or_eq_false_iff, List.any_eq_false] at gone
  have unheld := gone.2 t (List.mem_of_find?_eq_some there)
  unfold Task.holds at unheld
  split at unheld
  · next services errand stage => exact ⟨stage, services, errand⟩
  · exact absurd rfl unheld

private theorem isAlive_addReports (a : Attachment) (found : List (List AudioService)) :
    (a.addReports found).isAlive = a.isAlive := by
  induction found generalizing a with
  | nil => rfl
  | cons services found ih =>
    refine (ih (a.addTask (.report services) .queued)).trans ?_
    simp [isAlive, addTask, Task.holds]

private theorem isAlive_absorb (a : Attachment) (o : Discovery.Outcome) :
    (a.absorb o).attachment.isAlive = a.isAlive := by
  rw [attachment_absorb]
  exact isAlive_addReports { a with discovery := o.session } _

private theorem isAlive_setTask_none (gone : a.isAlive = false) (n : Nat) :
    (a.setTask n none).isAlive = false := by
  rw [isAlive, Bool.or_eq_false_iff] at gone ⊢
  refine ⟨gone.1, ?_⟩
  rw [List.any_eq_false] at gone ⊢
  exact fun t there => gone.2 t (List.mem_filter.mp there).1

-- No task gets anywhere in an attachment that nothing keeps in being.
private theorem Entry.of_not_alive {actions : List Action} {b : Attachment} {p : Point}
    (entry : Entry s a e actions b p) (gone : a.isAlive = false) :
    p = .rest ∧ b.isAlive = false ∧ attempts actions = [] := by
  have started : ∀ {n : Nat} {t : Task}, a.task? n = some t → t.stage ≠ .queued → False :=
    fun there stage => stage (report_of_not_alive gone there).1
  have admitted : ∀ {n : Nat} {t : Task}, a.task? n = some t → a.Admitted s t → False := by
    rintro n t there (⟨update, -⟩ | ⟨services, -, alive⟩)
    · obtain ⟨-, services, report⟩ := report_of_not_alive gone there
      cases update.symm.trans report
    · cases gone.symm.trans alive
  have owned : a.owned = true → False := by
    intro owned
    rw [isAlive, owned] at gone
    cases gone
  cases entry with
  | ignored lines => exact ⟨rfl, gone, attempts_log lines⟩
  | noted alive => cases gone.symm.trans alive
  | unbonded => exact ⟨rfl, isAlive_setTask_none gone _, rfl⟩
  | dropped => exact ⟨rfl, isAlive_setTask_none gone _, rfl⟩
  | queue there _ admits => exact (admitted there admits).elim
  | enter there _ admits => exact (admitted there admits).elim
  | grant there stage => exact (started there (by simp [stage])).elim
  | hungUp _ there stage => exact (started there (by simp [stage])).elim
  | dialed _ _ there stage => exact (started there (by simp [stage])).elim
  | @went _ _ place _ there _ stage =>
    refine (started there ?_).elim
    cases request : place.request <;> simp [stage, request, Stage.ofRequest]
  | @answered _ _ place _ _ there _ stage =>
    refine (started there ?_).elim
    cases request : place.request <;> simp [stage, request, Stage.ofRequest]
  | startRound =>
    refine ⟨rfl, (isAlive_absorb a _).trans gone, ?_⟩
    rw [attempts_absorb]
    exact (Discovery.startRound_advanced _ _).attempts
  | resumeRound =>
    refine ⟨rfl, (isAlive_absorb a _).trans gone, ?_⟩
    rw [attempts_absorb]
    exact (Discovery.resumeRound_advanced _ _ _ _).attempts
  | summoned summons | received summons =>
    cases summons with
    | inquire there | close _ _ there => exact (owned there).elim
  | disowned _ _ there => exact (owned there).elim

/-- An attachment that nothing keeps in being does not come back, and opens nothing. -/
theorem step_of_not_alive (sound : a.Sound) (gone : a.isAlive = false) (s : Surroundings)
    (e : Event) :
    (a.step s e).attachment.isAlive = false ∧ attempts (a.step s e).actions = [] := by
  obtain ⟨first, b, p, later, entry, moves, eq⟩ := exists_moves sound s e
  obtain ⟨rfl, gone, quiet⟩ := entry.of_not_alive gone
  cases moves with
  | rest => exact ⟨gone, by rw [eq, List.append_nil, quiet]⟩
  | move move => cases move

/-- Nothing is opened any more. -/
theorem attempts_deeds_of_not_alive (sound : a.Sound) (gone : a.isAlive = false)
    (script : Script) : attempts (a.deeds script) = [] := by
  induction script generalizing a with
  | nil => rfl
  | cons turn script ih =>
    obtain ⟨gone, quiet⟩ := step_of_not_alive sound gone turn.1 turn.2
    rw [deeds, attempts_append, quiet, ih (sound.step turn.1 turn.2) gone]
    rfl

/-! ### Runs -/

/-- The part of a run up to the end of the last task that keeps the attachment in being. -/
def lasting (a : Attachment) : Script → Script
  | [] => []
  | (s, e) :: rest =>
    if a.tasks.any (·.holds) then (s, e) :: (a.step s e).attachment.lasting rest else []

/-- An attachment without an owner opens what it would have opened with one, up to the end of the
last task that keeps it in being. -/
theorem attempts_deeds_disown (sound : a.Sound) {script : Script}
    (others : ∀ turn ∈ script, ¬ turn.2.IsOwners) :
    attempts (a.disown.deeds script) = attempts (a.deeds (a.lasting script)) := by
  have sound' : a.disown.Sound := sound.same rfl rfl rfl rfl rfl
  induction script generalizing a with
  | nil => rfl
  | cons turn script ih =>
    obtain ⟨s, e⟩ := turn
    cases held : a.tasks.any (·.holds) with
    | false =>
      have gone : a.disown.isAlive = false := held
      rw [attempts_deeds_of_not_alive sound' gone]
      simp only [lasting, held]
      rfl
    | true =>
      have same := step_disown held (others _ List.mem_cons_self) s
      have later := ih (sound.step s e) (fun turn there => others turn (List.mem_cons_of_mem _ there))
        ((sound.step s e).same rfl rfl rfl rfl rfl)
      simp only [lasting, held, if_true, deeds, same, attempts_append]
      rw [← later]
      rfl

/-- A dropped attachment opens nothing but what the tasks open that keep it in being. In every run
of an attachment in which its owner lets go of it, the links that are opened from then on are those
that would have been opened until the last task is over that keeps the attachment in being: an update
whose job is in the queue or runs, or a report whose job has started. If there is no such task,
nothing is opened at all, whatever rounds are under way, whatever reports are in the queue, and
whatever the device does. -/
theorem drop_outlived (begun : a.Begun) (before after : Script) (s : Surroundings)
    (removal : Except ObserverError Unit) (owned : (a.run before).owned = true)
    (others : ∀ turn ∈ after, ¬ turn.2.IsOwners) :
    let left := ((a.run before).step s (.drop removal)).attachment
    attempts (left.deeds after) =
        attempts ((a.run before).deeds ((a.run before).lasting after)) ∧
      ((∀ t ∈ (a.run before).tasks, t.holds = false) → attempts (left.deeds after) = []) := by
  intro left
  have sound := begun.sound.run before
  have same : left = (a.run before).disown := step_drop owned s removal
  constructor
  · rw [same]
    exact attempts_deeds_disown sound others
  · intro released
    have gone : left.isAlive = false := by
      rw [same, isAlive, Bool.or_eq_false_iff, List.any_eq_false]
      exact ⟨rfl, fun t there => by simp [released t there]⟩
    exact attempts_deeds_of_not_alive (sound.step s (.drop removal)) gone after

/-- An owner lets go while what a round has found waits in the queue, and the device tells that it
has changed before anybody looks at it. -/
theorem drop_outlived_found :
    let before := finding.take 4
    let after : Script := [(present, .notify), (present, .start 1), (present, .notify)]
    attached.Begun ∧ (attached.run before).owned = true ∧
      (∀ turn ∈ after, ¬ turn.2.IsOwners) ∧
      (∀ t ∈ (attached.run before).tasks, t.holds = false) ∧ (attached.run before).tasks ≠ [] ∧
      attempts (((attached.run before).step present (.drop (.ok ()))).attachment.deeds after) =
        [] := by
  intro before after
  have owned : (attached.run before).owned = true := by decide
  have others : ∀ turn ∈ after, ¬ turn.2.IsOwners := by
    simp [after, Event.IsOwners]
  have released : ∀ t ∈ (attached.run before).tasks, t.holds = false := by decide
  have ne_nil : (attached.run before).tasks ≠ [] := by decide
  obtain ⟨-, quiet⟩ := drop_outlived attached_begun before after present (.ok ()) owned others
  exact ⟨attached_begun, owned, others, released, ne_nil, quiet released⟩

/-- Letting go is not as final as closing: the update that attaching has scheduled opens the
discovery link. -/
theorem not_always_quiet_after_drop :
    ¬ ∀ (a : Attachment) (before after : Script) (s : Surroundings)
      (removal : Except ObserverError Unit), a.Begun → (a.run before).owned = true →
      (∀ turn ∈ after, ¬ turn.2.IsOwners) →
      attempts (((a.run before).step s (.drop removal)).attachment.deeds after) = [] := by
  intro always
  have quiet := always attached [] [(present, .start 0)] present (.ok ()) attached_begun rfl
    (by simp [Event.IsOwners])
  exact absurd quiet (by decide)

end A2dpSink.Attachment
