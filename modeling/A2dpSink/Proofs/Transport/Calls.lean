import Mathlib.Data.List.Destutter
import A2dpSink.Proofs.Attachment.Attempts
import A2dpSink.Proofs.Attachment.Matched

/-!
# Whole calls of a transport connection

A call is cut in two by what it waits for. Here the parts are put together again: a call is given how
its attempt ends, and runs from its start to its reply. Over any sequence of such calls the status
says whether a channel is held (`Truthful.perform`), and what is published is what the statuses after
the calls come to when repetitions are left out (`destutter_statuses`).
-/

namespace A2dpSink.Transport

variable {t : Transport}

/-! ### Calls put together -/

/-- A call that has no reply yet goes on after its wait. -/
def Outcome.andThen {α : Type} (o : Outcome α) (next : Transport → Outcome α) : Outcome α :=
  match o.reply with
  | some _ => o
  | none => { next o.transport with effects := o.effects ++ (next o.transport).effects }

/-- A call, and how the attempt to open or close the link ends if the call makes one. -/
inductive Call where
  | connect (psm : Psm) (o : OpenOutcome)
  | disconnect (o : CloseOutcome)
  deriving DecidableEq, Repr

/-- A call to open the link. -/
def connectFully (t : Transport) (psm : Psm) (o : OpenOutcome) : Outcome (Except OpenError Unit) :=
  (t.connect psm).andThen (·.opened psm o)

/-- A call to close the link. -/
def disconnectFully (t : Transport) (o : CloseOutcome) : Outcome (Except CloseError Unit) :=
  t.disconnect.andThen (·.closed o)

/-- The connection after a call. -/
def perform (t : Transport) : Call → Transport
  | .connect psm o => (t.connectFully psm o).transport
  | .disconnect o => (t.disconnectFully o).transport

/-- The connection after calls. -/
def run (t : Transport) (calls : List Call) : Transport := calls.foldl perform t

/-- The last call is performed on what the others leave. -/
@[simp] theorem run_append_singleton (t : Transport) (calls : List Call) (c : Call) :
    t.run (calls ++ [c]) = (t.run calls).perform c := by
  simp [run]

/-! ### What one call does -/

private theorem connectFully_of_open (held : t.isOpen = true) (psm : Psm) (o : OpenOutcome) :
    t.connectFully psm o = ⟨t, [], some (.error .alreadyOpen)⟩ := by
  simp [connectFully, connect, held, Outcome.andThen]

private theorem connectFully_of_shut (shut : t.isOpen = false) (psm : Psm) (o : OpenOutcome) :
    t.connectFully psm o =
      { t.opened psm o with effects := .connect psm :: (t.opened psm o).effects } := by
  simp [connectFully, connect, shut, Outcome.andThen]

private theorem opened_opened (t : Transport) (psm : Psm) (link : LinkId) :
    (t.opened psm (.opened link)).transport =
      ({ t with channel := some ⟨link, psm⟩ }.publish .idle).1 := rfl

private theorem opened_of_error {o : OpenOutcome} {e : OpenError} (failed : o.toExcept = .error e)
    (psm : Psm) : (t.opened psm o).transport = t := by
  simp only [opened, failed]

private theorem reply_opened (t : Transport) (psm : Psm) (o : OpenOutcome) :
    (t.opened psm o).reply = some (o.toExcept.map fun _ => ()) := by
  unfold opened
  split <;> simp [*, Except.map]

private theorem transport_disconnectFully (t : Transport) (o : CloseOutcome) :
    (t.disconnectFully o).transport = ({ t with channel := none }.publish .disconnected).1 := by
  unfold disconnectFully disconnect
  split
  · rfl
  · next shut =>
    obtain ⟨remote, channel, published⟩ := t
    obtain rfl : channel = none := shut
    rfl

/-- What a call to open the link does. -/
structure Connects (t : Transport) (psm : Psm) (o : OpenOutcome) : Prop where
  /-- The connector is called if and only if no channel is held. -/
  asks : (t.connectFully psm o).effects.filterMap Effect.connect? = if t.isOpen then [] else [psm]
  replies : (t.connectFully psm o).reply =
    some (if t.isOpen then .error .alreadyOpen else o.toExcept.map fun _ => ())
  /-- A call that fails changes nothing. -/
  fails : ∀ e, (t.connectFully psm o).reply = some (.error e) →
    (t.connectFully psm o).transport = t
  opens : ∀ link, t.isOpen = false → o = .opened link →
    (t.connectFully psm o).transport.channel = some ⟨link, psm⟩

/-- What a call to close the link does. -/
structure Disconnects (t : Transport) (o : CloseOutcome) : Prop where
  asks : (t.disconnectFully o).effects.filterMap Effect.connect? = []
  replies : (t.disconnectFully o).reply = some (if t.isOpen then o.toExcept else .ok ())
  releases : (t.disconnectFully o).transport.channel = none
  ends : (t.disconnectFully o).transport.status = .disconnected

private theorem connects (t : Transport) (psm : Psm) (o : OpenOutcome) : t.Connects psm o := by
  cases shut : t.isOpen with
  | true =>
    have call := connectFully_of_open shut psm o
    exact ⟨by simp [call, shut], by simp [call, shut], fun _ _ => by rw [call], by simp [shut]⟩
  | false =>
    have call := connectFully_of_shut shut psm o
    refine ⟨?_, ?_, fun e failed => ?_, ?_⟩
    · simp [call, shut, attempts_opened]
    · simp [call, shut, reply_opened]
    · rw [call] at failed ⊢
      rw [reply_opened] at failed
      cases ended : o.toExcept with
      | ok link => simp [ended, Except.map] at failed
      | error e => exact opened_of_error ended psm
    · rintro link - rfl
      rw [call, opened_opened, channel_publish]

private theorem disconnects (t : Transport) (o : CloseOutcome) : t.Disconnects o := by
  have after := t.transport_disconnectFully o
  refine ⟨?_, ?_, by rw [after, channel_publish], by rw [after, status_publish]⟩
  · have first := t.attempts_disconnect
    unfold disconnectFully Outcome.andThen
    split
    · exact first
    · rw [List.filterMap_append, first, attempts_closed, List.append_nil]
  · cases held : t.channel <;> simp [disconnectFully, disconnect, Outcome.andThen, held, isOpen, closed]

/-! ### Runs of calls -/

/-- The connection when it has got or lost its channel, and has published that. -/
def settle (t : Transport) (channel : Option Channel) : Transport :=
  ({ t with channel }.publish (if channel.isSome then .idle else .disconnected)).1

private theorem perform_cases (t : Transport) (c : Call) :
    t.perform c = t ∨ ∃ channel, t.perform c = t.settle channel := by
  cases c with
  | disconnect o => exact .inr ⟨none, t.transport_disconnectFully o⟩
  | connect psm o =>
    simp only [perform]
    cases shut : t.isOpen with
    | true => exact .inl (by rw [connectFully_of_open shut])
    | false =>
      rw [connectFully_of_shut shut]
      cases o with
      | opened link => exact .inr ⟨some ⟨link, psm⟩, opened_opened t psm link⟩
      | failed e => exact .inl (opened_of_error rfl psm)
      | expired => exact .inl (opened_of_error rfl psm)

private theorem published_publish (t : Transport) (s : ConnectionStatus) :
    (t.publish s).1.published = if t.status = s then t.published else s :: t.published := by
  unfold publish
  split <;> rfl

/-- What is published in turn: `disconnected` first, then `idle` and `disconnected` alternately. -/
def alternating (n : Nat) : ConnectionStatus := if n % 2 = 0 then .disconnected else .idle

private theorem eq_alternating_succ {n : Nat} {s : ConnectionStatus} (told : s ≠ .unassigned)
    (changed : alternating n ≠ s) : s = alternating (n + 1) := by
  unfold alternating at changed ⊢
  cases s with
  | unassigned => exact absurd rfl told
  | disconnected => grind
  | idle => grind

/-- The status says whether a channel is held, and what was published alternates. -/
structure Truthful (t : Transport) : Prop where
  status : t.status = if t.isOpen then .idle else .disconnected
  published : t.published.reverse = (List.range t.published.length).map alternating

private theorem truthful_create (remote : Address) : (create remote).1.Truthful := ⟨rfl, rfl⟩

/-- The status is what was published last. -/
theorem Truthful.status_eq (truthful : t.Truthful) :
    ∃ n, t.published.length = n + 1 ∧ t.status = alternating n := by
  have status := truthful.status
  have published := truthful.published
  unfold Transport.status at status ⊢
  cases h : t.published with
  | nil =>
    rw [h] at status
    cases held : t.isOpen <;> simp [held] at status
  | cons s before =>
    rw [h, List.reverse_cons, List.length_cons, List.range_succ, List.map_append] at published
    exact ⟨before.length, rfl, List.singleton_inj.mp (List.append_inj_right' published rfl)⟩

private theorem Truthful.published_publish (truthful : t.Truthful) {s : ConnectionStatus}
    (told : s ≠ .unassigned) :
    (t.publish s).1.published.reverse =
      (List.range (t.publish s).1.published.length).map alternating := by
  obtain ⟨n, length, latest⟩ := truthful.status_eq
  rw [Transport.published_publish]
  split
  · exact truthful.published
  · next changed =>
    rw [eq_alternating_succ told (latest ▸ changed), List.reverse_cons, truthful.published,
      List.length_cons, length, List.range_succ (n := n + 1), List.map_append]
    rfl

private theorem Truthful.settle (truthful : t.Truthful) (channel : Option Channel) :
    (t.settle channel).Truthful where
  status := by simp [Transport.settle, isOpen]
  published := by
    have published := truthful.published_publish
      (s := if channel.isSome then .idle else .disconnected) (by split <;> simp)
    rw [Transport.settle]
    rwa [Transport.published_publish] at published ⊢

private theorem Truthful.perform (truthful : t.Truthful) (c : Call) : (t.perform c).Truthful := by
  rcases t.perform_cases c with same | ⟨channel, after⟩
  · rwa [same]
  · rw [after]
    exact truthful.settle channel

private theorem truthful_run (remote : Address) (calls : List Call) :
    ((create remote).1.run calls).Truthful := by
  induction calls using List.reverseRecOn with
  | nil => exact truthful_create remote
  | append_singleton calls c ih =>
    rw [run_append_singleton]
    exact ih.perform c

/-- A call publishes the status it ends with if and only if that is another one than before. -/
theorem published_perform (t : Transport) (c : Call) :
    (t.perform c).published =
      if t.status = (t.perform c).status then t.published
      else (t.perform c).status :: t.published := by
  rcases t.perform_cases c with same | ⟨channel, after⟩
  · simp [same]
  · rw [after, settle, published_publish, status_publish]
    rfl

/-- The statuses at first and after each call, the last one first. -/
def statuses (t : Transport) (calls : List Call) : List ConnectionStatus :=
  (calls.inits.map fun made => (t.run made).status).reverse

private theorem statuses_append_singleton (t : Transport) (calls : List Call) (c : Call) :
    t.statuses (calls ++ [c]) = (t.run (calls ++ [c])).status :: t.statuses calls := by
  simp [statuses, List.inits_append]

private theorem exists_statuses_eq (t : Transport) (calls : List Call) :
    ∃ before, t.statuses calls = (t.run calls).status :: before := by
  cases calls using List.reverseRecOn with
  | nil => exact ⟨[], rfl⟩
  | append_singleton calls c => exact ⟨_, t.statuses_append_singleton calls c⟩

/-- Only changes are published, and all of them. -/
theorem destutter_statuses (fresh : t.published = [t.status]) (calls : List Call) :
    (t.statuses calls).destutter (· ≠ ·) = (t.run calls).published := by
  -- The last status comes first in both lists, so a call adds at the front of both or of none.
  induction calls using List.reverseRecOn with
  | nil => exact fresh.symm
  | append_singleton calls c ih =>
    obtain ⟨before, eq⟩ := t.exists_statuses_eq calls
    rw [statuses_append_singleton, run_append_singleton, published_perform, ← ih, eq,
      List.destutter_cons_cons, List.destutter_cons']
    by_cases same : (t.run calls).status = ((t.run calls).perform c).status
    · rw [if_neg (not_not.mpr same.symm), if_pos same, same]
    · rw [if_pos (Ne.symm same), if_neg same]

/-- The status tells the truth over whole runs. Take any calls on the connection to a device that has
just been assigned. After them the status is idle if a channel is held and disconnected if not; the
values that were published are the statuses after the calls without repetitions, and they alternate.
Whatever call comes next opens a link if and only if it is to connect and no channel is held; if it
fails to connect it changes nothing, and if it is to disconnect it ends without a channel. -/
theorem tells_truth (remote : Address) (calls : List Call) :
    ((create remote).1.run calls).Truthful ∧
      ((create remote).1.run calls).published =
        ((create remote).1.statuses calls).destutter (· ≠ ·) ∧
      (∀ psm o, ((create remote).1.run calls).Connects psm o) ∧
      ∀ o, ((create remote).1.run calls).Disconnects o :=
  ⟨truthful_run remote calls, (destutter_statuses rfl calls).symm, connects _, disconnects _⟩

end A2dpSink.Transport
