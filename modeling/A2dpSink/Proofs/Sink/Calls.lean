import A2dpSink.Sink
import A2dpSink.Proofs.Controller.Runs

/-!
# Calls of an audio sink

A call either fails, and then changes nothing and does nothing but report, or it makes or ends the one
assignment there is (`Called`). A call fails to return only if the settings ask for too much
(`exists_call`), and a device is revoked if and only if it is the one that is assigned
(`result_revoke_eq_ok_iff`).
-/

namespace A2dpSink

/-! ### Observers of a controller's devices -/

namespace Controller

variable {c : Controller} {d d' : Device Observer} {place n : Nat}
  {admission : Except SubmitError Unit} {e : Attachment.Event}

/-- Who observes the device at a place. -/
def observer? (c : Controller) (place : Nat) : Option Observer := c.devices[place]?.bind (·.observer)

/-- Changing a device leaves the observers of the others alone. -/
theorem observer?_setDevice (there : c.devices[place]? = some d) (place' : Nat) :
    (c.setDevice place d').observer? place' =
      if place' = place then d'.observer else c.observer? place' := by
  unfold observer? setDevice
  by_cases same : place' = place
  · subst same
    have less := (List.getElem?_eq_some_iff.mp there).1
    simp [less]
  · rw [List.getElem?_set_ne (Ne.symm same), if_neg same]

/-- Changing the flags of a device leaves the observers alone. -/
theorem observer?_change (place : Nat) (flags : DeviceFlags) (place' : Nat) :
    (c.alter place fun d => { d with flags }).observer? place' = c.observer? place' := by
  simp only [observer?, alter, List.getElem?_modify]
  cases c.devices[place']? with
  | none => rfl
  | some d =>
    by_cases same : place = place'
    · simp [same]
    · simp [same]

/-- A step of an attachment leaves the devices alone. -/
@[simp] theorem devices_step : (c.step n admission e).1.devices = c.devices := by
  unfold step
  split <;> rfl

/-- A step of an attachment leaves the observers alone. -/
@[simp] theorem observer?_step : (c.step n admission e).1.observer? place = c.observer? place := by
  simp [observer?]

/-- A step of an attachment leaves the settings alone. -/
@[simp] theorem settings_step : (c.step n admission e).1.settings = c.settings := by
  unfold step
  split <;> rfl

/-- Actions that do nothing but report. -/
def Actions.Idle (actions : Actions) : Prop := ∀ x ∈ actions, ∃ line, x.2 = .log line

/-- Whoever cannot observe a device makes no attachment, and does nothing but report. -/
theorem idle_create {settings : Settings} {remote : Address} {error : ObserverError}
    {s : Attachment.Surroundings} {made : Except ObserverError Attachment}
    {first : List Attachment.Action}
    (created : Attachment.create settings remote (.error error) s = .ok (made, first)) (n : Nat) :
    Actions.Idle (first.map (n, ·)) := by
  obtain ⟨session, -, eq⟩ := exists_of_map_eq_ok created
  obtain ⟨lines, rfl⟩ : ∃ lines : List Log.Line, first = lines.map .log :=
    ⟨[_, _], (congrArg Prod.snd eq).symm⟩
  intro x done
  obtain ⟨action, mem, rfl⟩ := List.mem_map.mp done
  obtain ⟨line, -, rfl⟩ := List.mem_map.mp mem
  exact ⟨line, rfl⟩

/-- An attachment is made and becomes the observer of its device, or nothing changes. -/
theorem attach_cases {attempt : Attempt} (made : c.attach d place admission = .ok attempt) :
    (∃ e, attempt.result = .error e ∧ attempt.controller = c ∧ attempt.actions.Idle) ∨
    (attempt.result = .ok c.attachments.length ∧ d.observer = none ∧ ∃ a, attempt.controller =
      { c.setDevice place { d with observer := some (.attachment c.attachments.length) } with
        attachments := c.attachments ++ [(place, a)] }) := by
  obtain ⟨⟨result, first⟩, created, rfl⟩ := exists_of_map_eq_ok made
  cases registered : d.register (.attachment c.attachments.length) with
  | error e =>
    rw [registered] at created
    exact .inl ⟨e, rfl, rfl, idle_create created _⟩
  | ok d' =>
    obtain ⟨free, rfl⟩ := Device.register_eq_ok registered
    rw [registered] at created
    obtain ⟨session, -, made⟩ := exists_of_map_eq_ok created
    obtain ⟨rfl, rfl⟩ := Prod.mk.inj made
    exact .inr ⟨rfl, free, _, rfl⟩

/-- The observer of an attachment that is closed is taken off its device. -/
theorem close_eq {a : Attachment} (listed : c.attachments[n]? = some (place, a))
    (observing : a.observing = true) (there : c.devices[place]? = some d)
    (observed : d.observer ≠ none) :
    c.close n admission =
      (c.setDevice place { d with observer := none }).step n admission (.close (.ok ())) := by
  have removed : d.unregister = .ok { d with observer := none } := by
    unfold Device.unregister
    split
    · rfl
    · next free => exact absurd free observed
  simp only [close, withdraw, listed, observing, there, removed]

end Controller

namespace Sink

variable {s : Sink} {text : String} {admission : Except SubmitError Unit}

/-! ### What a call may come to -/

/-- A call of a sink. -/
inductive Call where
  /-- A device is to be assigned. How devices are looked up is given. -/
  | assign (lookup : Address → Option Nat) (text : String)
  | revoke (text : String)

/-- What comes of a call. -/
def call (s : Sink) (admission : Except SubmitError Unit) : Call → Except Settings.Excess Attempt
  | .assign lookup text => s.assign lookup text admission
  | .revoke text => .ok (s.revoke text admission)

/-- What a call may come to. -/
inductive Called (s : Sink) (admission : Except SubmitError Unit) : Call → Attempt → Prop
  | refused {c : Call} {e : AttachError} {actions : Controller.Actions} : actions.Idle →
      Called s admission c ⟨s, .error e, actions⟩
  | assigned {lookup : Address → Option Nat} {text : String} {a : Address} {place : Nat}
      {d : Device Observer} {made : Controller.Attempt} {actions : Controller.Actions} :
      Address.parse text = .ok a → s.assigned = none → lookup a = some place →
      s.controller.devices[place]? = some d → s.controller.attach d place admission = .ok made →
      made.result = .ok s.controller.attachments.length →
      Called s admission (.assign lookup text)
        ⟨⟨made.controller, some ⟨a, s.controller.attachments.length⟩⟩,
          .ok ⟨a, s.controller.attachments.length⟩, actions⟩
  | revoked {text : String} {assignment : Assignment} : s.assigned = some assignment →
      Address.parse text = .ok assignment.address →
      Called s admission (.revoke text)
        ⟨⟨(s.controller.close assignment.attachment admission).1, none⟩, .ok assignment,
          (s.controller.close assignment.attachment admission).2⟩

private theorem address_eq_ok_iff {a : Address} :
    address text = .ok a ↔ Address.parse text = .ok a := by
  unfold address
  cases Address.parse text <;> simp

private theorem vacate_eq_ok_iff {s' : Sink} {assignment : Assignment} :
    s.vacate text = .ok (s', assignment) ↔ s.assigned = some assignment ∧
      Address.parse text = .ok assignment.address ∧ s' = { s with assigned := none } := by
  rw [← address_eq_ok_iff]
  unfold vacate
  cases address text with
  | error e => simp
  | ok a =>
    cases assigned : s.assigned with
    | none => simp
    | some assignment' =>
      by_cases same : assignment'.address = a
      · simp only [if_pos same, Except.ok.injEq, Prod.mk.injEq, Option.some.injEq]
        constructor
        · rintro ⟨rfl, rfl⟩
          exact ⟨rfl, same.symm, rfl⟩
        · rintro ⟨rfl, -, rfl⟩
          exact ⟨rfl, rfl⟩
      · simp only [if_neg same, Except.ok.injEq, Option.some.injEq, reduceCtorEq, false_iff]
        rintro ⟨rfl, own, -⟩
        exact same own.symm

/-- A device is revoked if and only if it is the one that is assigned. -/
theorem result_revoke_eq_ok_iff {assignment : Assignment} :
    (s.revoke text admission).result = .ok assignment ↔
      s.assigned = some assignment ∧ Address.parse text = .ok assignment.address := by
  unfold revoke
  cases vacated : s.vacate text with
  | error e =>
    simp only [reduceCtorEq, false_iff]
    rintro ⟨assigned, parsed⟩
    rw [vacate_eq_ok_iff.mpr ⟨assigned, parsed, rfl⟩] at vacated
    cases vacated
  | ok made =>
    obtain ⟨assigned, parsed, -⟩ := vacate_eq_ok_iff.mp vacated
    simp only [Except.ok.injEq]
    constructor
    · rintro rfl
      exact ⟨assigned, parsed⟩
    · rintro ⟨assigned', -⟩
      exact Option.some.inj (assigned.symm.trans assigned')

private theorem called_revoke : s.Called admission (.revoke text) (s.revoke text admission) := by
  unfold revoke
  cases vacated : s.vacate text with
  | error e => exact .refused fun _ mem => (List.not_mem_nil mem).elim
  | ok made =>
    obtain ⟨s', assignment⟩ := made
    obtain ⟨assigned, parsed, rfl⟩ := vacate_eq_ok_iff.mp vacated
    exact .revoked assigned parsed

private theorem called_assign {lookup : Address → Option Nat} {attempt : Attempt}
    (h : s.assign lookup text admission = .ok attempt) :
    s.Called admission (.assign lookup text) attempt := by
  have idle : Controller.Actions.Idle [] := fun _ mem => (List.not_mem_nil mem).elim
  unfold assign at h
  cases parsed : address text with
  | error e =>
    simp only [parsed, Except.ok.injEq] at h
    exact h ▸ .refused idle
  | ok a =>
    cases assigned : s.assigned with
    | some assignment =>
      simp only [parsed, assigned, Except.ok.injEq] at h
      exact h ▸ .refused idle
    | none =>
      cases found : (lookup a).bind fun place => s.controller.devices[place]?.map (·, place) with
      | none =>
        simp only [parsed, assigned, found, Except.ok.injEq] at h
        exact h ▸ .refused idle
      | some there =>
        simp only [parsed, assigned, found] at h
        obtain ⟨made, attached, rfl⟩ := Controller.exists_of_map_eq_ok h
        obtain ⟨place, looked, located⟩ := Option.bind_eq_some_iff.mp found
        obtain ⟨d, listed, rfl⟩ := Option.map_eq_some_iff.mp located
        rcases Controller.attach_cases attached with ⟨e, refused, -, idle⟩ | ⟨result, -⟩
        · simp only [refused]
          exact .refused idle
        · simp only [result]
          exact .assigned (address_eq_ok_iff.mp parsed) assigned looked listed attached result

/-- All that may come of a call is in `Called`. -/
theorem called {c : Call} {attempt : Attempt} (h : s.call admission c = .ok attempt) :
    s.Called admission c attempt := by
  cases c with
  | assign lookup text => exact called_assign h
  | revoke text =>
    obtain rfl := Except.ok.inj h
    exact called_revoke

/-- Calls return if the settings do not ask for too much. -/
theorem exists_call {limit : Nat} (fits : s.controller.settings.discoveryTimeout = .ok limit)
    (admission : Except SubmitError Unit) (c : Call) :
    ∃ attempt, s.call admission c = .ok attempt := by
  cases c with
  | revoke text => exact ⟨_, rfl⟩
  | assign lookup text =>
    show ∃ attempt, s.assign lookup text admission = .ok attempt
    unfold assign
    split
    · exact ⟨_, rfl⟩
    · split
      · exact ⟨_, rfl⟩
      · split
        · exact ⟨_, rfl⟩
        · simp only [Controller.attach, Attachment.create, Discovery.create, fits, Except.map]
          exact ⟨_, rfl⟩

end Sink

end A2dpSink
