import A2dpSink.Proofs.Attachment.Matched
import A2dpSink.Proofs.Sink.Calls

/-!
# One device at a time

An audio sink goes from turn to turn: it is called, something happens to one of its attachments, or
the flags of a device change. Nobody else changes who observes a device. However the turns follow one
another, the device that is assigned is the only one the sink observes, and a call that fails leaves
everything as it was (`manages_one_device`).
-/

namespace A2dpSink

namespace Sink

variable {s : Sink} {before : Controller} {admission : Except SubmitError Unit}

/-! ### Turns -/

/-- What may happen around a sink. Its attachments are closed only by revoking their devices. -/
inductive Turn where
  | call (admission : Except SubmitError Unit) (c : Call)
  /-- The flags of a device change. -/
  | change (place : Nat) (flags : DeviceFlags)
  /-- Something happens to an attachment. -/
  | event (n : Nat) (admission : Except SubmitError Unit) (e : Attachment.Event)
    (kept : ∀ removal, e ≠ .close removal ∧ e ≠ .drop removal)

/-- What comes of a turn. -/
def turn (s : Sink) : Turn → Sink
  | .call admission c =>
    match s.call admission c with
    | .ok attempt => attempt.sink
    | .error _ => s
  | .change place flags =>
    { s with controller := s.controller.alter place fun d => { d with flags } }
  | .event n admission e _ => { s with controller := (s.controller.step n admission e).1 }

/-- The sink after some turns. -/
def run (s : Sink) : List Turn → Sink
  | [] => s
  | t :: rest => (s.turn t).run rest

/-- The place of the device that is assigned. -/
def place? (s : Sink) : Option Nat :=
  s.assigned.bind fun a => s.controller.attachments[a.attachment]?.map (·.1)

/-! ### What holds between turns -/

/-- What holds of a sink whose controller was `before` at first. -/
structure Sound (before : Controller) (s : Sink) : Prop where
  coherent : s.controller.Coherent
  settings : s.controller.settings = before.settings
  /-- The attachment of the assignment observes a device, and no other attachment does. -/
  own : ∀ n, (∃ place, s.controller.observer? place = some (.attachment n)) ↔
    s.assigned.map (·.attachment) = some n
  /-- Whoever else observes a device has done so from the first. -/
  foreign : ∀ place name, s.controller.observer? place = some (.other name) ↔
    before.observer? place = some (.other name)

/-- No device has been assigned yet, and the sink observes none. -/
structure Fresh (s : Sink) : Prop where
  controller : s.controller.Fresh
  assigned : s.assigned = none

private theorem Fresh.sound (h : s.Fresh) : s.Sound s.controller where
  coherent := h.controller.coherent
  settings := rfl
  own n := by
    simp only [h.assigned, Option.map_none, reduceCtorEq, iff_false]
    rintro ⟨place, observed⟩
    obtain ⟨d, there, observed⟩ := Option.bind_eq_some_iff.mp observed
    exact h.controller.unobserved d (List.mem_of_getElem? there) n observed
  foreign place name := .rfl

/-- The attachment that observes a device was made to it, and counts on being told. -/
theorem Sound.attachment_of_observer (h : s.Sound before) {place n : Nat}
    (observed : s.controller.observer? place = some (.attachment n)) :
    ∃ a, s.controller.attachments[n]? = some (place, a) ∧ a.observing = true := by
  obtain ⟨d, there, observed⟩ := Option.bind_eq_some_iff.mp observed
  exact h.coherent.observed place d n there observed

/-- The device that is assigned is observed by its attachment. -/
theorem Sound.observed (h : s.Sound before) {assignment : Assignment}
    (assigned : s.assigned = some assignment) :
    ∃ place d a, s.controller.attachments[assignment.attachment]? = some (place, a) ∧
      a.observing = true ∧ s.controller.devices[place]? = some d ∧
      d.observer = some (.attachment assignment.attachment) := by
  obtain ⟨place, observed⟩ := (h.own assignment.attachment).mpr (by rw [assigned]; rfl)
  obtain ⟨a, listed, observing⟩ := h.attachment_of_observer observed
  obtain ⟨d, there, observed⟩ := Option.bind_eq_some_iff.mp observed
  exact ⟨place, d, a, listed, observing, there, observed⟩

/-! ### Turns keep it -/

/-- Who observes a device, and what is assigned, is as before. -/
theorem Sound.of_observers (h : s.Sound before) {controller : Controller}
    (coherent : controller.Coherent) (settings : controller.settings = s.controller.settings)
    (observers : ∀ place, controller.observer? place = s.controller.observer? place) :
    Sound before { s with controller } where
  coherent := coherent
  settings := settings.trans h.settings
  own n := by simpa only [observers] using h.own n
  foreign place name := by simpa only [observers] using h.foreign place name

private theorem Sound.assign (h : s.Sound before) {a : Address} {place : Nat} {d : Device Observer}
    {made : Controller.Attempt} (vacant : s.assigned = none)
    (there : s.controller.devices[place]? = some d)
    (attached : s.controller.attach d place admission = .ok made)
    (result : made.result = .ok s.controller.attachments.length) :
    Sound before ⟨made.controller, some ⟨a, s.controller.attachments.length⟩⟩ := by
  have coherent := h.coherent.turn (.attach place admission)
  simp only [Controller.turn, there, attached] at coherent
  rcases Controller.attach_cases attached with ⟨e, refused, -⟩ | ⟨-, free, b, eq⟩
  · rw [refused] at result
    cases result
  have observers (place' : Nat) : made.controller.observer? place' =
      if place' = place then some (.attachment s.controller.attachments.length)
      else s.controller.observer? place' := by
    rw [eq]
    exact Controller.observer?_setDevice there place'
  have nobody (place' n : Nat) : s.controller.observer? place' ≠ some (.attachment n) := by
    intro observed
    have assigned := (h.own n).mp ⟨place', observed⟩
    rw [vacant] at assigned
    cases assigned
  constructor
  · exact coherent
  · rw [eq]
    exact h.settings
  · intro n
    simp only [observers, Option.map_some, Option.some.injEq]
    constructor
    · rintro ⟨place', observed⟩
      split at observed
      · simpa using observed
      · exact absurd observed (nobody place' n)
    · rintro rfl
      exact ⟨place, by rw [if_pos rfl]⟩
  · intro place' name
    rw [← h.foreign, observers]
    split
    · next same =>
      subst same
      simp [Controller.observer?, there, free]
    · exact .rfl

private theorem Sound.revoke (h : s.Sound before) {assignment : Assignment}
    (assigned : s.assigned = some assignment) :
    Sound before ⟨(s.controller.close assignment.attachment admission).1, none⟩ := by
  obtain ⟨place, d, a, listed, observing, there, observed⟩ := h.observed assigned
  have closes : s.controller.close assignment.attachment admission = _ :=
    Controller.close_eq listed observing there (by rw [observed]; nofun)
  have observers (place' : Nat) :
      (s.controller.close assignment.attachment admission).1.observer? place' =
        if place' = place then none else s.controller.observer? place' := by
    rw [closes, Controller.observer?_step]
    exact Controller.observer?_setDevice there place'
  constructor
  · exact h.coherent.turn (.event assignment.attachment admission (.close (.ok ())))
  · rw [closes, Controller.settings_step]
    exact h.settings
  · intro n
    simp only [observers, Option.map_none, reduceCtorEq, iff_false]
    rintro ⟨place', observed'⟩
    split at observed'
    · cases observed'
    -- Only the attachment that is closed observes a device, and it was made to only one.
    · next other =>
      have own := (h.own n).mp ⟨place', observed'⟩
      obtain rfl : assignment.attachment = n := by simpa [assigned] using own
      obtain ⟨a', at', -⟩ := h.attachment_of_observer observed'
      rw [listed, Option.some.injEq, Prod.mk.injEq] at at'
      exact other at'.1.symm
  · intro place' name
    rw [← h.foreign, observers]
    split
    · next same =>
      subst same
      simp [Controller.observer?, there, observed]
    · exact .rfl

private theorem Sound.called (h : s.Sound before) {c : Call} {attempt : Attempt}
    (called : s.Called admission c attempt) : attempt.sink.Sound before := by
  cases called with
  | refused => exact h
  | assigned _ vacant _ there attached result => exact h.assign vacant there attached result
  | revoked assigned => exact h.revoke assigned

private theorem Sound.turn (h : s.Sound before) (t : Turn) : (s.turn t).Sound before := by
  cases t with
  | call admission c =>
    simp only [Sink.turn]
    split
    · next attempt returns => exact h.called (Sink.called returns)
    · exact h
  | change place flags =>
    exact h.of_observers (h.coherent.turn (.change place flags)) rfl
      (Controller.observer?_change place flags)
  | event n admission e kept =>
    have turned := h.coherent.turned
      (Controller.step_turned n admission e kept h.coherent.reached)
    exact h.of_observers turned Controller.settings_step fun place => Controller.observer?_step

/-- A run leaves a sink sound. -/
theorem Sound.run (h : s.Sound before) (script : List Turn) : (s.run script).Sound before := by
  induction script generalizing s with
  | nil => exact h
  | cons t script ih => exact ih (h.turn t)

/-! ### What the owner of a sink can rely on -/

/-- A sink takes care of the device that is assigned to it, and of no other. -/
structure Managed (before : Controller) (s : Sink) : Prop where
  /-- The device that is assigned is there, and its attachment observes it. -/
  observed : ∀ assignment, s.assigned = some assignment → ∃ place, s.place? = some place ∧
    s.controller.observer? place = some (.attachment assignment.attachment)
  /-- No other device is observed. -/
  alone : ∀ place n, s.controller.observer? place = some (.attachment n) → s.place? = some place
  /-- Whoever else observes a device has done so from the first, and still does. -/
  foreign : ∀ place name, s.controller.observer? place = some (.other name) ↔
    before.observer? place = some (.other name)
  status : s.status = .unassigned ↔ s.assigned = none

/-- What the caller of a sink can rely on. -/
structure Reliable (s : Sink) (c : Call) (attempt : Attempt) : Prop where
  /-- A call that fails leaves everything as it is and does nothing but report. -/
  failed : ∀ e, attempt.result = .error e → attempt.sink = s ∧ attempt.actions.Idle
  /-- A device that is assigned is the one whose address was given, as it was looked up. -/
  assigned : ∀ lookup text assignment, c = .assign lookup text → attempt.result = .ok assignment →
    Address.parse text = .ok assignment.address ∧ attempt.sink.assigned = some assignment ∧
      attempt.sink.place? = lookup assignment.address
  /-- A device is revoked if and only if it is assigned, and then no device is. -/
  revoked : ∀ text assignment, c = .revoke text →
    (attempt.result = .ok assignment ↔
      s.assigned = some assignment ∧ Address.parse text = .ok assignment.address) ∧
    (attempt.result = .ok assignment → attempt.sink.assigned = none)

private theorem Sound.managed (h : s.Sound before) : s.Managed before where
  observed assignment assigned := by
    obtain ⟨place, d, a, listed, -, there, observed⟩ := h.observed assigned
    refine ⟨place, by simp [place?, assigned, listed], ?_⟩
    rw [Controller.observer?, there]
    exact observed
  alone place n observed := by
    obtain ⟨assignment, assigned, rfl⟩ := Option.map_eq_some_iff.mp ((h.own n).mp ⟨place, observed⟩)
    obtain ⟨a, listed, -⟩ := h.attachment_of_observer observed
    simp [place?, assigned, listed]
  foreign := h.foreign
  status := by
    cases assigned : s.assigned with
    | none => simp [Sink.status, assigned]
    | some assignment =>
      obtain ⟨place, d, a, listed, -⟩ := h.observed assigned
      have reached := h.coherent.reached _ (List.mem_of_getElem? listed)
      simpa [Sink.status, assigned, Controller.attachment?, listed] using reached.status_ne_unassigned

private theorem reliable_of_called {c : Call} {attempt : Attempt}
    (h : s.call admission c = .ok attempt) : s.Reliable c attempt := by
  have called := called h
  constructor
  · intro e failed
    cases called with
    | refused idle => exact ⟨rfl, idle⟩
    | _ => cases failed
  · rintro lookup text assignment rfl succeeded
    cases called with
    | refused => cases succeeded
    | assigned parsed _ looked _ attached result =>
      obtain rfl := Except.ok.inj succeeded
      rcases Controller.attach_cases attached with ⟨e, refused, -⟩ | ⟨-, -, b, eq⟩
      · rw [refused] at result
        cases result
      · exact ⟨parsed, rfl, by simp [place?, eq, looked]⟩
  · rintro text assignment rfl
    constructor
    · rw [← Except.ok.inj h]
      exact result_revoke_eq_ok_iff
    · intro succeeded
      cases called with
      | refused => cases succeeded
      | revoked => rfl

/-- At most one device is managed, and calls that fail change nothing. Take any run of a sink whose
settings do not ask for too much and to which no device was assigned at first. At its end the sink
observes the device that is assigned and no other, whoever else observes a device still does, and the
status says whether a device is assigned. Every call returns then. If it fails, it leaves everything
as it is, and it lets nobody run and opens no link; and it revokes a device if and only if the address
of the one that is assigned was given. -/
theorem manages_one_device {limit : Nat} (fresh : s.Fresh)
    (fits : s.controller.settings.discoveryTimeout = .ok limit) (script : List Turn) :
    (s.run script).Managed s.controller ∧
      ∀ (admission : Except SubmitError Unit) (c : Call),
        ∃ attempt, (s.run script).call admission c = .ok attempt ∧
          (s.run script).Reliable c attempt := by
  have sound := fresh.sound.run script
  refine ⟨sound.managed, fun admission c => ?_⟩
  obtain ⟨attempt, returns⟩ := exists_call (sound.settings ▸ fits) admission c
  exact ⟨attempt, returns, reliable_of_called returns⟩

/-- Two devices that are there. Somebody else observes the second one. -/
def twoDevices : Sink where
  controller :=
    { settings := {}
      devices := [
        { localAddress := .zero, remoteAddress := .zero, flags := { connected := true } },
        { localAddress := .zero, remoteAddress := ⟨#v[1, 0, 0, 0, 0, 0]⟩,
          flags := { connected := true }, observer := some (.other "pairing") }] }

/-- The first device is assigned, revoked and assigned again, and the second one in vain. -/
def calls : List Turn :=
  let assign (text : String) : Turn := .call (.ok ()) (.assign twoDevices.controller.place? text)
  [assign "00:00:00:00:00:00", .event 0 (.ok ()) (.start 0) fun _ => ⟨nofun, nofun⟩,
    assign "00:00:00:00:00:01", .call (.ok ()) (.revoke " 00:00:00:00:00:00 "),
    assign "00:00:00:00:00:01", assign "00:00:00:00:00:00"]

private theorem fresh_twoDevices : twoDevices.Fresh where
  controller := ⟨rfl, by simp [twoDevices]⟩
  assigned := rfl

/-- One of two devices is managed after calls that fail and calls that do not. -/
theorem manages_one_device_calls :
    twoDevices.Fresh ∧ twoDevices.controller.settings.discoveryTimeout = .ok 10000 ∧
      (twoDevices.run calls).assigned = some ⟨.zero, 1⟩ ∧
      (twoDevices.run calls).Managed twoDevices.controller ∧
      ∀ (admission : Except SubmitError Unit) (c : Call),
        ∃ attempt, (twoDevices.run calls).call admission c = .ok attempt ∧
          (twoDevices.run calls).Reliable c attempt :=
  ⟨fresh_twoDevices, rfl, by decide +kernel, manages_one_device fresh_twoDevices rfl calls⟩

end Sink

end A2dpSink
