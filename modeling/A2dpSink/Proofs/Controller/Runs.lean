import A2dpSink.Controller
import A2dpSink.Proofs.Attachment.Closing

/-!
# Runs of a controller

A controller goes from turn to turn: an attachment is made, something happens to one, or somebody
else changes a device. `Turned` lists all that a turn may come to. In every run each attachment goes
through a run of its own, and one that is the observer of a device is so on the device it was made
to and counts on it (`Fresh.coherent`).
-/

namespace A2dpSink

/-! ### Observers of devices -/

namespace Device

variable {α : Type} {d d' : Device α} {observer : α} {e : ObserverError}

/-- An observer is registered where there is none. -/
theorem register_eq_ok (h : d.register observer = .ok d') :
    d.observer = none ∧ d' = { d with observer := some observer } := by
  unfold register at h
  split at h
  · cases h
  · next free => exact ⟨free, (Except.ok.inj h).symm⟩

private theorem unregister_eq_ok (h : d.unregister = .ok d') :
    d' = { d with observer := none } := by
  unfold unregister at h
  split at h
  · exact (Except.ok.inj h).symm
  · cases h

private theorem unregister_eq_error (h : d.unregister = .error e) : d.observer = none := by
  unfold unregister at h
  split at h
  · cases h
  · assumption

end Device

namespace Controller

variable {c c' : Controller} {actions : Actions}

/-! ### Turns -/

/-- What may happen around a controller. -/
inductive Turn where
  /-- An attachment is to be made to the device at a place. -/
  | attach (place : Nat) (admission : Except SubmitError Unit)
  /-- The flags of a device change. -/
  | change (place : Nat) (flags : DeviceFlags)
  /-- Somebody else wants to observe a device. -/
  | register (place : Nat) (name : String)
  /-- Somebody removes the observer of a device. -/
  | unregister (place : Nat)
  /-- An event happens to an attachment. What comes of removing its observer is up to the device. -/
  | event (n : Nat) (admission : Except SubmitError Unit) (e : Attachment.Event)

/-- Changes the device at a place. -/
def alter (c : Controller) (place : Nat) (f : Device Observer → Device Observer) : Controller :=
  { c with devices := c.devices.modify place f }

/-- What comes of a turn. -/
def turn (c : Controller) : Turn → Controller × Actions
  | .attach place admission =>
    match c.devices[place]? with
    | none => (c, [])
    | some d =>
      match c.attach d place admission with
      | .ok attempt => (attempt.controller, attempt.actions)
      | .error _ => (c, [])
  | .change place flags => (c.alter place fun d => { d with flags }, [])
  | .register place name =>
    (c.alter place fun d => (d.register (.other name)).toOption.getD d, [])
  | .unregister place => (c.alter place fun d => d.unregister.toOption.getD d, [])
  | .event n admission (.close _) => c.close n admission
  | .event n admission (.drop _) => c.drop n admission
  | .event n admission e => c.step n admission e

/-- The controller after some turns. -/
def run (c : Controller) : List Turn → Controller
  | [] => c
  | t :: rest => (c.turn t).1.run rest

/-! ### What a turn may come to -/

/-- Actions of an attachment that is being made. -/
def Making (c : Controller) (actions : Actions) : Prop :=
  ∀ n x, (n, x) ∈ actions → n = c.attachments.length ∧ ∀ m r, x ≠ .reply m r

/-- After the attachment `a`, made to the device at a place, has become `b`, whoever observes a
device did so before, and the observer that `a` counted on is there only if `b` counts on it too. -/
def Leaves (c : Controller) (place : Nat) (a b : Attachment) (devices : List (Device Observer)) :
    Prop :=
  ∀ (place' : Nat) (d' : Device Observer) (m : Nat), devices[place']? = some d' →
    d'.observer = some (.attachment m) →
      (∃ d, c.devices[place']? = some d ∧ d.observer = some (.attachment m)) ∧
        (place' = place → a.observing = true → b.observing = true)

/-- What a turn may come to: the controller then, and what its attachments do. -/
inductive Turned (c : Controller) : Controller → Actions → Prop
  | refused {actions : Actions} : c.Making actions → Turned c c actions
  | attached {place : Nat} {d : Device Observer} {a : Attachment} {actions : Actions} :
      c.devices[place]? = some d → d.observer = none → a.Begun → c.Making actions →
      Turned c
        { c.setDevice place { d with observer := some (.attachment c.attachments.length) } with
          attachments := c.attachments ++ [(place, a)] } actions
  | altered {place : Nat} {f : Device Observer → Device Observer} :
      (∀ d m, (f d).observer = some (.attachment m) → d.observer = some (.attachment m)) →
      Turned c (c.alter place f) []
  | stepped {n place : Nat} {a : Attachment} {devices : List (Device Observer)}
      (s : Attachment.Surroundings) (e : Attachment.Event) : c.attachments[n]? = some (place, a) →
      c.Leaves place a (a.step s e).attachment devices →
      Turned c
        { c with devices, attachments := c.attachments.set n (place, (a.step s e).attachment) }
        ((a.step s e).actions.map (n, ·))

private theorem reply_not_mem_create {settings : Settings} {remote : Address}
    {registration : Except ObserverError Unit} {s : Attachment.Surroundings}
    {made : Except ObserverError Attachment} {first : List Attachment.Action}
    (created : Attachment.create settings remote registration s = .ok (made, first)) (m : Nat)
    (r : Attachment.Reply) : Attachment.Action.reply m r ∉ first := by
  unfold Attachment.create at created
  cases session : Discovery.create settings remote with
  | error e => simp [session, Except.map] at created
  | ok d =>
    simp only [session, Except.map, Except.ok.injEq] at created
    split at created
    · obtain ⟨-, rfl⟩ := Prod.mk.inj created
      simp
    · obtain ⟨-, rfl⟩ := Prod.mk.inj created
      simp only [Attachment.notify]
      split
      · split <;> simp
      · simp

/-- A result that was mapped and is no error comes from one that is no error. -/
theorem exists_of_map_eq_ok {α β ε : Type} {f : α → β} {x : Except ε α} {y : β}
    (h : x.map f = .ok y) : ∃ z, x = .ok z ∧ f z = y := by
  cases x with
  | error e => cases h
  | ok z => exact ⟨z, rfl, Except.ok.inj h⟩

private theorem attach_turned {place : Nat} {d : Device Observer}
    {admission : Except SubmitError Unit} {attempt : Attempt} (there : c.devices[place]? = some d)
    (made : c.attach d place admission = .ok attempt) :
    c.Turned attempt.controller attempt.actions := by
  obtain ⟨⟨result, first⟩, created, rfl⟩ := exists_of_map_eq_ok made
  have making : c.Making (first.map (c.attachments.length, ·)) := by
    intro n x mem
    obtain ⟨x', mem', same⟩ := List.mem_map.mp mem
    cases same
    refine ⟨rfl, ?_⟩
    rintro m r rfl
    exact reply_not_mem_create created m r mem'
  simp only
  split
  · next d' a registered =>
    obtain ⟨free, rfl⟩ := Device.register_eq_ok registered
    rw [registered] at created
    exact .attached there free ⟨_, _, _, _, created⟩ making
  · exact .refused making
  · exact .refused making

/-- Unless it is closed or dropped, an attachment counts on its observer as before. -/
theorem step_turned (n : Nat) (admission : Except SubmitError Unit)
    (e : Attachment.Event) (kept : ∀ removal, e ≠ .close removal ∧ e ≠ .drop removal)
    (reached : ∀ p ∈ c.attachments, p.2.Reached) :
    c.Turned (c.step n admission e).1 (c.step n admission e).2 := by
  unfold step
  split
  · exact .refused nofun
  · next place a there =>
    refine .stepped _ e there ?_
    intro place' d' m listed observed
    refine ⟨⟨d', listed, observed⟩, fun _ observing => ?_⟩
    have sound := (reached _ (List.mem_of_getElem? there)).sound
    rw [Attachment.observing_step sound kept]
    exact observing

private theorem withdraw_turned (n : Nat) (admission : Except SubmitError Unit)
    (e : Except ObserverError Unit → Attachment.Event) :
    c.Turned (c.withdraw n admission e).1 (c.withdraw n admission e).2 := by
  unfold withdraw
  cases there : c.attachments[n]? with
  | none => exact .refused nofun
  | some p =>
    obtain ⟨place, a⟩ := p
    simp only
    split
    · next d observing listed =>
      split
      · next d' removed =>
        obtain rfl := Device.unregister_eq_ok removed
        simp only [step, setDevice, there]
        refine .stepped _ _ there ?_
        intro place' d' m at' observed
        rw [List.getElem?_set] at at'
        split at at'
        · split at at'
          · obtain rfl := Option.some.inj at'
            cases observed
          · cases at'
        · next other => exact ⟨⟨d', at', observed⟩, fun same => absurd same.symm other⟩
      · next err missing =>
        simp only [step, there]
        refine .stepped _ _ there ?_
        intro place' d' m at' observed
        refine ⟨⟨d', at', observed⟩, ?_⟩
        rintro rfl _
        rw [listed, Option.some.injEq] at at'
        rw [← at', Device.unregister_eq_error missing] at observed
        cases observed
    · next blind =>
      simp only [step, there]
      refine .stepped _ _ there ?_
      intro place' d' m at' observed
      refine ⟨⟨d', at', observed⟩, ?_⟩
      rintro rfl observing
      exact absurd at' (blind d' observing)

/-- All that may come of a turn is in `Turned`. -/
theorem turned (reached : ∀ p ∈ c.attachments, p.2.Reached) (t : Turn) :
    c.Turned (c.turn t).1 (c.turn t).2 := by
  cases t with
  | attach place admission =>
    simp only [turn]
    split
    · exact .refused nofun
    · next d there =>
      split
      · next attempt made => exact attach_turned there made
      · exact .refused nofun
  | change place flags => exact .altered fun d m observed => observed
  | register place name =>
    apply Turned.altered
    intro d m observed
    cases registered : d.register (.other name) with
    | error e => simpa [registered, Except.toOption] using observed
    | ok d' =>
      obtain ⟨-, rfl⟩ := Device.register_eq_ok registered
      simp [registered, Except.toOption] at observed
  | unregister place =>
    apply Turned.altered
    intro d m observed
    cases removed : d.unregister with
    | error e => simpa [removed, Except.toOption] using observed
    | ok d' =>
      obtain rfl := Device.unregister_eq_ok removed
      simp [removed, Except.toOption] at observed
  | event n admission e =>
    cases e with
    | close removal => exact withdraw_turned n admission .close
    | drop removal => exact withdraw_turned n admission .drop
    | _ => exact step_turned n admission _ (fun _ => ⟨nofun, nofun⟩) reached

/-! ### Coherence -/

/-- Every attachment has a life of its own, and one that observes a device was made to it and counts
on being told. -/
structure Coherent (c : Controller) : Prop where
  reached : ∀ p ∈ c.attachments, p.2.Reached
  observed : ∀ (place : Nat) (d : Device Observer) (n : Nat), c.devices[place]? = some d →
    d.observer = some (.attachment n) →
      ∃ a, c.attachments[n]? = some (place, a) ∧ a.observing = true

/-- No attachment has been made yet. -/
structure Fresh (c : Controller) : Prop where
  attachments : c.attachments = []
  unobserved : ∀ d ∈ c.devices, ∀ n, d.observer ≠ some (.attachment n)

/-- A controller is coherent at first. -/
theorem Fresh.coherent (h : c.Fresh) : c.Coherent where
  reached p there := by
    rw [h.attachments] at there
    cases there
  observed place d n there observed :=
    absurd observed (h.unobserved d (List.mem_of_getElem? there) n)

/-- Every outcome of a turn is coherent. -/
theorem Coherent.turned (h : c.Coherent) (turned : c.Turned c' actions) : c'.Coherent := by
  cases turned with
  | refused => exact h
  | @attached place d a actions there free begun =>
    constructor
    · intro p mem
      rcases List.mem_append.mp mem with old | new
      · exact h.reached p old
      · rw [List.mem_singleton] at new
        rw [new]
        exact begun.reached
    · intro place' d' n listed observed
      simp only [setDevice, List.getElem?_set] at listed
      split at listed
      · next same =>
        subst same
        split at listed
        · obtain rfl := Option.some.inj listed
          obtain rfl : c.attachments.length = n := by simpa using observed
          exact ⟨a, by simp, begun.observing⟩
        · cases listed
      · obtain ⟨a', at', observing⟩ := h.observed place' d' n listed observed
        have less := (List.getElem?_eq_some_iff.mp at').1
        exact ⟨a', (List.getElem?_append_left less).trans at', observing⟩
  | @altered place f kept =>
    refine ⟨h.reached, ?_⟩
    intro place' d' n listed observed
    simp only [alter, List.getElem?_modify] at listed
    obtain ⟨d, there, rfl⟩ := Option.map_eq_some_iff.mp listed
    refine h.observed place' d n there ?_
    split at observed
    · exact kept d n observed
    · exact observed
  | @stepped n place a devices s e there leaves =>
    constructor
    · intro p mem
      rcases List.mem_or_eq_of_mem_set mem with old | rfl
      · exact h.reached p old
      · exact (h.reached _ (List.mem_of_getElem? there)).step s e
    · intro place' d' m listed observed
      obtain ⟨⟨d, at', observed'⟩, counts⟩ := leaves place' d' m listed observed
      obtain ⟨a', there', observing⟩ := h.observed place' d m at' observed'
      by_cases same : m = n
      · subst same
        rw [there, Option.some.injEq, Prod.mk.injEq] at there'
        obtain ⟨rfl, rfl⟩ := there'
        have less := (List.getElem?_eq_some_iff.mp there).1
        exact ⟨_, List.getElem?_set_self less, counts rfl observing⟩
      · exact ⟨a', (List.getElem?_set_ne (Ne.symm same)).trans there', observing⟩

/-- A turn leaves a controller coherent. -/
theorem Coherent.turn (h : c.Coherent) (t : Turn) : (c.turn t).1.Coherent :=
  h.turned (Controller.turned h.reached t)

/-- A run leaves a controller coherent. -/
theorem Coherent.run (h : c.Coherent) (script : List Turn) : (c.run script).Coherent := by
  induction script generalizing c with
  | nil => exact h
  | cons t script ih => exact ih (h.turn t)

end Controller

end A2dpSink
