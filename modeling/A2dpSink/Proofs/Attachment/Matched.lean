import A2dpSink.Proofs.Attachment.Clearing

/-!
# What the transport link was opened to

The transport link is opened to the service an attachment has settled on, and from then on what is
known is what the link was opened to (`Suited.step`), and the status tells that it is open
(`Shown.step`). Services that are taken in while the link is open to something else are the only way
out (`Displaces.step`).
-/

namespace A2dpSink

/-! ### The transport link -/

namespace Transport

variable (t : Transport)

/-- Asking for a link changes nothing yet. -/
@[simp] theorem transport_connect (psm : Psm) : (t.connect psm).transport = t := by
  unfold connect
  split <;> rfl

/-- Publishing a status leaves the channel alone. -/
@[simp] theorem channel_publish (status : ConnectionStatus) :
    (t.publish status).1.channel = t.channel := by
  unfold publish
  split <;> rfl

private theorem channel_of_connect {psm : Psm} (told : (t.connect psm).reply = none) :
    t.channel = none := by
  unfold connect at told
  split at told
  · cases told
  · next shut => simpa [isOpen] using shut

private theorem channel_eq_none_iff : t.channel = none ↔ t.isOpen = false := by
  simp [isOpen]

/-- When an attempt to open the link has ended, the link is there, or nothing has changed. -/
theorem opened_cases (psm : Psm) (outcome : OpenOutcome) :
    (t.opened psm outcome).transport = t ∨
      ∃ link, (t.opened psm outcome).transport.channel = some ⟨link, psm⟩ ∧
        (t.opened psm outcome).transport.status = .idle := by
  unfold opened
  split
  · next link _ => exact .inr ⟨link, by simp, by simp⟩
  · exact .inl rfl

/-- While the link is being closed, the status is as before. -/
theorem status_disconnect_cases :
    t.disconnect.transport.status = t.status ∨ t.disconnect.transport.status = .disconnected := by
  unfold disconnect
  split
  · exact .inl rfl
  · exact .inr (t.status_publish _)

end Transport

namespace Attachment

variable {a b x : Attachment} {s : Surroundings} {e : Event} {p q : Point} {actions : List Action}

/-- Nobody makes use of the lock. So it is whenever the lock is free. -/
def Unattended (a : Attachment) : Prop := ∀ n t, a.task? n = some t → t.stage.isActive = false

/-- Nobody makes use of a free lock. -/
theorem Sound.unattended (sound : a.Sound) (free : a.lock.isFree = true) : a.Unattended := by
  intro n t there
  rw [← Bool.not_eq_true]
  intro active
  have holder := sound.active n t there active
  rw [Lock.isFree_iff.mp free] at holder
  cases holder

/-! ### The status -/

/-- The status tells whether the transport link is open. -/
def Reflected (a : Attachment) : Prop :=
  a.status = if a.transport.isOpen then .idle else .disconnected

/-- What holds of the status at the points of a step. While the transport link is being closed, it
is gone and the status is an old one. -/
def Shown (a : Attachment) : Point → Prop
  | .rest => (∀ n t, a.task? n = some t → t.stage = .hangingUp → a.transport.isOpen = false) ∧
      (a.Reflected ∨ ∃ n t, a.task? n = some t ∧ t.stage = .hangingUp)
  | _ => a.Reflected

private theorem Reflected.of_transport (h : a.Reflected) (transport : b.transport = a.transport) :
    b.Reflected := by
  unfold Reflected Attachment.status at h ⊢
  rw [transport]
  exact h

-- A task waits, and it is not one that closes the transport link.
private theorem shown_rest (reflected : b.Reflected) (fine : a.Fine p)
    (move : Move s a p actions b .rest) (other : ∀ n, ¬ p.Places n .hangingUp) : b.Shown .rest := by
  refine ⟨fun n t there hangingUp => ?_, .inl reflected⟩
  have places := move.placed fine there (by rw [hangingUp]; rfl)
  rw [hangingUp] at places
  exact absurd places (other n)

private theorem Shown.move (fine : a.Fine p) (h : a.Shown p) (move : Move s a p actions b q) :
    b.Shown q := by
  cases move with
  | @wait t r told =>
    have reflected : a.Reflected := by
      cases r <;> exact h
    have places : ∀ n, ¬ (Point.call t r).Places n .hangingUp := by
      intro n places
      generalize stage : Stage.hangingUp = place at places
      cases places with
      | wait => cases r <;> cases stage
    exact shown_rest (s := s) (reflected.of_transport rfl) fine (.wait told) places
  | @dialing t psm told =>
    have reflected := Reflected.of_transport (b := { a with
      transport := (a.transport.connect psm).transport }) h (a.transport.transport_connect psm)
    refine shown_rest (s := s) reflected fine (.dialing told) ?_
    intro n places
    cases places
  | @dialed t psm reply told =>
    exact Reflected.of_transport h (a.transport.transport_connect psm)
  | @hangingUp t told =>
    obtain ⟨stage, held⟩ := fine
    have own := task?_setTask_self (a := { a with transport := a.transport.disconnect.transport })
      held.task .hangingUp
    exact ⟨fun _ _ _ _ => a.transport.isOpen_disconnect, .inr ⟨_, _, own, rfl⟩⟩
  | @hungUp t reply told =>
    have status := a.transport.status_disconnect (by rw [told]; simp)
    have shut := a.transport.isOpen_disconnect
    simp only [Shown, Reflected, Attachment.status, status, shut]
    rfl
  | @left t reply =>
    refine shown_rest (s := s) (Reflected.of_transport h rfl) fine .left ?_
    intro n places
    cases places
  | _ => exact h

/-- At rest the status is as it should be, unless somebody closes the transport link. -/
theorem Shown.reflected (h : a.Shown .rest)
    (other : ∀ n t, a.task? n = some t → t.stage ≠ .hangingUp) : a.Reflected := by
  rcases h.2 with reflected | ⟨n, t, there, hangingUp⟩
  · exact reflected
  · exact absurd hangingUp (other n t there)

private theorem Shown.entry (h : a.Shown .rest) (sound : a.Sound)
    (entry : Entry s a e actions b p) : b.Shown p := by
  have kept : b.transport = a.transport → b.Shown .rest := by
    intro transport
    constructor
    · intro n t there hangingUp
      rw [transport]
      exact h.1 n t (entry.task_of_active there (by rw [hangingUp]; rfl)) hangingUp
    · rcases h.2 with reflected | ⟨n, t, there, hangingUp⟩
      · exact .inl (reflected.of_transport transport)
      · have there' := entry.kept sound there (by rw [hangingUp]; exact nofun)
        exact .inr ⟨n, t, there', hangingUp⟩
  -- Only one task makes use of the lock, so if it does something else, nobody closes the link.
  have alone : ∀ {m u}, a.task? m = some u → u.stage.isActive = true → u.stage ≠ .hangingUp →
      a.Reflected := by
    intro m u listed active other
    refine h.reflected fun n t there hangingUp => other ?_
    obtain ⟨-, rfl⟩ := sound.eq_of_active listed active there (by rw [hangingUp]; rfl)
    exact hangingUp
  have nobody : a.Unattended → a.Reflected := by
    intro unattended
    refine h.reflected fun n t there hangingUp => ?_
    have inactive := unattended n t there
    rw [hangingUp] at inactive
    cases inactive
  cases entry with
  | enter there queued admitted free =>
    exact (nobody (sound.unattended free)).of_transport rfl
  | grant there waiting holder =>
    have performs : Performs a s (.resume _ .granted) _ := .grant there waiting holder
    exact nobody fun n t there => performs.inactive sound there
  | hungUp outcome there hangingUp =>
    have status := a.transport.status_closed outcome
    have shut := (a.transport.isOpen_closed outcome).trans (h.1 _ _ there hangingUp)
    simp only [Shown, Reflected, Attachment.status, status, shut]
    rfl
  | dialed psm outcome there opening =>
    have before := alone there (by rw [opening]; rfl) (by rw [opening]; simp)
    rcases a.transport.opened_cases psm outcome with same | ⟨link, channel, status⟩
    · exact before.of_transport same
    · simp [Shown, Reflected, Attachment.status, Transport.isOpen, channel, status]
  | went => exact kept rfl
  | @answered n t place reply signal there listed asks =>
    have active : t.stage.isActive = true := by
      rw [asks]
      cases place.request <;> rfl
    have before := alone there active (by rw [asks]; cases place.request <;> simp [Stage.ofRequest])
    exact before.of_transport rfl
  | startRound => exact kept (transport_absorb _)
  | resumeRound => exact kept (transport_absorb _)
  | summoned summons => cases summons <;> exact kept rfl
  | received summons free =>
    cases summons <;> exact (nobody (sound.unattended free)).of_transport rfl
  | _ => exact kept rfl

private theorem Shown.moves (fine : a.Fine p) (h : a.Shown p) (moves : Moves s a p actions b) :
    b.Shown .rest := by
  induction moves with
  | rest => exact h
  | move move _ ih => exact ih (fine.move move) (h.move fine move)

/-- The status is shown as it should after a step. -/
theorem Shown.step (h : a.Shown .rest) (sound : a.Sound) (s : Surroundings) (e : Event) :
    (a.step s e).attachment.Shown .rest := by
  obtain ⟨_, b, p, _, entry, moves, -⟩ := exists_moves sound s e
  exact (h.entry sound entry).moves (sound.entry entry) moves

/-- The status is shown as it should after a run. -/
theorem Shown.run (h : a.Shown .rest) (sound : a.Sound) (script : Script) :
    (a.run script).Shown .rest := by
  induction script generalizing a with
  | nil => exact h
  | cons turn script ih => exact ih (h.step sound turn.1 turn.2) (sound.step turn.1 turn.2)

/-! ### Attachments have a status -/

private theorem Move.status_ne_unassigned (move : Move s a p actions b q)
    (told : a.status ≠ .unassigned) : b.status ≠ .unassigned := by
  have disconnected : a.transport.disconnect.transport.status ≠ .unassigned := by
    rcases a.transport.status_disconnect_cases with same | shut
    · rw [same]
      exact told
    · rw [shut]
      decide
  cases move with
  | @dialing t psm =>
    have same := congrArg Transport.status (a.transport.transport_connect psm)
    exact fun unassigned => told (same.symm.trans unassigned)
  | @dialed t psm =>
    have same := congrArg Transport.status (a.transport.transport_connect psm)
    exact fun unassigned => told (same.symm.trans unassigned)
  | hangingUp => exact disconnected
  | hungUp => exact disconnected
  | _ => exact told

private theorem Moves.status_ne_unassigned (moves : Moves s a p actions b)
    (told : a.status ≠ .unassigned) : b.status ≠ .unassigned := by
  induction moves with
  | rest => exact told
  | move move _ ih => exact ih (move.status_ne_unassigned told)

private theorem Entry.status_ne_unassigned (entry : Entry s a e actions b p)
    (told : a.status ≠ .unassigned) : b.status ≠ .unassigned := by
  have kept : b.transport = a.transport → b.status ≠ .unassigned := by
    intro transport
    rw [Attachment.status, transport]
    exact told
  cases entry with
  | hungUp outcome =>
    have status := a.transport.status_closed outcome
    rw [Attachment.status, status]
    decide
  | dialed psm outcome =>
    rcases a.transport.opened_cases psm outcome with same | ⟨link, -, status⟩
    · exact kept same
    · rw [Attachment.status, status]
      decide
  | startRound => exact kept (transport_absorb _)
  | resumeRound => exact kept (transport_absorb _)
  | summoned summons => cases summons <;> exact kept rfl
  | received summons => cases summons <;> exact kept rfl
  | _ => exact kept rfl

private theorem status_ne_unassigned_run (sound : a.Sound) (told : a.status ≠ .unassigned)
    (script : Script) : (a.run script).status ≠ .unassigned := by
  induction script generalizing a with
  | nil => exact told
  | cons turn script ih =>
    obtain ⟨_, b, p, _, entry, moves, -⟩ := exists_moves sound turn.1 turn.2
    exact ih (sound.step turn.1 turn.2)
      (moves.status_ne_unassigned (entry.status_ne_unassigned told))

/-- The status of an attachment never says that no device is assigned. -/
theorem Reached.status_ne_unassigned (h : a.Reached) : a.status ≠ .unassigned := by
  obtain ⟨a₀, script, ⟨settings, remote, s, actions, created⟩, rfl⟩ := h
  obtain ⟨limit, rfl, -⟩ := create_eq_ok created
  rw [← run_append]
  refine status_ne_unassigned_run (Sound.blank remote limit _) ?_ _
  have status : (Transport.create remote).1.status = .disconnected := Transport.status_publish _ _
  rw [Attachment.status, status]
  decide

/-! ### The service -/

/-- What is known about the service is what the transport link was opened to. -/
def Matched (a : Attachment) : Prop :=
  ∀ c, a.transport.channel = some c → a.service.role = .sink ∧ a.service.psm = c.psm

/-- Services are taken in while the transport link is open to something else. -/
def Displaces (a : Attachment) (s : Surroundings) (e : Event) : Prop :=
  ∃ t services service c, Takes a s e t services ∧ pick services = some service ∧
    a.transport.channel = some c ∧ ¬ (service.role = .sink ∧ service.psm = c.psm)

/-- A task that is no report closes the discovery link, and the transport link after that. -/
def Ending (a : Attachment) : Prop :=
  ∃ n t, a.task? n = some t ∧ t.stage = .parting ∧ ∀ services, t.errand ≠ .report services

/-- The transport link is open to what is known, unless it is about to be closed, and it is being
opened to nothing else. -/
structure Suited (a : Attachment) : Prop where
  matched : a.Matched ∨ a.Ending
  opening : ∀ n t psm, a.task? n = some t → t.stage = .opening psm →
    a.transport.channel = none ∧ a.service.role = .sink ∧ a.service.psm = psm

/-- What holds of the service at the points of a step of `x`. -/
def Suits (x a : Attachment) : Point → Prop
  | .rest => a.Suited
  | .perform _ => a.Matched ∧ a.transport = x.transport
  | .call t .disconnect =>
    ∀ services, t.errand = .report services → a.Matched ∧ a.transport = x.transport
  | .answered t .disconnect _ =>
    ∀ services, t.errand = .report services → a.Matched ∧ a.transport = x.transport
  | .settle _ _ => a.Matched ∧ a.transport = x.transport
  | .dial _ psm => a.Matched ∧ a.service.role = .sink ∧ a.service.psm = psm
  | .hangUp _ => True
  | _ => a.Matched

private theorem Matched.of_eq (h : a.Matched) (service : b.service = a.service)
    (transport : b.transport = a.transport) : b.Matched := by
  unfold Matched at h ⊢
  rw [service, transport]
  exact h

/-- A link that is not there is to nothing else than what is known. -/
theorem matched_of_shut (shut : a.transport.isOpen = false) : a.Matched := by
  intro c channel
  rw [a.transport.channel_eq_none_iff.mpr shut] at channel
  cases channel

-- A task waits, and it is not one that opens the transport link.
private theorem suited_rest (matched : b.Matched ∨ b.Ending) (fine : a.Fine p)
    (move : Move s a p actions b .rest) (other : ∀ n psm, ¬ p.Places n (.opening psm)) :
    b.Suited := by
  refine ⟨matched, fun n t psm there opening => ?_⟩
  have places := move.placed fine there (by rw [opening]; rfl)
  rw [opening] at places
  exact absurd places (other n psm)

private theorem Suits.move (fine : a.Fine p) (traced : x.Traced s e a p)
    (careful : ¬ Displaces x s e)
    (h : x.Suits a p) (move : Move s a p actions b q) : x.Suits b q := by
  -- What is taken in suits the transport link if that is open.
  have suits : ∀ {t services service}, Takes x s e t services → pick services = some service →
      a.transport = x.transport → Matched { a with service } := by
    intro t services service takes picked transport c channel
    by_contra other
    exact careful ⟨t, services, service, c, takes, picked, transport ▸ channel, other⟩
  cases move with
  | late => exact h.1
  | reset line update => exact fun services found => by simp [update] at found
  | probe => exact h.1
  | keep => exact h.1
  | redial _ _ _ role => exact ⟨h.1, role, rfl⟩
  | pass => exact h.1
  | discard => exact h.1
  | heed => exact fun _ _ => h
  | shut close => exact fun services found => by simp [close] at found
  | tell => exact h.1
  | @wait t r told =>
    have places : ∀ n psm, ¬ (Point.call t r).Places n (.opening psm) := by
      intro n psm places
      generalize stage : Stage.opening psm = place at places
      cases places with
      | wait => cases r <;> cases stage
    refine suited_rest (s := s) ?_ fine (.wait told) places
    cases r with
    | disconnect =>
      by_cases report : ∃ services, t.errand = .report services
      · obtain ⟨services, found⟩ := report
        exact .inl ((h services found).1.of_eq rfl rfl)
      · obtain ⟨stage, held, -⟩ := fine
        have own := task?_setTask_self
          (a := { a with
            discovery := (a.discovery.begin s.admission t.number .disconnect).session })
          held.task .parting
        exact .inr ⟨_, _, own, rfl, fun services found => report ⟨services, found⟩⟩
    | _ => exact .inl (Matched.of_eq h rfl rfl)
  | @serve t r reply told =>
    cases r with
    | disconnect =>
      intro services found
      obtain ⟨matched, transport⟩ := h services found
      exact ⟨matched.of_eq rfl rfl, transport⟩
    | _ => exact Matched.of_eq h rfl rfl
  | parted found => exact h _ found
  | cleared => trivial
  | nothing => exact h.1
  | sink lines picked role => exact ⟨suits traced.grounded picked h.2, role, rfl⟩
  | other lines picked => exact suits traced.grounded picked h.2
  | @dialing t psm told =>
    have shut : a.transport.channel = none := a.transport.channel_of_connect told
    have same := a.transport.transport_connect psm
    constructor
    · exact .inl (h.1.of_eq rfl same)
    · intro n u psm' there opening
      have places := (Move.dialing (s := s) told).placed fine there (by rw [opening]; rfl)
      rw [opening] at places
      cases places
      exact ⟨(congrArg Transport.channel same).trans shut, h.2⟩
  | @dialed t psm reply told => exact h.1.of_eq rfl (a.transport.transport_connect psm)
  | @hangingUp t told =>
    refine suited_rest (s := s) (.inl ?_) fine (.hangingUp told) ?_
    · exact matched_of_shut a.transport.isOpen_disconnect
    · intro n psm places
      cases places
  | hungUp => exact matched_of_shut a.transport.isOpen_disconnect
  | @left t reply =>
    refine suited_rest (s := s) (.inl (Matched.of_eq h rfl rfl)) fine .left ?_
    intro n psm places
    cases places
  | _ => exact h

/-- When nobody makes use of the lock, the link suits what is known. -/
theorem Suited.matched_of_unattended (h : a.Suited) (unattended : a.Unattended) : a.Matched := by
  rcases h.matched with matched | ⟨n, t, there, parting, -⟩
  · exact matched
  · have inactive := unattended n t there
    rw [parting] at inactive
    cases inactive

/-- While a task makes use of the lock, nobody else is about to close the transport link. -/
theorem Suited.matched_of_active (h : a.Suited) (sound : a.Sound) {n : Nat} {t : Task}
    (there : a.task? n = some t) (active : t.stage.isActive = true)
    (other : t.stage = .parting → ∃ services, t.errand = .report services) : a.Matched := by
  rcases h.matched with matched | ⟨m, u, listed, parting, unreported⟩
  · exact matched
  · obtain ⟨-, rfl⟩ := sound.eq_of_active there active listed (by rw [parting]; rfl)
    obtain ⟨services, found⟩ := other parting
    exact absurd found (unreported services)

private theorem Suited.entry (h : a.Suited) (shown : a.Shown .rest) (sound : a.Sound)
    (entry : Entry s a e actions b p) : a.Suits b p := by
  have kept : b.service = a.service → b.transport = a.transport → b.Suited := by
    intro service transport
    constructor
    · rcases h.matched with matched | ⟨n, t, there, parting, unreported⟩
      · exact .inl (matched.of_eq service transport)
      · have there' := entry.kept sound there (by rw [parting]; exact nofun)
        exact .inr ⟨n, t, there', parting, unreported⟩
    · intro n t psm there opening
      rw [service, transport]
      exact h.opening n t psm (entry.task_of_active there (by rw [opening]; rfl)) opening
  cases entry with
  | enter there queued admitted free =>
    exact ⟨(h.matched_of_unattended (sound.unattended free)).of_eq rfl rfl, rfl⟩
  | grant there waiting holder =>
    have performs : Performs a s (.resume _ .granted) _ := .grant there waiting holder
    exact ⟨h.matched_of_unattended fun n t there => performs.inactive sound there, rfl⟩
  | hungUp outcome there hangingUp =>
    exact matched_of_shut ((a.transport.isOpen_closed outcome).trans (shown.1 _ _ there hangingUp))
  | dialed psm outcome there opening =>
    obtain ⟨shut, role, same⟩ := h.opening _ _ psm there opening
    intro c channel
    rcases a.transport.opened_cases psm outcome with unchanged | ⟨link, opened, -⟩
    · simp [unchanged, shut] at channel
    · have eq : c = ⟨link, psm⟩ := by simpa [opened] using channel.symm
      rw [eq]
      exact ⟨role, same⟩
  | went => exact kept rfl rfl
  | @answered n t place reply signal there listed asks =>
    have active : t.stage.isActive = true := by
      rw [asks]
      cases place.request <;> rfl
    cases request : place.request with
    | disconnect =>
      intro services found
      exact ⟨(h.matched_of_active sound there active fun _ => ⟨services, found⟩).of_eq rfl rfl, rfl⟩
    | _ =>
      refine Matched.of_eq (h.matched_of_active sound there active ?_) rfl rfl
      simp [asks, request, Stage.ofRequest]
  | startRound => exact kept (service_absorb _) (transport_absorb _)
  | resumeRound => exact kept (service_absorb _) (transport_absorb _)
  | summoned summons => cases summons <;> exact kept rfl rfl
  | received summons free =>
    have matched := h.matched_of_unattended
    cases summons <;> exact ⟨(matched (sound.unattended free)).of_eq rfl rfl, rfl⟩
  | _ => exact kept rfl rfl

private theorem Suits.moves (fine : a.Fine p) (traced : x.Traced s e a p)
    (careful : ¬ Displaces x s e) (h : x.Suits a p) (moves : Moves s a p actions b) : b.Suited := by
  induction moves with
  | rest => exact h
  | move move _ ih =>
    exact ih (fine.move move) (traced.move fine move) (h.move fine traced careful move)

/-- A step that does not displace the service leaves the link suited to it. -/
theorem Suited.step (h : a.Suited) (shown : a.Shown .rest) (sound : a.Sound)
    (careful : ¬ Displaces a s e) : (a.step s e).attachment.Suited := by
  obtain ⟨_, b, p, _, entry, moves, -⟩ := exists_moves sound s e
  exact (h.entry shown sound entry).moves (sound.entry entry) entry.traced careful moves

/-- Services that are taken in while the transport link is open to something else replace what is
known about it, and the link stays. -/
theorem Displaces.step (h : Displaces a s e) (sound : a.Sound) :
    (a.step s e).attachment.Unattended ∧ ¬ (a.step s e).attachment.Matched := by
  obtain ⟨t, services, service, c, takes, picked, channel, other⟩ := h
  obtain ⟨b, first, ⟨stage, held, -⟩, transport, -, eq⟩ := takes.step_eq sound
  have isOpen : b.transport.isOpen = true := by simp [Transport.isOpen, transport, channel]
  have settles : (a.step s e).attachment = ({ b with service }.leave t.number).attachment := by
    rw [eq, attachment_after]
    simp only [settle, picked, attachment_after]
    split
    · simp [openTransport, Transport.connect, isOpen]
    · rfl
  rw [settles]
  constructor
  · intro n u there
    obtain ⟨ne, old⟩ := task?_of_setTask_none there
    rw [← Bool.not_eq_true]
    exact fun active => ne (held.eq_of_active old active).1
  · intro matched
    have same : ({ b with service }.leave t.number).attachment.transport.channel = some c :=
      (congrArg Transport.channel transport).trans channel
    exact other (matched c same)

end Attachment

end A2dpSink
