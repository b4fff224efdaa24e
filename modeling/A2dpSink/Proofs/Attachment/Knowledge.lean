import A2dpSink.Proofs.Attachment.Reports

/-!
# What is known about the service

Nothing but a report tells an attachment about a service, and the transport link is opened only when
something is known about it (`Traced`). An update that finds the device gone forgets it all
(`Resets.step`).
-/

namespace A2dpSink.Attachment

variable {a b : Attachment} {s : Surroundings} {e : Event} {p q : Point} {actions : List Action}

/-- The services of some report are taken in. -/
def Told (a : Attachment) (s : Surroundings) (e : Event) : Prop :=
  ∃ t services, Takes a s e t services

/-- A step opens a link, and it is not the discovery link: no call waits for that one to open. -/
def Dials (a : Attachment) (s : Surroundings) (e : Event) : Prop :=
  ∃ psm, .effect (.connect psm) ∈ (a.step s e).actions ∧
    ∀ n, (a.step s e).attachment.discovery.callStage? n ≠ some .opening

/-! ### Who opens links -/

private theorem connect_not_mem_publish (t : Transport) (status : ConnectionStatus) (psm : Psm) :
    .connect psm ∉ (t.publish status).2 := by
  unfold Transport.publish
  split <;> simp

/-- A step opens a link only when a task dials, or a call waits for the discovery link to open
then. -/
theorem Move.connects (move : Move s a p actions b q) {psm : Psm}
    (connects : .effect (.connect psm) ∈ actions) :
    (∃ t psm', p = .dial t psm') ∨ q = .rest ∧ ∃ n, b.discovery.callStage? n = some .opening := by
  have parting : .connect psm ∉ a.transport.disconnect.effects := by
    unfold Transport.disconnect
    split
    · simp
    · exact connect_not_mem_publish _ _ psm
  cases move with
  | @wait t r told =>
    right
    simp only [absorb, effect_mem_translate] at connects
    exact ⟨rfl, t.number, (Discovery.begin_connects connects).1⟩
  | @serve t r reply told =>
    simp only [absorb, effect_mem_translate] at connects
    rw [(Discovery.begin_connects connects).2] at told
    cases told
  | dialing => exact .inl ⟨_, _, rfl⟩
  | dialed => exact .inl ⟨_, _, rfl⟩
  | hangingUp => exact absurd (by simpa using connects) parting
  | hungUp => exact absurd (by simpa using connects) parting
  | @left t reply => cases reply <;> simp [leave] at connects
  | _ => simp at connects

/-- A chain of moves opens a link only when a task dials on the way, or a call waits for the
discovery link to open in the end. -/
theorem Moves.connects {I : Attachment → Point → Prop} (moves : Moves s a p actions b)
    (start : I a p)
    (keep : ∀ {a b p q actions}, I a p → Move s a p actions b q → I b q) {psm : Psm}
    (connects : .effect (.connect psm) ∈ actions) :
    (∃ c t psm', I c (.dial t psm')) ∨ ∃ n, b.discovery.callStage? n = some .opening := by
  induction moves with
  | rest => cases connects
  | @move a b c p q now later move moves ih =>
    rcases List.mem_append.mp connects with first | rest
    · rcases move.connects first with ⟨t, psm', rfl⟩ | ⟨rfl, opening⟩
      · exact .inl ⟨a, t, psm', start⟩
      · rw [moves.eq_of_rest]
        exact .inr opening
    · exact ih (keep start move) rest

private theorem Entry.connects (entry : Entry s a e actions b p) {psm : Psm}
    (connects : .effect (.connect psm) ∈ actions) :
    p = .rest ∧ ∃ n, b.discovery.callStage? n = some .opening := by
  cases entry with
  | @went n t place signal there listed eq told =>
    simp only [absorb, effect_mem_translate] at connects
    exact ⟨rfl, n, ((Discovery.resume_resumed _ _ _ _).connects connects).1⟩
  | answered signal there listed eq told =>
    simp only [absorb, effect_mem_translate] at connects
    rw [((Discovery.resume_resumed _ _ _ _).connects connects).2] at told
    cases told
  | startRound =>
    simp only [absorb, effect_mem_translate] at connects
    exact absurd connects ((Discovery.startRound_advanced _ _).connects psm)
  | resumeRound =>
    simp only [absorb, effect_mem_translate] at connects
    exact absurd connects ((Discovery.resumeRound_advanced _ _ _ _).connects psm)
  | hungUp outcome =>
    exfalso
    simp only [Transport.closed] at connects
    simp [connect_not_mem_publish] at connects
  | dialed psm' outcome =>
    exfalso
    unfold Transport.opened at connects
    split at connects <;> simp [connect_not_mem_publish] at connects
  | _ => simp at connects

/-! ### Where knowledge comes from -/

/-- What a point tells about the way to it. -/
def Grounded (a : Attachment) (s : Surroundings) (e : Event) (b : Attachment) : Point → Prop
  | .perform t => ∀ services, t.errand = .report services →
      Performs a s e t ∧ b.discovery = a.discovery ∧ b.closed = a.closed
  | .call t .disconnect => ∀ services, t.errand = .report services →
      Heeds a s e t ∧ b.discovery = a.discovery
  | .answered t .disconnect _ => ∀ services, t.errand = .report services → Takes a s e t services
  | .settle t services => Takes a s e t services
  | .dial _ _ => a.service ≠ {} ∨ Told a s e
  | _ => True

/-- Where what is there at a point of a step comes from. -/
structure Traced (a : Attachment) (s : Surroundings) (e : Event) (b : Attachment) (p : Point) :
    Prop where
  service : b.service ≠ {} → a.service ≠ {} ∨ Told a s e
  parting : ∀ n t services, b.task? n = some t → t.errand = .report services → t.stage = .parting →
    a.task? n = some t ∨ ∃ t', Heeds a s e t' ∧ t'.number = n
  grounded : a.Grounded s e b p

/-- A move keeps the traces of what is there. -/
theorem Traced.move {x : Attachment} (fine : a.Fine p) (h : x.Traced s e a p)
    (move : Move s a p actions b q) : x.Traced s e b q := by
  have parting : ∀ n t services, b.task? n = some t → t.errand = .report services →
      t.stage = .parting → x.task? n = some t ∨ ∃ t', Heeds x s e t' ∧ t'.number = n := by
    intro n u services there found parting
    rcases move.task there with old | ⟨u', place, old, rfl, places⟩
    · exact h.parting n u services old found parting
    · cases places with
      | wait t r =>
        cases r with
        | disconnect =>
          -- The task in hand is the one that is noted.
          obtain ⟨stage, held, -⟩ := fine
          rw [held.task, Option.some.injEq] at old
          subst old
          exact .inr ⟨t, (h.grounded services found).1, rfl⟩
        | _ => cases parting
      | dial => cases parting
      | hangUp => cases parting
  obtain ⟨service, -, grounded⟩ := h
  cases move with
  | reset line update =>
    exact ⟨fun known => absurd rfl known, parting, fun services found => by simp [update] at found⟩
  | shut close =>
    exact ⟨fun known => absurd rfl known, parting, fun services found => by simp [close] at found⟩
  | redial _ _ _ role =>
    refine ⟨service, parting, service ?_⟩
    intro unknown
    rw [unknown] at role
    cases role
  | heed found closed connected =>
    refine ⟨service, parting, fun services' found' => ?_⟩
    obtain ⟨performs, discovery, closed'⟩ := grounded services' found'
    exact ⟨⟨performs, ⟨_, found'⟩, closed' ▸ closed, connected⟩, discovery⟩
  | @serve t r reply told =>
    refine ⟨service, parting, ?_⟩
    cases r with
    | disconnect =>
      intro services found
      obtain ⟨heeds, discovery⟩ := grounded services found
      exact .atOnce heeds found (by rw [← discovery, told]; simp)
    | _ => trivial
  | parted found => exact ⟨service, parting, grounded _ found⟩
  | sink => exact ⟨fun _ => .inr ⟨_, _, grounded⟩, parting, .inr ⟨_, _, grounded⟩⟩
  | other => exact ⟨fun _ => .inr ⟨_, _, grounded⟩, parting, trivial⟩
  | _ => exact ⟨service, parting, trivial⟩

private theorem Traced.moves {x : Attachment} (fine : a.Fine p) (h : x.Traced s e a p)
    (moves : Moves s a p actions b) : x.Traced s e b .rest := by
  induction moves with
  | rest => exact h
  | move move _ ih => exact ih (fine.move move) (h.move fine move)

/-- An entry keeps the traces of what is there. -/
theorem Entry.traced (entry : Entry s a e actions b p) : a.Traced s e b p := by
  have service : b.service = a.service := by
    cases entry with
    | startRound => rw [attachment_absorb, service_addReports]
    | resumeRound => rw [attachment_absorb, service_addReports]
    | summoned summons => cases summons <;> rfl
    | received summons => cases summons <;> rfl
    | _ => rfl
  refine ⟨fun known => .inl (service ▸ known), ?_, ?_⟩
  · intro n t services there found parting
    exact .inl (entry.task_of_active there (by rw [parting]; rfl))
  · cases entry with
    | enter there queued admitted free =>
      exact fun _ _ => ⟨.start there queued admitted free, rfl, rfl⟩
    | grant there waiting holder => exact fun _ _ => ⟨.grant there waiting holder, rfl, rfl⟩
    | @answered n t place reply signal there listed eq told =>
      cases request : place.request with
      | disconnect =>
        intro services found
        exact .later signal there (by rw [eq, request]; rfl) found (by rw [told]; simp)
      | _ => trivial
    | received summons =>
      intro services found
      cases summons <;> cases found
    | _ => trivial

/-- Everything that is there after a step was there before or was told in it. -/
theorem traced_step (sound : a.Sound) (s : Surroundings) (e : Event) :
    a.Traced s e (a.step s e).attachment .rest := by
  obtain ⟨_, b, p, _, entry, moves, -⟩ := exists_moves sound s e
  exact entry.traced.moves (sound.entry entry) moves

/-- The transport link is opened only when something is known about the service. -/
theorem known_of_dials (sound : a.Sound) (dials : Dials a s e) :
    a.service ≠ {} ∨ Told a s e := by
  obtain ⟨psm, connects, elsewhere⟩ := dials
  obtain ⟨first, b, p, later, entry, moves, eq⟩ := exists_moves sound s e
  rw [eq, List.mem_append] at connects
  rcases connects with connects | connects
  · obtain ⟨rfl, n, opening⟩ := entry.connects connects
    rw [← moves.eq_of_rest] at opening
    exact absurd opening (elsewhere n)
  · rcases moves.connects (I := fun c q => c.Fine q ∧ a.Traced s e c q)
      ⟨sound.entry entry, entry.traced⟩
      (fun ⟨fine, traced⟩ move => ⟨fine.move move, traced.move fine move⟩) connects with
      ⟨c, t, psm', -, traced⟩ | ⟨n, opening⟩
    · exact traced.grounded
    · exact absurd opening (elsewhere n)

/-! ### Resets -/

/-- From a point on, nothing is found out about the service. -/
def Point.IsCalm : Point → Prop
  | .perform _ => False
  | .call t .disconnect => ∀ services, t.errand ≠ .report services
  | .answered t .disconnect _ => ∀ services, t.errand ≠ .report services
  | .settle _ _ => False
  | .dial _ _ => False
  | _ => True

private theorem Move.calm (move : Move s a p actions b q) (calm : p.IsCalm) :
    q.IsCalm ∧ b.service = a.service := by
  cases move with
  | @serve t r reply told =>
    cases r with
    | disconnect => exact ⟨calm, rfl⟩
    | _ => exact ⟨trivial, rfl⟩
  | parted found => exact absurd found (calm _)
  | _ => first | exact ⟨trivial, rfl⟩ | exact calm.elim

private theorem Moves.service_eq (moves : Moves s a p actions b) (calm : p.IsCalm) :
    b.service = a.service := by
  induction moves with
  | rest => rfl
  | move move _ ih => exact (ih (move.calm calm).1).trans (move.calm calm).2

/-- The job of an update finds that the device is gone. -/
def Resets (a : Attachment) (s : Surroundings) (e : Event) : Prop :=
  ∃ t, Performs a s e t ∧ t.errand = .update ∧ a.closed = false ∧ s.flags.connected = false

/-- After a reset nothing is known about the service, and the transport link is not opened. -/
theorem Resets.step (h : Resets a s e) :
    (a.step s e).attachment.service = {} ∧ ¬ Dials a s e := by
  obtain ⟨t, performs, update, unclosed, gone⟩ := h
  obtain ⟨b, -, eq, -, closed, -, -⟩ := performs.step_eq
  rw [← closed] at unclosed
  -- The update forgets the service, and closes links from then on.
  have forgets : ∃ line, a.step s e =
      ({ b with service := {} }.go s (.call t .disconnect)).after [.log line] := by
    rw [eq, go, perform]
    simp only [update, Attachment.update, unclosed, gone]
    exact ⟨_, rfl⟩
  obtain ⟨line, forgets⟩ := forgets
  have moves := moves_go { b with service := {} } s (.call t .disconnect)
  have calm : (Point.call t .disconnect).IsCalm := by
    intro services found
    rw [update] at found
    cases found
  constructor
  · rw [forgets, attachment_after]
    exact moves.service_eq calm
  · rintro ⟨psm, connects, elsewhere⟩
    rw [forgets, attachment_after] at elsewhere
    rw [forgets, actions_after] at connects
    have connects := by simpa using connects
    rcases moves.connects (I := fun _ q => q.IsCalm) calm (fun calm move => (move.calm calm).1)
      connects with ⟨c, t, psm', calm⟩ | ⟨n, opening⟩
    · exact calm
    · exact elsewhere n opening

end A2dpSink.Attachment
