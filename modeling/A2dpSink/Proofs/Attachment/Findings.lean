import A2dpSink.Proofs.Attachment.Reports
import A2dpSink.Proofs.Discovery.Findings

/-!
# What rounds find can be used

Services only ever come from what rounds have found. That holds of everything that an attachment is
told, and of the service it has settled on (`Usable.run`), so a sink it knows has a channel, and it
never takes a device for a source.
-/

namespace A2dpSink

/-! ### Services -/

/-- A sink has a channel. -/
def AudioService.Usable (s : AudioService) : Prop := s.role = .sink → s.psm ≠ 0

private theorem AudioService.usable_default : ({} : AudioService).Usable := by
  intro sink
  cases sink

private theorem AudioService.Offered.usable {s : AudioService} (h : s.Offered) : s.Usable := by
  intro sink
  rcases h with ⟨-, channel, -⟩ | neither
  · exact channel
  · rw [neither] at sink
    cases sink

private theorem AudioService.Offered.role_ne_source {s : AudioService} (h : s.Offered) :
    s.role ≠ .source := by
  rcases h with ⟨sink, -⟩ | neither
  · rw [sink]
    decide
  · rw [neither]
    decide

namespace Attachment

variable {a b : Attachment} {s : Surroundings} {e : Event} {p q : Point} {actions : List Action}

/-! ### Attachments -/

/-- All services that are there have been found, so they can be used. -/
structure Usable (a : Attachment) : Prop where
  known : a.service = {} ∨ ∃ services, Discovery.Found services ∧ a.service ∈ services
  reports : ∀ n t services, a.task? n = some t → t.errand = .report services →
    Discovery.Found services
  session : a.discovery.Backed

/-- Services that are about to be taken in have been found. -/
def Point.Usable : Point → Prop
  | .settle _ services => Discovery.Found services
  | _ => True

private theorem mem_of_pick {services : List AudioService} {service : AudioService}
    (h : pick services = some service) : service ∈ services := by
  unfold pick at h
  rw [Option.orElse_eq_orElse, Option.orElse_eq_or, Option.or_eq_some_iff] at h
  rcases h with found | ⟨-, first⟩
  · exact List.mem_of_find?_eq_some found
  · exact List.mem_of_head? first

private theorem Usable.move (fine : a.Fine p) (h : a.Usable) (point : p.Usable)
    (move : Move s a p actions b q) : b.Usable ∧ q.Usable := by
  have reports : ∀ n t services, b.task? n = some t → t.errand = .report services →
      Discovery.Found services := by
    intro n t services there found
    rcases move.task there with old | ⟨u, place, old, rfl, -⟩
    · exact h.reports n t services old found
    · exact h.reports n u services old found
  cases move with
  | reset => exact ⟨⟨.inl rfl, reports, h.session⟩, trivial⟩
  | shut => exact ⟨⟨.inl rfl, reports, h.session⟩, trivial⟩
  | wait | serve => exact ⟨⟨h.known, reports, h.session.begin _ _ _⟩, trivial⟩
  | @parted t services reply found =>
    obtain ⟨stage, held, -⟩ := fine
    exact ⟨h, h.reports _ _ services held.task found⟩
  | sink lines picked =>
    exact ⟨⟨.inr ⟨_, point, mem_of_pick picked⟩, reports, h.session⟩, trivial⟩
  | other lines picked =>
    exact ⟨⟨.inr ⟨_, point, mem_of_pick picked⟩, reports, h.session⟩, trivial⟩
  | _ => exact ⟨⟨h.known, reports, h.session⟩, trivial⟩

private theorem Usable.moves (fine : a.Fine p) (h : a.Usable) (point : p.Usable)
    (moves : Moves s a p actions b) : b.Usable := by
  induction moves with
  | rest => exact h
  | move move _ ih =>
    obtain ⟨h, point⟩ := h.move fine point move
    exact ih (fine.move move) h point

/-- A report is an old one, or it takes care of services that are handed over. -/
theorem errand_of_addReports (found : List (List AudioService)) {n : Nat} {t : Task}
    (h : (a.addReports found).task? n = some t) :
    a.task? n = some t ∨ ∃ services ∈ found, t.errand = .report services := by
  induction found generalizing a with
  | nil => exact .inl h
  | cons services found ih =>
    rcases ih h with old | ⟨services', there, errand⟩
    · rcases task?_of_addTask _ _ old with old | ⟨-, rfl⟩
      · exact .inl old
      · exact .inr ⟨services, List.mem_cons_self .., rfl⟩
    · exact .inr ⟨services', List.mem_cons_of_mem _ there, errand⟩

private theorem Usable.entry (h : a.Usable) (entry : Entry s a e actions b p) :
    b.Usable ∧ p.Usable := by
  -- Nothing new is to be reported.
  have same : (∀ n t services, b.task? n = some t → t.errand = .report services →
      ∃ t', a.task? n = some t' ∧ t'.errand = t.errand) → b.service = a.service →
      b.discovery.Backed → b.Usable := by
    intro reports service session
    refine ⟨service ▸ h.known, ?_, session⟩
    intro n t services there found
    obtain ⟨t', old, errand⟩ := reports n t services there found
    exact h.reports n t' services old (errand.trans found)
  have summoned : ∀ {errand c lines}, Summons a e errand c lines →
      b = (c.addTask errand .waiting).claimed c.nextTask → b.Usable := by
    rintro errand c lines summons rfl
    refine same ?_ (by cases summons <;> rfl) (by cases summons <;> exact h.session)
    intro n t services there found
    obtain ⟨t', added, errand'⟩ := errand_of_claimed there
    rcases task?_of_addTask _ _ added with old | ⟨-, rfl⟩
    · cases summons <;> exact ⟨t', old, errand'⟩
    · rw [← errand'] at found
      cases summons <;> cases found
  have advanced : ∀ {d : Discovery} {found : List (List AudioService)}, d.Backed →
      (∀ services ∈ found, Discovery.Found services) →
      b = addReports { a with discovery := d } found → b.Usable := by
    rintro d found backed handed rfl
    refine ⟨?_, ?_, ?_⟩
    · rw [service_addReports]
      exact h.known
    · intro n t services there report
      rcases errand_of_addReports _ there with old | ⟨services', there', report'⟩
      · exact h.reports n t services old report
      · obtain rfl : services' = services := by simpa [report'] using report
        exact handed services' there'
    · rw [discovery_addReports]
      exact backed
  cases entry with
  | noted =>
    refine ⟨same ?_ rfl h.session, trivial⟩
    intro n t services there found
    rcases task?_of_addTask _ _ there with old | ⟨-, rfl⟩
    · exact ⟨t, old, rfl⟩
    · cases found
  | unbonded => exact ⟨same (fun _ _ _ there _ => errand_of_setTask there) rfl h.session, trivial⟩
  | dropped => exact ⟨same (fun _ _ _ there _ => errand_of_setTask there) rfl h.session, trivial⟩
  | queue => exact ⟨same (fun _ _ _ there _ => errand_of_claimed there) rfl h.session, trivial⟩
  | enter => exact ⟨same (fun _ _ _ there _ => errand_of_claimed there) rfl h.session, trivial⟩
  | went signal =>
    exact ⟨same (fun _ t _ there _ => ⟨t, there, rfl⟩) rfl (h.session.resume _ _ _), trivial⟩
  | @answered n t place reply signal =>
    have usable := same (fun _ t _ there _ => ⟨t, there, rfl⟩) rfl (h.session.resume _ _ _)
    exact ⟨usable, trivial⟩
  | startRound =>
    refine ⟨advanced (h.session.startRound _) ?_ (attachment_absorb _ _), trivial⟩
    rw [Discovery.deliveries_startRound]
    simp
  | @resumeRound n signal =>
    obtain ⟨backed, handed⟩ := h.session.resumeRound s.admission n signal
    exact ⟨advanced backed handed (attachment_absorb _ _), trivial⟩
  | summoned summons => exact ⟨summoned summons rfl, trivial⟩
  | received summons => exact ⟨summoned summons rfl, trivial⟩
  | _ => exact ⟨same (fun _ t _ there _ => ⟨t, there, rfl⟩) rfl h.session, trivial⟩

/-- A step leaves all services usable. -/
theorem Usable.step (h : a.Usable) (sound : a.Sound) (s : Surroundings) (e : Event) :
    (a.step s e).attachment.Usable := by
  obtain ⟨_, b, p, _, entry, moves, -⟩ := exists_moves sound s e
  obtain ⟨usable, point⟩ := h.entry entry
  exact usable.moves (sound.entry entry) point moves

/-- A run leaves all services usable. -/
theorem Usable.run (h : a.Usable) (sound : a.Sound) (script : Script) : (a.run script).Usable := by
  induction script generalizing a with
  | nil => exact h
  | cons turn script ih => exact ih (h.step sound turn.1 turn.2) (sound.step turn.1 turn.2)

/-- There are no services at first, so all of them are usable. -/
theorem Begun.usable (h : a.Begun) : a.Usable := by
  obtain ⟨remote, limit, transport, s, rfl⟩ := h.eq
  refine Usable.run ⟨.inl rfl, ?_, ?_⟩ (.blank remote limit transport) _
  · intro n t services there
    cases there
  · intro r there
    cases there

/-- What is known is nothing, or a service as it was offered. -/
theorem Usable.offered (h : a.Usable) : a.service = {} ∨ a.service.Offered := by
  rcases h.known with blank | ⟨services, found, there⟩
  · exact .inl blank
  · exact .inr (found.offer.2 a.service there)

/-- The service that an attachment has settled on is usable. -/
theorem Usable.service (h : a.Usable) : a.service.Usable := by
  rcases h.offered with blank | offered
  · rw [blank]
    exact AudioService.usable_default
  · exact offered.usable

private theorem Usable.role_ne_source (h : a.Usable) : a.service.role ≠ .source := by
  rcases h.offered with blank | offered
  · rw [blank]
    decide
  · exact offered.role_ne_source

private theorem Reached.usable (h : a.Reached) : a.Usable := by
  obtain ⟨a₀, script, begun, rfl⟩ := h
  exact begun.usable.run begun.sound script

/-- Only roles that can be used reach an attachment. Whatever answer a query gets, it comes to some
services, all of them sinks that can be reached or of no use; nothing else is handed over in a run
of a session, or reported to an attachment. So an attachment never takes a device for a source, and
a sink that it knows has a channel. -/
theorem only_usable_roles :
    (∀ result services, Discovery.findings result = .ok services → AudioService.Offer services) ∧
    (∀ settings remote d, Discovery.create settings remote = .ok d → ∀ script admission e,
      ∀ services ∈ Discovery.deliveries ((d.run script).step admission e).actions,
        AudioService.Offer services) ∧
    ∀ a : Attachment, a.Reached →
      (∀ n t services, a.task? n = some t → t.errand = .report services →
        AudioService.Offer services) ∧
      a.service.role ∈ [.unknown, .sink, .neither] ∧
      (a.service.role = .sink → a.service.psm ≠ 0) := by
  refine ⟨?_, ?_, ?_⟩
  · intro result services found
    exact Discovery.Found.offer ⟨result, found⟩
  · intro settings remote d created script admission e services there
    exact (Discovery.found_of_deliveries created script admission e there).offer
  · intro a reached
    have usable := reached.usable
    refine ⟨fun n t services there report => (usable.reports n t services there report).offer,
      ?_, usable.service⟩
    cases role : a.service.role with
    | source => exact absurd role usable.role_ne_source
    | _ => decide

/-- The speaker is known as a sink when the discovery link is closed. -/
theorem only_usable_roles_speaker :
    let known := attached.run (finding ++ [(present, .resume 1 (.closed .closed))])
    known.Reached ∧ known.service.role = .sink ∧ known.service.psm ≠ 0 := by
  intro known
  have reached : known.Reached := ⟨attached, _, attached_begun, rfl⟩
  have sink : known.service.role = .sink := rfl
  exact ⟨reached, sink, (only_usable_roles.2.2 known reached).2.2 sink⟩

end Attachment

end A2dpSink
