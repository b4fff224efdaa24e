import A2dpSink.Proofs.Discovery.Rounds

/-!
# What rounds find

Rounds look for records of sinks, and services are read from these only. The same class decides the
role of a service, so a service that is found is a sink that can be reached, or of no use, and never
a source (`Found.offer`). Everything that rounds wait with or hand over has been found
(`Backed.run`, `found_of_deliveries`).
-/

namespace A2dpSink

/-! ### Services -/

namespace AudioService

/-- A service as it is offered: a sink that can be reached, or one that cannot be used. -/
def Offered (s : AudioService) : Prop :=
  s.role = .sink ∧ s.psm ≠ 0 ∧ s.transportVersion ≠ {} ∨ s.role = .neither

private theorem parameter?_ne_zero {r : Sdp.Record} {protocol : Uuid} {n : BitVec 16}
    (h : parameter? r protocol = some n) : n ≠ 0 := by
  unfold parameter? at h
  split at h
  · next m found =>
    split at h
    · cases h
    · next other =>
      rw [Option.some.injEq] at h
      exact h ▸ other
  · cases h

private theorem roleOf_of_hasClass {r : Sdp.Record} (h : r.hasClass ServiceClass.audioSink = true) :
    roleOf r = .sink := if_pos h

/-- A record that names the class of sinks is no source, whatever else it names. -/
theorem offered_ofRecord {r : Sdp.Record} (h : r.hasClass ServiceClass.audioSink = true) :
    (ofRecord r).Offered := by
  unfold ofRecord read
  split
  · exact .inr rfl
  · split
    · exact .inr rfl
    · next psm channel =>
      split
      · exact .inr rfl
      · next version transport =>
        exact .inl ⟨roleOf_of_hasClass h, parameter?_ne_zero channel,
          Version.ofWord_ne_blank (parameter?_ne_zero transport)⟩

/-- Some services, all of them as they are offered. -/
def Offer (services : List AudioService) : Prop := services ≠ [] ∧ ∀ s ∈ services, s.Offered

end AudioService

namespace Discovery

variable {d : Discovery} {n : Nat}

/-! ### Answers -/

/-- Findings are the services of the records of sinks, in their order. -/
theorem findings_eq_ok {result : Option Sdp.Result} {services : List AudioService} :
    findings result = .ok services ↔ ∃ records, result = some (.ok records) ∧
      sinks records ≠ [] ∧ services = (sinks records).map AudioService.ofRecord := by
  constructor
  · intro found
    unfold findings at found
    split at found
    · cases found
    · cases found
    · next records =>
      split at found
      · cases found
      · next services nonempty =>
        cases found
        refine ⟨records, rfl, fun empty => nonempty ?_, rfl⟩
        rw [empty, List.map_nil]
  · rintro ⟨records, rfl, nonempty, rfl⟩
    simp only [findings]
    split
    · next empty => exact absurd (List.map_eq_nil_iff.mp empty) nonempty
    · rfl

/-- An answer to the query of a round comes to these services. -/
def Found (services : List AudioService) : Prop := ∃ result, findings result = .ok services

/-- What a round finds is an offer of services. -/
theorem Found.offer {services : List AudioService} (h : Found services) :
    AudioService.Offer services := by
  obtain ⟨result, found⟩ := h
  obtain ⟨records, -, nonempty, rfl⟩ := findings_eq_ok.mp found
  constructor
  · exact mt List.map_eq_nil_iff.mp nonempty
  · intro s there
    obtain ⟨r, among, rfl⟩ := List.mem_map.mp there
    exact AudioService.offered_ofRecord (List.mem_filter.mp among).2

/-! ### What rounds hand over -/

/-- What rounds wait with has been found. -/
def Backed (d : Discovery) : Prop :=
  ∀ r ∈ d.rounds, ∀ services, r.stage = .waiting (.ok services) → Found services

/-- Rounds that wait for the lock did so before. -/
theorem Backed.of_waiting (h : d.Backed) {d' : Discovery}
    (old : ∀ r ∈ d'.rounds, ∀ found, r.stage = .waiting found → r ∈ d.rounds) : d'.Backed :=
  fun r there services found => h r (old r there _ found) services found

private theorem Served.waiting {r : Request} {o : Outcome} (h : Served d n r o) :
    ∀ r ∈ o.session.rounds, ∀ found, r.stage = .waiting found → r ∈ d.rounds := by
  cases h with
  | scheduled =>
    intro r there found waits
    rcases List.mem_append.mp there with old | new
    · exact old
    · rw [List.mem_singleton] at new
      subst new
      cases waits
  | _ => exact fun r there _ _ => there

private theorem Resumed.waiting {o : Outcome} (h : Resumed d n o) :
    ∀ r ∈ o.session.rounds, ∀ found, r.stage = .waiting found → r ∈ d.rounds := by
  cases h with
  | served _ _ served => exact served.waiting
  | _ => exact fun r there _ _ => there

/-- A new call leaves what rounds wait with alone. -/
theorem Backed.begin (h : d.Backed) (admission : Except SubmitError Unit) (n : Nat) (r : Request) :
    (d.begin admission n r).session.Backed := by
  unfold Discovery.begin
  simp only
  split
  · exact h.of_waiting (perform_served _ admission n r).waiting
  · exact h

/-- A call that goes on leaves what rounds wait with alone. -/
theorem Backed.resume (h : d.Backed) (admission : Except SubmitError Unit) (n : Nat)
    (s : Signal) : (d.resume admission n s).session.Backed :=
  h.of_waiting (resume_resumed d admission n s).waiting

/-- A round that goes to another place waits for the lock only with what has been found. -/
theorem Backed.setRound (h : d.Backed) (n : Nat) {stage : Option RoundStage}
    (backed : ∀ services, stage = some (.waiting (.ok services)) → Found services) :
    (d.setRound n stage).Backed := by
  intro r there services waits
  cases stage with
  | none => exact h r (mem_setRound_none.mp there).1 services waits
  | some stage =>
    obtain ⟨r', there', rfl⟩ := mem_setRound_some.mp there
    split at waits
    · exact backed services (congrArg some waits)
    · exact h r' there' services waits

/-- A round that closes its link delivers nothing of its own. -/
theorem deliveries_closeRound (d : Discovery) (r : Round) (before after : List Action) :
    deliveries (d.closeRound r before after).actions =
      deliveries before ++ deliveries after := by
  simp only [closeRound, deliveries_append, deliveries_release, List.append_nil]
  exact List.append_nil _

/-- A round that holds the lock hands over what it has found, or nothing. -/
theorem Backed.conclude (h : d.Backed) (admission : Except SubmitError Unit) (r : Round)
    (found : Findings) : (d.conclude admission r found).session.Backed ∧
      ∀ services ∈ deliveries (d.conclude admission r found).actions, found = .ok services := by
  -- In all cases but one the round closes its link, and hands over nothing.
  have closes : ∀ (d' : Discovery) (before after : List Action), d'.rounds = d.rounds →
      deliveries before ++ deliveries after = [] →
        (d'.closeRound r before after).session.Backed ∧
          ∀ services ∈ deliveries (d'.closeRound r before after).actions,
            found = .ok services := by
    intro d' before after same quiet
    have backed : d'.Backed := fun r there => h r (same ▸ there)
    have closing : (d'.setRound r.number (some .closing)).Backed :=
      backed.setRound r.number (by simp)
    refine ⟨closing, ?_⟩
    rw [deliveries_closeRound, quiet]
    simp
  unfold Discovery.conclude
  split
  · exact closes d _ _ rfl rfl
  · simp only
    split
    · next services =>
      split
      · have backed : Backed { d with discovering := false, link := some r.link } := h
        have ended : (Discovery.setRound { d with
            discovering := false, link := some r.link } r.number none).Backed :=
          backed.setRound r.number nofun
        refine ⟨ended, fun services' there => ?_⟩
        rw [deliveries_append, deliveries_release, List.append_nil] at there
        rw [List.mem_singleton.mp there]
      · exact closes _ _ _ rfl rfl
    · exact closes _ _ _ rfl rfl

/-- A round that starts waits with nothing. -/
theorem Backed.startRound (h : d.Backed) (n : Nat) : (d.startRound n).session.Backed := by
  unfold Discovery.startRound
  split
  · exact h.setRound n (by simp)
  · exact h

/-- What a round hands over has been found. -/
theorem Backed.resumeRound (h : d.Backed) (admission : Except SubmitError Unit) (n : Nat)
    (s : Signal) : (d.resumeRound admission n s).session.Backed ∧
      ∀ services ∈ deliveries (d.resumeRound admission n s).actions, Found services := by
  have nothing : ∀ services ∈ deliveries [], Found services := by
    simp [deliveries]
  unfold Discovery.resumeRound
  split
  · exact ⟨h, nothing⟩
  · next r listed =>
    split
    · next result stage =>
      simp only
      split
      · have asking : Backed { d with lock := d.lock.request (.round n) } := h
        obtain ⟨backed, handed⟩ := asking.conclude admission r (findings result)
        refine ⟨backed, ?_⟩
        rw [deliveries_append, deliveries_log, List.nil_append]
        exact fun services there => ⟨result, handed services there⟩
      · have asking : Backed { d with lock := d.lock.request (.round n) } := h
        refine ⟨asking.setRound n ?_, ?_⟩
        · intro services waits
          exact ⟨result, by simpa using waits⟩
        · rw [deliveries_log]
          simp
    · next found stage =>
      split
      · obtain ⟨backed, handed⟩ := h.conclude admission r found
        refine ⟨backed, fun services there => ?_⟩
        exact h r (round?_eq_some listed).1 services (by rw [stage, handed services there])
      · exact ⟨h, nothing⟩
    · exact ⟨h.setRound n (by simp), nothing⟩
    · exact ⟨h, nothing⟩

/-- In a step of a session, a round goes on with what has been found. -/
theorem Backed.step (h : d.Backed) (admission : Except SubmitError Unit) (e : Event) :
    (d.step admission e).session.Backed ∧
      ∀ services ∈ deliveries (d.step admission e).actions, Found services := by
  have quiet : ∀ {actions}, deliveries actions = [] →
      ∀ services ∈ deliveries actions, Found services := by
    intro actions silent services there
    rw [silent] at there
    cases there
  cases e with
  | begin n r =>
    simp only [Discovery.step]
    split
    · exact ⟨h.begin admission n r, quiet (begin_quiet d admission n r)⟩
    · exact ⟨h, quiet rfl⟩
  | resume n s =>
    exact ⟨h.resume admission n s, quiet (resume_resumed d admission n s).quiet⟩
  | startRound n => exact ⟨h.startRound n, quiet (deliveries_startRound d n)⟩
  | resumeRound n s => exact h.resumeRound admission n s

/-- After a run, what rounds wait with has been found. -/
theorem Backed.run (h : d.Backed) (script : List (Except SubmitError Unit × Event)) :
    (d.run script).Backed := by
  induction script generalizing d with
  | nil => exact h
  | cons turn script ih => exact ih (h.step turn.1 turn.2).1

/-- Whatever is handed over in a run of a session has been found. -/
theorem found_of_deliveries {settings : Settings} {remote : Address}
    (created : create settings remote = .ok d)
    (script : List (Except SubmitError Unit × Event)) (admission : Except SubmitError Unit)
    (e : Event) {services : List AudioService}
    (there : services ∈ deliveries ((d.run script).step admission e).actions) :
    Found services := by
  obtain ⟨limit, rfl⟩ := create_eq_ok created
  have blank : Backed { remote, queryLimit := limit } := nofun
  exact ((blank.run script).step admission e).2 services there

end Discovery

end A2dpSink
