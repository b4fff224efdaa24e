import A2dpSink.Proofs.Attachment.Knowledge

/-!
# Discovery after a reset

When an update finds that the device is gone, what is known about its service is forgotten: a reset.
The rounds that were started before have numbers below that of the next round then. What they found
may still be on its way, and `rediscovers_iff` says what that means: the service is found out anew
unless one of their reports finds the device connected again.
-/

namespace A2dpSink.Attachment

variable {a b : Attachment} {s : Surroundings} {e : Event}

/-! ### Reports and their rounds -/

/-- The report `m` of a run takes care of what a round found of whose number `K` holds. -/
def Origin (a : Attachment) (script : Script) (K : Nat → Prop) (m : Nat) : Prop :=
  ∃ n, K n ∧ a.Sometime script fun b s e => Reports b s e n m

/-- Every report takes care of what some round found. -/
theorem Begun.reports (begun : a.Begun) (script : Script) {m : Nat} {t : Task}
    {services : List AudioService} (there : (a.run script).task? m = some t)
    (found : t.errand = .report services) :
    ∃ n, a.Sometime script fun b s e => Reports b s e n m := by
  induction script using List.reverseRecOn generalizing t with
  | nil =>
    obtain ⟨remote, limit, transport, s, rfl⟩ := begun.eq
    rcases reports_of_step (Sound.blank remote limit transport) there found with
      ⟨t', listed, -⟩ | ⟨k, reports⟩
    · simp [task?] at listed
    · cases reports
  | append_singleton script turn ih =>
    obtain ⟨s, e⟩ := turn
    rw [run_append] at there
    rcases reports_of_step (begun.sound.run script) there found with ⟨t', listed, found'⟩ | ⟨k, new⟩
    · obtain ⟨n, reports⟩ := ih listed found'
      exact ⟨n, reports.append _⟩
    · exact ⟨k, sometime_append.mpr (.inr new)⟩

/-! ### What is accounted for since a reset -/

/-- What there is to know, and who is about to tell it, since a reset. -/
structure Accounted (b : Attachment) (since : Script) : Prop where
  service : (b.run since).service ≠ {} → b.Sometime since Told
  dials : b.Sometime since Dials → b.Sometime since Told
  parting : ∀ n t services, (b.run since).task? n = some t → t.errand = .report services →
    t.stage = .parting → b.Sometime since fun c s e => ∃ t, Heeds c s e t ∧ t.number = n
  takes : ∀ t services, (b.Sometime since fun c s e => Takes c s e t services) →
    b.Sometime since fun c s e => ∃ t', Heeds c s e t' ∧ t'.number = t.number

private theorem Accounted.reset (sound : b.Sound) (reset : Resets b s e) :
    b.Accounted [(s, e)] := by
  have gone : s.flags.connected = false := by
    obtain ⟨t, -, -, -, gone⟩ := reset
    exact gone
  have nobody : ∀ t, ¬ Heeds b s e t := by
    intro t heeds
    have connected := heeds.connected
    rw [gone] at connected
    cases connected
  have quiet : ∀ n t, b.task? n = some t → t.stage ≠ .parting := by
    intro n u there parting
    obtain ⟨t, performs, -⟩ := reset
    have inactive := performs.inactive sound there
    rw [parting] at inactive
    cases inactive
  constructor
  · intro known
    exact absurd reset.step.1 known
  · intro dials
    exact absurd (sometime_singleton.mp dials) reset.step.2
  · intro n t services there found parting
    have traced := traced_step sound s e
    rcases traced.parting n t services there found parting with old | ⟨t', heeds, -⟩
    · exact absurd parting (quiet n t old)
    · exact absurd heeds (nobody t')
  · intro t services takes
    have takes := sometime_singleton.mp takes
    cases takes with
    | atOnce heeds => exact absurd heeds (nobody t)
    | later signal there parting => exact absurd parting (quiet _ t there)

/-- After a reset every step accounts for what there is to know. -/
theorem Accounted.step (sound : b.Sound) {since : Script} (h : b.Accounted since)
    (s : Surroundings) (e : Event) : b.Accounted (since ++ [(s, e)]) := by
  have traced := traced_step (sound.run since) s e
  have known : (b.run since).service ≠ {} ∨ Told (b.run since) s e →
      b.Sometime (since ++ [(s, e)]) Told := by
    rintro (old | new)
    · exact (h.service old).append _
    · exact sometime_append.mpr (.inr new)
  constructor
  · rw [run_append]
    exact fun there => known (traced.service there)
  · intro dials
    rcases sometime_append.mp dials with old | new
    · exact (h.dials old).append _
    · exact known (known_of_dials (sound.run since) new)
  · intro n t services there found parting
    rw [run_append] at there
    rcases traced.parting n t services there found parting with old | new
    · exact (h.parting n t services old found parting).append _
    · exact sometime_append.mpr (.inr new)
  · intro t services takes
    rcases sometime_append.mp takes with old | new
    · exact (h.takes t services old).append _
    · cases new with
      | atOnce heeds => exact sometime_append.mpr (.inr ⟨t, heeds, rfl⟩)
      | later signal there parting found =>
        rw [number_of_task? there]
        exact (h.parting _ t services there found parting).append _

private theorem accounted (sound : b.Sound) (reset : Resets b s e) (mid : Script) :
    b.Accounted ((s, e) :: mid) := by
  induction mid using List.reverseRecOn with
  | nil => exact .reset sound reset
  | append_singleton mid turn ih => exact ih.step sound turn.1 turn.2

/-- The services of a report that finds the device connected are taken in, or the report waits for
the discovery link to close. -/
theorem takes_of_heeds (sound : b.Sound) {since : Script} {m : Nat}
    (h : b.Sometime since fun c s e => ∃ t, Heeds c s e t ∧ t.number = m) :
    (b.Sometime since fun c s e => ∃ t services, Takes c s e t services ∧ t.number = m) ∨
      ∃ t services, (b.run since).task? m = some t ∧ t.errand = .report services ∧
        t.stage = .parting := by
  induction since using List.reverseRecOn with
  | nil => exact absurd h not_sometime_nil
  | append_singleton since turn ih =>
    obtain ⟨s, e⟩ := turn
    rw [run_append]
    rcases sometime_append.mp h with old | ⟨t, heeds, rfl⟩
    · rcases ih old with takes | ⟨t, services, there, found, parting⟩
      · exact .inl (takes.append _)
      · rcases step_of_parting (sound.run since) there found parting s e with ⟨kept, -⟩ | takes
        · exact .inr ⟨t, services, kept, found, parting⟩
        · exact .inl (sometime_append.mpr (.inr ⟨t, services, takes, number_of_task? there⟩))
    · obtain ⟨services, found, takes | ⟨waits, -⟩⟩ := heeds.step
      · exact .inl (sometime_append.mpr (.inr ⟨t, services, takes, rfl⟩))
      · exact .inr ⟨_, services, waits, found, rfl⟩

/-! ### Finding out anew -/

/-- In a part of a run, services are taken in that a round found of whose number `K` holds. -/
def Taken (a : Attachment) (before since : Script) (K : Nat → Prop) : Prop :=
  (a.run before).Sometime since fun b s e =>
    ∃ t services, Takes b s e t services ∧ a.Origin (before ++ since) K t.number

/-- In a part of a run, the report of a round of whose number `K` holds finds the device
connected. -/
def Heeded (a : Attachment) (before since : Script) (K : Nat → Prop) : Prop :=
  (a.run before).Sometime since fun b s e =>
    ∃ t, Heeds b s e t ∧ a.Origin (before ++ since) K t.number

/-- From a turn of a run on, nothing is known about the service and the transport link is not opened
until the services of a round are taken in that is started later, and those of earlier rounds never
are. -/
structure Rediscovers (a : Attachment) (before : Script) (turn : Surroundings × Event)
    (after : Script) : Prop where
  unknown : ∀ mid, mid <+: after →
    ¬ a.Taken before (turn :: mid) ((a.run before).discovery.nextRound ≤ ·) →
      (a.run (before ++ turn :: mid)).service = {} ∧
        ¬ (a.run before).Sometime (turn :: mid) Dials
  unused : ¬ a.Taken before (turn :: after) (· < (a.run before).discovery.nextRound)

private theorem Origin.append {before : Script} {K : Nat → Prop} {m : Nat} (h : a.Origin before K m)
    (more : Script) : a.Origin (before ++ more) K m := by
  obtain ⟨n, holds, reports⟩ := h
  exact ⟨n, holds, reports.append more⟩

/-- What a report takes care of was found by an earlier round or by a later one. -/
theorem Begun.origin (begun : a.Begun) (script : Script) {m : Nat} {t : Task}
    {services : List AudioService} (there : (a.run script).task? m = some t)
    (found : t.errand = .report services) (k : Nat) :
    a.Origin script (· < k) m ∨ a.Origin script (k ≤ ·) m := by
  obtain ⟨n, reports⟩ := begun.reports script there found
  rcases Nat.lt_or_ge n k with less | ge
  · exact .inl ⟨n, less, reports⟩
  · exact .inr ⟨n, ge, reports⟩

private theorem Heeded.append {before since : Script} {K : Nat → Prop} (h : a.Heeded before since K)
    (more : Script) : a.Heeded before (since ++ more) K := by
  obtain ⟨first, s, e, rest, rfl, t, heeds, origin⟩ := h
  refine ⟨first, s, e, rest ++ more, by simp, t, heeds, ?_⟩
  rw [← List.append_assoc]
  exact origin.append more

/-- Since a reset, services are taken in only after their report has found the device connected. -/
theorem Taken.heeded {before since : Script} {K : Nat → Prop} (sound : (a.run before).Sound)
    (reset : Resets (a.run before) s e) (h : a.Taken before ((s, e) :: since) K) :
    a.Heeded before ((s, e) :: since) K := by
  obtain ⟨first, s', e', rest, eq, t, services, takes, origin⟩ := h
  obtain ⟨first', s'', e'', rest', eq', t', heeds, number⟩ :=
    (accounted sound reset since).takes t services ⟨first, s', e', rest, eq, takes⟩
  exact ⟨first', s'', e'', rest', eq', t', heeds, number ▸ origin⟩

/-- A report that finds the device connected has its services taken in, at the latest when the lock
is free. -/
theorem Heeded.taken {before since : Script} {K : Nat → Prop} (begun : a.Begun)
    (free : (a.run (before ++ since)).lock.isFree = true) (h : a.Heeded before since K) :
    a.Taken before since K := by
  obtain ⟨first, s, e, rest, eq, t, heeds, origin⟩ := h
  rcases takes_of_heeds (begun.sound.run before) ⟨first, s, e, rest, eq, t, heeds, rfl⟩ with
    ⟨first', s', e', rest', eq', t', services, takes, number⟩ | ⟨u, services, there, found, parting⟩
  · exact ⟨first', s', e', rest', eq', t', services, takes, number.symm ▸ origin⟩
  · -- The report still waits for the discovery link to close, so it has the lock.
    rw [← run_append] at there
    have holder := (begun.sound.run _).active _ u there (by rw [parting]; rfl)
    rw [Lock.isFree_iff.mp free] at holder
    cases holder

/-- Services that are taken in were found by an earlier round or by a later one. -/
theorem Begun.taken (begun : a.Begun) {before since : Script}
    (told : (a.run before).Sometime since Told) (k : Nat) :
    a.Taken before since (· < k) ∨ a.Taken before since (k ≤ ·) := by
  obtain ⟨first, s, e, rest, rfl, t, services, takes⟩ := told
  obtain ⟨there, found⟩ := takes.task
  rw [← run_append] at there
  rcases begun.origin _ there found k with old | new
  · refine .inl ⟨first, s, e, rest, rfl, t, services, takes, ?_⟩
    rw [← List.append_assoc]
    exact old.append _
  · refine .inr ⟨first, s, e, rest, rfl, t, services, takes, ?_⟩
    rw [← List.append_assoc]
    exact new.append _

/-- After a reset the service is found out anew, as long as no report of an earlier round finds the
device connected. If one does, it is not: the services of the report are taken in, at the latest
when the lock is free. -/
theorem rediscovers_iff (begun : a.Begun) (before after : Script)
    (reset : Resets (a.run before) s e) :
    (¬ a.Heeded before ((s, e) :: after) (· < (a.run before).discovery.nextRound) →
      a.Rediscovers before (s, e) after) ∧
    ((a.run (before ++ (s, e) :: after)).lock.isFree = true →
      a.Rediscovers before (s, e) after →
        ¬ a.Heeded before ((s, e) :: after) (· < (a.run before).discovery.nextRound)) := by
  have sound : (a.run before).Sound := begun.sound.run before
  constructor
  · intro careful
    constructor
    · rintro mid ⟨later, rfl⟩ fresh
      have accounted := accounted sound reset mid
      have untold : ¬ (a.run before).Sometime ((s, e) :: mid) Told := by
        intro told
        rcases begun.taken told (a.run before).discovery.nextRound with old | new
        · exact careful ((old.heeded sound reset).append later)
        · exact fresh new
      constructor
      · by_contra known
        rw [run_append] at known
        exact untold (accounted.service known)
      · exact fun dials => untold (accounted.dials dials)
    · exact fun taken => careful (taken.heeded sound reset)
  · intro free rediscovers heeded
    exact rediscovers.unused (heeded.taken begun free)

/-- A round finds a speaker while an update of the device, which is gone, is queued. -/
def leaving : Script :=
  [(present, .start 0), (present, .resume 0 (.opened (.opened 1))), (present, .startRound 0),
    (absent, .notify), (absent, .resumeRound 0 (.answered (some (.ok [speaker]))))]

/-- While the update closes the discovery link the device comes back, and then the report starts. -/
def returned : Script :=
  [(absent, .resume 1 (.closed .closed)), (present, .start 2),
    (present, .resume 2 (.opened (.opened 2)))]

private theorem resets_leaving : Resets (attached.run leaving) absent (.start 1) :=
  ⟨⟨1, .update, .queued⟩, .start rfl rfl (.inl ⟨rfl, rfl⟩) rfl, rfl, rfl, rfl⟩

/-- A speaker leaves and returns: it is queried afresh unless an old list is heeded. -/
theorem rediscovers_iff_leaving :
    Resets (attached.run leaving) absent (.start 1) ∧
    (attached.run (leaving ++ (absent, .start 1) :: returned)).lock.isFree = true ∧
    (¬ attached.Heeded leaving ((absent, .start 1) :: returned)
        (· < (attached.run leaving).discovery.nextRound) →
      attached.Rediscovers leaving (absent, .start 1) returned) ∧
    ((attached.run (leaving ++ (absent, .start 1) :: returned)).lock.isFree = true →
      attached.Rediscovers leaving (absent, .start 1) returned →
        ¬ attached.Heeded leaving ((absent, .start 1) :: returned)
          (· < (attached.run leaving).discovery.nextRound)) :=
  ⟨resets_leaving, rfl, rediscovers_iff attached_begun leaving returned resets_leaving⟩

/-- The report of an earlier round is told about the speaker that was there before. -/
theorem taken_returned : attached.Taken leaving ((absent, .start 1) :: returned)
    (· < (attached.run leaving).discovery.nextRound) := by
  have heeds : Heeds ((attached.run leaving).run
      [(absent, .start 1), (absent, .resume 1 (.closed .closed))]) present (.start 2)
      ⟨2, .report [AudioService.ofRecord speaker], .queued⟩ :=
    ⟨.start rfl rfl (.inr ⟨_, rfl, rfl⟩) rfl, ⟨_, rfl⟩, rfl, rfl⟩
  refine ⟨[(absent, .start 1), (absent, .resume 1 (.closed .closed))], present, .start 2, _, rfl,
    _, _, .atOnce heeds rfl nofun, 0, by decide, ?_⟩
  exact ⟨leaving.take 4, absent, .resumeRound 0 (.answered (some (.ok [speaker]))), _, rfl,
    .mk (by decide)⟩

/-- What was found out before a reset may come back after it. -/
theorem rediscovery_fails :
    ¬ ∀ (a : Attachment) (before after : Script) (s : Surroundings) (e : Event), a.Begun →
      Resets (a.run before) s e → a.Rediscovers before (s, e) after := by
  intro claim
  exact (claim attached leaving returned absent (.start 1) attached_begun resets_leaving).unused
    taken_returned

end A2dpSink.Attachment
