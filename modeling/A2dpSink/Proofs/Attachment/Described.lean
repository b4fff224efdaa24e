import A2dpSink.Proofs.Attachment.Findings
import A2dpSink.Proofs.Attachment.Idles
import A2dpSink.Proofs.Attachment.Matched
import A2dpSink.Proofs.Attachment.Rediscovery

/-!
# What is known describes the transport link

What is known about the service describes the transport link until services are taken in while the
link is open to something else. `described_iff` says so, and that those services were brought by a
belated report: the discovery link it came over has changed in the meantime. A report that comes
over the link that is open now finds nothing known, and so no transport link.
-/

namespace A2dpSink

/-! ### Discovery links that are about to be used -/

namespace Discovery

variable {d : Discovery} {n : Nat}

/-- A link takes its time to open. -/
theorem Served.reply_ne_connected {r : Request} {o : Outcome} (h : Served d n r o) :
    o.reply ≠ some (.connected (.ok ())) := by
  cases h <;> simp [endCall]

private theorem reply_begin_ne_connected (d : Discovery) (admission : Except SubmitError Unit)
    (n : Nat) (r : Request) : (d.begin admission n r).reply ≠ some (.connected (.ok ())) := by
  simp only [begin]
  split
  · exact (perform_served _ admission n r).reply_ne_connected
  · simp

/-- Whoever is told that the link is open finds it there. -/
theorem Resumed.linked {o : Outcome} (h : Resumed d n o)
    (told : o.reply = some (.connected (.ok ()))) : o.session.link.isSome = true := by
  cases h with
  | still => cases told
  | served _ _ served => exact absurd told served.reply_ne_connected
  | opened => rfl
  | unopened => simp [endCall] at told
  | closed => simp [endCall] at told

private theorem Served.reply_discover {o : Outcome} (h : Served d n .discover o) :
    o.reply ≠ none := by
  cases h <;> simp [endCall]

private theorem link_begin_discover (admission : Except SubmitError Unit)
    (told : (d.begin admission n .discover).reply = none) :
    (d.begin admission n .discover).session.link = d.link := by
  simp only [begin] at told ⊢
  split
  · next free =>
    rw [if_pos free] at told
    exact absurd told (perform_served _ admission n .discover).reply_discover
  · rfl

private theorem Resumed.link_discover {o : Outcome} {place : CallStage} (h : Resumed d n o)
    (listed : d.callStage? n = some place) (asks : place.request = .discover)
    (told : o.reply = none) : o.session.link = d.link := by
  cases h with
  | still => rfl
  | served waits _ served =>
    rw [listed, Option.some.injEq] at waits
    rw [waits] at asks
    cases asks
    exact absurd told served.reply_discover
  | opened | unopened | closed => simp [endCall] at told

/-- A round hands over services only while it is current, and then it has the link. -/
theorem Advanced.link_eq_none {o : Outcome} (h : Advanced d n o) (ordered : d.Ordered)
    (delivers : deliveries o.actions ≠ []) : d.link = none := by
  have concluded : ∀ {d' : Discovery} {r : Round} {o : Outcome}, Concluded d' r o →
      deliveries o.actions ≠ [] → d'.count = r.count := by
    intro d' r o h delivers
    cases h with
    | outlived line =>
      rw [deliveries_closeRound] at delivers
      exact absurd rfl delivers
    | reported _ _ current => exact current
    | failed lines current => exact current
  have current : ∀ {r}, d.round? n = some r → d.count = r.count → d.link = none := by
    intro r listed current
    have there := (round?_eq_some listed).1
    exact ordered.link_eq_none (ordered.discovering r there current.symm)
  cases h with
  | still | querying | closed => exact absurd rfl delivers
  | waiting r found lines => exact absurd (deliveries_log lines) delivers
  | answered r lines listed _ _ h =>
    rw [deliveries_append, deliveries_log, List.nil_append] at delivers
    have same := concluded h delivers
    exact current listed same
  | granted r found listed _ _ h => exact current listed (concluded h delivers)

end Discovery

namespace Attachment

variable {a b x : Attachment} {s : Surroundings} {e : Event} {p q : Point} {actions : List Action}

/-- A task that is about to start a round has the discovery link. -/
def Ready (a : Attachment) : Point → Prop
  | .rest => ∀ n t, a.task? n = some t → t.stage = .starting → a.discovery.link.isSome = true
  | .call _ .discover => a.discovery.link.isSome = true
  | .answered _ .connect (.connected (.ok ())) => a.discovery.link.isSome = true
  | _ => True

private theorem Ready.move (fine : a.Fine p) (h : a.Ready p) (move : Move s a p actions b q) :
    b.Ready q := by
  -- Nobody but the task in hand could be about to start a round.
  have rest : q = .rest → (∀ n, ¬ p.Places n .starting) → b.Ready .rest := by
    rintro rfl other n t there starting
    have places := move.placed fine there (by rw [starting]; rfl)
    rw [starting] at places
    exact absurd places (other n)
  cases move with
  | @wait t r told =>
    by_cases discovers : r = .discover
    · subst discovers
      intro n u there starting
      rw [discovery_setTask, Discovery.link_begin_discover s.admission told]
      exact h
    · refine rest rfl fun n places => ?_
      generalize stage : Stage.starting = place at places
      cases places with
      | wait => cases r <;> first | exact absurd rfl discovers | cases stage
  | @serve t r reply told =>
    by_cases linked : reply = .connected (.ok ())
    · subst linked
      exact absurd told (Discovery.reply_begin_ne_connected _ _ _ _)
    · unfold Ready
      split
      · trivial
      · trivial
      · next eq =>
        cases eq
        exact absurd rfl linked
      · trivial
  | connected => exact h
  | dialing => exact rest rfl fun n places => by cases places
  | hangingUp => exact rest rfl fun n places => by cases places
  | left => exact rest rfl fun n places => by cases places
  | _ => trivial

private theorem Ready.entry (h : a.Ready .rest) (sound : a.Sound)
    (entry : Entry s a e actions b p) : b.Ready p := by
  have kept : (∀ n t, a.task? n = some t → t.stage = .starting →
      a.discovery.link.isSome = true → b.discovery.link.isSome = true) → b.Ready .rest := by
    intro link n t there starting
    have there' := entry.task_of_active there (by rw [starting]; rfl)
    exact link n t there' starting (h n t there' starting)
  cases entry with
  | enter | grant | received => trivial
  | hungUp | dialed => trivial
  | @went n t place signal there listed asks told =>
    refine kept fun m u at' starting link => ?_
    have active : t.stage.isActive = true := by
      rw [asks]
      cases place.request <;> rfl
    obtain ⟨-, rfl⟩ := sound.eq_of_active there active at' (by rw [starting]; rfl)
    have request : place.request = .discover := by
      rw [starting] at asks
      cases asked : place.request <;> simp [asked, Stage.ofRequest] at asks
      rfl
    have resumed := Discovery.resume_resumed a.discovery s.admission n signal
    exact (congrArg Option.isSome (resumed.link_discover listed request told)).trans link
  | @answered n t place reply signal there listed asks told =>
    have resumed := Discovery.resume_resumed a.discovery s.admission n signal
    unfold Ready
    split
    · next eq => cases eq
    · next eq => cases eq
    · next eq =>
      simp only [Point.answered.injEq] at eq
      rw [eq.2.2] at told
      exact resumed.linked told
    · trivial
  | startRound =>
    refine kept fun _ _ _ _ link => ?_
    rw [attachment_absorb, discovery_addReports]
    exact ((Discovery.startRound_advanced _ _).passed sound.session).kept link
  | resumeRound =>
    refine kept fun _ _ _ _ link => ?_
    rw [attachment_absorb, discovery_addReports]
    exact ((Discovery.resumeRound_advanced _ _ _ _).passed sound.session).kept link
  | summoned summons => cases summons <;> exact kept fun _ _ _ _ => id
  | _ => exact kept fun _ _ _ _ => id

private theorem Ready.moves (fine : a.Fine p) (h : a.Ready p) (moves : Moves s a p actions b) :
    b.Ready .rest := by
  induction moves with
  | rest => exact h
  | move move _ ih => exact ih (fine.move move) (h.move fine move)

/-- A task is ready for its round in every run. -/
theorem Ready.run (h : a.Ready .rest) (sound : a.Sound) (script : Script) :
    (a.run script).Ready .rest := by
  induction script generalizing a with
  | nil => exact h
  | cons turn script ih =>
    obtain ⟨s, e⟩ := turn
    obtain ⟨_, b, p, _, entry, moves, -⟩ := exists_moves sound s e
    exact ih ((h.entry sound entry).moves (sound.entry entry) moves) (sound.step s e)

/-! ### Belated reports -/

/-- When services are handed over, the link they came over is open and left alone. -/
theorem Reports.idles {n m : Nat} (h : Reports a s e n m) (sound : a.Sound)
    (ready : a.Ready .rest) : (a.step s e).attachment.Idles a.discovery.count := by
  cases h with
  | @mk n signal less =>
    have advanced := Discovery.resumeRound_advanced a.discovery s.admission n signal
    have passed := advanced.passed sound.session
    have eq : (a.step s (.resumeRound n signal)).attachment =
        (a.absorb (a.discovery.resumeRound s.admission n signal)).attachment := rfl
    rw [eq, attachment_absorb] at less ⊢
    rcases passed.delivered with silent | ⟨services, one, link⟩
    · rw [silent] at less
      exact absurd less (Nat.lt_irrefl _)
    · have apart := advanced.link_eq_none sound.session.ordered (by rw [one]; simp)
      refine ⟨?_, by rw [discovery_addReports]; exact link, ?_⟩
      · rw [discovery_addReports]
        exact passed.count_eq link
      · intro u t there starting
        rcases addReports_task? _ there with old | ⟨-, queued, -⟩
        · have linked := ready u t old starting
          rw [apart] at linked
          cases linked
        · rw [starting] at queued
          cases queued

/-- A report of a run is belated when a change of the discovery link was counted since its round
handed it over. -/
def Belated (a : Attachment) (script : Script) (m : Nat) : Prop :=
  ∃ before s e after n, script = before ++ (s, e) :: after ∧ Reports (a.run before) s e n m ∧
    (a.run before).discovery.count < (a.run script).discovery.count

/-- In a run a belated report finds the device connected. -/
def HeedsBelated (a : Attachment) (script : Script) : Prop :=
  ∃ before s e after t, script = before ++ (s, e) :: after ∧ Heeds (a.run before) s e t ∧
    a.Belated before t.number

private theorem HeedsBelated.append {script : Script} (h : a.HeedsBelated script) (more : Script) :
    a.HeedsBelated (script ++ more) := by
  obtain ⟨before, s, e, after, t, rfl, heeds, belated⟩ := h
  exact ⟨before, s, e, after ++ more, t, by simp, heeds, belated⟩

private theorem Begun.ready (begun : a.Begun) : a.Ready .rest := by
  obtain ⟨remote, limit, transport, s, rfl⟩ := begun.eq
  refine Ready.run (fun n t there => ?_) (.blank remote limit transport) _
  cases there

/-- As long as a report is not belated, nothing is known about the service. -/
theorem Begun.unknown_of_report (begun : a.Begun) {script : Script} {m : Nat} {t : Task}
    {services : List AudioService} (there : (a.run script).task? m = some t)
    (found : t.errand = .report services) (timely : ¬ a.Belated script m) :
    (a.run script).service.role = .unknown := by
  obtain ⟨n, before, s, e, after, rfl, reports⟩ := begun.reports script there found
  have sound := begun.sound.run before
  have idles := reports.idles sound (begun.ready.run begun.sound before)
  have left : (((a.run before).step s e).attachment.run after).Left (a.run before).discovery.count
      .rest := Left.run (.inr idles) (sound.step s e) after
  rw [← run_cons, ← run_append] at left
  rcases left with less | idles
  · exact absurd ⟨before, s, e, after, n, rfl, reports, less⟩ timely
  · exact (begun.sound.run _).busy (by simp [Discovery.isBusy, idles.link])

/-! ### What is displaced -/

private theorem Takes.not_parting {t u : Task} {services : List AudioService}
    (h : Takes a s e t services)
    (sound : a.Sound) (there : (a.step s e).attachment.task? t.number = some u) :
    u.stage ≠ .parting := by
  obtain ⟨b, first, -, -, -, eq⟩ := h.step_eq sound
  rw [eq, attachment_after] at there
  obtain ⟨psm, opening⟩ := stage_of_settle there
  simp [opening]

/-- In a run the report `m` found the device connected, and what was known and the transport link
are as they were then. -/
def Standing (a : Attachment) (script : Script) (c : Attachment) (m : Nat) : Prop :=
  ∃ before s e after t, script = before ++ (s, e) :: after ∧ Heeds (a.run before) s e t ∧
    t.number = m ∧ c.service = (a.run before).service ∧ c.transport = (a.run before).transport

/-- A report that waits for the discovery link to close has found the device connected. -/
theorem Begun.standing (begun : a.Begun) (script : Script) {m : Nat} {t : Task}
    {services : List AudioService} (there : (a.run script).task? m = some t)
    (found : t.errand = .report services) (parting : t.stage = .parting) :
    a.Standing script (a.run script) m := by
  induction script using List.reverseRecOn with
  | nil =>
    obtain ⟨remote, limit, transport, s, rfl⟩ := begun.eq
    have traced := traced_step (Sound.blank remote limit transport) s .notify
    rcases traced.parting m t services there found parting with old | ⟨t', heeds, -⟩
    · cases old
    · cases heeds.performs
  | append_singleton script turn ih =>
    obtain ⟨s, e⟩ := turn
    have sound := begun.sound.run script
    rw [run_append] at there ⊢
    have traced := traced_step sound s e
    rcases traced.parting m t services there found parting with old | ⟨t', heeds, rfl⟩
    · obtain ⟨before, s', e', after, t', rfl, heeds, number, service, transport⟩ := ih old
      rcases step_of_parting sound old found parting s e with ⟨-, service', transport'⟩ | takes
      · exact ⟨before, s', e', after ++ [(s, e)], t', by simp, heeds, number,
          service'.trans service, transport'.trans transport⟩
      · rw [← number_of_task? old] at there
        exact absurd parting (takes.not_parting sound there)
    · obtain ⟨services', -, takes | ⟨-, service, transport⟩⟩ := heeds.step
      · exact absurd parting (takes.not_parting sound there)
      · exact ⟨script, s, e, [], t', rfl, heeds, rfl, service, transport⟩

/-- The report whose services are taken in has found the device connected. -/
theorem Begun.standing_of_takes (begun : a.Begun) {script : Script} {t : Task}
    {services : List AudioService} (takes : Takes (a.run script) s e t services) :
    a.Standing (script ++ [(s, e)]) (a.run script) t.number := by
  cases takes with
  | atOnce heeds => exact ⟨script, s, e, [], t, rfl, heeds, rfl, rfl, rfl⟩
  | @later n _ _ signal there parting found =>
    obtain ⟨before, s', e', after, t', eq, heeds, number, service, transport⟩ :=
      begun.standing script there found parting
    refine ⟨before, s', e', after ++ [(s, .resume n signal)], t', ?_, heeds, ?_, service, transport⟩
    · rw [eq]
      simp
    · exact number.trans (number_of_task? there).symm

private theorem shown_blank (remote : Address) (limit : Nat) :
    Shown { remote, discovery := { remote, queryLimit := limit }
            transport := (Transport.create remote).1 } .rest := by
  refine ⟨fun n t there => ?_, .inl rfl⟩
  cases there

private theorem Begun.shown (begun : a.Begun) : a.Shown .rest := by
  obtain ⟨settings, remote, s, actions, created⟩ := begun
  obtain ⟨limit, rfl, -⟩ := create_eq_ok created
  exact (shown_blank remote limit).run (.blank remote limit _) _

/-- Until something is displaced, what is known suits the transport link. -/
theorem Begun.suited (begun : a.Begun) {script : Script} (careful : ¬ a.Sometime script Displaces) :
    (a.run script).Suited := by
  induction script using List.reverseRecOn with
  | nil =>
    have ⟨settings, remote, s, actions, created⟩ := begun
    obtain ⟨limit, rfl, -⟩ := create_eq_ok created
    have sound := Sound.blank remote limit (Transport.create remote).1
    have blank : Suited { remote, discovery := { remote, queryLimit := limit }
                          transport := (Transport.create remote).1 } :=
      ⟨.inl (matched_of_shut rfl), fun n t psm there => nomatch there⟩
    refine blank.step (shown_blank remote limit) sound ?_
    rintro ⟨t, services, service, c, takes, -⟩
    cases takes with
    | atOnce heeds => cases heeds.performs
  | append_singleton script turn ih =>
    obtain ⟨s, e⟩ := turn
    rw [run_append]
    have sound := begun.sound.run script
    have before := ih fun displaced => careful (displaced.append _)
    exact before.step (begun.shown.run begun.sound script) sound
      fun displaces => careful (sometime_append.mpr (.inr displaces))

/-- Nothing is displaced but by a belated report. -/
theorem Begun.heedsBelated (begun : a.Begun) {script : Script}
    (displaced : a.Sometime script Displaces) : a.HeedsBelated script := by
  induction script using List.reverseRecOn with
  | nil => exact absurd displaced not_sometime_nil
  | append_singleton script turn ih =>
    obtain ⟨s, e⟩ := turn
    by_cases before : a.Sometime script Displaces
    · exact (ih before).append _
    · obtain ⟨t, services, service, c, takes, -, channel, -⟩ :=
        (sometime_append.mp displaced).resolve_left before
      obtain ⟨first, s', e', after, t', eq, heeds, number, role, transport⟩ :=
        begun.standing_of_takes takes
      refine ⟨first, s', e', after, t', eq, heeds, ?_⟩
      -- A report that came in time would have found nothing known, and the link closed.
      by_contra timely
      obtain ⟨services', found⟩ := heeds.report
      have unknown := begun.unknown_of_report heeds.performs.task found timely
      have earlier : first <+: script := by
        refine List.prefix_of_prefix_length_le ⟨_, eq.symm⟩ ⟨_, rfl⟩ ?_
        have lengths := congrArg List.length eq
        simp only [List.length_append, List.length_cons, List.length_nil] at lengths
        omega
      have untouched : ¬ a.Sometime first Displaces := by
        obtain ⟨rest, rfl⟩ := earlier
        exact fun displaced => before (displaced.append rest)
      have matched := (begun.suited untouched).matched_of_unattended
        fun n u there => heeds.performs.inactive (begun.sound.run first) there
      have sink := (matched c (transport ▸ channel)).1
      rw [unknown] at sink
      cases sink

/-! ### The transport link is described -/

/-- The status and what is known about the service describe the transport link. -/
structure Described (a : Attachment) : Prop where
  status : a.Reflected
  service : a.Matched

/-- The transport link is described whenever nobody makes use of the lock, until services are taken
in while the link is open to something else. It takes a belated report to bring them, and the status
is right even then. -/
theorem described_iff (begun : a.Begun) (script : Script) :
    ((∀ before, before <+: script → (a.run before).Unattended → (a.run before).Described) ↔
      ¬ a.Sometime script Displaces) ∧
    (∀ before, before <+: script → (a.run before).lock.isFree = true →
      (a.run before).Unattended ∧ (a.run before).Reflected) ∧
    (a.Sometime script Displaces → a.HeedsBelated script) := by
  have reflected : ∀ before, (a.run before).Unattended → (a.run before).Reflected := by
    intro before unattended
    refine (begun.shown.run begun.sound before).reflected fun n t there hangingUp => ?_
    have inactive := unattended n t there
    rw [hangingUp] at inactive
    cases inactive
  refine ⟨⟨?_, ?_⟩, ?_, begun.heedsBelated⟩
  · rintro described ⟨before, s, e, after, rfl, displaces⟩
    obtain ⟨unattended, other⟩ := displaces.step (begun.sound.run before)
    have eq : a.run (before ++ [(s, e)]) = ((a.run before).step s e).attachment := run_append ..
    refine other (eq ▸ (described (before ++ [(s, e)]) ⟨after, by simp⟩ ?_).service)
    rw [eq]
    exact unattended
  · rintro careful before ⟨rest, rfl⟩ unattended
    have suited := begun.suited fun displaced => careful (displaced.append rest)
    exact ⟨reflected before unattended, suited.matched_of_unattended unattended⟩
  · intro before _ free
    have unattended := (begun.sound.run before).unattended free
    exact ⟨unattended, reflected before unattended⟩

/-- After a reset the device is back, with its service on channel 27. The report from before the
reset is taken in first, and the one about channel 27 finds the transport link open. -/
def replaced : Script :=
  leaving ++ [(absent, .start 1), (absent, .resume 1 (.closed .closed)), (present, .notify),
    (present, .start 3), (present, .resume 3 (.opened (.opened 2))), (present, .startRound 1),
    (present, .resumeRound 1 (.answered (some (.ok [{ speaker with
      protocols := [⟨ServiceClass.l2cap, [.u16 27]⟩, ⟨ServiceClass.avdtp, [.u16 0x0103]⟩] }])))),
    (present, .start 2), (present, .resume 2 (.closed .closed)),
    (present, .resume 2 (.opened (.opened 3))), (present, .start 4)]

/-- A list that displaces a service on the way to its link leaves the wrong channel described. -/
theorem described_iff_replaced :
    (attached.run replaced).lock.isFree = true ∧
    (attached.run replaced).transport.channel = some ⟨3, 25⟩ ∧
    (attached.run replaced).service.psm = 27 ∧
    ((∀ before, before <+: replaced → (attached.run before).Unattended →
        (attached.run before).Described) ↔ ¬ attached.Sometime replaced Displaces) ∧
    (∀ before, before <+: replaced → (attached.run before).lock.isFree = true →
      (attached.run before).Unattended ∧ (attached.run before).Reflected) ∧
    (attached.Sometime replaced Displaces → attached.HeedsBelated replaced) :=
  ⟨rfl, rfl, rfl, described_iff attached_begun replaced⟩

/-- What is known while the transport link is open may be something else than what it was opened
to. -/
theorem description_fails :
    ¬ ∀ (a : Attachment) (script : Script), a.Begun → (a.run script).lock.isFree = true →
      (a.run script).Described := by
  intro claim
  have matched := (claim attached replaced attached_begun rfl).service ⟨3, 25⟩ rfl
  have psm : (attached.run replaced).service.psm = 27 := rfl
  rw [psm] at matched
  exact absurd matched.2 (by decide)

end Attachment

end A2dpSink
