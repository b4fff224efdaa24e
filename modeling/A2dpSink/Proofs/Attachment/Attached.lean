import A2dpSink.Proofs.Attachment.Course

/-!
# From the attach to the transport link

A device that stays connected is asked for its records once. Whatever records the peer returns, in
however many parts, the attachment settles on the first sink among those of the audio sink class, in
the order of the answer, or on the first of them if none is a sink (`Chosen`). When all jobs have run
the discovery link is closed again, and the transport link is open, on the channel of that service, if
and only if it is a sink (`attach_leads_to_link`).
-/

namespace A2dpSink

namespace Attachment

/-! ### The service that is settled on -/

/-- The service an attachment settles on for a device with the given records. -/
inductive Chosen (records : List Sdp.Record) : AudioService → Prop
  /-- No record is of the audio sink class. -/
  | unknown : (∀ r ∈ records, r.hasClass ServiceClass.audioSink = false) → Chosen records {}
  /-- The first record of the class that is a sink. -/
  | sink {before after : List Sdp.Record} {r : Sdp.Record} :
      records = before ++ r :: after → r.hasClass ServiceClass.audioSink = true →
      (AudioService.ofRecord r).role = .sink →
      (∀ b ∈ before, b.hasClass ServiceClass.audioSink = true →
        (AudioService.ofRecord b).role ≠ .sink) →
      Chosen records (AudioService.ofRecord r)
  /-- The first record of the class, of which none is a sink. -/
  | other {before after : List Sdp.Record} {r : Sdp.Record} :
      records = before ++ r :: after → r.hasClass ServiceClass.audioSink = true →
      (∀ b ∈ before, b.hasClass ServiceClass.audioSink = false) →
      (∀ b ∈ records, b.hasClass ServiceClass.audioSink = true →
        (AudioService.ofRecord b).role ≠ .sink) →
      Chosen records (AudioService.ofRecord r)

/-- Among the services of some records, the first sink is that of the first record of the class that
is a sink. -/
theorem find?_sinks (records : List Sdp.Record) :
    ((Discovery.sinks records).map AudioService.ofRecord).find? (fun s => s.role = .sink) =
      (records.find? fun r => decide (r.hasClass ServiceClass.audioSink = true ∧
        decide ((AudioService.ofRecord r).role = .sink) = true)).map AudioService.ofRecord := by
  rw [List.find?_map, Discovery.sinks, List.find?_filter]
  rfl

private theorem head?_sinks (records : List Sdp.Record) :
    ((Discovery.sinks records).map AudioService.ofRecord).head? =
      (records.find? fun r => r.hasClass ServiceClass.audioSink).map AudioService.ofRecord := by
  rw [List.head?_map, Discovery.sinks, List.head?_filter]

/-- The service that is picked from what the sinks among records offer is the one to settle on. -/
theorem chosen_pick (records : List Sdp.Record) :
    Chosen records ((pick ((Discovery.sinks records).map AudioService.ofRecord)).getD {}) := by
  unfold pick
  rw [find?_sinks, head?_sinks]
  cases sink : records.find? fun r => decide (r.hasClass ServiceClass.audioSink = true ∧
      decide ((AudioService.ofRecord r).role = .sink) = true) with
  | some r =>
    obtain ⟨both, before, after, split, none_before⟩ := List.find?_eq_some_iff_append.mp sink
    obtain ⟨ofClass, isSink⟩ := of_decide_eq_true both
    refine .sink split ofClass (of_decide_eq_true isSink) fun b there ofClass' isSink' => ?_
    simpa [ofClass', isSink'] using none_before b there
  | none =>
    have noSink : ∀ b ∈ records, b.hasClass ServiceClass.audioSink = true →
        (AudioService.ofRecord b).role ≠ .sink := by
      intro b there ofClass isSink
      exact List.find?_eq_none.mp sink b there (by simp [ofClass, isSink])
    cases first : records.find? fun r => r.hasClass ServiceClass.audioSink with
    | some r =>
      obtain ⟨ofClass, before, after, split, none_before⟩ :=
        List.find?_eq_some_iff_append.mp first
      exact .other split ofClass (fun b there => by simpa using none_before b there) noSink
    | none =>
      exact .unknown fun r there => by simpa using List.find?_eq_none.mp first r there

/-! ### What an attachment has come to -/

/-- What has come of an attachment to a device with the given records when all jobs have run. -/
structure Attained (records : List Sdp.Record) (a : Attachment) (script : Script)
    (effects : List Effect) : Prop where
  chosen : Chosen records a.service
  /-- Two links are opened at most: one that is closed again after a query, and one to a sink. -/
  effects : ∃ link limit, HandedOut script link ∧
    effects = [.connect Sdp.psm, .query link limit, .shutdown link] ++
      if a.service.role = .sink then [.connect a.service.psm] else []
  closed : a.discovery.isBusy = false
  status : a.status = if a.service.role = .sink then .idle else .disconnected
  /-- The transport link is open on the channel of a sink. -/
  channel : if a.service.role = .sink
    then ∃ link, HandedOut script link ∧ a.transport.channel = some ⟨link, a.service.psm⟩
    else a.transport.channel = none

namespace Prospect

variable {x : Prospect} {p : Phase} {records : List Sdp.Record} {script : Script}

/-- When nobody works any more, everything has been attained. -/
theorem attained (services : x.services = (Discovery.sinks records).map AudioService.ofRecord)
    (valid : x.Valid p) (ends : p.agent? = none)
    (links : ∀ link ∈ p.links, HandedOut script link) :
    Attained records (x.state p) script (x.done p) := by
  have chosen : Chosen records x.service := by
    rw [Prospect.service, services]
    exact chosen_pick records
  cases p with
  | unknown link =>
    have none_of_class : x.services = [] := valid
    rw [Prospect.service, none_of_class] at chosen
    have other : (x.state (.unknown link)).service.role ≠ .sink := by
      intro sink
      cases sink
    exact {
      chosen
      effects := ⟨link, x.limit, links link (by simp [Phase.links]), by rw [if_neg other]; rfl⟩
      closed := rfl
      status := by rw [if_neg other]; rfl
      channel := by rw [if_neg other]; rfl }
  | settled link =>
    have other : (x.state (.settled link)).service.role ≠ .sink := valid.2
    exact {
      chosen
      effects := ⟨link, x.limit, links link (by simp [Phase.links]), by rw [if_neg other]; rfl⟩
      closed := rfl
      status := by rw [if_neg other]; rfl
      channel := by rw [if_neg other]; rfl }
  | opened link channel =>
    have sink : (x.state (.opened link channel)).service.role = .sink := valid
    exact {
      chosen
      effects := ⟨link, x.limit, links link (by simp [Phase.links]), by rw [if_pos sink]; rfl⟩
      closed := rfl
      status := by rw [if_pos sink]; rfl
      channel := by
        rw [if_pos sink]
        exact ⟨channel, links channel (by simp [Phase.links]), rfl⟩ }
  | _ => cases ends

end Prospect

/-! ### From the attach on -/

/-- A peer that returns records leads to the services of those among them that are of the audio sink
class. -/
theorem agrees_of_answers {q : Sdp.Question} {replies : List Sdp.Pdu} {lists rest : Bytes}
    {records : List Sdp.Attributes} {x : Prospect}
    (services : x.services = (Discovery.sinks (records.map Sdp.Record.ofAttributes)).map
      AudioService.ofRecord)
    (complete : ∀ p ∈ replies, p.IsComplete) (answers : Sdp.Answers q 0 [] replies lists)
    (decodes : Sdp.Element.decode lists = .ok (Sdp.Attributes.lists records, rest)) :
    x.Agrees q replies := by
  intro d r run there
  rw [answers.result_eq complete decodes run there, services]
  simp only [Discovery.findings]
  split
  · next empty => rw [empty, if_pos rfl]
  · next nonempty => rw [if_neg nonempty]

section

variable {settings : Settings} {remote : Address} {s : Surroundings} {a : Attachment}
  {first : List Action} {replies : List Sdp.Pdu} {lists rest : Bytes}
  {records : List Sdp.Attributes} {script : Script}

/-- An attachment begins with what there is to find, before anything is done to the world. -/
theorem exists_prospect (created : create settings remote (.ok ()) s = .ok (.ok a, first))
    (room : s.admission = .ok ()) (services : List AudioService) :
    ∃ x : Prospect, x.services = services ∧ a = x.state .noted ∧ outward first = [] := by
  obtain ⟨limit, eq, actions⟩ := create_eq_ok created
  refine ⟨⟨remote, limit, services⟩, rfl, ?_, ?_⟩
  · rw [eq, run_cons]
    simp only [step, notify, room]
    rfl
  · rw [actions]
    simp only [notify, room]
    rfl

/-- The device stays connected, there is room for jobs, the connector opens every link and the peer
returns its records in time. Then all jobs run to their ends, and when they have, two links were
opened at most: the discovery link, which is closed again, and the transport link to the service that
was settled on, which is open, if and only if that service is a sink. -/
theorem attach_leads_to_link (created : create settings remote (.ok ()) s = .ok (.ok a, first))
    (room : s.admission = .ok ()) (complete : ∀ p ∈ replies, p.IsComplete)
    (answers : Sdp.Answers (Discovery.question settings) 0 [] replies lists)
    (decodes : Sdp.Element.decode lists = .ok (Sdp.Attributes.lists records, rest))
    (favourable : ∀ turn ∈ script, Favourable (Discovery.question settings) replies turn) :
    (∃ more, (∀ turn ∈ more, Favourable (Discovery.question settings) replies turn) ∧
      (a.run (script ++ more)).Quiet) ∧
    ((a.run script).Quiet → Attained (records.map Sdp.Record.ofAttributes) (a.run script) script
      (outward (first ++ a.deeds script))) := by
  obtain ⟨x, services, rfl, silent⟩ := exists_prospect created room
    ((Discovery.sinks (records.map Sdp.Record.ofAttributes)).map AudioService.ofRecord)
  have agrees : x.Agrees (Discovery.question settings) replies :=
    agrees_of_answers services complete answers decodes
  obtain ⟨p, valid, eq, done, links⟩ := Prospect.run_state agrees favourable
  constructor
  · obtain ⟨more, last, goesOn, run, ends⟩ :=
      Prospect.exists_run agrees (answers.exists_result complete) valid
    refine ⟨more, goesOn, ?_⟩
    rw [run_append, eq, run]
    exact Prospect.quiet_state_iff.mpr ends
  · intro quiet
    rw [eq] at quiet ⊢
    rw [outward_append, silent, List.nil_append, done]
    exact Prospect.attained services valid (Prospect.quiet_state_iff.mp quiet) links

end

/-! ### A visit -/

/-- The attributes of a source, of a sink that names no protocol, and of a sink. -/
def offered : List Sdp.Attributes :=
  [[(.classIds, .sequence [.uuid ServiceClass.audioSource])],
    [(.classIds, .sequence [.uuid ServiceClass.audioSink])],
    [(.classIds, .sequence [.uuid ServiceClass.audioSink]),
      (.protocols, .sequence [.sequence [.uuid ServiceClass.l2cap, .u16 25],
        .sequence [.uuid ServiceClass.avdtp, .u16 0x0103]]),
      (.profiles, .sequence [.sequence [.uuid ServiceClass.advancedAudio, .u16 0x0103]])]]

/-- The reply that brings them, in one part. -/
def offer : Sdp.Pdu where
  kind := .searchAttributeResponse
  transaction := 0
  parameter :=
    let lists := (Sdp.Attributes.lists offered).encode
    Bytes.ofNat 2 lists.length ++ (lists ++ [0])

/-- From the first job to the transport link, with a notice in between that is for nobody. -/
def visit : Script :=
  [(present, .start 0), (present, .resume 0 (.opened (.opened 1))), (present, .startRound 0),
    (present, .resumeRound 0 (.answered (some (.ok (offered.map .ofAttributes))))),
    (present, .start 1), (present, .startRound 0), (present, .resume 1 (.closed .closed)),
    (present, .resume 1 (.opened (.opened 2)))]

/-- The reply is a complete unit. -/
theorem complete_offer : ∀ p ∈ [offer], p.IsComplete := by
  simp only [List.mem_singleton, forall_eq, Sdp.Pdu.IsComplete]
  decide

/-- The reply answers the question with the attribute lists in one part. -/
theorem answers_offer : Sdp.Answers (Discovery.question {}) 0 [] [offer]
    (Sdp.Attributes.lists offered).encode := by
  refine .last (f := ⟨(Sdp.Attributes.lists offered).encode, []⟩) ?_ rfl
  constructor
  · rfl
  · rfl
  · exact ⟨by decide, by decide, [], rfl⟩
  · decide

/-- The attribute lists in the reply decode to the attributes of the three records. -/
theorem decode_offered : Sdp.Element.decode (Sdp.Attributes.lists offered).encode =
    .ok (Sdp.Attributes.lists offered, []) := by
  have read := Sdp.Element.decode_of_shallow (e := Sdp.Attributes.lists offered) rfl (by decide) []
  rwa [List.append_nil] at read

/-- Nothing on the visit is an obstacle. -/
theorem favourable_visit : ∀ turn ∈ visit, Favourable (Discovery.question {}) [offer] turn := by
  obtain ⟨d, r, run, there⟩ := answers_offer.exists_result complete_offer
  obtain rfl := answers_offer.result_eq complete_offer decode_offered run there
  simp only [visit, List.forall_mem_cons]
  exact ⟨⟨rfl, .start 0⟩, ⟨rfl, .opened 0 1⟩, ⟨rfl, .startRound 0⟩, ⟨rfl, .answered 0 run there⟩,
    ⟨rfl, .start 1⟩, ⟨rfl, .startRound 0⟩, ⟨rfl, .closed 1 .closed⟩, ⟨rfl, .opened 1 2⟩,
    fun _ there => (List.not_mem_nil there).elim⟩

/-- The visit leads past a source and a sink that names no protocol to the link to the third. -/
theorem attach_leads_to_link_visit : ∃ first,
    create {} attached.remote (.ok ()) present = .ok (.ok attached, first) ∧
    (∃ more, (∀ turn ∈ more, Favourable (Discovery.question {}) [offer] turn) ∧
      (attached.run (visit ++ more)).Quiet) ∧
    (attached.run visit).Quiet ∧ (attached.run visit).service.role = .sink ∧
    Attained (offered.map Sdp.Record.ofAttributes) (attached.run visit) visit
      (outward (first ++ attached.deeds visit)) := by
  obtain ⟨first, created⟩ := attached_created (s := present) rfl
  have quiet : (attached.run visit).Quiet := .of_nil rfl rfl
  obtain ⟨goesOn, attained⟩ := attach_leads_to_link created rfl complete_offer answers_offer
    decode_offered favourable_visit
  exact ⟨first, created, goesOn, quiet, by decide, attained quiet⟩

end Attachment

end A2dpSink
