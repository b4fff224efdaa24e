import A2dpSink.Proofs.Attachment.Attempts
import A2dpSink.Proofs.Attachment.Noticed

/-!
# Redundant notices have no effect

However often and whenever an attachment is told that its device may have changed, while the device
stays, a sink answers the query and the connector opens every link, it connects to the same channels
in the same order and comes to the same end as one that is told nothing after the attach
(`notices_change_nothing`).
-/

namespace A2dpSink

namespace Attachment

/-- What links are to be opened to shows in what is done to the world. -/
theorem attempts_eq (actions : List Action) :
    attempts actions = (outward actions).filterMap Effect.connect? := by
  rw [attempts, outward, List.filterMap_filterMap]
  refine List.filterMap_congr fun action _ => ?_
  cases action with
  | effect e => cases e <;> rfl
  | _ => rfl

/-- What happens while nothing goes wrong, or one more notice. -/
def Tolerable (q : Sdp.Question) (replies : List Sdp.Pdu) (turn : Surroundings × Event) : Prop :=
  Favourable q replies turn ∨ turn = (present, .notify)

variable {a : Attachment} {n m : Nat} {t : Task}

-- A task stays where it is when its signal is for nobody but the discovery session, and nothing
-- comes of it there.
private theorem resume_still (there : a.task? m = some t) (noHang : t.stage ≠ .hangingUp)
    (noDial : ∀ psm, t.stage ≠ .opening psm) {signal : Signal}
    (kept : signal = .granted → t.stage = .waiting → a.lock.holder ≠ some m)
    (still : a.discovery.resume present.admission m signal = ⟨a.discovery, [], none⟩) :
    a.step present (.resume m signal) = ⟨a, []⟩ := by
  simp only [step, resume, there]
  split
  · next waits => exact if_neg (kept rfl waits)
  · next hangingUp => exact absurd hangingUp noHang
  · next psm _ opening => exact absurd opening (noDial psm)
  · rw [still]
    rfl

/-- Nothing but the lock lets a task go on that waits for it or whose job has not started. -/
theorem resume_idle (sound : a.Sound) (there : a.task? m = some t)
    (idle : t.stage.isActive = false) (signal : Signal)
    (kept : signal = .granted → t.stage = .waiting → a.lock.holder ≠ some m) :
    a.step present (.resume m signal) = ⟨a, []⟩ := by
  have silent : a.discovery.callStage? m = none := by
    cases place : a.discovery.callStage? m with
    | none => rfl
    | some stage =>
      obtain ⟨u, listed, eq⟩ := sound.call m stage place
      rw [there, Option.some.injEq] at listed
      rw [listed, eq] at idle
      cases request : stage.request <;> rw [request] at idle <;> cases idle
  refine resume_still there ?_ ?_ kept (Discovery.resume_of_none silent _ signal)
  · intro hangingUp
    rw [hangingUp] at idle
    cases idle
  · intro psm opening
    rw [opening] at idle
    cases idle

namespace Prospect

variable {x : Prospect} {p : Phase} {e : Event} {q : Sdp.Question} {replies : List Sdp.Pdu}

/-! ### Events -/

private theorem round?_sessionBy (n m : Nat) (p : Phase) :
    (x.sessionBy n p).round? m = (x.state p).discovery.round? m := by
  cases p <;> rfl

/-- What a round waits for lets it go on only where it leads on. -/
theorem Like.still_of_round (like : x.Like p n a) (other : p.agent? ≠ some (.round m)) :
    a.step present (.startRound m) = ⟨a, []⟩ ∧
      ∀ signal, a.step present (.resumeRound m signal) = ⟨a, []⟩ := by
  obtain ⟨lock, tasks, nextTask, rfl⟩ := like.eq
  have gone : (x.crowd p n lock tasks nextTask).discovery.round? m = none :=
    (round?_sessionBy n m p).trans (round?_state other)
  constructor
  · simp [step, Discovery.startRound, gone, absorb, translate]
  · simp [step, Discovery.resumeRound, gone, absorb, translate]

private theorem resume_opening_still (x : Prospect) (n : Nat) {signal : Signal}
    (other : ∀ o, signal ≠ .opened o) : (x.sessionBy n .connecting).resume (.ok ()) n signal =
      ⟨x.sessionBy n .connecting, [], none⟩ := by
  simp only [Discovery.resume, Discovery.callStage?, sessionBy, List.lookup_cons_self]
  cases signal with
  | opened o => exact absurd rfl (other o)
  | _ => rfl

private theorem resume_closing_still (x : Prospect) (n : Nat) (link : LinkId) {signal : Signal}
    (other : ∀ o, signal ≠ .closed o) : (x.sessionBy n (.parting link)).resume (.ok ()) n signal =
      ⟨x.sessionBy n (.parting link), [], none⟩ := by
  simp only [Discovery.resume, Discovery.callStage?, sessionBy, List.lookup_cons_self]
  cases signal with
  | closed o => exact absurd rfl (other o)
  | _ => rfl

/-- A task goes on and leads on or goes away, or it stays where it is. -/
theorem Like.resume (like : x.Like p n a) (valid : x.Valid p) (known : x.service.role ≠ .unknown)
    (sound : a.Sound) {signal : Signal} (favours : Favours q replies (.resume m signal)) :
    x.Goes p n a.load (a.step present (.resume m signal)) ∨
      a.step present (.resume m signal) = ⟨a, []⟩ := by
  cases there : a.task? m with
  | none => exact .inr (by simp [step, Attachment.resume, there])
  | some t =>
    cases idle : t.stage.isActive with
    | false =>
      by_cases grants : signal = .granted ∧ t.stage = .waiting ∧ a.lock.holder = some m
      · obtain ⟨rfl, waiting, holder⟩ := grants
        exact .inl (like.granted valid known sound there waiting holder)
      · exact .inr (resume_idle sound there idle signal fun granted waiting holder =>
          grants ⟨granted, waiting, holder⟩)
    | true =>
      -- Only the task that leads on makes use of the lock.
      obtain ⟨rfl, leads⟩ := (like.crew.others m t there).resolve_left fun notice => by
        rw [notice.2] at idle
        cases idle
      obtain ⟨lock, tasks, nextTask, rfl⟩ := like.eq
      cases p with
      | connecting =>
        cases favours with
        | opened _ link => exact .inl (like.linked sound link)
        | granted | closed =>
          exact .inr (resume_still there (by simp [leads.2]) (by simp [leads.2])
            (by simp [leads.2]) (x.resume_opening_still m (by simp)))
      | parting link =>
        cases favours with
        | closed _ o => exact .inl (like.parted known sound o)
        | granted | opened =>
          exact .inr (resume_still there (by simp [leads.2]) (by simp [leads.2])
            (by simp [leads.2]) (x.resume_closing_still m link (by simp)))
      | opening link =>
        cases favours with
        | opened _ channel => exact .inl (like.dialed sound channel)
        | granted | closed =>
          refine .inr ?_
          simp only [step, Attachment.resume, there, leads.2]
          rfl
      | noted | found =>
        rw [leads.2] at idle
        cases idle
      | _ => exact leads.elim

/-- While nothing goes wrong, what happens leads on, or brings a notice closer to its end, or
changes nothing. -/
theorem Like.goes_or_still (like : x.Like p n a) (valid : x.Valid p)
    (known : x.service.role ≠ .unknown) (sound : a.Sound) (agrees : x.Agrees q replies)
    (favours : Favours q replies e) :
    x.Goes p n a.load (a.step present e) ∨ a.step present e = ⟨a, []⟩ := by
  cases favours with
  | start m =>
    cases there : a.task? m with
    | none => exact .inr (by simp [step, Attachment.start, there])
    | some t =>
      by_cases queued : t.stage = .queued
      · exact .inl (like.start valid known sound there queued)
      · refine .inr ?_
        simp only [step, Attachment.start, there]
        split
        · next listed _ => exact absurd listed queued
        · next listed _ => exact absurd listed queued
        · rfl
  | granted m =>
    have favours : Favours q replies _ := .granted m
    exact like.resume valid known sound favours
  | opened m link =>
    have favours : Favours q replies _ := .opened m link
    exact like.resume valid known sound favours
  | closed m o =>
    have favours : Favours q replies _ := .closed m o
    exact like.resume valid known sound favours
  | startRound m =>
    by_cases own : p.agent? = some (.round m)
    · obtain ⟨lock, tasks, nextTask, rfl⟩ := like.eq
      cases p with
      | scheduled link => cases own; exact .inl like.asked
      | querying link => cases own; exact .inr rfl
      | closing link => exact absurd valid (services_ne_nil known)
      | _ => cases own
    · exact .inr (like.still_of_round own).1
  | grantedRound m | closedRound m =>
    by_cases own : p.agent? = some (.round m)
    · obtain ⟨lock, tasks, nextTask, rfl⟩ := like.eq
      cases p with
      | scheduled link | querying link => cases own; exact .inr rfl
      | closing link => exact absurd valid (services_ne_nil known)
      | _ => cases own
    · exact .inr ((like.still_of_round own).2 _)
  | answered m run there =>
    by_cases own : p.agent? = some (.round m)
    · have found := agrees run there
      rw [if_neg (services_ne_nil known)] at found
      cases p with
      | scheduled link =>
        obtain ⟨lock, tasks, nextTask, rfl⟩ := like.eq
        cases own
        exact .inr rfl
      | querying link => cases own; exact .inl (like.found known sound found)
      | closing link => exact absurd valid (services_ne_nil known)
      | _ => cases own
    · exact .inr ((like.still_of_round own).2 _)

/-- A notice is one more task that is about. -/
theorem Like.noted (like : x.Like p n a) (sound : a.Sound) :
    x.Like p n (a.step present .notify).attachment ∧
      outward (a.step present .notify).actions = [] := by
  have crew := like.crew.noted sound.fresh
  obtain ⟨lock, tasks, nextTask, rfl⟩ := like.eq
  have eq : (x.crowd p n lock tasks nextTask).step present .notify =
      ⟨(x.crowd p n lock tasks nextTask).addTask .update .queued, [.submit (.task nextTask)]⟩ := by
    cases p <;> rfl
  rw [eq]
  exact ⟨⟨⟨_, _, _, rfl⟩, crew⟩, rfl⟩

/-! ### Runs -/

/-- Whoever has only just been attached to waits for the first notice. -/
theorem like_noted (x : Prospect) : x.Like .noted 0 (x.state .noted) where
  eq := ⟨_, _, _, rfl⟩
  crew := by
    have first : ∀ m t, (x.state .noted).task? m = some t → m = 0 ∧ t = ⟨0, .update, .queued⟩ := by
      intro m t there
      obtain rfl := number_of_task? there
      have eq := List.mem_singleton.mp (List.mem_of_find?_eq_some there)
      rw [eq]
      exact ⟨rfl, rfl⟩
    refine ⟨fun _ => ⟨_, rfl, rfl, rfl⟩, ?_, ?_⟩
    · intro m t there
      obtain ⟨-, rfl⟩ := first m t there
      exact .inl ⟨rfl, rfl⟩
    · intro m t there waits
      obtain ⟨-, rfl⟩ := first m t there
      cases waits

/-- A run with notices gets to a phase all the same. -/
theorem run_like (known : x.service.role ≠ .unknown) (agrees : x.Agrees q replies)
    (begins : (x.state .noted).Sound) {script : Script}
    (tolerable : ∀ turn ∈ script, Tolerable q replies turn) :
    ∃ p n, x.Valid p ∧ x.Like p n ((x.state .noted).run script) ∧
      outward ((x.state .noted).deeds script) = x.done p := by
  induction script using List.reverseRecOn with
  | nil => exact ⟨.noted, 0, trivial, x.like_noted, rfl⟩
  | append_singleton script turn ih =>
    obtain ⟨p, n, valid, like, done⟩ :=
      ih fun turn there => tolerable turn (List.mem_append_left _ there)
    have sound := begins.run script
    rw [run_append, deeds_append, outward_append, done]
    obtain ⟨s, e⟩ := turn
    have deeds_one : ∀ a : Attachment, a.deeds [(s, e)] = (a.step s e).actions :=
      fun a => List.append_nil _
    rw [deeds_one, run_cons, run_nil]
    rcases tolerable (s, e) (by simp) with ⟨rfl, favours⟩ | same
    · rcases like.goes_or_still valid known sound agrees favours with goes | still
      · cases goes with
        | on leads like' does =>
          exact ⟨_, _, leads.valid valid, like', by rw [leads.done, ← does]⟩
        | stays like' silent _ => exact ⟨p, n, valid, like', by rw [silent, List.append_nil]⟩
      · rw [still]
        exact ⟨p, n, valid, like, List.append_nil _⟩
    · cases same
      obtain ⟨like', silent⟩ := like.noted sound
      exact ⟨p, n, valid, like', by rw [silent, List.append_nil]⟩

/-- As long as somebody works, something can happen that leads on or brings a notice closer to its
end. -/
theorem Like.exists_goes (like : x.Like p n a) (valid : x.Valid p)
    (known : x.service.role ≠ .unknown) (sound : a.Sound) (agrees : x.Agrees q replies)
    (answers : ∃ d r, Sdp.Dialogue.Run (Sdp.Dialogue.start {} q replies) d ∧ d.result? = some r)
    (busy : ¬ a.Quiet) : ∃ e, Favours q replies e ∧ x.Goes p n a.load (a.step present e) := by
  by_cases queued : ∃ m t, a.task? m = some t ∧ t.stage = .queued
  · obtain ⟨m, t, there, queued⟩ := queued
    exact ⟨_, .start m, like.start valid known sound there queued⟩
  cases holder : a.lock.holder with
  | some m =>
    obtain ⟨t, there, started⟩ := sound.present m (Lock.mem_parties_of_holder holder)
    by_cases waiting : t.stage = .waiting
    · exact ⟨_, .granted m, like.granted valid known sound there waiting holder⟩
    · -- The holder makes use of the lock, so it is the task that leads on.
      have active : t.stage.isActive ≠ false := by
        cases place : t.stage <;> simp_all [Stage.isActive]
      obtain ⟨rfl, leads⟩ := (like.crew.others m t there).resolve_left fun notice => active notice.2
      cases p with
      | connecting => exact ⟨_, .opened m 0, like.linked sound 0⟩
      | parting link => exact ⟨_, .closed m .closed, like.parted known sound .closed⟩
      | opening link => exact ⟨_, .opened m 0, like.dialed sound 0⟩
      | noted | found => exact absurd leads.2 active
      | _ => exact leads.elim
  | none =>
    -- Nobody asks for the lock, so there is no task.
    have nobody : ∀ m, a.task? m = none := by
      intro m
      cases there : a.task? m with
      | none => rfl
      | some t =>
        exfalso
        by_cases waiting : t.stage = .waiting
        · have party := like.crew.waiting m t there waiting
          simp [Lock.parties, holder, sound.lock.waiting_eq_nil holder] at party
        · have active : t.stage.isActive = true := by
            have idle : t.stage ≠ .queued := fun listed => queued ⟨m, t, there, listed⟩
            cases place : t.stage <;> simp_all [Stage.isActive]
          have holds := sound.active m t there active
          rw [holder] at holds
          cases holds
    have unmanned : ¬ p.IsManned := by
      intro manned
      obtain ⟨t, there, -⟩ := like.crew.leader manned
      rw [nobody n] at there
      cases there
    have alone : a.tasks = [] := by
      refine List.eq_nil_iff_forall_not_mem.mpr fun t there => ?_
      exact List.find?_eq_none.mp (nobody t.number) t there (by simp)
    cases p with
    | scheduled link => exact ⟨_, .startRound 0, like.asked⟩
    | querying link =>
      obtain ⟨d, r, run, there⟩ := answers
      have found := agrees run there
      rw [if_neg (services_ne_nil known)] at found
      exact ⟨_, .answered 0 run there, like.found known sound found⟩
    | closing link => exact absurd valid (services_ne_nil known)
    | unknown | settled | opened =>
      refine absurd ⟨?_, ?_⟩ busy
      · rw [alone]
        exact fun t there => (List.not_mem_nil there).elim
      · obtain ⟨lock, tasks, nextTask, rfl⟩ := like.eq
        rfl
    | _ => exact absurd trivial unmanned

/-- A run with notices can be carried on until nobody works. -/
theorem Like.exists_run {p : Phase} {n : Nat} {a : Attachment} (like : x.Like p n a)
    (valid : x.Valid p) (known : x.service.role ≠ .unknown) (sound : a.Sound)
    (agrees : x.Agrees q replies)
    (answers : ∃ d r, Sdp.Dialogue.Run (Sdp.Dialogue.start {} q replies) d ∧ d.result? = some r) :
    ∃ more, (∀ turn ∈ more, Favourable q replies turn) ∧ (a.run more).Quiet := by
  by_cases quiet : a.Quiet
  · exact ⟨[], by simp, quiet⟩
  · obtain ⟨e, favours, goes⟩ := like.exists_goes valid known sound agrees answers quiet
    have later : ∃ more, (∀ turn ∈ more, Favourable q replies turn) ∧
        ((a.step present e).attachment.run more).Quiet := by
      cases goes with
      | on leads like' _ =>
        have less := leads.left
        exact like'.exists_run (leads.valid valid) known (sound.step present e) agrees answers
      | stays like' _ lighter =>
        exact like'.exists_run valid known (sound.step present e) agrees answers
    obtain ⟨more, favourable, ends⟩ := later
    exact ⟨(present, e) :: more, List.forall_mem_cons.mpr ⟨⟨rfl, favours⟩, favourable⟩, ends⟩
termination_by (p.left, a.load)

end Prospect

/-! ### With notices and without -/

/-- What shows of an attachment: what links were to be opened to, what is known about the service,
the status, and which links are open. -/
structure Appearance where
  attempts : List Psm
  service : AudioService
  status : ConnectionStatus
  discovery : Bool
  transport : Bool

/-- What shows of an attachment after some actions. -/
def appearance (a : Attachment) (actions : List Action) : Appearance :=
  ⟨Attachment.attempts actions, a.service, a.status, a.discovery.isBusy, a.transport.isOpen⟩

/-- In the end it depends on the service alone what shows. -/
theorem Prospect.Like.appearance_eq {x : Prospect} {p : Phase} (like : x.Like p n a)
    (valid : x.Valid p) (known : x.service.role ≠ .unknown) (quiet : a.Quiet)
    {actions : List Action}
    (done : outward actions = x.done p) :
    a.appearance actions = if x.service.role = .sink
      then ⟨[Sdp.psm, x.service.psm], x.service, .idle, false, true⟩
      else ⟨[Sdp.psm], x.service, .disconnected, false, false⟩ := by
  have unmanned : ¬ p.IsManned := by
    intro manned
    obtain ⟨t, there, leads⟩ := like.crew.leader manned
    exact quiet.tasks t (List.mem_of_find?_eq_some there) leads.isJob
  have tried : attempts actions = (x.done p).filterMap Effect.connect? := by
    rw [attempts_eq, done]
  have rounds := quiet.rounds
  rw [appearance, tried]
  obtain ⟨lock, tasks, nextTask, rfl⟩ := like.eq
  cases p with
  | noted | connecting | found | parting | opening => exact absurd trivial unmanned
  | scheduled | querying => cases rounds
  | closing | unknown => exact absurd valid (Prospect.services_ne_nil known)
  | settled link =>
    rw [if_neg valid.2]
    rfl
  | opened link channel =>
    have sink : x.service.role = .sink := valid
    rw [if_pos sink]
    rfl

/-- What is settled on for a device that has a record of the audio sink class plays a part that is
known. -/
theorem role_pick_sinks {records : List Sdp.Record}
    (sink : ∃ r ∈ records, r.hasClass ServiceClass.audioSink = true) :
    ((pick ((Discovery.sinks records).map AudioService.ofRecord)).getD {}).role ≠ .unknown := by
  obtain ⟨r, there, ofClass⟩ := sink
  have chosen := chosen_pick records
  generalize (pick ((Discovery.sinks records).map AudioService.ofRecord)).getD {} = service
    at chosen ⊢
  cases chosen with
  | unknown none_of_class =>
    rw [none_of_class r there] at ofClass
    cases ofClass
  | _ => exact AudioService.role_ofRecord_ne _

section

variable {settings : Settings} {remote : Address} {s : Surroundings} {first : List Action}
  {replies : List Sdp.Pdu} {lists rest : Bytes} {records : List Sdp.Attributes}
  {script noticed : Script}

/-- The device stays connected, there is room for jobs, the connector opens every link and the peer
returns, in time, a record of the audio sink class. A run with any number of notices at any moments
can be carried on until all jobs have run, and then all that shows is as after a run without. -/
theorem notices_change_nothing
    (created : create settings remote (.ok ()) s = .ok (.ok a, first))
    (room : s.admission = .ok ()) (complete : ∀ p ∈ replies, p.IsComplete)
    (answers : Sdp.Answers (Discovery.question settings) 0 [] replies lists)
    (decodes : Sdp.Element.decode lists = .ok (Sdp.Attributes.lists records, rest))
    (sink : ∃ r ∈ records.map Sdp.Record.ofAttributes, r.hasClass ServiceClass.audioSink = true)
    (plain : ∀ turn ∈ script, Favourable (Discovery.question settings) replies turn)
    (tolerable : ∀ turn ∈ noticed, Tolerable (Discovery.question settings) replies turn) :
    (∃ more, (∀ turn ∈ more, Favourable (Discovery.question settings) replies turn) ∧
      (a.run (noticed ++ more)).Quiet) ∧
    ((a.run script).Quiet → (a.run noticed).Quiet →
      (a.run noticed).appearance (first ++ a.deeds noticed) =
        (a.run script).appearance (first ++ a.deeds script)) := by
  have begins : a.Sound := Begun.sound ⟨settings, remote, s, first, created⟩
  obtain ⟨x, services, rfl, silent⟩ := exists_prospect created room
    ((Discovery.sinks (records.map Sdp.Record.ofAttributes)).map AudioService.ofRecord)
  have agrees : x.Agrees (Discovery.question settings) replies :=
    agrees_of_answers services complete answers decodes
  have known : x.service.role ≠ .unknown := by
    rw [Prospect.service, services]
    exact role_pick_sinks sink
  obtain ⟨p, n, valid, like, done⟩ := Prospect.run_like known agrees begins tolerable
  obtain ⟨p', n', valid', like', done'⟩ :=
    Prospect.run_like known agrees begins fun turn there => .inl (plain turn there)
  have from_start : ∀ script, outward (first ++ (x.state .noted).deeds script) =
      outward ((x.state .noted).deeds script) := by
    intro script
    rw [outward_append, silent, List.nil_append]
  constructor
  · obtain ⟨more, favourable, ends⟩ := like.exists_run valid known (begins.run noticed) agrees
      (answers.exists_result complete)
    exact ⟨more, favourable, by rwa [run_append]⟩
  · intro quiet' quiet
    rw [like.appearance_eq valid known quiet ((from_start noticed).trans done),
      like'.appearance_eq valid' known quiet' ((from_start script).trans done')]

end

/-- A visit with notices before, during and after the discovery, the report and the opening of the
transport link. -/
def pestered : Script :=
  [(present, .notify), (present, .start 0), (present, .notify), (present, .start 1),
    (present, .start 2), (present, .resume 0 (.opened (.opened 1))), (present, .resume 1 .granted),
    (present, .resume 2 .granted), (present, .startRound 0), (present, .notify),
    (present, .start 3),
    (present, .resumeRound 0 (.answered (some (.ok (offered.map .ofAttributes))))),
    (present, .notify), (present, .start 5), (present, .start 4), (present, .notify),
    (present, .start 6), (present, .resume 4 (.closed .closed)), (present, .notify),
    (present, .start 7), (present, .resume 4 (.opened (.opened 2))), (present, .resume 6 .granted),
    (present, .resume 7 .granted), (present, .notify), (present, .start 8)]

private theorem tolerable_pestered :
    ∀ turn ∈ pestered, Tolerable (Discovery.question {}) [offer] turn := by
  obtain ⟨d, r, run, there⟩ := answers_offer.exists_result complete_offer
  obtain rfl := answers_offer.result_eq complete_offer decode_offered run there
  simp only [pestered, List.forall_mem_cons, Tolerable]
  exact ⟨.inr trivial, .inl ⟨rfl, .start 0⟩, .inr trivial, .inl ⟨rfl, .start 1⟩,
    .inl ⟨rfl, .start 2⟩, .inl ⟨rfl, .opened 0 1⟩, .inl ⟨rfl, .granted 1⟩, .inl ⟨rfl, .granted 2⟩,
    .inl ⟨rfl, .startRound 0⟩, .inr trivial, .inl ⟨rfl, .start 3⟩,
    .inl ⟨rfl, .answered 0 run there⟩, .inr trivial, .inl ⟨rfl, .start 5⟩, .inl ⟨rfl, .start 4⟩,
    .inr trivial, .inl ⟨rfl, .start 6⟩, .inl ⟨rfl, .closed 4 .closed⟩, .inr trivial,
    .inl ⟨rfl, .start 7⟩, .inl ⟨rfl, .opened 4 2⟩, .inl ⟨rfl, .granted 6⟩, .inl ⟨rfl, .granted 7⟩,
    .inr trivial, .inl ⟨rfl, .start 8⟩, fun _ there => (List.not_mem_nil there).elim⟩

/-- A visit that notices keep interrupting ends like the visit without them. -/
theorem notices_change_nothing_pestered : ∃ first,
    create {} attached.remote (.ok ()) present = .ok (.ok attached, first) ∧
    (∃ more, (∀ turn ∈ more, Favourable (Discovery.question {}) [offer] turn) ∧
      (attached.run (pestered ++ more)).Quiet) ∧
    (attached.run visit).Quiet ∧ (attached.run pestered).Quiet ∧
    (attached.run pestered).transport.isOpen = true ∧
    (attached.run pestered).appearance (first ++ attached.deeds pestered) =
      (attached.run visit).appearance (first ++ attached.deeds visit) := by
  obtain ⟨first, created⟩ := attached_created (s := present) rfl
  have quiet : (attached.run visit).Quiet := .of_nil rfl rfl
  have sink : ∃ r ∈ offered.map Sdp.Record.ofAttributes,
      r.hasClass ServiceClass.audioSink = true := by decide
  obtain ⟨goesOn, same⟩ := notices_change_nothing created rfl complete_offer answers_offer
    decode_offered sink favourable_visit tolerable_pestered
  have quiet' : (attached.run pestered).Quiet := .of_nil rfl rfl
  exact ⟨first, created, goesOn, quiet, quiet', rfl, same quiet quiet'⟩

end Attachment

end A2dpSink
