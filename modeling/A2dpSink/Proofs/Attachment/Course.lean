import A2dpSink.Proofs.Attachment.Stranded
import A2dpSink.Proofs.Sdp.Answers

/-!
# The course of an attachment when nothing goes wrong

While its device is there, the connector opens every link and the peer answers the query in time, an
attachment is in one of few states, the phases on its way from the attach to the transport link.
Every event leads on to the next phase (`Prospect.Leads`) or changes nothing, so a run gets to a phase
(`Prospect.run_state`) and can be carried on until nobody works (`Prospect.exists_run`).
-/

namespace A2dpSink

/-- What a discovery session does to the world, reports aside. -/
def Discovery.outward (actions : List Discovery.Action) : List Effect :=
  actions.filterMap fun
    | .effect (.log _) => none
    | .effect e => some e
    | _ => none

/-- Reporting something does nothing to the world. -/
@[simp] theorem Discovery.outward_log (lines : List Log.Line) :
    Discovery.outward (lines.map .log) = [] := by
  simp [outward]

/-- What is done to the world is done action by action. -/
@[simp] theorem Discovery.outward_append (first second : List Discovery.Action) :
    Discovery.outward (first ++ second) = Discovery.outward first ++ Discovery.outward second :=
  List.filterMap_append

namespace Attachment

/-! ### Phases -/

/-- How far an attachment has got on its way from the attach to the transport link. -/
inductive Phase where
  /-- The job that looks at the device is queued. -/
  | noted
  /-- It opens the discovery link. -/
  | connecting
  /-- The job of a round on the link is queued. -/
  | scheduled (link : LinkId)
  /-- The round waits for the answer to its query. -/
  | querying (link : LinkId)
  /-- Nothing was found, and the round closes the link. -/
  | closing (link : LinkId)
  /-- Nothing was found. -/
  | unknown (link : LinkId)
  /-- The job of the report of what was found is queued. -/
  | found (link : LinkId)
  /-- The report closes the discovery link. -/
  | parting (link : LinkId)
  /-- The report opens the transport link. -/
  | opening (link : LinkId)
  /-- What was found is no sink. -/
  | settled (link : LinkId)
  /-- The transport link is open. -/
  | opened (link channel : LinkId)

/-- Who works in a phase. -/
def Phase.agent? : Phase → Option Agent
  | .noted => some (.task 0)
  | .connecting => some (.task 0)
  | .scheduled _ => some (.round 0)
  | .querying _ => some (.round 0)
  | .closing _ => some (.round 0)
  | .unknown _ => none
  | .found _ => some (.task 1)
  | .parting _ => some (.task 1)
  | .opening _ => some (.task 1)
  | .settled _ => none
  | .opened _ _ => none

/-- How many events still lead on at most. -/
def Phase.left : Phase → Nat
  | .noted => 7
  | .connecting => 6
  | .scheduled _ => 5
  | .querying _ => 4
  | .closing _ => 1
  | .unknown _ => 0
  | .found _ => 3
  | .parting _ => 2
  | .opening _ => 1
  | .settled _ => 0
  | .opened _ _ => 0

/-- The links that have been opened when a phase is reached. -/
def Phase.links : Phase → List LinkId
  | .noted => []
  | .connecting => []
  | .scheduled link => [link]
  | .querying link => [link]
  | .closing link => [link]
  | .unknown link => [link]
  | .found link => [link]
  | .parting link => [link]
  | .opening link => [link]
  | .settled link => [link]
  | .opened link channel => [link, channel]

/-- What there is to find. -/
structure Prospect where
  remote : Address
  /-- The longest time for a query. -/
  limit : Nat
  services : List AudioService

namespace Prospect

variable (x : Prospect)

/-- The service that is settled on. -/
def service : AudioService := (pick x.services).getD {}

/-- An attachment for which nobody works yet. -/
def blank : Attachment where
  remote := x.remote
  discovery := { remote := x.remote, queryLimit := x.limit }
  transport := (Transport.create x.remote).1

/-- The session has been left with a given count, after one round. -/
def session (count : Nat) : Discovery :=
  { x.blank.discovery with count, nextRound := 1 }

/-- The attachment in a phase. -/
def state : Phase → Attachment
  | .noted => { x.blank with tasks := [⟨0, .update, .queued⟩], nextTask := 1 }
  | .connecting =>
    { x.blank with
      lock := ⟨some 0, []⟩
      discovery := { x.blank.discovery with lock := ⟨some (.call 0), []⟩, calls := [(0, .opening)] }
      tasks := [⟨0, .update, .connecting⟩]
      nextTask := 1 }
  | .scheduled link =>
    { x.blank with
      discovery := { x.session 1 with discovering := true, rounds := [⟨0, 1, link, .queued⟩] }
      nextTask := 1 }
  | .querying link =>
    { x.blank with
      discovery := { x.session 1 with discovering := true, rounds := [⟨0, 1, link, .querying⟩] }
      nextTask := 1 }
  | .closing link =>
    { x.blank with
      discovery := { x.session 2 with rounds := [⟨0, 1, link, .closing⟩] }
      nextTask := 1 }
  | .unknown _ => { x.blank with discovery := x.session 2, nextTask := 1 }
  | .found link =>
    { x.blank with
      discovery := { x.session 1 with link := some link }
      tasks := [⟨1, .report x.services, .queued⟩]
      nextTask := 2 }
  | .parting _ =>
    { x.blank with
      lock := ⟨some 1, []⟩
      discovery := { x.session 2 with lock := ⟨some (.call 1), []⟩, calls := [(1, .closing)] }
      tasks := [⟨1, .report x.services, .parting⟩]
      nextTask := 2 }
  | .opening _ =>
    { x.blank with
      lock := ⟨some 1, []⟩
      service := x.service
      discovery := x.session 2
      tasks := [⟨1, .report x.services, .opening x.service.psm⟩]
      nextTask := 2 }
  | .settled _ => { x.blank with service := x.service, discovery := x.session 2, nextTask := 2 }
  | .opened _ channel =>
    { x.blank with
      service := x.service
      discovery := x.session 2
      transport := (x.blank.transport.opened x.service.psm (.opened channel)).transport
      nextTask := 2 }

end Prospect

/-! ### What is done to the world -/

/-- What is done to the world, reports aside. -/
def outward (actions : List Action) : List Effect :=
  actions.filterMap fun
    | .effect (.log _) => none
    | .effect e => some e
    | _ => none

/-- What is done to the world is done action by action. -/
@[simp] theorem outward_append (first second : List Action) :
    outward (first ++ second) = outward first ++ outward second :=
  List.filterMap_append

/-- Reporting something does nothing to the world. -/
@[simp] theorem outward_log (lines : List Log.Line) : outward (lines.map .log) = [] := by
  simp [outward]

/-- What is done in a run. -/
def deeds (a : Attachment) : Script → List Action
  | [] => []
  | (s, e) :: rest => (a.step s e).actions ++ (a.step s e).attachment.deeds rest

/-- A run in two parts does what the first part does, and then what the second does. -/
theorem deeds_append (a : Attachment) (first second : Script) :
    a.deeds (first ++ second) = a.deeds first ++ (a.run first).deeds second := by
  induction first generalizing a with
  | nil => rfl
  | cons turn first ih =>
    rw [List.cons_append, deeds, deeds, ih, List.append_assoc]
    rfl

/-- What the session does to the world, the attachment does. -/
theorem outward_absorb (a : Attachment) (o : Discovery.Outcome) :
    outward (a.absorb o).actions = Discovery.outward o.actions := by
  rw [absorb]
  generalize { a with discovery := o.session } = a'
  induction o.actions generalizing a' with
  | nil => rfl
  | cons action actions ih =>
    cases action with
    | effect e =>
      simp only [translate, actions_after, outward_append, ih]
      cases e <;> rfl
    | schedule n => simpa [translate, outward, Discovery.outward] using ih a'
    | wake p => cases p <;> simpa [translate, outward, Discovery.outward] using ih a'
    | deliver services => simpa [translate, outward, Discovery.outward] using ih _

/-! ### What leads from one phase to the next -/

namespace Prospect

variable (x : Prospect)

/-- An event that leads on from a phase, and what is done. -/
inductive Leads : Phase → Event → Phase → List Effect → Prop
  | look : Leads .noted (.start 0) .connecting [.connect Sdp.psm]
  | linked (link : LinkId) :
      Leads .connecting (.resume 0 (.opened (.opened link))) (.scheduled link) []
  | ask (link : LinkId) :
      Leads (.scheduled link) (.startRound 0) (.querying link) [.query link x.limit]
  | miss (link : LinkId) (r : Option Sdp.Result) (e : Discovery.RoundError) :
      x.services = [] → Discovery.findings r = .error e →
      Leads (.querying link) (.resumeRound 0 (.answered r)) (.closing link) [.shutdown link]
  | hit (link : LinkId) (r : Option Sdp.Result) :
      x.services ≠ [] → Discovery.findings r = .ok x.services →
      Leads (.querying link) (.resumeRound 0 (.answered r)) (.found link) []
  | closed (link : LinkId) (o : CloseOutcome) :
      Leads (.closing link) (.resumeRound 0 (.closed o)) (.unknown link) []
  | heed (link : LinkId) : Leads (.found link) (.start 1) (.parting link) [.shutdown link]
  | dial (link : LinkId) (o : CloseOutcome) : x.service.role = .sink →
      Leads (.parting link) (.resume 1 (.closed o)) (.opening link) [.connect x.service.psm]
  | pass (link : LinkId) (o : CloseOutcome) : x.service.role ≠ .sink →
      Leads (.parting link) (.resume 1 (.closed o)) (.settled link) []
  | opened (link channel : LinkId) :
      Leads (.opening link) (.resume 1 (.opened (.opened channel))) (.opened link channel) []

/-- What is known about the services in a phase. -/
def Valid : Phase → Prop
  | .closing _ => x.services = []
  | .unknown _ => x.services = []
  | .found _ => x.services ≠ []
  | .parting _ => x.services ≠ []
  | .opening _ => x.service.role = .sink
  | .settled _ => x.services ≠ [] ∧ x.service.role ≠ .sink
  | .opened _ _ => x.service.role = .sink
  | _ => True

/-- What has been done to the world when a phase is reached. -/
def done : Phase → List Effect
  | .noted => []
  | .connecting => [.connect Sdp.psm]
  | .scheduled _ => [.connect Sdp.psm]
  | .querying link => [.connect Sdp.psm, .query link x.limit]
  | .closing link => [.connect Sdp.psm, .query link x.limit, .shutdown link]
  | .unknown link => [.connect Sdp.psm, .query link x.limit, .shutdown link]
  | .found link => [.connect Sdp.psm, .query link x.limit]
  | .parting link => [.connect Sdp.psm, .query link x.limit, .shutdown link]
  | .opening link =>
    [.connect Sdp.psm, .query link x.limit, .shutdown link, .connect x.service.psm]
  | .settled link => [.connect Sdp.psm, .query link x.limit, .shutdown link]
  | .opened link _ =>
    [.connect Sdp.psm, .query link x.limit, .shutdown link, .connect x.service.psm]

variable {x} {p q : Phase} {e : Event} {effects : List Effect}

/-- What is known about the services stays valid in the next phase. -/
theorem Leads.valid (h : x.Leads p e q effects) (valid : x.Valid p) : x.Valid q := by
  cases h with
  | miss _ _ _ empty => exact empty
  | hit _ _ nonempty => exact nonempty
  | closed => exact valid
  | heed => exact valid
  | dial _ _ sink => exact sink
  | pass _ _ other => exact ⟨valid, other⟩
  | opened => exact valid
  | _ => trivial

/-- What has been done by the next phase was done before, or in the step to it. -/
theorem Leads.done (h : x.Leads p e q effects) : x.done q = x.done p ++ effects := by
  cases h <;> rfl

/-- A link is there only if the connector has opened it. -/
theorem Leads.links (h : x.Leads p e q effects) {link : LinkId} (there : link ∈ q.links) :
    link ∈ p.links ∨ ∃ n, e = .resume n (.opened (.opened link)) := by
  cases h with
  | linked link' =>
    cases List.mem_singleton.mp there
    exact .inr ⟨0, rfl⟩
  | opened link' channel =>
    rcases List.mem_cons.mp there with rfl | there
    · exact .inl (List.mem_singleton_self _)
    · cases List.mem_singleton.mp there
      exact .inr ⟨1, rfl⟩
  | _ => exact .inl there

private theorem pick_services (nonempty : x.services ≠ []) : pick x.services = some x.service := by
  cases services : x.services with
  | nil => exact absurd services nonempty
  | cons first rest =>
    have picked : pick (first :: rest) ≠ none := by
      simp only [pick, List.head?_cons]
      cases List.find? _ _ <;> simp
    obtain ⟨service, eq⟩ := Option.ne_none_iff_exists'.mp picked
    simp [Prospect.service, services, eq]

/-- When the answer to the query is there, the round concludes. -/
theorem step_querying (x : Prospect) (link : LinkId) (r : Option Sdp.Result) :
    ∃ o, (x.state (.querying link)).step present (.resumeRound 0 (.answered r)) =
        (x.state (.querying link)).absorb o ∧
      o =
        let concluded := Discovery.conclude { (x.state (.querying link)).discovery with
          lock := ⟨some (.round 0), []⟩ } (.ok ()) ⟨0, 1, link, .querying⟩ (Discovery.findings r)
        { concluded with actions := (Discovery.inspection r).map .log ++ concluded.actions } :=
  ⟨_, rfl, rfl⟩

/-- When the discovery link is closed, the report settles on a service. -/
theorem step_parting (x : Prospect) (link : LinkId) (o : CloseOutcome) :
    ∃ lines : List Log.Line, (x.state (.parting link)).step present (.resume 1 (.closed o)) =
      (settle { x.state (.parting link) with discovery := x.session 2 } 1 x.services).after
        (lines.map .log) := by
  cases o <;> exact ⟨[_], rfl⟩

/-- A service is settled on, and the transport link is opened if it is a sink. -/
theorem settle_services (a : Attachment) (n : Nat) (nonempty : x.services ≠ []) :
    ∃ lines : List Log.Line, a.settle n x.services =
      (if x.service.role = Role.sink
        then { a with service := x.service }.openTransport n x.service.psm
        else { a with service := x.service }.leave n).after (lines.map .log) := by
  unfold settle
  simp only [pick_services nonempty]
  by_cases several : 1 < x.services.length
  · rw [if_pos several]
    exact ⟨[_, _], rfl⟩
  · rw [if_neg several]
    exact ⟨[_], rfl⟩

/-- A step that leads on goes from the state of one phase to that of the next. -/
theorem Leads.step (h : x.Leads p e q effects) (valid : x.Valid p) :
    ((x.state p).step present e).attachment = x.state q ∧
      outward ((x.state p).step present e).actions = effects := by
  cases h with
  | look => exact ⟨rfl, rfl⟩
  | linked link => exact ⟨rfl, rfl⟩
  | ask link => exact ⟨rfl, rfl⟩
  | miss link r e empty found =>
    obtain ⟨o, concludes, same⟩ := step_querying x link r
    rw [found] at same
    rw [concludes, attachment_absorb, outward_absorb, same]
    simp only [Discovery.deliveries_append, Discovery.deliveries_log, Discovery.outward_append,
      Discovery.outward_log]
    exact ⟨rfl, rfl⟩
  | hit link r nonempty found =>
    obtain ⟨o, concludes, same⟩ := step_querying x link r
    rw [found] at same
    rw [concludes, attachment_absorb, outward_absorb, same]
    simp only [Discovery.deliveries_append, Discovery.deliveries_log, Discovery.outward_append,
      Discovery.outward_log]
    exact ⟨rfl, rfl⟩
  | closed link o => exact ⟨rfl, rfl⟩
  | heed link => exact ⟨rfl, rfl⟩
  | dial link o sink =>
    obtain ⟨lines, settles⟩ := step_parting x link o
    obtain ⟨more, eq⟩ :=
      settle_services { x.state (.parting link) with discovery := x.session 2 } 1 valid
    rw [settles, eq, if_pos sink]
    simp only [attachment_after, actions_after, outward_append, outward_log]
    exact ⟨rfl, rfl⟩
  | pass link o other =>
    obtain ⟨lines, settles⟩ := step_parting x link o
    obtain ⟨more, eq⟩ :=
      settle_services { x.state (.parting link) with discovery := x.session 2 } 1 valid
    rw [settles, eq, if_neg other]
    simp only [attachment_after, actions_after, outward_append, outward_log]
    exact ⟨rfl, rfl⟩
  | opened link channel => exact ⟨rfl, rfl⟩

end Prospect

/-! ### Events when nothing goes wrong -/

/-- What may happen while the connector opens every link and a peer gives the given replies to a
question, in time. Links that are closed may be closed with an error. -/
inductive Favours (q : Sdp.Question) (replies : List Sdp.Pdu) : Event → Prop
  | start (n : Nat) : Favours q replies (.start n)
  | granted (n : Nat) : Favours q replies (.resume n .granted)
  | opened (n : Nat) (link : LinkId) : Favours q replies (.resume n (.opened (.opened link)))
  | closed (n : Nat) (o : CloseOutcome) : Favours q replies (.resume n (.closed o))
  | startRound (n : Nat) : Favours q replies (.startRound n)
  | grantedRound (n : Nat) : Favours q replies (.resumeRound n .granted)
  | closedRound (n : Nat) (o : CloseOutcome) : Favours q replies (.resumeRound n (.closed o))
  | answered (n : Nat) {d : Sdp.Dialogue} {r : Sdp.Result} :
      Sdp.Dialogue.Run (Sdp.Dialogue.start {} q replies) d → d.result? = some r →
      Favours q replies (.resumeRound n (.answered (some r)))

/-- The device is there and there is room for jobs, and what happens is no obstacle. -/
def Favourable (q : Sdp.Question) (replies : List Sdp.Pdu) (turn : Surroundings × Event) : Prop :=
  turn.1 = present ∧ Favours q replies turn.2

/-- The connector opens a link during a run. -/
def HandedOut (script : Script) (link : LinkId) : Prop :=
  ∃ s n, (s, .resume n (.opened (.opened link))) ∈ script

/-- Who an event is about. -/
def Event.agent? : Event → Option Agent
  | .start n => some (.task n)
  | .resume n _ => some (.task n)
  | .startRound n => some (.round n)
  | .resumeRound n _ => some (.round n)
  | _ => none

namespace Prospect

variable {x : Prospect} {p p' : Phase} {e : Event} {effects : List Effect} {q : Sdp.Question}
  {replies : List Sdp.Pdu}

/-- Only one works in a phase. -/
theorem task?_state {n : Nat} (other : p.agent? ≠ some (.task n)) : (x.state p).task? n = none := by
  have absent : ∀ {m : Nat}, m ≠ n → ∀ t : Task, t.number = m →
      [t].find? (fun t => decide (t.number = n)) = none := by
    rintro m ne t rfl
    simp [ne]
  cases p with
  | noted | connecting | found | parting | opening =>
    refine absent (fun same => other ?_) _ rfl
    rw [← same]
    rfl
  | _ => rfl

/-- A round is there only in a phase in which it has its turn. -/
theorem round?_state {n : Nat} (other : p.agent? ≠ some (.round n)) :
    (x.state p).discovery.round? n = none := by
  have absent : ∀ {m : Nat}, m ≠ n → ∀ r : Discovery.Round, r.number = m →
      [r].find? (fun r => decide (r.number = n)) = none := by
    rintro m ne r rfl
    simp [ne]
  cases p with
  | scheduled | querying | closing =>
    refine absent (fun same => other ?_) _ rfl
    rw [← same]
    rfl
  | _ => rfl

/-- What is about somebody else changes nothing. -/
theorem step_other {s : Surroundings} {g : Agent} (about : e.agent? = some g)
    (other : p.agent? ≠ some g) : (x.state p).step s e = ⟨x.state p, []⟩ := by
  cases e with
  | start n =>
    cases about
    simp [step, start, task?_state other]
  | resume n signal =>
    cases about
    simp [step, resume, task?_state other]
  | startRound n =>
    cases about
    simp [step, Discovery.startRound, round?_state other, absorb, translate]
  | resumeRound n signal =>
    cases about
    simp [step, Discovery.resumeRound, round?_state other, absorb, translate]
  | _ => cases about

/-- A peer that answers the query gives the services to be found, or says that there are none. -/
def Agrees (x : Prospect) (q : Sdp.Question) (replies : List Sdp.Pdu) : Prop :=
  ∀ {d r}, Sdp.Dialogue.Run (Sdp.Dialogue.start {} q replies) d → d.result? = some r →
    Discovery.findings (some r) =
      if x.services = [] then .error .noMatchingService else .ok x.services

/-- An event leads on, or changes nothing. -/
theorem leads_or_still (agrees : x.Agrees q replies) (favours : Favours q replies e)
    (p : Phase) : (∃ p' effects, x.Leads p e p' effects) ∨
      (x.state p).step present e = ⟨x.state p, []⟩ := by
  obtain ⟨g, about⟩ : ∃ g, e.agent? = some g := by
    cases favours <;> exact ⟨_, rfl⟩
  by_cases own : p.agent? = some g
  · rw [← own] at about
    cases p with
    | noted =>
      cases favours with
      | start => cases about; exact .inl ⟨_, _, .look⟩
      | _ => cases about <;> exact .inr rfl
    | connecting =>
      cases favours with
      | opened n link => cases about; exact .inl ⟨_, _, .linked link⟩
      | _ => cases about <;> exact .inr rfl
    | scheduled link =>
      cases favours with
      | startRound => cases about; exact .inl ⟨_, _, .ask link⟩
      | _ => cases about <;> exact .inr rfl
    | querying link =>
      cases favours with
      | answered n run there =>
        cases about
        have found := agrees run there
        by_cases empty : x.services = []
        · rw [if_pos empty] at found
          exact .inl ⟨_, _, .miss link _ _ empty found⟩
        · rw [if_neg empty] at found
          exact .inl ⟨_, _, .hit link _ empty found⟩
      | _ => cases about <;> exact .inr rfl
    | closing link =>
      cases favours with
      | closedRound n o => cases about; exact .inl ⟨_, _, .closed link o⟩
      | _ => cases about <;> exact .inr rfl
    | found link =>
      cases favours with
      | start => cases about; exact .inl ⟨_, _, .heed link⟩
      | _ => cases about <;> exact .inr rfl
    | parting link =>
      cases favours with
      | closed n o =>
        cases about
        by_cases sink : x.service.role = .sink
        · exact .inl ⟨_, _, .dial link o sink⟩
        · exact .inl ⟨_, _, .pass link o sink⟩
      | _ => cases about <;> exact .inr rfl
    | opening link =>
      cases favours with
      | opened n channel => cases about; exact .inl ⟨_, _, .opened link channel⟩
      | _ => cases about <;> exact .inr rfl
    | unknown | settled | opened => cases own
  · exact .inr (step_other about own)

/-- A step that leads on leaves fewer phases to come. -/
theorem Leads.left (h : x.Leads p e p' effects) : p'.left < p.left := by
  cases h <;> simp [Phase.left]

/-- As long as somebody works, some event leads on. -/
theorem exists_leads (agrees : x.Agrees q replies)
    (answers : ∃ d r, Sdp.Dialogue.Run (Sdp.Dialogue.start {} q replies) d ∧ d.result? = some r)
    (busy : p.agent? ≠ none) : ∃ e p' effects, Favours q replies e ∧ x.Leads p e p' effects := by
  cases p with
  | noted => exact ⟨_, _, _, .start 0, .look⟩
  | connecting => exact ⟨_, _, _, .opened 0 0, .linked 0⟩
  | scheduled link => exact ⟨_, _, _, .startRound 0, .ask link⟩
  | querying link =>
    obtain ⟨d, r, run, there⟩ := answers
    have found := agrees run there
    by_cases empty : x.services = []
    · rw [if_pos empty] at found
      exact ⟨_, _, _, .answered 0 run there, .miss link _ _ empty found⟩
    · rw [if_neg empty] at found
      exact ⟨_, _, _, .answered 0 run there, .hit link _ empty found⟩
  | closing link => exact ⟨_, _, _, .closedRound 0 .closed, .closed link .closed⟩
  | found link => exact ⟨_, _, _, .start 1, .heed link⟩
  | parting link =>
    by_cases sink : x.service.role = .sink
    · exact ⟨_, _, _, .closed 1 .closed, .dial link .closed sink⟩
    · exact ⟨_, _, _, .closed 1 .closed, .pass link .closed sink⟩
  | opening link => exact ⟨_, _, _, .opened 1 0, .opened link 0⟩
  | unknown | settled | opened => exact absurd rfl busy

/-! ### Runs when nothing goes wrong -/

/-- A run gets to a phase. -/
theorem run_state (agrees : x.Agrees q replies) {script : Script}
    (favourable : ∀ turn ∈ script, Favourable q replies turn) :
    ∃ p, x.Valid p ∧ (x.state .noted).run script = x.state p ∧
      outward ((x.state .noted).deeds script) = x.done p ∧
      ∀ link ∈ p.links, HandedOut script link := by
  induction script using List.reverseRecOn with
  | nil => exact ⟨.noted, trivial, rfl, rfl, fun _ there => (List.not_mem_nil there).elim⟩
  | append_singleton script turn ih =>
    obtain ⟨p, valid, eq, done, links⟩ :=
      ih fun turn there => favourable turn (List.mem_append_left _ there)
    obtain ⟨s, e⟩ := turn
    obtain ⟨rfl, favours⟩ := favourable (s, e) (by simp)
    have earlier : ∀ link ∈ p.links, HandedOut (script ++ [(present, e)]) link := by
      intro link there
      obtain ⟨s', n, handed⟩ := links link there
      exact ⟨s', n, List.mem_append_left _ handed⟩
    rw [run_append, deeds_append, outward_append, eq, done]
    rcases leads_or_still agrees favours p with ⟨p', effects, leads⟩ | still
    · obtain ⟨there, does⟩ := leads.step valid
      refine ⟨p', leads.valid valid, there, ?_, ?_⟩
      · rw [leads.done, ← does]
        simp [deeds]
      · intro link opened
        rcases leads.links opened with before | ⟨n, rfl⟩
        · exact earlier link before
        · exact ⟨present, n, by simp⟩
    · refine ⟨p, valid, ?_, ?_, earlier⟩
      · rw [run_cons, still]
        rfl
      · simp [deeds, still, outward]

/-- From every phase on, a run can be carried on until nobody works. -/
theorem exists_run (agrees : x.Agrees q replies)
    (answers : ∃ d r, Sdp.Dialogue.Run (Sdp.Dialogue.start {} q replies) d ∧ d.result? = some r)
    (valid : x.Valid p) : ∃ more p', (∀ turn ∈ more, Favourable q replies turn) ∧
      (x.state p).run more = x.state p' ∧ p'.agent? = none := by
  induction left : p.left using Nat.strongRecOn generalizing p with
  | ind k ih =>
    by_cases busy : p.agent? = none
    · exact ⟨[], p, by simp, rfl, busy⟩
    · obtain ⟨e, p', effects, favours, leads⟩ := exists_leads agrees answers busy
      obtain ⟨more, last, favourable, run, ends⟩ :=
        ih p'.left (left ▸ leads.left) (leads.valid valid) rfl
      refine ⟨(present, e) :: more, last, ?_, ?_, ends⟩
      · intro turn there
        rcases List.mem_cons.mp there with rfl | there
        · exact ⟨rfl, favours⟩
        · exact favourable turn there
      · rw [run_cons, (leads.step valid).1, run]

/-- Nobody works when all jobs have run. -/
theorem quiet_state_iff : (x.state p).Quiet ↔ p.agent? = none := by
  constructor
  · intro quiet
    cases p with
    | noted | connecting => exact absurd (.inl rfl) (quiet.tasks _ (List.mem_singleton_self _))
    | found | parting | opening =>
      exact absurd (.inr ⟨_, rfl⟩) (quiet.tasks _ (List.mem_singleton_self _))
    | scheduled | querying | closing => cases quiet.rounds
    | unknown | settled | opened => rfl
  · intro nobody
    cases p with
    | unknown | settled | opened => exact ⟨fun t there => (List.not_mem_nil there).elim, rfl⟩
    | _ => cases nobody

end Prospect

end Attachment

end A2dpSink
