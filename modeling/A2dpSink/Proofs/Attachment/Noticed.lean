import A2dpSink.Proofs.Attachment.Attached

/-!
# Notices on the way to the transport link

Each time an attachment is told that its device may have changed, a job looks at the device. On the
way from the attach to the transport link such a job, a notice, finds that discovery is running or
that the service is known, and goes away. So an attachment that was told more than once is in one of
the phases all the same, but for notices that are about besides (`Prospect.Like`). What happens to
it leads on to the next phase, or leaves the phase as it is and brings some notice closer to its end
(`Prospect.Goes`).
-/

namespace A2dpSink

/-- A record always says what part its service plays, if only that it plays none. -/
theorem AudioService.role_ofRecord_ne (r : Sdp.Record) : (ofRecord r).role ≠ .unknown := by
  have role : roleOf r ≠ .unknown := by
    unfold roleOf
    split
    · simp
    · split <;> simp
  unfold ofRecord read
  split
  · simp
  · split
    · simp
    · split
      · simp
      · exact role

namespace Attachment

/-! ### What is left to do for tasks that look at the device -/

/-- A task that is there to look at the device and has not got the lock. -/
def Task.IsNotice (t : Task) : Prop := t.errand = .update ∧ t.stage.isActive = false

private theorem Task.IsNotice.isJob {t : Task} (h : t.IsNotice) : t.IsJob := .inl h.1

/-- How far a task that has no use of the lock yet is from its end. -/
def Stage.ahead : Stage → Nat
  | .queued => 2
  | _ => 1

/-- How far the tasks are from their ends. -/
def load (a : Attachment) : Nat := (a.tasks.map fun t => t.stage.ahead).sum

variable {a b : Attachment} {n m : Nat} {t u : Task}

private theorem tasks_eq_of_task? (there : a.task? m = some t) :
    t.number = m ∧ ∃ before after, a.tasks = before ++ t :: after := by
  obtain ⟨own, before, after, split, -⟩ := List.find?_eq_some_iff_append.mp there
  exact ⟨by simpa using own, before, after, split⟩

/-- When a task is over, less is left to do. -/
theorem load_setTask_none (there : a.task? m = some t) : (a.setTask m none).load < a.load := by
  obtain ⟨own, before, after, split⟩ := tasks_eq_of_task? there
  have less : ∀ tasks : List Task,
      ((tasks.filter fun t => decide (t.number ≠ m)).map fun t => t.stage.ahead).sum ≤
        (tasks.map fun t => t.stage.ahead).sum :=
    fun tasks => (List.filter_sublist.map _).sum_le_sum fun _ _ => Nat.zero_le _
  have first := less before
  have last := less after
  have positive : 0 < t.stage.ahead := by
    cases t.stage <;> simp [Stage.ahead]
  simp only [load, setTask, split, List.filter_append, List.filter_cons, own, ne_eq,
    not_true_eq_false, decide_false, Bool.false_eq_true, if_false, List.map_append, List.map_cons,
    List.sum_append, List.sum_cons] at first last ⊢
  omega

/-- When a task whose job was queued asks for the lock, less is left to do. -/
theorem load_claimed (there : a.task? m = some t) (queued : t.stage = .queued) :
    (a.claimed m).load < a.load := by
  obtain ⟨own, before, after, split⟩ := tasks_eq_of_task? there
  have less : ∀ tasks : List Task,
      (tasks.map fun t =>
        (if t.number = m then { t with stage := .waiting } else t).stage.ahead).sum ≤
          (tasks.map fun t => t.stage.ahead).sum := by
    refine fun tasks => List.sum_le_sum fun t _ => ?_
    split
    · cases t.stage <;> simp [Stage.ahead]
    · exact Nat.le_refl _
  have first := less before
  have last := less after
  simp only [load, claimed, setTask, split, List.map_append, List.map_cons, List.map_map,
    Function.comp_def, own, if_true, queued, Stage.ahead, List.sum_append, List.sum_cons]
    at first last ⊢
  omega

private theorem outward_leave (a : Attachment) (m : Nat) (reply : Option Reply) :
    outward (a.leave m reply).actions = [] := by
  rw [leave]
  cases reply <;> cases a.lock.release.holder <;> rfl

/-! ### Phases with notices about -/

/-- Whether a task leads on from a phase. -/
def Phase.IsManned : Phase → Prop
  | .noted => True
  | .connecting => True
  | .found _ => True
  | .parting _ => True
  | .opening _ => True
  | _ => False

namespace Prospect

variable (x : Prospect)

/-- The discovery session in a phase when the task that leads on has a given number. -/
def sessionBy (n : Nat) : Phase → Discovery
  | .connecting =>
    { x.blank.discovery with lock := ⟨some (.call n), []⟩, calls := [(n, .opening)] }
  | .parting _ => { x.session 2 with lock := ⟨some (.call n), []⟩, calls := [(n, .closing)] }
  | p => (x.state p).discovery

/-- The attachment in a phase with any tasks about. -/
def crowd (p : Phase) (n : Nat) (lock : Lock Nat) (tasks : List Task) (nextTask : Nat) :
    Attachment :=
  { x.state p with discovery := x.sessionBy n p, lock, tasks, nextTask }

/-- The task that leads on from a phase. -/
def Leader : Phase → Task → Prop
  | .noted, t => t.IsNotice
  | .connecting, t => t.errand = .update ∧ t.stage = .connecting
  | .found _, t => t.errand = .report x.services ∧ t.stage.isActive = false
  | .parting _, t => t.errand = .report x.services ∧ t.stage = .parting
  | .opening _, t => t.errand = .report x.services ∧ t.stage = .opening x.service.psm
  | _, _ => False

/-- Those who are about in a phase: the task that leads on, if there is one, and notices. Whoever
waits has asked for the lock. -/
structure Crew (p : Phase) (n : Nat) (a : Attachment) : Prop where
  leader : p.IsManned → ∃ t, a.task? n = some t ∧ x.Leader p t
  others : ∀ m t, a.task? m = some t → t.IsNotice ∨ m = n ∧ x.Leader p t
  waiting : ∀ m t, a.task? m = some t → t.stage = .waiting → m ∈ a.lock.parties

/-- An attachment is in a phase, and the task that leads on has a given number. -/
structure Like (p : Phase) (n : Nat) (a : Attachment) : Prop where
  eq : ∃ lock tasks nextTask, a = x.crowd p n lock tasks nextTask
  crew : x.Crew p n a

/-- What comes of an event leads on to the next phase, or leaves the phase as it is, and then less
than a given amount is left to do. -/
inductive Goes (p : Phase) (n bound : Nat) (o : Outcome) : Prop
  | on {e : Event} {p' : Phase} {n' : Nat} {effects : List Effect} :
      x.Leads p e p' effects → x.Like p' n' o.attachment → outward o.actions = effects →
      Goes p n bound o
  | stays : x.Like p n o.attachment → outward o.actions = [] → o.attachment.load < bound →
      Goes p n bound o

variable {x} {p p' : Phase} {n' : Nat} {link channel : LinkId} {lock : Lock Nat}
  {tasks : List Task} {nextTask : Nat}

private theorem Goes.mono {bound bound' : Nat} {o : Outcome} (h : x.Goes p n bound o)
    (less : bound ≤ bound') : x.Goes p n bound' o := by
  cases h with
  | on leads like does => exact .on leads like does
  | stays like silent lighter => exact .stays like silent (Nat.lt_of_lt_of_le lighter less)

private theorem Leader.isManned (h : x.Leader p t) : p.IsManned := by
  cases p with
  | noted | connecting | found | parting | opening => trivial
  | _ => exact h.elim

/-- Only jobs lead on. -/
theorem Leader.isJob (h : x.Leader p t) : t.IsJob := by
  cases p with
  | noted => exact h.isJob
  | connecting => exact .inl h.1
  | found | parting | opening => exact .inr ⟨_, h.1⟩
  | _ => exact h.elim

/-- A leader whose job was queued still leads when it waits for the lock. -/
theorem Leader.waiting (h : x.Leader p t) (queued : t.stage = .queued) :
    x.Leader p { t with stage := .waiting } := by
  cases p with
  | noted | found => exact ⟨h.1, rfl⟩
  | connecting | parting | opening =>
    have place := h.2
    rw [queued] at place
    cases place
  | _ => exact h.elim

private theorem Crew.isJob (h : x.Crew p n a) (there : a.task? m = some t) : t.IsJob :=
  (h.others m t there).elim Task.IsNotice.isJob fun leads => leads.2.isJob

/-- Where no task leads on, there are only notices. -/
theorem Crew.isNotice (h : x.Crew p n a) (unmanned : ¬ p.IsManned) (there : a.task? m = some t) :
    t.IsNotice :=
  (h.others m t there).resolve_right fun leads => unmanned leads.2.isManned

/-- The task that leads on is the only one that is no notice. -/
theorem Crew.alone (h : x.Crew p n a) (other : m ≠ n) (there : a.task? m = some t) : t.IsNotice :=
  (h.others m t there).resolve_right fun leads => other leads.1

/-- Who is about does not depend on the rest of the attachment. -/
theorem Crew.same (h : x.Crew p n a) (lock : b.lock = a.lock) (tasks : b.tasks = a.tasks) :
    x.Crew p n b := by
  obtain ⟨leader, others, waiting⟩ := h
  constructor
  all_goals simp only [lock, task?_eq_of_tasks tasks]
  all_goals assumption

/-! ### Who is about -/

/-- One more notice is about. -/
theorem Crew.noted (h : x.Crew p n a) (fresh : a.task? a.nextTask = none) :
    x.Crew p n (a.addTask .update .queued) where
  leader := by
    intro manned
    obtain ⟨t, there, leads⟩ := h.leader manned
    refine ⟨t, (task?_addTask_of_ne _ _ ?_).trans there, leads⟩
    rintro rfl
    rw [fresh] at there
    cases there
  others := by
    intro m t there
    rcases task?_of_addTask _ _ there with old | ⟨-, rfl⟩
    · exact h.others m t old
    · exact .inl ⟨rfl, rfl⟩
  waiting := by
    intro m t there waits
    rcases task?_of_addTask _ _ there with old | ⟨-, rfl⟩
    · exact h.waiting m t old waits
    · cases waits

/-- Somebody whose job was queued asks for the lock. -/
theorem Crew.claimed (h : x.Crew p n a) (lock : a.lock.Sound) (there : a.task? m = some t)
    (queued : t.stage = .queued) : x.Crew p n (a.claimed m) where
  leader := by
    intro manned
    obtain ⟨u, listed, leads⟩ := h.leader manned
    by_cases own : n = m
    · subst own
      rw [there, Option.some.injEq] at listed
      subst listed
      exact ⟨_, task?_claimed_self there, leads.waiting queued⟩
    · exact ⟨u, (task?_setTask_of_ne _ own).trans listed, leads⟩
  others := by
    intro k u listed
    rcases task?_of_setTask_some listed with ⟨-, old⟩ | ⟨rfl, u', old, rfl⟩
    · exact h.others k u old
    · have same : some u' = some t := Eq.trans old.symm there
      cases same
      exact (h.others k t there).imp (fun notice => ⟨notice.1, rfl⟩)
        fun leads => ⟨leads.1, leads.2.waiting queued⟩
  waiting := by
    intro k u listed waits
    have parties : (a.claimed m).lock.parties = a.lock.parties ++ [m] := lock.parties_request m
    rw [parties, List.mem_append, List.mem_singleton]
    rcases task?_of_setTask_some listed with ⟨-, old⟩ | ⟨own, -⟩
    · exact .inl (h.waiting k u old waits)
    · exact .inr own

/-- The holder of the lock is over. -/
theorem Crew.leave (h : x.Crew p n a) (holder : a.lock.holder = some m) (reply : Option Reply)
    (leader : p'.IsManned → n' ≠ m ∧ ∃ t, a.task? n' = some t ∧ x.Leader p' t)
    (others : ∀ k t, k ≠ m → a.task? k = some t → t.IsNotice ∨ k = n' ∧ x.Leader p' t) :
    x.Crew p' n' (a.leave m reply).attachment where
  leader := by
    intro manned
    obtain ⟨other, t, there, leads⟩ := leader manned
    exact ⟨t, (task?_setTask_of_ne _ other).trans there, leads⟩
  others := by
    intro k t there
    obtain ⟨other, old⟩ := task?_of_setTask_none there
    exact others k t other old
  waiting := by
    intro k t there waits
    obtain ⟨other, old⟩ := task?_of_setTask_none there
    have party := h.waiting k t old waits
    rw [Lock.parties_eq_cons holder, List.mem_cons] at party
    have parties : (a.leave m reply).attachment.lock.parties = a.lock.waiting :=
      Lock.parties_release _
    rw [parties]
    exact party.resolve_left other

/-- The holder of the lock leads on from another place. -/
theorem Crew.placed (h : x.Crew p n a) (there : a.task? m = some t) {place : Stage}
    (active : place.isActive = true) (leads : x.Leader p' { t with stage := place })
    (others : ∀ k t, k ≠ m → a.task? k = some t → t.IsNotice) :
    x.Crew p' m (a.setTask m (some place)) where
  leader := fun _ => ⟨_, task?_setTask_self there place, leads⟩
  others := by
    intro k u listed
    rcases task?_of_setTask_some listed with ⟨other, old⟩ | ⟨rfl, u', old, rfl⟩
    · exact .inl (others k u other old)
    · have same : some u' = some t := Eq.trans old.symm there
      cases same
      exact .inr ⟨rfl, leads⟩
  waiting := by
    intro k u listed waits
    rcases task?_of_setTask_some listed with ⟨-, old⟩ | ⟨rfl, u', -, rfl⟩
    · exact h.waiting k u old waits
    · obtain rfl : place = .waiting := waits
      cases active

/-- A report is about, and leads on. -/
theorem Crew.reported (h : x.Crew p n a) (unmanned : ¬ p.IsManned)
    (fresh : a.task? a.nextTask = none) :
    x.Crew (.found link) a.nextTask (a.addTask (.report x.services) .queued) where
  leader := fun _ => ⟨_, task?_addTask_self _ _ fresh, rfl, rfl⟩
  others := by
    intro m t there
    rcases task?_of_addTask _ _ there with old | ⟨rfl, rfl⟩
    · exact .inl (h.isNotice unmanned old)
    · exact .inr ⟨rfl, rfl, rfl⟩
  waiting := by
    intro m t there waits
    rcases task?_of_addTask _ _ there with old | ⟨-, rfl⟩
    · exact h.waiting m t old waits
    · cases waits

/-- Where the task that leads on was in hand and is over, no task leads on. -/
theorem Crew.left (h : x.Crew p n a) (holder : a.lock.holder = some n) (unmanned : ¬ p'.IsManned) :
    x.Crew p' n (a.leave n).attachment :=
  h.leave holder none (absurd · unmanned) fun _ _ other there => .inl (h.alone other there)

/-! ### Tasks that get the lock -/

/-- An update of a device that is there, when the service is known to be no sink. -/
theorem update_other (a : Attachment) (t : Task) (unclosed : a.closed = false)
    (known : a.service.role ≠ .unknown) (other : a.service.role ≠ .sink) :
    ∃ line, a.update present t = (a.leave t.number).after [.log line] := by
  refine ⟨.a2dp .info (a.remote.text ++ " is not an audio sink"), ?_⟩
  have connected : (!present.flags.connected) = false := rfl
  rw [update, unclosed, connected]
  cases role : a.service.role with
  | unknown => exact absurd role known
  | sink => exact absurd role other
  | _ => simp

/-- An update of a device that is there, when it is a sink and the transport link is open. -/
theorem update_sink (a : Attachment) (t : Task) (unclosed : a.closed = false)
    (sink : a.service.role = .sink) (linked : a.transport.isOpen = true) :
    a.update present t = a.leave t.number := by
  have connected : (!present.flags.connected) = false := rfl
  simp [update, unclosed, connected, sink, linked]

/-- A notice that gets the lock goes away. -/
theorem Like.leave (like : x.Like p n a) (there : a.task? m = some t)
    (holder : a.lock.holder = some m) (other : p.IsManned → m ≠ n) (lines : List Log.Line) :
    x.Goes p n a.load ((a.leave m).after (lines.map .log)) := by
  refine .stays ⟨?_, like.crew.leave holder none ?_ fun k t _ => like.crew.others k t⟩ ?_ ?_
  · obtain ⟨lock, tasks, nextTask, rfl⟩ := like.eq
    exact ⟨_, _, _, rfl⟩
  · exact fun manned => ⟨(other manned).symm, like.crew.leader manned⟩
  · rw [actions_after, outward_append, outward_log, outward_leave, List.append_nil]
  · exact load_setTask_none there

/-- A service is known only if there are some to find. -/
theorem services_ne_nil (known : x.service.role ≠ .unknown) : x.services ≠ [] := by
  intro nothing
  exact known (by rw [service, nothing]; rfl)

/-- Whoever gets the lock leads on, or goes away. -/
theorem Like.perform (like : x.Like p n a) (valid : x.Valid p) (known : x.service.role ≠ .unknown)
    (idle : ∀ k u, a.task? k = some u → u.stage.isActive = false)
    (there : a.task? t.number = some { t with stage := .waiting })
    (holder : a.lock.holder = some t.number) : x.Goes p n a.load (a.perform present t) := by
  have notice : t.errand = .update → a.perform present t = a.update present t := by
    intro update
    simp only [Attachment.perform, update]
  have unmanned : ¬ p.IsManned → a.perform present t = a.update present t :=
    fun unmanned => notice (like.crew.isNotice unmanned there).1
  have part := like.crew.others _ _ there
  obtain ⟨lock, tasks, nextTask, rfl⟩ := like.eq
  cases p with
  | noted =>
    have update : t.errand = .update := part.elim And.left fun leads => leads.2.1
    have crew : x.Crew .connecting t.number
        ((x.crowd .noted n lock tasks nextTask).setTask t.number (some .connecting)) :=
      like.crew.placed there rfl ⟨update, rfl⟩ fun k u _ listed =>
        (like.crew.others k u listed).elim id And.right
    rw [notice update]
    exact .on .look ⟨⟨_, _, _, rfl⟩, crew.same rfl rfl⟩ rfl
  | connecting | parting link | opening link =>
    -- Whoever leads on from here makes use of the lock.
    obtain ⟨u, listed, leads⟩ := like.crew.leader trivial
    have active := idle n u listed
    rw [leads.2] at active
    cases active
  | scheduled link | querying link =>
    rw [unmanned id]
    exact like.leave there holder False.elim [busyLine x.remote]
  | closing link | unknown link => exact absurd valid (services_ne_nil known)
  | found link =>
    rcases part with ⟨update, -⟩ | ⟨rfl, report, -⟩
    · rw [notice update]
      refine like.leave there holder ?_ [busyLine x.remote]
      rintro - rfl
      obtain ⟨u, listed, leads⟩ := like.crew.leader trivial
      rw [there, Option.some.injEq] at listed
      rw [← listed] at leads
      cases update.symm.trans leads.1
    · have heeds : (x.crowd (.found link) t.number lock tasks nextTask).perform present t =
          ⟨(x.crowd (.parting link) t.number lock tasks nextTask).setTask t.number (some .parting),
            [.effect (.shutdown link)]⟩ := by
        simp only [Attachment.perform, show t.errand = .report x.services from report]
        rfl
      have crew : x.Crew (.parting link) t.number
          ((x.crowd (.found link) t.number lock tasks nextTask).setTask t.number (some .parting)) :=
        like.crew.placed there rfl ⟨report, rfl⟩ fun k u other listed => like.crew.alone other listed
      rw [heeds]
      exact .on (.heed link) ⟨⟨_, _, _, rfl⟩, crew.same rfl rfl⟩ rfl
  | settled link =>
    obtain ⟨line, passes⟩ :=
      update_other (x.crowd (.settled link) n lock tasks nextTask) t rfl known valid.2
    rw [unmanned id, passes]
    exact like.leave there holder False.elim [line]
  | opened link channel =>
    have keeps :=
      update_sink (x.crowd (.opened link channel) n lock tasks nextTask) t rfl valid rfl
    rw [unmanned id, keeps]
    exact like.leave there holder False.elim []

/-- When the job of a task starts, the task asks for the lock. -/
theorem Like.start (like : x.Like p n a) (valid : x.Valid p) (known : x.service.role ≠ .unknown)
    (sound : a.Sound) (there : a.task? m = some t) (queued : t.stage = .queued) :
    x.Goes p n a.load (a.step present (.start m)) := by
  obtain rfl := number_of_task? there
  have admitted : a.Admitted present t ∧ a.step present (.start t.number) = a.claim present t := by
    have alive : a.isAlive = true := by
      obtain ⟨lock, tasks, nextTask, rfl⟩ := like.eq
      cases p <;> rfl
    rcases like.crew.isJob there with update | ⟨services, report⟩
    · refine ⟨.inl ⟨update, rfl⟩, ?_⟩
      simp only [step, Attachment.start, there, queued, update]
      rfl
    · refine ⟨.inr ⟨services, report, alive⟩, ?_⟩
      simp only [step, Attachment.start, there, queued, report, alive, if_true]
  have claims : x.Like p n (a.claimed t.number) := by
    refine ⟨?_, like.crew.claimed sound.lock there queued⟩
    obtain ⟨lock, tasks, nextTask, rfl⟩ := like.eq
    exact ⟨_, _, _, rfl⟩
  have lighter := load_claimed there queued
  rw [admitted.2, claim_eq]
  split
  · next free =>
    refine (claims.perform valid known ?_ (task?_claimed_self there)
      (Lock.holder_request_of_isFree _ free)).mono (Nat.le_of_lt lighter)
    intro k u listed
    rcases task?_of_setTask_some listed with ⟨-, old⟩ | ⟨-, u', -, rfl⟩
    · exact (Performs.start there queued admitted.1 free).inactive sound old
    · rfl
  · exact .stays claims rfl lighter

/-- When a task is granted the lock, it leads on or goes away. -/
theorem Like.granted (like : x.Like p n a) (valid : x.Valid p) (known : x.service.role ≠ .unknown)
    (sound : a.Sound) (there : a.task? m = some t) (waiting : t.stage = .waiting)
    (holder : a.lock.holder = some m) :
    x.Goes p n a.load (a.step present (.resume m .granted)) := by
  obtain rfl := number_of_task? there
  have performs : Performs a present (.resume t.number .granted) t :=
    .grant there waiting holder
  have goes : a.step present (.resume t.number .granted) = a.perform present t := by
    simp only [step, resume, there, waiting, holder, if_true]
  rw [goes]
  refine like.perform valid known ?_ ?_ holder
  · exact fun k u listed => performs.inactive sound listed
  · rw [there, ← waiting]

/-! ### Tasks that lead on -/

/-- Whoever makes use of the lock where it leads on holds it. -/
theorem Like.holder (like : x.Like p n a) (sound : a.Sound) (manned : p.IsManned)
    (active : ∀ t, x.Leader p t → t.stage.isActive = true) :
    ∃ t, a.task? n = some t ∧ x.Leader p t ∧ t.number = n ∧ a.lock.holder = some n := by
  obtain ⟨t, there, leads⟩ := like.crew.leader manned
  exact ⟨t, there, leads, number_of_task? there, sound.active n t there (active t leads)⟩

private theorem resume_opening (x : Prospect) (n : Nat) (link : LinkId) :
    ∃ line, (x.sessionBy n .connecting).resume (.ok ()) n (.opened (.opened link)) =
      ⟨{ x.blank.discovery with link := some link, count := 1 }, [.log line],
        some (.connected (.ok ()))⟩ := by
  simp only [Discovery.resume, Discovery.callStage?, sessionBy, List.lookup_cons_self,
    OpenOutcome.toExcept, Discovery.endCall, Discovery.setCall]
  simp only [ne_eq, decide_not, List.filter_cons, List.filter_nil, decide_true, Bool.not_true]
  exact ⟨_, rfl⟩

private theorem resume_closing (x : Prospect) (n : Nat) (link : LinkId) (o : CloseOutcome) :
    ∃ line reply, (x.sessionBy n (.parting link)).resume (.ok ()) n (.closed o) =
      ⟨x.session 2, [.log line], some (.disconnected reply)⟩ := by
  simp only [Discovery.resume, Discovery.callStage?, sessionBy, List.lookup_cons_self,
    Discovery.endCall, Discovery.setCall]
  simp only [ne_eq, decide_not, List.filter_cons, List.filter_nil, decide_true, Bool.not_true]
  cases o <;> exact ⟨_, _, rfl⟩

/-- When the discovery link is open, a round is scheduled and the lock is given up. -/
theorem Like.linked (like : x.Like .connecting n a) (sound : a.Sound) (link : LinkId) :
    x.Goes .connecting n a.load (a.step present (.resume n (.opened (.opened link)))) := by
  obtain ⟨⟨number, errand, stage⟩, there, ⟨rfl, rfl⟩, rfl, holder⟩ :=
    like.holder sound trivial fun t leads => by rw [leads.2]; rfl
  obtain ⟨lock, tasks, nextTask, rfl⟩ := like.eq
  obtain ⟨line, opens⟩ := x.resume_opening number link
  have eq : (x.crowd .connecting number lock tasks nextTask).step present
      (.resume number (.opened (.opened link))) =
        ((x.crowd (.scheduled link) number lock tasks nextTask).leave number).after
          [.log line, .submit (.round 0)] := by
    simp only [step, resume, there]
    rw [show (x.crowd .connecting number lock tasks nextTask).discovery.resume present.admission
      number (.opened (.opened link)) = _ from opens]
    rfl
  rw [eq]
  refine .on (.linked link) ⟨⟨_, _, _, rfl⟩, (like.crew.left holder id).same rfl rfl⟩ ?_
  rw [actions_after, outward_append, outward_leave]
  rfl

/-- When the discovery link is closed, the report settles on a service. -/
theorem Like.parted (like : x.Like (.parting link) n a) (known : x.service.role ≠ .unknown)
    (sound : a.Sound) (o : CloseOutcome) :
    x.Goes (.parting link) n a.load (a.step present (.resume n (.closed o))) := by
  obtain ⟨⟨number, errand, stage⟩, there, ⟨rfl, rfl⟩, rfl, holder⟩ :=
    like.holder sound trivial fun t leads => by rw [leads.2]; rfl
  obtain ⟨lock, tasks, nextTask, rfl⟩ := like.eq
  obtain ⟨line, reply, closes⟩ := x.resume_closing number link o
  obtain ⟨lines, settles⟩ := settle_services
    { x.crowd (.parting link) number lock tasks nextTask with discovery := x.session 2 } number
    (services_ne_nil known)
  have eq : (x.crowd (.parting link) number lock tasks nextTask).step present
      (.resume number (.closed o)) = (settle { x.crowd (.parting link) number lock tasks nextTask
        with discovery := x.session 2 } number x.services).after [.log line] := by
    simp only [step, resume, there]
    rw [show (x.crowd (.parting link) number lock tasks nextTask).discovery.resume
      present.admission number (.closed o) = _ from closes]
    rfl
  rw [eq, settles]
  by_cases sink : x.service.role = .sink
  · rw [if_pos sink]
    have crew : x.Crew (.opening link) number ((x.crowd (.parting link) number lock tasks
        nextTask).setTask number (some (.opening x.service.psm))) :=
      like.crew.placed there rfl ⟨rfl, rfl⟩ fun k u other listed => like.crew.alone other listed
    refine .on (.dial link o sink) ⟨⟨_, _, _, rfl⟩, crew.same rfl rfl⟩ ?_
    rw [actions_after, actions_after, outward_append, outward_append, outward_log]
    rfl
  · rw [if_neg sink]
    refine .on (.pass link o sink) ⟨⟨_, _, _, rfl⟩, (like.crew.left holder id).same rfl rfl⟩ ?_
    rw [actions_after, actions_after, outward_append, outward_append, outward_log, outward_leave]
    rfl

/-- When the transport link is open, the report is over. -/
theorem Like.dialed (like : x.Like (.opening link) n a) (sound : a.Sound) (channel : LinkId) :
    x.Goes (.opening link) n a.load (a.step present (.resume n (.opened (.opened channel)))) := by
  obtain ⟨⟨number, errand, stage⟩, there, ⟨rfl, rfl⟩, rfl, holder⟩ :=
    like.holder sound trivial fun t leads => by rw [leads.2]; rfl
  obtain ⟨lock, tasks, nextTask, rfl⟩ := like.eq
  have eq : ∃ lines : List Log.Line, (x.crowd (.opening link) number lock tasks nextTask).step
      present (.resume number (.opened (.opened channel))) =
        ((x.crowd (.opened link channel) number lock tasks nextTask).leave number).after
          (lines.map .log) := by
    simp only [step, resume, there]
    exact ⟨[_, _], rfl⟩
  obtain ⟨lines, eq⟩ := eq
  rw [eq]
  refine .on (.opened link channel) ⟨⟨_, _, _, rfl⟩, (like.crew.left holder id).same rfl rfl⟩ ?_
  rw [actions_after, outward_append, outward_log, outward_leave]
  rfl

/-! ### Rounds -/

/-- The job of the round asks for the records. -/
theorem Like.asked (like : x.Like (.scheduled link) n a) :
    x.Goes (.scheduled link) n a.load (a.step present (.startRound 0)) := by
  have crew : x.Crew (.querying link) n a :=
    ⟨False.elim, fun _ _ there => .inl (like.crew.isNotice id there), like.crew.waiting⟩
  obtain ⟨lock, tasks, nextTask, rfl⟩ := like.eq
  exact .on (.ask link) ⟨⟨lock, tasks, nextTask, rfl⟩,
    crew.same rfl rfl⟩ rfl

/-- When the answer is there, what was found is reported. -/
theorem Like.found (like : x.Like (.querying link) n a) (known : x.service.role ≠ .unknown)
    (sound : a.Sound) {r : Option Sdp.Result} (found : Discovery.findings r = .ok x.services) :
    x.Goes (.querying link) n a.load (a.step present (.resumeRound 0 (.answered r))) := by
  have crew : x.Crew (.found link) a.nextTask (a.addTask (.report x.services) .queued) :=
    like.crew.reported id sound.fresh
  obtain ⟨lock, tasks, nextTask, rfl⟩ := like.eq
  have eq : (x.sessionBy n (.querying link)).resumeRound (.ok ()) 0 (.answered r) =
      let concluded := Discovery.conclude { (x.state (.querying link)).discovery with
        lock := ⟨some (.round 0), []⟩ } (.ok ()) ⟨0, 1, link, .querying⟩ (Discovery.findings r)
      { concluded with actions := (Discovery.inspection r).map .log ++ concluded.actions } := rfl
  have step : (x.crowd (.querying link) n lock tasks nextTask).step present
      (.resumeRound 0 (.answered r)) = (x.crowd (.querying link) n lock tasks nextTask).absorb
        ((x.sessionBy n (.querying link)).resumeRound (.ok ()) 0 (.answered r)) := rfl
  rw [found] at eq
  have like' : x.Like (.found link) nextTask ((x.crowd (.querying link) n lock tasks
      nextTask).step present (.resumeRound 0 (.answered r))).attachment := by
    rw [step, eq, attachment_absorb]
    simp only [Discovery.deliveries_append, Discovery.deliveries_log]
    exact ⟨⟨_, _, _, rfl⟩, crew.same rfl rfl⟩
  refine .on (.hit link r (services_ne_nil known) found) like' ?_
  rw [step, eq, outward_absorb]
  simp only [Discovery.outward_append, Discovery.outward_log]
  rfl

end Prospect

end Attachment

end A2dpSink
