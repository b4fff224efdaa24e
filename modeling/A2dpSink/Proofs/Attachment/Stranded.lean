import A2dpSink.Proofs.Attachment.Idles
import A2dpSink.Proofs.Attachment.Watched

/-!
# Discovery links that nobody closes

A report that is discarded leaves the discovery link open. If the device is connected again before
anybody looks, the session stays busy, and every update finds that discovery is already running.
`discovery_stuck_iff` says that this is the only way to get stuck.
-/

namespace A2dpSink.Attachment

variable {a : Attachment} {s : Surroundings}

/-! ### When discovery is stuck -/

/-- No job of the attachment is queued or runs, and no round of discovery does. -/
structure Quiet (a : Attachment) : Prop where
  tasks : ∀ t ∈ a.tasks, ¬ t.IsJob
  rounds : a.discovery.rounds = []

/-- Without tasks and rounds nothing is queued or runs. -/
theorem Quiet.of_nil (tasks : a.tasks = []) (rounds : a.discovery.rounds = []) : a.Quiet where
  tasks := by simp [tasks]
  rounds := rounds

/-- A busy session with nobody there has a link that was stranded. -/
theorem stranded_of_isBusy (begun : a.Begun) (script : Script)
    (owned : (a.run script).owned = true) (unclosed : (a.run script).closed = false)
    (quiet : (a.run script).Quiet) (busy : (a.run script).discovery.isBusy = true) :
    Stranded a script := by
  have sound := begun.sound.run script
  have idle : (a.run script).discovery.discovering = false := by
    cases discovering : (a.run script).discovery.discovering with
    | false => rfl
    | true =>
      obtain ⟨r, there, -⟩ := sound.session.ordered.current discovering
      rw [quiet.rounds] at there
      cases there
  have link : (a.run script).discovery.link.isSome = true := by
    simpa [Discovery.isBusy, idle] using busy
  rcases watched_run begun script ⟨⟨false, false⟩, .ok ()⟩ with closed | disowned | ⟨-, open_⟩
  · rw [unclosed] at closed
    cases closed
  · rw [owned] at disowned
    cases disowned
  · rcases open_ link with ⟨n, t, -, there, leads⟩ | known
    · refine absurd ?_ (quiet.tasks t (List.mem_of_find?_eq_some there))
      cases leads with
      | calling job => exact job
      | reporting services found => exact .inr ⟨services, found⟩
    · exact known

/-- A link that was stranded is still there. -/
theorem isBusy_of_stranded (begun : a.Begun) {script : Script} (stranded : Stranded a script) :
    (a.run script).discovery.isBusy = true := by
  obtain ⟨before, s, e, after, rfl, ⟨link, -, t, services, performs, -⟩, count⟩ := stranded
  have sound := begun.sound.run before
  -- Whoever discards the report has the lock, so nobody is about to start a round.
  have idles : (a.run before).Left (a.run before).discovery.count .rest := by
    refine .inr ⟨rfl, link, fun n u there starting => ?_⟩
    have inactive := performs.inactive sound there
    rw [starting] at inactive
    cases inactive
  have later := idles.run sound ((s, e) :: after)
  rw [← run_append] at later
  rcases later with less | stays
  · rw [← count] at less
    exact absurd less (Nat.lt_irrefl _)
  · simp [Discovery.isBusy, stays.link]

/-! ### The next update -/

-- Nobody uses the session of an attachment whose lock is free when no round runs.
private theorem session_lock_eq (sound : a.Sound) (free : a.lock.isFree = true)
    (rounds : a.discovery.rounds = []) : a.discovery.lock = {} := by
  refine sound.session.lock.eq_of_isFree (Lock.isFree_iff.mpr ?_)
  cases holder : a.discovery.lock.holder with
  | none => rfl
  | some p =>
    exfalso
    have present := sound.session.present p (Lock.mem_parties_of_holder holder)
    cases p with
    | call n =>
      obtain ⟨stage, there⟩ := present
      obtain ⟨t, listed, eq⟩ := sound.call n stage there
      have holder := sound.active n t listed (by rw [eq]; cases stage.request <;> rfl)
      rw [Lock.isFree_iff.mp free] at holder
      cases holder
    | round n =>
      obtain ⟨r, there, -⟩ := present
      rw [rounds] at there
      cases there

-- A link was opened, and nobody waits for the session: a round is started.
private theorem submit_mem_actions (sound : a.Sound) {n : Nat}
    (listed : a.discovery.callStage? n = some .opening) (waiting : a.discovery.lock.waiting = [])
    (room : s.admission = .ok ()) (link : LinkId) :
    .submit (.round a.discovery.nextRound) ∈
      (a.step s (.resume n (.opened (.opened link)))).actions := by
  obtain ⟨t, there, stage⟩ := sound.call n _ listed
  have idle := (sound.session.linking n (.inl listed)).2
  obtain ⟨-, quiet⟩ := Discovery.isBusy_eq_false_iff.mp idle
  have stage : t.stage = .connecting := stage
  simp only [step, resume, there, stage, Discovery.resume, listed, OpenOutcome.toExcept,
    Discovery.endCall, absorb, answered, connected, call, Discovery.begin, Discovery.perform, room]
  simp [Discovery.release, Lock.release, waiting, Lock.isFree, Discovery.setCall, quiet, translate,
    Outcome.after]

private theorem step_update (sound : a.Sound) (owned : a.owned = true) (unclosed : a.closed = false)
    (lock : a.lock = {}) (inner : a.discovery.lock = {})
    (unknown : a.service.role = .unknown) (bonded : s.flags.bonded = true)
    (there : s.flags.connected = true) (room : s.admission = .ok ()) :
    (a.discovery.isBusy = true →
      ((a.step s .notify).attachment.step s (.start a.nextTask)).actions =
        [.log (busyLine a.remote)]) ∧
    (a.discovery.isBusy = false →
      ((a.step s .notify).attachment.step s (.start a.nextTask)).actions =
        [.effect (.connect Sdp.psm)] ∧
      ((a.step s .notify).attachment.step s (.start a.nextTask)).attachment.discovery =
        { a.discovery.setCall a.nextTask none with
          lock := a.discovery.lock.request (.call a.nextTask) }.setCall a.nextTask
            (some .opening)) := by
  have noted : (a.step s .notify).attachment = a.addTask .update .queued := by
    simp [step, notify, isAlive, owned, room]
  have fresh := task?_addTask_self .update .queued sound.fresh
  rw [noted]
  simp only [step, start, fresh, bonded, if_true, claim, lock_addTask, lock, Lock.isFree,
    Option.isNone_none, perform, update, closed_setTask, closed_addTask, unclosed, there,
    Bool.not_true, Bool.false_eq_true, if_false, service_setTask, service_addTask, unknown, call,
    discovery_setTask, discovery_addTask, Discovery.begin_isOpen inner]
  constructor
  · intro busy
    simp [busy, probed, absorb, translate, Outcome.after, leave, Lock.request, Lock.release]
    rfl
  · intro idle
    have inner' : (a.discovery.setCall a.nextTask none).lock = {} := inner
    have idle' : (a.discovery.setCall a.nextTask none).isBusy = false := idle
    simp [idle, probed, absorb, translate, Outcome.after, call,
      Discovery.begin_connect inner' idle']

/-- Discovery is stuck exactly when the link was stranded. Take any run of an attachment that is not
closed, at whose end no job is queued or runs. While nothing is known about the service the session
is not busy, unless a report was discarded in the run while the link was open, and the link has not
changed since. If so, the next update of a device that is bonded and connected does nothing but say
that discovery is already running; if not, it opens the link, and then a round starts. -/
theorem discovery_stuck_iff (begun : a.Begun) (script : Script)
    (owned : (a.run script).owned = true) (unclosed : (a.run script).closed = false)
    (quiet : (a.run script).Quiet) :
    let b := a.run script
    ((b.service.role = .unknown → b.discovery.isBusy = false) ↔ ¬ Stranded a script) ∧
    ∀ s : Surroundings, b.lock.isFree = true → b.service.role = .unknown →
      s.flags.bonded = true → s.flags.connected = true → s.admission = .ok () →
      let updated := (b.step s .notify).attachment.step s (.start b.nextTask)
      (Stranded a script → updated.actions = [.log (busyLine b.remote)]) ∧
      (¬ Stranded a script → updated.actions = [.effect (.connect Sdp.psm)] ∧
        ∀ link : LinkId, .submit (.round b.discovery.nextRound) ∈
          (updated.attachment.step s
            (.resume b.nextTask (.opened (.opened link)))).actions) := by
  intro b
  have sound : b.Sound := begun.sound.run script
  have busy : b.discovery.isBusy = true ↔ Stranded a script :=
    ⟨stranded_of_isBusy begun script owned unclosed quiet, isBusy_of_stranded begun⟩
  have idle : b.discovery.isBusy = false ↔ ¬ Stranded a script := by
    rw [← busy, Bool.not_eq_true]
  constructor
  · rw [← idle]
    constructor
    · intro claim
      cases state : b.discovery.isBusy with
      | false => rfl
      | true =>
        have quiet := claim (sound.busy state)
        rw [state] at quiet
        cases quiet
    · exact fun idle _ => idle
  · intro s free unknown bonded there room updated
    have lock := sound.lock.eq_of_isFree free
    have inner := session_lock_eq sound free quiet.rounds
    obtain ⟨stuck, goes⟩ :=
      step_update sound owned unclosed lock inner unknown bonded there room
    refine ⟨fun stranded => stuck (busy.mpr stranded), fun safe => ?_⟩
    obtain ⟨connects, discovery⟩ := goes (idle.mpr safe)
    refine ⟨connects, fun link => ?_⟩
    have later : updated.attachment.Sound := (sound.step s .notify).step s _
    have opening : updated.attachment.discovery.callStage? b.nextTask = some .opening := by
      rw [discovery]
      exact Discovery.callStage?_setCall_self _ _ _
    have waiting : updated.attachment.discovery.lock.waiting = [] := by
      rw [discovery, Discovery.lock_setCall, inner]
      rfl
    have next : updated.attachment.discovery.nextRound = b.discovery.nextRound := by
      rw [discovery]
      rfl
    rw [← next]
    exact submit_mem_actions later opening waiting room link

/-- The device is away while the services of a round are taken in, and then it is back. -/
def returning : Script :=
  [(present, .start 0), (present, .resume 0 (.opened (.opened 1))), (present, .startRound 0),
    (absent, .resumeRound 0 (.answered (some (.ok [speaker])))), (absent, .start 1)]

private theorem quiet_run_returning : (attached.run returning).Quiet := .of_nil rfl rfl

/-- A report that is discarded while the device is away leaves discovery stuck when it is back. -/
theorem discovery_stuck_iff_returning :
    let b := attached.run returning
    b.owned = true ∧ b.closed = false ∧ b.Quiet ∧
    ((b.service.role = .unknown → b.discovery.isBusy = false) ↔ ¬ Stranded attached returning) ∧
    ∀ s : Surroundings, b.lock.isFree = true → b.service.role = .unknown →
      s.flags.bonded = true → s.flags.connected = true → s.admission = .ok () →
      let updated := (b.step s .notify).attachment.step s (.start b.nextTask)
      (Stranded attached returning → updated.actions = [.log (busyLine b.remote)]) ∧
      (¬ Stranded attached returning → updated.actions = [.effect (.connect Sdp.psm)] ∧
        ∀ link : LinkId, .submit (.round b.discovery.nextRound) ∈
          (updated.attachment.step s
            (.resume b.nextTask (.opened (.opened link)))).actions) :=
  ⟨rfl, rfl, quiet_run_returning,
    discovery_stuck_iff attached_begun returning rfl rfl quiet_run_returning⟩

/-- Discovery does get stuck: when the device is back, nothing is known about its service, and the
session is busy with nobody there. -/
theorem discovery_gets_stuck :
    ¬ ∀ (a : Attachment) (script : Script), a.Begun → (a.run script).owned = true →
      (a.run script).closed = false → (a.run script).Quiet →
      (a.run script).service.role = .unknown → (a.run script).discovery.isBusy = false := by
  intro claim
  have idle := claim attached returning attached_begun rfl rfl quiet_run_returning rfl
  have busy : (attached.run returning).discovery.isBusy = true := rfl
  rw [idle] at busy
  cases busy

end A2dpSink.Attachment
