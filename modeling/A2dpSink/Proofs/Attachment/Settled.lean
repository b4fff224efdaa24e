import A2dpSink.Proofs.Attachment.Clearing
import A2dpSink.Proofs.Attachment.Stranded

/-!
# Nothing is left of a device that is gone

Every change of the device's flags is announced, and no announcement is dropped. Once no job is left
while the device is disconnected, its status says so, its service is forgotten and both links are
closed (`settles_when_gone`), if the device is bonded then, or if no job has found it connected since
an update last found it gone, or at all. Some such condition is needed: updates of a device that is
not bonded are ignored, and so one that is no longer bonded when it goes away may be shown as idle
ever after (`idle_when_unbonded`).
-/

namespace A2dpSink.Attachment

variable {a b : Attachment} {s : Surroundings} {e : Event} {p q : Point} {actions : List Action}

/-! ### Whoever closes lets go -/

/-- Nobody owns an attachment that is closed, or that a task is to close. -/
structure LetGo (a : Attachment) : Prop where
  closed : a.closed = true → a.owned = false
  closing : ∀ n t, a.task? n = some t → t.errand = .close → a.owned = false

/-- A move gives a closed attachment no owner. -/
theorem LetGo.move (fine : a.Fine p) (h : a.LetGo) (move : Move s a p actions b q) : b.LetGo := by
  constructor
  · intro closed
    rw [move.owned]
    cases move with
    | shut close =>
      obtain ⟨stage, held, -⟩ := fine
      exact h.closing _ _ held.task close
    | _ => exact h.closed closed
  · intro n t there close
    rw [move.owned]
    rcases move.task there with old | ⟨u, place, old, rfl, -⟩
    · exact h.closing n t old close
    · exact h.closing n u old close

private theorem LetGo.moves (fine : a.Fine p) (h : a.LetGo) (moves : Moves s a p actions b) :
    b.LetGo := by
  induction moves with
  | rest => exact h
  | move move _ ih => exact ih (fine.move move) (h.move fine move)

/-- A task that is to close is an old one, or the owner has sent it and owns the attachment no
longer. -/
theorem Entry.closing (entry : Entry s a e actions b p) {n : Nat} {t : Task}
    (there : b.task? n = some t) (close : t.errand = .close) :
    (∃ t', a.task? n = some t' ∧ t'.errand = .close) ∨
      n = a.nextTask ∧ a.owned = true ∧ b.owned = false := by
  have old : (∃ t', a.task? n = some t' ∧ t'.errand = t.errand) →
      (∃ t', a.task? n = some t' ∧ t'.errand = .close) ∨
        n = a.nextTask ∧ a.owned = true ∧ b.owned = false := by
    rw [close]
    exact .inl
  have reported : ∀ {d : Discovery} {found}, (addReports { a with discovery := d } found).task? n =
      some t → (∃ t', a.task? n = some t' ∧ t'.errand = .close) ∨
        n = a.nextTask ∧ a.owned = true ∧ b.owned = false := by
    intro d found reports
    rcases addReports_task? found reports with kept | ⟨-, -, services, report⟩
    · exact old ⟨t, kept, rfl⟩
    · rw [close] at report
      cases report
  have summoned : ∀ {c : Attachment} {errand : Errand} {lines : List Log.Line},
      Summons a e errand c lines →
      ((c.addTask errand .waiting).claimed c.nextTask).task? n = some t → b.owned = c.owned →
      (∃ t', a.task? n = some t' ∧ t'.errand = .close) ∨
        n = a.nextTask ∧ a.owned = true ∧ b.owned = false := by
    intro c errand lines summons asks owned
    obtain ⟨t', added, same⟩ := errand_of_claimed asks
    have kept : c.tasks = a.tasks := by cases summons <;> rfl
    rcases task?_of_addTask _ _ added with before | ⟨rfl, rfl⟩
    · exact old ⟨t', (task?_eq_of_tasks kept n).symm.trans before, same⟩
    · cases summons with
      | inquire =>
        rw [close] at same
        cases same
      | close _ _ owner => exact .inr ⟨rfl, owner, owned⟩
  cases entry with
  | noted =>
    rcases task?_of_addTask _ _ there with kept | ⟨-, rfl⟩
    · exact old ⟨t, kept, rfl⟩
    · cases close
  | unbonded => exact old (errand_of_setTask there)
  | dropped => exact old (errand_of_setTask there)
  | queue => exact old (errand_of_claimed there)
  | enter => exact old (errand_of_claimed there)
  | startRound =>
    rw [attachment_absorb] at there
    exact reported there
  | resumeRound =>
    rw [attachment_absorb] at there
    exact reported there
  | summoned summons => exact summoned summons there rfl
  | received summons => exact summoned summons there rfl
  | _ => exact old ⟨t, there, rfl⟩

/-- An entry gives a closed attachment no owner. -/
theorem LetGo.entry (h : a.LetGo) (entry : Entry s a e actions b p) : b.LetGo := by
  have let_go : a.owned = false → b.owned = false := by
    intro disowned
    rcases entry.owned with same | disowned'
    · exact same.trans disowned
    · exact disowned'
  constructor
  · intro closed
    rw [entry.closed] at closed
    exact let_go (h.closed closed)
  · intro n t there close
    rcases entry.closing there close with ⟨t', kept, close'⟩ | ⟨-, -, disowned⟩
    · exact let_go (h.closing n t' kept close')
    · exact disowned

/-- Nobody owns a closed attachment after a run. -/
theorem LetGo.run (h : a.LetGo) (sound : a.Sound) (script : Script) : (a.run script).LetGo := by
  induction script generalizing a with
  | nil => exact h
  | cons turn script ih =>
    obtain ⟨_, b, p, _, entry, moves, -⟩ := exists_moves sound turn.1 turn.2
    exact ih ((h.entry entry).moves (sound.entry entry) moves) (sound.step turn.1 turn.2)

/-- An attachment that somebody owns is not closed. -/
theorem unclosed_of_owned (begun : a.Begun) (script : Script)
    (owned : (a.run script).owned = true) : (a.run script).closed = false := by
  obtain ⟨remote, limit, transport, s, rfl⟩ := begun.eq
  rw [← run_append] at owned ⊢
  have blank : LetGo { remote, discovery := { remote, queryLimit := limit }, transport } := by
    constructor
    · intro closed
      cases closed
    · intro n t there
      cases there
  have let_go := blank.run (Sound.blank remote limit transport) ([(s, .notify)] ++ script)
  rw [← Bool.not_eq_true]
  intro closed
  rw [let_go.closed closed] at owned
  cases owned

/-! ### Announced changes -/

/-- Every change of the flags, the given ones being those before the run, is followed by a
notification. -/
def Announced (flags : DeviceFlags) : Script → Prop
  | [] => True
  | (s, e) :: rest =>
    (s.flags = flags ∨ e = .notify ∨ ∃ turn ∈ rest, turn.2 = .notify) ∧ Announced s.flags rest

/-- The flags of the device at the end of a run. -/
def flagsAfter (flags : DeviceFlags) : Script → DeviceFlags
  | [] => flags
  | (s, _) :: rest => flagsAfter s.flags rest

/-- No job has found the device connected since the run began, or since an update found the device
disconnected. -/
def Unseen (a : Attachment) (script : Script) : Prop :=
  (∀ n, ¬ a.HasFound script n) ∨
    ∃ before s e after, script = before ++ (s, e) :: after ∧ Resets (a.run before) s e ∧
      ∀ n, ¬ ((a.run before).step s e).attachment.HasFound after n

/-- While the device stays disconnected, no job finds it connected. -/
theorem not_hasFound_of_gone {script : Script}
    (gone : ∀ turn ∈ script, turn.1.flags.connected = false) (n : Nat) :
    ¬ a.HasFound script n := by
  rintro ⟨before, s, e, after, rfl, t, -, -, -, -, connected⟩
  rw [gone (s, e) (List.mem_append_right before List.mem_cons_self)] at connected
  cases connected

/-- When every change is announced, there is a notification from which on the flags are what they
are in the end. -/
theorem Announced.last {s₀ : Surroundings} {script : Script} (h : Announced s₀.flags script) :
    ∃ before s after, (s₀, .notify) :: script = before ++ (s, .notify) :: after ∧
      ∀ turn ∈ (s, .notify) :: after, turn.1.flags = flagsAfter s₀.flags script := by
  induction script generalizing s₀ with
  | nil => exact ⟨[], s₀, [], rfl, by simp [flagsAfter]⟩
  | cons turn script ih =>
    obtain ⟨s, e⟩ := turn
    obtain ⟨change, announced⟩ := h
    obtain ⟨before, s', after, eq, same⟩ := ih announced
    cases before with
    | cons first before =>
      obtain ⟨-, rfl⟩ := List.cons.inj eq
      exact ⟨(s₀, .notify) :: (s, e) :: before, s', after, rfl, same⟩
    | nil =>
      -- Nothing changes after this turn.
      obtain ⟨rfl, rfl⟩ : s = s' ∧ script = after := by simpa using eq
      have now : s.flags = flagsAfter s.flags script := same _ List.mem_cons_self
      have later : ∀ turn ∈ script, turn.1.flags = flagsAfter s.flags script :=
        fun turn there => same turn (List.mem_cons_of_mem _ there)
      rcases change with unchanged | rfl | ⟨⟨s', e'⟩, there, rfl⟩
      · refine ⟨[], s₀, (s, e) :: script, rfl, List.forall_mem_cons.mpr ⟨?_, ?_⟩⟩
        · exact unchanged.symm.trans now
        · exact List.forall_mem_cons.mpr ⟨now, later⟩
      · exact ⟨[(s₀, .notify)], s, script, rfl, same⟩
      · obtain ⟨middle, after, split⟩ := List.append_of_mem there
        refine ⟨(s₀, .notify) :: (s, e) :: middle, s', after, by rw [split]; rfl, ?_⟩
        intro turn there
        refine later turn ?_
        rw [split]
        exact List.mem_append_right middle there

/-! ### Nothing is left -/

/-- Nothing is left of a device that is gone. Take any run of an attachment in which every change of
the flags is announced and there is room for every update. If no job is left at its end and the
device is not connected then, the status says so, the service is forgotten and both links are
closed, provided that the device is bonded, or that no job has found it connected since the run
began, or since an update found it gone. -/
theorem settles_when_gone {settings : Settings} {remote : Address} {s₀ : Surroundings}
    {first : List Action} (created : create settings remote (.ok ()) s₀ = .ok (.ok a, first))
    (script : Script) (announced : Announced s₀.flags script)
    (room : ∀ turn ∈ (s₀, .notify) :: script, turn.2 = .notify → turn.1.admission = .ok ())
    (owned : (a.run script).owned = true) (quiet : (a.run script).Quiet)
    (gone : (flagsAfter s₀.flags script).connected = false)
    (seen : (flagsAfter s₀.flags script).bonded = true ∨ a.Unseen script) :
    (a.run script).Cleared := by
  have begun : a.Begun := ⟨settings, remote, s₀, first, created⟩
  have unclosed := unclosed_of_owned begun script owned
  have settled : ∀ {K : Prop}, (a.run script).Clearing K .rest → (a.run script).Cleared :=
    fun clearing => clearing.cleared owned unclosed quiet.tasks
  rcases seen with bonded | unseen | ⟨before, s, e, after, rfl, resets, unseen⟩
  · -- The update of the last notification clears up.
    obtain ⟨before, s, after, eq, same⟩ := announced.last
    rw [eq] at room
    have room : s.admission = .ok () := room _ (List.mem_append_right before List.mem_cons_self) rfl
    obtain ⟨limit, blank, -⟩ := create_eq_ok created
    have sound := (Sound.blank remote limit (Transport.create remote).1).run before
    refine settled (K := True) ?_
    rw [blank, ← run_append, List.singleton_append, eq, run_append, run_cons]
    refine (clearing_notify sound room).run (sound.step s .notify) after ?_ ?_
    · refine not_hasFound_of_gone fun turn there => ?_
      rw [same turn (List.mem_cons_of_mem _ there), gone]
    · intro _ turn there
      rw [same turn (List.mem_cons_of_mem _ there), bonded]
  · exact settled ((clearing_create created).run begun.sound script unseen nofun)
  · have sound := begun.sound.run before
    refine settled (K := False) ?_
    rw [run_append, run_cons]
    exact (resets.clearing sound False).run (sound.step s e) after unseen nofun

/-- The speaker is found, and the transport link to it is open. -/
def playing : Script :=
  finding ++ [(present, .resume 1 (.closed .closed)), (present, .resume 1 (.opened (.opened 2)))]

/-- Then the device goes away, and an update closes the link. -/
def departing : Script :=
  playing ++ [(absent, .notify), (absent, .start 2), (absent, .resume 2 (.closed .closed))]

/-- The device is there, and it is not bonded. -/
def stranger : Surroundings := ⟨{ bonded := false, connected := true }, .ok ()⟩

/-- A device that is never bonded comes and goes, and both updates are ignored. -/
def passing : Script :=
  [(stranger, .start 0), (⟨{ bonded := false, connected := false }, .ok ()⟩, .notify),
    (⟨{ bonded := false, connected := false }, .ok ()⟩, .start 1)]

private theorem unseen_passing : attached.Unseen passing := by
  refine .inl fun n found => ?_
  rcases sometime_cons.mp found with ⟨t, performs, -⟩ | later
  · cases performs with
    | start there _ admitted =>
      cases there
      rcases admitted with ⟨-, bonded⟩ | ⟨services, report, -⟩
      · cases bonded
      · cases report
  · refine not_hasFound_of_gone ?_ n later
    simp

/-- Nothing is left of a speaker that was playing, and nothing of a device that is never bonded. -/
theorem settles_when_gone_departing :
    ((attached.run playing).status = .idle ∧
      (flagsAfter present.flags departing).connected = false ∧
      (flagsAfter present.flags departing).bonded = true ∧ (attached.run departing).Cleared) ∧
    (flagsAfter stranger.flags passing).connected = false ∧
      (flagsAfter stranger.flags passing).bonded = false ∧ (attached.run passing).Cleared := by
  obtain ⟨first, created⟩ := attached_created (s := present) rfl
  obtain ⟨first', created'⟩ := attached_created (s := stranger) rfl
  have announced : Announced present.flags departing := by
    simp [Announced, departing, playing, finding, present, absent]
  have room : ∀ turn ∈ (present, .notify) :: departing,
      turn.2 = .notify → turn.1.admission = .ok () := by
    simp [departing, playing, finding, present, absent]
  have announced' : Announced stranger.flags passing := by simp [Announced, passing]
  have room' : ∀ turn ∈ (stranger, .notify) :: passing,
      turn.2 = .notify → turn.1.admission = .ok () := by
    simp [passing, stranger]
  refine ⟨⟨rfl, rfl, rfl, ?_⟩, rfl, rfl, ?_⟩
  · exact settles_when_gone created departing announced room rfl (.of_nil rfl rfl) rfl (.inl rfl)
  · exact settles_when_gone created' passing announced' room' rfl (.of_nil rfl rfl) rfl
      (.inr unseen_passing)

/-- The device is no longer bonded when it goes away, and the update is ignored. -/
def unbonding : Script :=
  playing ++ [(⟨{ bonded := false, connected := false }, .ok ()⟩, .notify),
    (⟨{ bonded := false, connected := false }, .ok ()⟩, .start 2)]

/-- It is not enough that every change is announced: a device whose bond goes together with the link
is shown as idle when no job is left. -/
theorem idle_when_unbonded :
    ¬ ∀ (a : Attachment) (settings : Settings) (remote : Address) (s₀ : Surroundings)
      (first : List Action) (script : Script),
      create settings remote (.ok ()) s₀ = .ok (.ok a, first) → Announced s₀.flags script →
      (∀ turn ∈ (s₀, .notify) :: script, turn.2 = .notify → turn.1.admission = .ok ()) →
      (a.run script).owned = true → (a.run script).Quiet →
      (flagsAfter s₀.flags script).connected = false → (a.run script).Cleared := by
  intro claim
  have announced : Announced present.flags unbonding := by
    simp [Announced, unbonding, playing, finding, present]
  have room : ∀ turn ∈ (present, .notify) :: unbonding,
      turn.2 = .notify → turn.1.admission = .ok () := by
    simp [unbonding, playing, finding, present]
  have cleared := claim attached {} attached.remote present _ unbonding rfl announced room rfl
    (.of_nil rfl rfl) rfl
  have idle : (attached.run unbonding).status = .idle := rfl
  rw [cleared.status] at idle
  cases idle

end A2dpSink.Attachment
