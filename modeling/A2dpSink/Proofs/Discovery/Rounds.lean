import A2dpSink.Proofs.Discovery.Effects

/-!
# One round at a time

In any run of calls and rounds on a session, at most one round is current, and it is there exactly
when the session says that a round uses its link. A round whose count is no longer current is
outdated for ever (`Outdated.run`): it reports nothing, leaves the session as it is, and every step
that it makes brings it closer to its end (`Outdated.ends`).
-/

namespace A2dpSink.Discovery

variable {d : Discovery} {n : Nat}

/-! ### Runs -/

/-- What may happen to a session. -/
inductive Event where
  | begin (n : Nat) (r : Request)
  | resume (n : Nat) (s : Signal)
  | startRound (n : Nat)
  | resumeRound (n : Nat) (s : Signal)

/-- The round that goes on. -/
def Event.round? : Event → Option Nat
  | .startRound n | .resumeRound n _ => some n
  | _ => none

/-- What comes of an event. A call begins once. -/
def step (d : Discovery) (admission : Except SubmitError Unit) : Event → Outcome
  | .begin n r => if d.callStage? n = none then d.begin admission n r else ⟨d, [], none⟩
  | .resume n s => d.resume admission n s
  | .startRound n => d.startRound n
  | .resumeRound n s => d.resumeRound admission n s

/-- What some events make of a session. With each goes whether a job would be accepted then. -/
def run (d : Discovery) : List (Except SubmitError Unit × Event) → Discovery
  | [] => d
  | (admission, e) :: rest => (d.step admission e).session.run rest

/-- A step leaves a session sound. -/
theorem Sound.step (h : d.Sound) (admission : Except SubmitError Unit) (e : Event) :
    (d.step admission e).session.Sound := by
  cases e with
  | begin n r =>
    simp only [Discovery.step]
    split
    · next fresh => exact h.begin fresh admission r
    · exact h
  | resume n s => exact h.resumed (resume_resumed d admission n s)
  | startRound n => exact h.advanced (startRound_advanced d n)
  | resumeRound n s => exact h.advanced (resumeRound_advanced d admission n s)

/-- A run leaves a session sound. -/
theorem Sound.run (h : d.Sound) (script : List (Except SubmitError Unit × Event)) :
    (d.run script).Sound := by
  induction script generalizing d with
  | nil => exact h
  | cons turn script ih => exact ih (h.step turn.1 turn.2)

/-! ### The current round -/

/-- A session says that a round uses its link if one is current, and then it is the only one. -/
theorem Ordered.discovering_iff (h : d.Ordered) :
    d.discovering = true ↔ (d.rounds.map Round.count).count d.count = 1 := by
  have distinct : (d.rounds.map Round.count).Nodup := by
    refine List.Pairwise.map _ (fun r r' less => ?_) h.sorted
    exact Nat.ne_of_lt less.2
  constructor
  · intro discovering
    obtain ⟨r, there, current⟩ := h.current discovering
    exact List.count_eq_one_of_mem distinct (List.mem_map.mpr ⟨r, there, current⟩)
  · intro once
    have there : d.count ∈ d.rounds.map Round.count :=
      List.count_pos_iff.mp (once ▸ Nat.one_pos)
    obtain ⟨r, there, current⟩ := List.mem_map.mp there
    exact h.discovering r there current

/-! ### What becomes of rounds -/

/-- The session `d'` comes after `d`: rounds keep their counts, and new ones have new numbers. -/
structure Follows (d d' : Discovery) : Prop where
  rounds : ∀ r' ∈ d'.rounds,
    (∃ r ∈ d.rounds, r.number = r'.number ∧ r.count = r'.count) ∨ r'.number = d.nextRound
  count_le : d.count ≤ d'.count
  nextRound_le : d.nextRound ≤ d'.nextRound

private theorem Follows.of_rounds_eq {d' : Discovery} (rounds : d'.rounds = d.rounds)
    (count_le : d.count ≤ d'.count) (nextRound_le : d.nextRound ≤ d'.nextRound) : Follows d d' :=
  ⟨fun r there => .inl ⟨r, rounds ▸ there, rfl, rfl⟩, count_le, nextRound_le⟩

private theorem Follows.of_setRound {d' : Discovery} (n : Nat) (stage : Option RoundStage)
    (rounds : d'.rounds = (d.setRound n stage).rounds) (count_le : d.count ≤ d'.count)
    (nextRound_le : d.nextRound ≤ d'.nextRound) : Follows d d' where
  rounds r there := by
    rw [rounds] at there
    cases stage with
    | none => exact .inl ⟨r, (mem_setRound_none.mp there).1, rfl, rfl⟩
    | some stage =>
      obtain ⟨r', there', rfl⟩ := mem_setRound_some.mp there
      refine .inl ⟨r', there', ?_⟩
      split <;> exact ⟨rfl, rfl⟩
  count_le := count_le
  nextRound_le := nextRound_le

private theorem Served.follows {r : Request} {o : Outcome} (h : Served d n r o) :
    Follows d o.session := by
  cases h with
  | scheduled link idle there =>
    refine ⟨?_, Nat.le_refl _, Nat.le_succ _⟩
    intro r there
    rcases List.mem_append.mp there with old | new
    · exact .inl ⟨r, old, rfl, rfl⟩
    · rw [List.mem_singleton] at new
      subst new
      exact .inr rfl
  | unlinked | closing => exact .of_rounds_eq rfl (Nat.le_succ _) (Nat.le_refl _)
  | _ => exact .of_rounds_eq rfl (Nat.le_refl _) (Nat.le_refl _)

private theorem Resumed.follows {o : Outcome} (h : Resumed d n o) : Follows d o.session := by
  cases h with
  | served _ _ served => exact served.follows
  | opened => exact .of_rounds_eq rfl (Nat.le_succ _) (Nat.le_refl _)
  | _ => exact .of_rounds_eq rfl (Nat.le_refl _) (Nat.le_refl _)

private theorem Concluded.follows {r : Round} {o : Outcome} (h : Concluded d r o) :
    Follows d o.session := by
  cases h with
  | outlived =>
    exact .of_setRound r.number (some .closing) rfl (Nat.le_refl _) (Nat.le_refl _)
  | reported => exact .of_setRound r.number none rfl (Nat.le_refl _) (Nat.le_refl _)
  | failed => exact .of_setRound r.number (some .closing) rfl (Nat.le_succ _) (Nat.le_refl _)

private theorem Advanced.follows {o : Outcome} (h : Advanced d n o) : Follows d o.session := by
  cases h with
  | still => exact .of_rounds_eq rfl (Nat.le_refl _) (Nat.le_refl _)
  | querying => exact .of_setRound n (some .querying) rfl (Nat.le_refl _) (Nat.le_refl _)
  | waiting r found =>
    exact .of_setRound n (some (.waiting found)) rfl (Nat.le_refl _) (Nat.le_refl _)
  | answered r lines _ _ _ concluded =>
    have follows := concluded.follows
    exact ⟨follows.rounds, follows.count_le, follows.nextRound_le⟩
  | granted _ _ _ _ _ concluded => exact concluded.follows
  | closed => exact .of_setRound n none rfl (Nat.le_refl _) (Nat.le_refl _)

/-- A step keeps the counts of rounds, and gives new rounds new numbers. -/
theorem step_follows (d : Discovery) (admission : Except SubmitError Unit) (e : Event) :
    Follows d (d.step admission e).session := by
  have same : Follows d d := .of_rounds_eq rfl (Nat.le_refl _) (Nat.le_refl _)
  cases e with
  | begin n r =>
    simp only [step]
    split
    · simp only [begin]
      split
      · have follows := (perform_served { d with lock := d.lock.request (.call n) } admission n
          r).follows
        exact ⟨follows.rounds, follows.count_le, follows.nextRound_le⟩
      · exact .of_rounds_eq rfl (Nat.le_refl _) (Nat.le_refl _)
    · exact same
  | resume n s => exact (resume_resumed d admission n s).follows
  | startRound n => exact (startRound_advanced d n).follows
  | resumeRound n s => exact (resumeRound_advanced d admission n s).follows

/-! ### Outdated rounds -/

/-- The round `n` is over, or its count is no longer current. -/
structure Outdated (d : Discovery) (n : Nat) : Prop where
  known : n < d.nextRound
  late : ∀ r ∈ d.rounds, r.number = n → r.count < d.count

private theorem Outdated.follows (h : d.Outdated n) {d' : Discovery} (follows : Follows d d') :
    d'.Outdated n where
  known := Nat.lt_of_lt_of_le h.known follows.nextRound_le
  late r' there number := by
    rcases follows.rounds r' there with ⟨r, there, number', count⟩ | new
    · rw [← count]
      exact Nat.lt_of_lt_of_le (h.late r there (number'.trans number)) follows.count_le
    · rw [number] at new
      exact absurd new (Nat.ne_of_lt h.known)

/-- What is no longer current never becomes so again. -/
theorem Outdated.run (h : d.Outdated n) (script : List (Except SubmitError Unit × Event)) :
    (d.run script).Outdated n := by
  induction script generalizing d with
  | nil => exact h
  | cons turn script ih => exact ih (h.follows (d.step_follows turn.1 turn.2))

/-- How many steps a round still makes at most. -/
def RoundStage.left : RoundStage → Nat
  | .queued => 4
  | .querying => 3
  | .waiting _ => 2
  | .closing => 1

/-- How many steps the round `n` still makes at most. -/
def left (d : Discovery) (n : Nat) : Nat := ((d.round? n).map fun r => r.stage.left).getD 0

/-- The event is what its round waits for. -/
def Due (d : Discovery) : Event → Prop
  | .startRound n => ∃ r, d.round? n = some r ∧ r.stage = .queued
  | .resumeRound n (.answered _) => ∃ r, d.round? n = some r ∧ r.stage = .querying
  | .resumeRound n .granted =>
    d.lock.holder = some (.round n) ∧ ∃ r found, d.round? n = some r ∧ r.stage = .waiting found
  | .resumeRound n (.closed _) => ∃ r, d.round? n = some r ∧ r.stage = .closing
  | _ => False

/-- A round that goes to a place is found there. -/
theorem round?_setRound_some {r : Round} (h : d.round? n = some r) (stage : RoundStage) :
    (d.setRound n (some stage)).round? n = some { r with stage } := by
  have number := (round?_eq_some h).2
  simp only [round?, setRound, List.find?_map] at h ⊢
  have same : ((fun r : Round => decide (r.number = n)) ∘ fun r =>
      if r.number = n then { r with stage } else r) = fun r => decide (r.number = n) := by
    funext r'
    simp only [Function.comp_apply]
    split <;> rfl
  rw [same, h, Option.map_some, if_pos number]

/-- A round that is over is not found any more. -/
theorem round?_setRound_none (d : Discovery) (n : Nat) : (d.setRound n none).round? n = none := by
  simp [round?, setRound, List.find?_eq_none]

private theorem left_of_round? {r : Round} (h : d.round? n = some r) : d.left n = r.stage.left := by
  simp [left, h]

/-- What a step of an outdated round does: nothing, unless it was due, and then it brings the round
closer to its end. -/
structure Faded (d : Discovery) (n : Nat) (due : Prop) (o : Outcome) : Prop where
  /-- Nothing is handed over. -/
  quiet : deliveries o.actions = []
  link : o.session.link = d.link
  discovering : o.session.discovering = d.discovering
  count : o.session.count = d.count
  less : due → o.session.left n < d.left n
  still : ¬ due → o = ⟨d, [], none⟩

/-- An outdated round that holds the lock closes its link. -/
theorem Concluded.faded {r : Round} {o : Outcome} (h : Concluded d r o) (late : r.count < d.count)
    (there : d.round? r.number = some r) :
    deliveries o.actions = [] ∧ o.session.link = d.link ∧ o.session.discovering = d.discovering ∧
      o.session.count = d.count ∧ o.session.left r.number = 1 := by
  cases h with
  | outlived line =>
    refine ⟨?_, rfl, rfl, rfl, ?_⟩
    · simp only [closeRound, List.nil_append, deliveries_append, deliveries_release]
      rfl
    · have closing := round?_setRound_some there .closing
      exact left_of_round? closing
  | reported offer services current => exact absurd current (Nat.ne_of_gt late)
  | failed lines current => exact absurd current (Nat.ne_of_gt late)

/-- While no round is current, those that go on leave the session as it is. -/
theorem Advanced.unchanged {o : Outcome} (h : Advanced d n o) (ordered : d.Ordered)
    (idle : d.discovering = false) :
    o.session.link = d.link ∧ o.session.discovering = d.discovering ∧
      o.session.count = d.count := by
  have late : ∀ {r}, d.round? n = some r → r.count < d.count := by
    intro r listed
    have there := (round?_eq_some listed).1
    apply Nat.lt_of_le_of_ne (ordered.count_le r there)
    intro current
    rw [ordered.discovering r there current] at idle
    cases idle
  cases h with
  | still | querying | waiting | closed => exact ⟨rfl, rfl, rfl⟩
  | answered r lines listed _ _ concluded =>
    obtain rfl := (round?_eq_some listed).2
    obtain ⟨-, link, discovering, count, -⟩ := concluded.faded (late listed) listed
    exact ⟨link, discovering, count⟩
  | granted r found listed _ _ concluded =>
    obtain rfl := (round?_eq_some listed).2
    obtain ⟨-, link, discovering, count, -⟩ := concluded.faded (late listed) listed
    exact ⟨link, discovering, count⟩

private theorem faded_of_not_due {due : Prop} (h : ¬ due) : Faded d n due ⟨d, [], none⟩ :=
  ⟨rfl, rfl, rfl, rfl, fun there => absurd there h, fun _ => rfl⟩

private theorem Outdated.startRound_faded (n : Nat) :
    Faded d n (d.Due (.startRound n)) (d.startRound n) := by
  unfold startRound
  split
  · next number count link there =>
    have due : d.Due (.startRound n) := ⟨_, there, rfl⟩
    refine ⟨rfl, rfl, rfl, rfl, fun _ => ?_, fun other => absurd due other⟩
    rw [left_of_round? (round?_setRound_some there .querying), left_of_round? there]
    exact Nat.lt_succ_self 3
  · next other =>
    refine faded_of_not_due ?_
    rintro ⟨⟨number, count, link, stage⟩, there, rfl⟩
    exact other number count link there

/-- An outdated round reports nothing, changes nothing and comes to its end. -/
theorem Outdated.resumeRound_faded (h : d.Outdated n) (admission : Except SubmitError Unit)
    (s : Signal) : Faded d n (d.Due (.resumeRound n s)) (d.resumeRound admission n s) := by
  unfold resumeRound
  cases listed : d.round? n with
  | none =>
    refine faded_of_not_due ?_
    cases s <;> simp [Due, listed]
  | some r =>
    obtain ⟨there, rfl⟩ := round?_eq_some listed
    have late := h.late r there rfl
    simp only
    split
    · next result stage =>
      have due : d.Due (.resumeRound r.number (.answered result)) := ⟨r, listed, stage⟩
      have before : d.left r.number = 3 := by rw [left_of_round? listed, stage]; rfl
      split
      · next free =>
        have concluded := conclude_concluded
          { d with lock := d.lock.request (.round r.number) } admission r (findings result)
        obtain ⟨quiet, link, discovering, count, left⟩ := concluded.faded late listed
        refine ⟨?_, link, discovering, count, fun _ => ?_, fun other => absurd due other⟩
        · rw [deliveries_append, quiet, deliveries_log]
          rfl
        · rw [before, left]
          decide
      · next taken =>
        refine ⟨deliveries_log _, rfl, rfl, rfl, fun _ => ?_, fun other => absurd due other⟩
        have waiting := round?_setRound_some (d := { d with
          lock := d.lock.request (.round r.number) }) listed (.waiting (findings result))
        rw [before, left_of_round? waiting]
        exact Nat.lt_succ_self 2
    · next found stage =>
      have before : d.left r.number = 2 := by rw [left_of_round? listed, stage]; rfl
      split
      · next holder =>
        have due : d.Due (.resumeRound r.number .granted) := ⟨holder, r, found, listed, stage⟩
        have concluded := conclude_concluded d admission r found
        obtain ⟨quiet, link, discovering, count, left⟩ := concluded.faded late listed
        refine ⟨quiet, link, discovering, count, fun _ => ?_, fun other => absurd due other⟩
        rw [before, left]
        decide
      · next other => exact faded_of_not_due fun due => other due.1
    · next outcome stage =>
      have due : d.Due (.resumeRound r.number (.closed outcome)) := ⟨r, listed, stage⟩
      have before : d.left r.number = 1 := by rw [left_of_round? listed, stage]; rfl
      refine ⟨rfl, rfl, rfl, rfl, fun _ => ?_, fun other => absurd due other⟩
      rw [before, left, round?_setRound_none]
      decide
    · next s _ _ unanswered ungranted unclosed =>
      refine faded_of_not_due ?_
      cases s with
      | answered result =>
        rintro ⟨r', at', stage⟩
        cases listed.symm.trans at'
        exact unanswered result stage rfl
      | granted =>
        rintro ⟨-, r', found, at', stage⟩
        cases listed.symm.trans at'
        exact ungranted found stage rfl
      | closed outcome =>
        rintro ⟨r', at', stage⟩
        cases listed.symm.trans at'
        exact unclosed outcome stage rfl
      | opened => exact id

/-- An outdated round reports nothing, changes nothing and comes to its end. -/
theorem Outdated.ends (h : d.Outdated n) (admission : Except SubmitError Unit) (e : Event)
    (own : e.round? = some n) : Faded d n (d.Due e) (d.step admission e) := by
  cases e with
  | begin | resume => cases own
  | startRound m =>
    obtain rfl := Option.some.inj own
    exact startRound_faded m
  | resumeRound m s =>
    obtain rfl := Option.some.inj own
    exact h.resumeRound_faded admission s

/-! ### One current round -/

/-- What holds of a session, and of what it has left behind. -/
structure OneRound (d : Discovery) : Prop where
  /-- While a round uses the link, the session does not hold it. -/
  apart : ¬ (d.link.isSome = true ∧ d.discovering = true)
  discovering_iff : d.discovering = true ↔ (d.rounds.map Round.count).count d.count = 1
  /-- All other rounds are older. -/
  older : ∀ r ∈ d.rounds, r.count ≠ d.count → r.count < d.count
  /-- Whatever happens later, a round that is not current does nothing to the session until its
  end. -/
  outlived : ∀ r ∈ d.rounds, r.count ≠ d.count → ∀ script admission e,
    e.round? = some r.number →
      Faded (d.run script) r.number ((d.run script).Due e) ((d.run script).step admission e)

private theorem Sound.oneRound (h : d.Sound) : d.OneRound := by
  have older : ∀ r ∈ d.rounds, r.count ≠ d.count → r.count < d.count :=
    fun r there other => Nat.lt_of_le_of_ne (h.ordered.count_le r there) other
  constructor
  case apart =>
    rintro ⟨open_, discovering⟩
    rw [h.ordered.link_eq_none discovering] at open_
    cases open_
  case discovering_iff => exact h.ordered.discovering_iff
  case older => exact older
  case outlived =>
    intro r there other script admission e own
    have outdated : d.Outdated r.number := by
      refine ⟨h.ordered.number_lt r there, ?_⟩
      intro r' there' same
      rw [h.ordered.eq_of_mem there' there (.inl same)]
      exact older r there other
    exact (outdated.run script).ends admission e own

/-- At all times at most one round is current, and those that are not leave no trace. -/
theorem one_round_at_a_time {settings : Settings} {remote : Address}
    (created : create settings remote = .ok d)
    (script : List (Except SubmitError Unit × Event)) : (d.run script).OneRound := by
  obtain ⟨limit, rfl⟩ := create_eq_ok created
  exact ((Sound.blank remote limit).run script).oneRound

/-- A session without a link. -/
def unlinked : Discovery := { remote := .zero, queryLimit := 10000 }

/-- The link is closed under a round that waits for its answer, and opened again for another one. -/
def reopening : List (Except SubmitError Unit × Event) :=
  [(.ok (), .begin 0 .connect), (.ok (), .resume 0 (.opened (.opened 1))),
    (.ok (), .begin 1 .discover), (.ok (), .startRound 0), (.ok (), .begin 2 .disconnect),
    (.ok (), .begin 3 .connect), (.ok (), .resume 3 (.opened (.opened 2))),
    (.ok (), .begin 4 .discover)]

/-- A round has outlived its link while another runs on the link that followed. -/
theorem one_round_reopening :
    create {} unlinked.remote = .ok unlinked ∧ (unlinked.run reopening).OneRound ∧
      (unlinked.run reopening).rounds.map Round.count = [1, 3] ∧
      (unlinked.run reopening).count = 3 := by
  have created : create {} unlinked.remote = .ok unlinked := rfl
  have counts : (unlinked.run reopening).rounds.map Round.count = [1, 3] ∧
      (unlinked.run reopening).count = 3 := by decide +kernel
  exact ⟨created, one_round_at_a_time created reopening, counts⟩

end A2dpSink.Discovery
