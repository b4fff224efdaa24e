import A2dpSink.Proofs.Discovery.Findings

/-!
# How a round ends

A round comes to its end in one turn: when it holds the lock with what its query has found
(`Concludes`). Until then it hands nothing over and closes no link, and afterwards all that is left
to it is to wait until its link is closed (`Spent`). So what the turn does is all that a run ever
sees of the round. `rounds_end_once` says what a turn does in which the round is still current.
-/

namespace A2dpSink.Discovery

variable {d : Discovery} {n : Nat} {r : Round} {found : Findings} {e : Event}

/-! ### What a round does in a run -/

/-- The links that actions close. -/
def shutdowns (actions : List Action) : List LinkId :=
  actions.filterMap fun
    | .effect (.shutdown link) => some link
    | _ => none

/-- Closed links are counted action by action. -/
@[simp] theorem shutdowns_append (a b : List Action) :
    shutdowns (a ++ b) = shutdowns a ++ shutdowns b :=
  List.filterMap_append

/-- Reporting something closes no link. -/
@[simp] theorem shutdowns_log (lines : List Log.Line) : shutdowns (lines.map .log) = [] := by
  simp [shutdowns]

/-- Giving up the lock closes no link. -/
@[simp] theorem shutdowns_release (d : Discovery) : shutdowns d.release.2 = [] := by
  simp only [release]
  cases d.lock.release.holder <;> rfl

/-- What the round `n` does in a run. -/
def doings (d : Discovery) (n : Nat) : List (Except SubmitError Unit × Event) → List Action
  | [] => []
  | (admission, e) :: rest =>
    let o := d.step admission e
    (if e.round? = some n then o.actions else []) ++ o.session.doings n rest

private theorem run_append (d : Discovery) (first second : List (Except SubmitError Unit × Event)) :
    d.run (first ++ second) = (d.run first).run second := by
  induction first generalizing d with
  | nil => rfl
  | cons turn first ih => exact ih _

private theorem doings_append (d : Discovery) (n : Nat)
    (first second : List (Except SubmitError Unit × Event)) :
    d.doings n (first ++ second) = d.doings n first ++ (d.run first).doings n second := by
  induction first generalizing d with
  | nil => rfl
  | cons turn first ih => simp only [List.cons_append, doings, ih, List.append_assoc, run]

/-- Nothing is handed over, and no link is closed. -/
structure Idle (actions : List Action) : Prop where
  deliveries : deliveries actions = []
  shutdowns : shutdowns actions = []

private theorem Idle.nil : Idle [] := ⟨rfl, rfl⟩

private theorem Idle.append {a b : List Action} (first : Idle a) (second : Idle b) :
    Idle (a ++ b) where
  deliveries := by rw [deliveries_append, first.deliveries, second.deliveries]; rfl
  shutdowns := by rw [shutdowns_append, first.shutdowns, second.shutdowns]; rfl

private theorem Idle.log (lines : List Log.Line) : Idle (lines.map .log) :=
  ⟨deliveries_log lines, shutdowns_log lines⟩

/-! ### The turns of a round -/

/-- In this turn a round holds the lock with what its query has found. -/
inductive Concludes (d : Discovery) : Event → Round → Findings → Prop
  | answered {n : Nat} {r : Round} {result : Option Sdp.Result} : d.round? n = some r →
      r.stage = .querying → d.lock.isFree = true →
      Concludes d (.resumeRound n (.answered result)) r (findings result)
  | granted {n : Nat} {r : Round} {found : Findings} : d.round? n = some r →
      r.stage = .waiting found → d.lock.holder = some (.round n) →
      Concludes d (.resumeRound n .granted) r found

private theorem Concludes.there (h : d.Concludes e r found) : d.round? r.number = some r := by
  cases h with
  | answered there | granted there => rwa [(round?_eq_some there).2]

private theorem Concludes.round? (h : d.Concludes e r found) : e.round? = some r.number := by
  cases h with
  | answered there | granted there => rw [(round?_eq_some there).2, Event.round?]

private theorem Concludes.stage (h : d.Concludes e r found) : r.stage ≠ .closing := by
  cases h with
  | answered _ stage | granted _ stage => simp [stage]

/-- What is done in a turn in which a round holds the lock. -/
theorem Concludes.step_eq (h : d.Concludes e r found) (admission : Except SubmitError Unit) :
    ∃ (lock : Lock Party) (lines : List Log.Line), d.step admission e =
      { { d with lock }.conclude admission r found with
        actions := lines.map .log ++ ({ d with lock }.conclude admission r found).actions } := by
  cases h with
  | @answered n _ result there stage free =>
    refine ⟨d.lock.request (.round n), inspection result, ?_⟩
    simp only [step, resumeRound, there, stage, free, if_true]
  | granted there stage holder =>
    refine ⟨d.lock, [], ?_⟩
    simp only [step, resumeRound, there, stage, holder, if_true, List.map_nil, List.nil_append]

/-- What a turn of the round `n` may come to. -/
inductive Turned (d : Discovery) (n : Nat) : Event → Outcome → Prop
  | still {e : Event} : Turned d n e ⟨d, [], none⟩
  | querying {r : Round} (line : Log.Line) : d.round? n = some r → r.stage = .queued →
      Turned d n (.startRound n) ⟨d.setRound n (some .querying),
        [.log line, .effect (.query r.link d.queryLimit)], none⟩
  | waiting {r : Round} {result : Option Sdp.Result} (lock : Lock Party) (lines : List Log.Line) :
      d.round? n = some r → r.stage = .querying →
      Turned d n (.resumeRound n (.answered result))
        ⟨{ d with lock }.setRound n (some (.waiting (findings result))), lines.map .log, none⟩
  | concluding {e : Event} {r : Round} {found : Findings} {o : Outcome} : d.Concludes e r found →
      r.number = n → Turned d n e o
  | closed {r : Round} {outcome : CloseOutcome} : d.round? n = some r → r.stage = .closing →
      Turned d n (.resumeRound n (.closed outcome)) ⟨d.setRound n none, [], none⟩

private theorem step_turned (admission : Except SubmitError Unit) (own : e.round? = some n) :
    Turned d n e (d.step admission e) := by
  cases e with
  | begin | resume => cases own
  | startRound m =>
    obtain rfl := Option.some.inj own
    simp only [step, startRound]
    split
    · next there => exact .querying _ there rfl
    · exact .still
  | resumeRound m s =>
    obtain rfl := Option.some.inj own
    simp only [step, resumeRound]
    cases there : d.round? m with
    | none => exact .still
    | some r =>
      have number := (round?_eq_some there).2
      simp only
      split
      · next result stage =>
        split
        · next free => exact .concluding (.answered there stage free) number
        · exact .waiting _ _ there stage
      · next found stage =>
        split
        · next holder => exact .concluding (.granted there stage holder) number
        · exact .still
      · next stage => exact .closed there stage
      · exact .still

private theorem Turned.idle {o : Outcome} (h : Turned d n e o) :
    Idle o.actions ∨ ∃ r found, d.Concludes e r found ∧ r.number = n := by
  cases h with
  | still | closed => exact .inl .nil
  | querying => exact .inl ⟨rfl, rfl⟩
  | waiting lock lines => exact .inl (.log lines)
  | concluding concludes number => exact .inr ⟨_, _, concludes, number⟩

/-! ### The turns of others -/

private theorem round?_setRound_of_ne (d : Discovery) {m : Nat} (stage : Option RoundStage)
    (h : m ≠ n) : (d.setRound m stage).round? n = d.round? n := by
  cases stage with
  | none =>
    simp only [round?, setRound, List.find?_filter]
    congr 1
    funext r
    by_cases own : r.number = n <;> simp [own, Ne.symm h]
  | some stage =>
    have same : ∀ r : Round, ((if r.number = m then { r with stage } else r).number = n) ↔
        r.number = n := by
      intro r
      split <;> rfl
    simp only [round?, setRound, List.find?_map, Function.comp_def, same]
    cases found : d.rounds.find? fun r => decide (r.number = n) with
    | none => rfl
    | some r =>
      have number : r.number = n := by simpa using List.find?_some found
      rw [Option.map_some, if_neg (by rw [number]; exact Ne.symm h)]

private theorem Concluded.round?_of_ne {o : Outcome} (h : Concluded d r o) (other : r.number ≠ n) :
    o.session.round? n = d.round? n := by
  cases h with
  | outlived => exact round?_setRound_of_ne d (some .closing) other
  | reported => exact round?_setRound_of_ne d none other
  | failed => exact round?_setRound_of_ne d (some .closing) other

/-- A call leaves the rounds alone, but for a new one that it may add. -/
structure Added (d d' : Discovery) : Prop where
  old : ∀ n < d.nextRound, d'.round? n = d.round? n
  new : d'.nextRound = d.nextRound ∨
    d'.nextRound = d.nextRound + 1 ∧ (d.round? d.nextRound = none →
      ∃ r, d'.round? d.nextRound = some r ∧ r.stage = .queued)

private theorem Added.of_rounds_eq {d' : Discovery} (rounds : d'.rounds = d.rounds)
    (next : d'.nextRound = d.nextRound) : Added d d' :=
  ⟨fun n _ => by rw [round?, rounds, round?], .inl next⟩

private theorem Served.added {request : Request} {o : Outcome} (h : Served d n request o) :
    Added d o.session := by
  cases h with
  | scheduled link =>
    have rounds : ∀ m, (Outcome.session (endCall { d with
          link := none, discovering := true, nextRound := d.nextRound + 1
          rounds := d.rounds ++ [(⟨d.nextRound, d.count, link, .queued⟩ : Round)] } n
          [.schedule d.nextRound] .asked)).round? m =
        (d.round? m).or (if d.nextRound = m then
          some ⟨d.nextRound, d.count, link, .queued⟩ else none) := by
      intro m
      show (d.rounds ++ [_]).find? _ = _
      rw [List.find?_append, List.find?_singleton]
      simp [round?]
    constructor
    · intro m known
      rw [rounds, if_neg (Nat.ne_of_gt known), Option.or_none]
    · refine .inr ⟨rfl, fun absent => ?_⟩
      rw [rounds, if_pos rfl, absent]
      exact ⟨_, rfl, rfl⟩
  | _ => exact .of_rounds_eq rfl rfl

private theorem Resumed.added {o : Outcome} (h : Resumed d n o) : Added d o.session := by
  cases h with
  | served _ _ served => exact served.added
  | _ => exact .of_rounds_eq rfl rfl

private theorem Advanced.others {m : Nat} {o : Outcome} (h : Advanced d m o) (other : m ≠ n) :
    o.session.round? n = d.round? n ∧ o.session.nextRound = d.nextRound := by
  cases h with
  | still => exact ⟨rfl, rfl⟩
  | querying | closed => exact ⟨round?_setRound_of_ne _ _ other, rfl⟩
  | waiting => exact ⟨round?_setRound_of_ne _ _ other, rfl⟩
  | answered r lines there _ _ concluded =>
    rw [← (round?_eq_some there).2] at other
    refine ⟨(concluded.round?_of_ne other).trans rfl, ?_⟩
    cases concluded <;> rfl
  | granted r found there _ _ concluded =>
    rw [← (round?_eq_some there).2] at other
    refine ⟨concluded.round?_of_ne other, ?_⟩
    cases concluded <;> rfl

/-- In the turns of others a round stays as it is, and one that is new waits to be started. -/
theorem step_others (sound : d.Sound) (admission : Except SubmitError Unit)
    (other : e.round? ≠ some n) :
    (n < d.nextRound → (d.step admission e).session.round? n = d.round? n) ∧
      (d.nextRound ≤ n → n < (d.step admission e).session.nextRound →
        ∃ r, (d.step admission e).session.round? n = some r ∧ r.stage = .queued) := by
  have of_added : ∀ {o : Outcome}, Added d o.session →
      (n < d.nextRound → o.session.round? n = d.round? n) ∧
        (d.nextRound ≤ n → n < o.session.nextRound →
          ∃ r, o.session.round? n = some r ∧ r.stage = .queued) := by
    intro o added
    refine ⟨added.old n, fun fresh known => ?_⟩
    rcases added.new with same | ⟨next, new⟩
    · omega
    · obtain rfl : n = d.nextRound := by omega
      refine new ?_
      simp only [round?, List.find?_eq_none, decide_eq_true_eq]
      intro r there
      exact Nat.ne_of_lt (sound.ordered.number_lt r there)
  have of_advanced : ∀ {m : Nat} {o : Outcome}, Advanced d m o → m ≠ n →
      (n < d.nextRound → o.session.round? n = d.round? n) ∧
        (d.nextRound ≤ n → n < o.session.nextRound →
          ∃ r, o.session.round? n = some r ∧ r.stage = .queued) := by
    intro m o advanced differs
    obtain ⟨same, next⟩ := advanced.others differs
    exact ⟨fun _ => same, fun fresh known => by omega⟩
  cases e with
  | begin m request =>
    simp only [step]
    split
    · refine of_added ?_
      simp only [begin]
      split
      · have added := (perform_served { d with lock := d.lock.request (.call m) } admission m
          request).added
        exact ⟨added.old, added.new⟩
      · exact .of_rounds_eq rfl rfl
    · exact of_added (.of_rounds_eq rfl rfl)
  | resume m s => exact of_added (resume_resumed d admission m s).added
  | startRound m =>
    exact of_advanced (startRound_advanced d m) fun same => other (congrArg some same)
  | resumeRound m s =>
    exact of_advanced (resumeRound_advanced d admission m s) fun same => other (congrArg some same)

/-! ### Rounds that have had their turn -/

/-- The round `n` is over, but for the closing of its link. -/
structure Spent (d : Discovery) (n : Nat) : Prop where
  known : n < d.nextRound
  closing : ∀ r, d.round? n = some r → r.stage = .closing

private theorem Concluded.spent {o : Outcome} (h : Concluded d r o)
    (there : d.round? r.number = some r)
    (known : r.number < d.nextRound) : o.session.Spent r.number := by
  have closing : ∀ d' : Discovery, d'.round? r.number = some r → ∀ r',
      (d'.setRound r.number (some .closing)).round? r.number = some r' → r'.stage = .closing := by
    intro d' there' r' there''
    rw [round?_setRound_some there'] at there''
    cases there''
    rfl
  cases h with
  | outlived => exact ⟨known, closing _ there⟩
  | reported =>
    refine ⟨known, fun r' there' => ?_⟩
    have gone := round?_setRound_none { d with discovering := false, link := some r.link } r.number
    exact absurd (gone.symm.trans there') (by simp)
  | failed =>
    exact ⟨known, closing { d with discovering := false, count := d.count + 1 } there⟩

/-- The turn in which a round concludes is its last one, but for the closing of its link. -/
theorem Concludes.spent (h : d.Concludes e r found) (sound : d.Sound)
    (admission : Except SubmitError Unit) : (d.step admission e).session.Spent r.number := by
  obtain ⟨lock, lines, eq⟩ := h.step_eq admission
  have known := sound.ordered.number_lt r (round?_eq_some h.there).1
  have concluded := conclude_concluded { d with lock } admission r found
  rw [eq]
  exact concluded.spent h.there known

namespace Spent

/-- A round that is over stays over in a step. -/
theorem step (h : d.Spent n) (sound : d.Sound) (admission : Except SubmitError Unit) (e : Event) :
    (d.step admission e).session.Spent n := by
  refine ⟨Nat.lt_of_lt_of_le h.known (d.step_follows admission e).nextRound_le, ?_⟩
  by_cases own : e.round? = some n
  · have turned := step_turned admission own (d := d)
    generalize d.step admission e = o at turned
    cases turned with
    | still => exact h.closing
    | querying _ there stage | waiting _ _ there stage =>
      rw [h.closing _ there] at stage
      cases stage
    | concluding concludes number =>
      subst number
      exact absurd (h.closing _ concludes.there) concludes.stage
    | closed there stage =>
      intro r there'
      rw [round?_setRound_none] at there'
      cases there'
  · intro r there
    rw [(step_others sound admission own).1 h.known] at there
    exact h.closing r there

/-- A round that has become spent was so before, or has concluded. -/
theorem of_step (h : (d.step admission e).session.Spent n) (sound : d.Sound) :
    d.Spent n ∨ ∃ r found, d.Concludes e r found ∧ r.number = n := by
  by_cases own : e.round? = some n
  · have turned := step_turned admission own (d := d)
    generalize d.step admission e = o at turned h
    cases turned with
    | still => exact .inl h
    | querying _ there => exact nomatch h.closing _ (round?_setRound_some there .querying)
    | @waiting r result lock _ there =>
      exact nomatch h.closing _ (round?_setRound_some (d := { d with lock }) there
        (.waiting (findings result)))
    | concluding concludes number => exact .inr ⟨_, _, concludes, number⟩
    | closed there stage =>
      refine .inl ⟨h.known, fun r there' => ?_⟩
      rwa [Option.some.inj (there'.symm.trans there)]
  · obtain ⟨old, new⟩ := step_others sound admission own
    by_cases known : n < d.nextRound
    · exact .inl ⟨known, fun r there => h.closing r ((old known).trans there)⟩
    · obtain ⟨r, there, stage⟩ := new (Nat.le_of_not_lt known) h.known
      rw [h.closing r there] at stage
      cases stage

/-- A round that is over stays over in a run. -/
theorem run (h : d.Spent n) (sound : d.Sound)
    (script : List (Except SubmitError Unit × Event)) : (d.run script).Spent n := by
  induction script generalizing d with
  | nil => exact h
  | cons turn script ih => exact ih (h.step sound turn.1 turn.2) (sound.step turn.1 turn.2)

private theorem idle (h : d.Spent n) (admission : Except SubmitError Unit)
    (own : e.round? = some n) : Idle (d.step admission e).actions := by
  rcases (step_turned admission own (d := d)).idle with idle | ⟨r, found, concludes, rfl⟩
  · exact idle
  · exact absurd (h.closing r concludes.there) concludes.stage

/-- A spent round does nothing any more. -/
theorem doings (h : d.Spent n) (sound : d.Sound)
    (script : List (Except SubmitError Unit × Event)) : Idle (d.doings n script) := by
  induction script generalizing d with
  | nil => exact .nil
  | cons turn script ih =>
    refine .append ?_ (ih (h.step sound turn.1 turn.2) (sound.step turn.1 turn.2))
    split
    · next own => exact h.idle turn.1 own
    · exact .nil

/-- Whatever comes of the closing of its link, a spent round is over then. -/
theorem released (h : d.Spent n) (admission : Except SubmitError Unit) (outcome : CloseOutcome) :
    (d.step admission (.resumeRound n (.closed outcome))).session.round? n = none := by
  simp only [Discovery.step, resumeRound]
  cases there : d.round? n with
  | none => exact there
  | some r =>
    simp only [h.closing r there]
    exact round?_setRound_none d n

/-- A round that is spent in the end has concluded in some turn. -/
theorem concludes {script : List (Except SubmitError Unit × Event)} (h : (d.run script).Spent n)
    (fresh : ¬ d.Spent n) (sound : d.Sound) :
    ∃ before turn after r found, script = before ++ turn :: after ∧
      (d.run before).Concludes turn.2 r found ∧ r.number = n := by
  induction script generalizing d with
  | nil => exact absurd h fresh
  | cons turn script ih =>
    by_cases later : (d.step turn.1 turn.2).session.Spent n
    · rcases later.of_step sound with spent | ⟨r, found, concludes, number⟩
      · exact absurd spent fresh
      · exact ⟨[], turn, script, r, found, rfl, concludes, number⟩
    · obtain ⟨before, turn', after, r, found, rfl, concludes, number⟩ :=
        ih h later (sound.step turn.1 turn.2)
      exact ⟨turn :: before, turn', after, r, found, rfl, concludes, number⟩

end Spent

/-- A round that has not concluded has done nothing yet that could be told from outside. -/
theorem idle_of_not_spent (sound : d.Sound) {script : List (Except SubmitError Unit × Event)}
    (fresh : ¬ (d.run script).Spent n) : Idle (d.doings n script) := by
  induction script generalizing d with
  | nil => exact .nil
  | cons turn script ih =>
    have sound' := sound.step turn.1 turn.2
    refine .append ?_ (ih sound' fresh)
    split
    · next own =>
      rcases (step_turned turn.1 own (d := d)).idle with idle | ⟨r, found, concludes, rfl⟩
      · exact idle
      · exact absurd ((concludes.spent sound turn.1).run sound' script) fresh
    · exact .nil

/-! ### What a query has found -/

/-- In a turn of a run the query of the round `n` came back with this result. -/
def Answered (d : Discovery) (script : List (Except SubmitError Unit × Event)) (n : Nat)
    (result : Option Sdp.Result) : Prop :=
  ∃ before admission after r,
    script = before ++ (admission, .resumeRound n (.answered result)) :: after ∧
      (d.run before).round? n = some r ∧ r.stage = .querying

private theorem Answered.append {script : List (Except SubmitError Unit × Event)}
    {result : Option Sdp.Result} (h : d.Answered script n result)
    (more : List (Except SubmitError Unit × Event)) : d.Answered (script ++ more) n result := by
  obtain ⟨before, admission, after, r, rfl, there, stage⟩ := h
  exact ⟨before, admission, after ++ more, r, by simp, there, stage⟩

/-- A round waits for the lock with what the result of its query comes to. -/
theorem answered_of_waiting (sound : d.Sound) {script : List (Except SubmitError Unit × Event)}
    (there : (d.run script).round? n = some r) (stage : r.stage = .waiting found)
    (fresh : d.rounds = []) : ∃ result, d.Answered script n result ∧ found = findings result := by
  induction script using List.reverseRecOn generalizing r found with
  | nil => simp [run, round?, fresh] at there
  | append_singleton script turn ih =>
    obtain ⟨admission, e⟩ := turn
    have sound' := sound.run (script ++ [(admission, e)])
    have known : n < (d.run (script ++ [(admission, e)])).nextRound := by
      have less := sound'.ordered.number_lt r (round?_eq_some there).1
      rwa [(round?_eq_some there).2] at less
    simp only [run_append, run] at there known
    have earlier : ∀ {r' : Round}, (d.run script).round? n = some r' → r'.stage = .waiting found →
        ∃ result, d.Answered (script ++ [(admission, e)]) n result ∧ found = findings result := by
      intro r' there' stage'
      obtain ⟨result, answered, same⟩ := ih there' stage'
      exact ⟨result, answered.append _, same⟩
    by_cases own : e.round? = some n
    · have turned := step_turned admission own (d := d.run script)
      have concluded : ∀ {r' found'}, (d.run script).Concludes e r' found' → r'.number ≠ n := by
        rintro r' found' concludes rfl
        have closing := (concludes.spent (sound.run script) admission).closing r there
        rw [closing] at stage
        cases stage
      generalize (d.run script).step admission e = o at turned there
      cases turned with
      | still => exact earlier there stage
      | querying _ there' =>
        rw [round?_setRound_some there'] at there
        cases there
        cases stage
      | @waiting r' result lock _ there' stage' =>
        rw [round?_setRound_some (d := { d.run script with lock }) there'] at there
        cases there
        cases stage
        exact ⟨result, ⟨script, admission, [], r', rfl, there', stage'⟩, rfl⟩
      | concluding concludes number => exact absurd number (concluded concludes)
      | closed =>
        rw [round?_setRound_none] at there
        cases there
    · obtain ⟨old, new⟩ := step_others (sound.run script) admission own
      by_cases before : n < (d.run script).nextRound
      · exact earlier ((old before).symm.trans there) stage
      · obtain ⟨r', there', stage'⟩ := new (Nat.le_of_not_lt before) known
        rw [Option.some.inj (there.symm.trans there'), stage'] at stage
        cases stage

/-- What a round concludes with is what the result of its query comes to. -/
theorem Concludes.result {script : List (Except SubmitError Unit × Event)} (sound : d.Sound)
    (fresh : d.rounds = []) (h : (d.run script).Concludes e r found)
    (admission : Except SubmitError Unit) :
    ∃ result, d.Answered (script ++ [(admission, e)]) r.number result ∧
      found = findings result := by
  cases h with
  | @answered _ _ result there stage =>
    rw [(round?_eq_some there).2]
    exact ⟨result, ⟨script, admission, [], r, rfl, there, stage⟩, rfl⟩
  | granted there stage =>
    rw [(round?_eq_some there).2]
    obtain ⟨result, answered, same⟩ := answered_of_waiting sound there stage fresh
    exact ⟨result, answered.append _, same⟩

/-! ### The turn in which a current round concludes -/

/-- The services are handed over, and the link is given back. -/
structure Reported (o : Outcome) (r : Round) (services : List AudioService) : Prop where
  delivered : deliveries o.actions = [services]
  kept : shutdowns o.actions = []
  link : o.session.link = some r.link
  idle : o.session.discovering = false
  gone : o.session.round? r.number = none

/-- Nothing is handed over, and the link is closed. -/
structure Withdrawn (o : Outcome) (r : Round) : Prop where
  quiet : deliveries o.actions = []
  closes : shutdowns o.actions = [r.link]
  idle : o.session.isBusy = false

/-- A current round reports what it has found if that is accepted, and closes its link otherwise. -/
theorem conclude_current (ordered : d.Ordered) (there : r ∈ d.rounds) (current : r.count = d.count)
    (admission : Except SubmitError Unit) (found : Findings) :
    (∃ services, found = .ok services ∧ admission = .ok () ∧
        Reported (d.conclude admission r found) r services) ∨
      (∀ services, found = .ok services → ∃ e, admission = .error e) ∧
        Withdrawn (d.conclude admission r found) r := by
  have unlinked := ordered.link_eq_none (ordered.discovering r there current)
  have withdrawn : ∀ lines : List Log.Line, Withdrawn ({ d with
      discovering := false, count := d.count + 1 }.closeRound r (lines.map .log) []) r := by
    intro lines
    constructor
    · simp only [closeRound, deliveries_append, deliveries_log, deliveries_release]
      rfl
    · simp only [closeRound, shutdowns_append, shutdowns_log, shutdowns_release]
      rfl
    · exact isBusy_eq_false_iff.mpr ⟨unlinked, rfl⟩
  simp only [conclude, if_neg (not_not_intro current.symm)]
  cases found with
  | error e =>
    refine .inr ⟨?_, withdrawn [_]⟩
    intro services found
    cases found
  | ok services =>
    cases admission with
    | error e => exact .inr ⟨fun _ _ => ⟨e, rfl⟩, withdrawn [_, _]⟩
    | ok u =>
      refine .inl ⟨services, rfl, rfl, ?_, ?_, rfl, rfl, round?_setRound_none _ _⟩
      · simp only [deliveries_append, deliveries_release]
        rfl
      · simp only [shutdowns_append, shutdowns_release]
        rfl

/-- The lines of a round that has to look through its result make no difference. -/
theorem Concludes.current (h : d.Concludes e r found) (sound : d.Sound) (current : r.count = d.count)
    (admission : Except SubmitError Unit) :
    (∃ services, found = .ok services ∧ admission = .ok () ∧
        Reported (d.step admission e) r services) ∨
      (∀ services, found = .ok services → ∃ e, admission = .error e) ∧
        Withdrawn (d.step admission e) r := by
  obtain ⟨lock, lines, eq⟩ := h.step_eq admission
  have there := (round?_eq_some h.there).1
  have ordered : Ordered { d with lock } := sound.ordered.same rfl rfl rfl rfl rfl
  rw [eq]
  rcases conclude_current ordered there current admission found with
    ⟨services, found, accepted, reported⟩ | ⟨reason, withdrawn⟩
  · refine .inl ⟨services, found, accepted, ?_, ?_, reported.link, reported.idle, reported.gone⟩
    · rw [deliveries_append, deliveries_log, reported.delivered, List.nil_append]
    · rw [shutdowns_append, shutdowns_log, reported.kept, List.nil_append]
  · refine .inr ⟨reason, ?_, ?_, withdrawn.idle⟩
    · rw [deliveries_append, deliveries_log, withdrawn.quiet, List.nil_append]
    · rw [shutdowns_append, shutdowns_log, withdrawn.closes, List.nil_append]

/-- A session that is not busy does not take a connection for open. -/
theorem begin_connect_ne (idle : d.isBusy = false) (admission : Except SubmitError Unit) (m : Nat) :
    (d.begin admission m .connect).reply ≠ some (.connected (.error .alreadyOpen)) := by
  have still : Discovery.isBusy { d with lock := d.lock.request (.call m) } = false := idle
  simp only [begin, perform, still]
  split <;> simp

/-! ### Runs -/

/-- What becomes of a round that concludes in a turn of a run with this result of its query. -/
inductive Ending (d : Discovery) (before : List (Except SubmitError Unit × Event))
    (turn : Except SubmitError Unit × Event) (after : List (Except SubmitError Unit × Event))
    (r : Round) (result : Option Sdp.Result) : Prop
  /-- It hands over the services of the sinks, once and in their order, and gives the link back. -/
  | reported {records : List Sdp.Record} (answered : result = some (.ok records))
      (nonempty : sinks records ≠ []) (accepted : turn.1 = .ok ())
      (delivered : deliveries (d.doings r.number (before ++ turn :: after)) =
        [(sinks records).map AudioService.ofRecord])
      (kept : shutdowns (d.doings r.number (before ++ turn :: after)) = [])
      (now : Reported ((d.run before).step turn.1 turn.2) r
        ((sinks records).map AudioService.ofRecord))
  /-- It hands nothing over, then or later, and closes its link, once. The session may open a new
  link at once, and the round is over when its link is closed, whatever comes of that. -/
  | withdrawn (reason : ∀ records, result = some (.ok records) → sinks records ≠ [] →
        ∃ e, turn.1 = .error e)
      (quiet : deliveries (d.doings r.number (before ++ turn :: after)) = [])
      (closes : shutdowns (d.doings r.number (before ++ turn :: after)) = [r.link])
      (now : Withdrawn ((d.run before).step turn.1 turn.2) r)
      (connects : ∀ admission m, (((d.run before).step turn.1 turn.2).session.begin admission m
        .connect).reply ≠ some (.connected (.error .alreadyOpen)))
      (released : ∀ admission outcome, ((d.run (before ++ turn :: after)).step admission
        (.resumeRound r.number (.closed outcome))).session.round? r.number = none)

/-- What a round does outside of the turn in which it concludes cannot be told. -/
theorem Concludes.doings {before : List (Except SubmitError Unit × Event)} (sound : d.Sound)
    (h : (d.run before).Concludes e r found) (admission : Except SubmitError Unit)
    (after : List (Except SubmitError Unit × Event)) :
    deliveries (d.doings r.number (before ++ (admission, e) :: after)) =
        deliveries ((d.run before).step admission e).actions ∧
      shutdowns (d.doings r.number (before ++ (admission, e) :: after)) =
        shutdowns ((d.run before).step admission e).actions := by
  have fresh : ¬ (d.run before).Spent r.number :=
    fun spent => h.stage (spent.closing r h.there)
  have sound' := sound.run before
  have earlier := idle_of_not_spent sound fresh
  have later := (h.spent sound' admission).doings (sound'.step admission e) after
  rw [doings_append, Discovery.doings, if_pos h.round?]
  constructor
  · simp only [deliveries_append, earlier.deliveries, later.deliveries, List.append_nil,
      List.nil_append]
  · simp only [shutdowns_append, earlier.shutdowns, later.shutdowns, List.append_nil,
      List.nil_append]

private theorem Concludes.ending {before : List (Except SubmitError Unit × Event)} (sound : d.Sound)
    (fresh : d.rounds = []) (h : (d.run before).Concludes e r found)
    (current : r.count = (d.run before).count) (admission : Except SubmitError Unit)
    (after : List (Except SubmitError Unit × Event)) :
    ∃ result, d.Answered (before ++ [(admission, e)]) r.number result ∧
      d.Ending before (admission, e) after r result := by
  obtain ⟨result, answered, rfl⟩ := h.result sound fresh admission
  refine ⟨result, answered, ?_⟩
  have sound' := sound.run before
  have whole := h.doings sound admission after
  rcases h.current sound' current admission with
    ⟨services, found, accepted, reported⟩ | ⟨reason, withdrawn⟩
  · obtain ⟨records, rfl, nonempty, rfl⟩ := findings_eq_ok.mp found
    exact .reported rfl nonempty accepted (whole.1.trans reported.delivered)
      (whole.2.trans reported.kept) reported
  · have spent : (d.run (before ++ (admission, e) :: after)).Spent r.number := by
      rw [run_append]
      exact (h.spent sound' admission).run (sound'.step admission e) after
    refine .withdrawn ?_ (whole.1.trans withdrawn.quiet) (whole.2.trans withdrawn.closes)
      withdrawn (begin_connect_ne withdrawn.idle) spent.released
    intro records answer nonempty
    exact reason _ (findings_eq_ok.mpr ⟨records, answer, nonempty, rfl⟩)

/-- A round reports once or closes its link, never both and never neither. In every run of calls
and rounds on a session, a round that concludes while it is current does so with the result that
its query came back with. If that has records of sinks and the report is accepted as a job, the
services of these records are handed over, once and in their order, and the link is given back;
otherwise nothing is ever handed over and the link is closed. A round that is over has
concluded. -/
theorem rounds_end_once {settings : Settings} {remote : Address}
    (created : create settings remote = .ok d) :
    (∀ before turn after r found, (d.run before).Concludes turn.2 r found →
      r.count = (d.run before).count →
      ∃ result, d.Answered (before ++ [turn]) r.number result ∧
        d.Ending before turn after r result) ∧
    ∀ script n, n < (d.run script).nextRound → (d.run script).round? n = none →
      ∃ before turn after r found, script = before ++ turn :: after ∧
        (d.run before).Concludes turn.2 r found ∧ r.number = n := by
  obtain ⟨limit, rfl⟩ := create_eq_ok created
  have sound := Sound.blank remote limit
  constructor
  · rintro before ⟨admission, e⟩ after r found concludes current
    exact concludes.ending sound rfl current admission after
  · intro script n known gone
    have spent : Spent (Discovery.run _ script) n :=
      ⟨known, fun r there => nomatch gone.symm.trans there⟩
    exact spent.concludes (fun before => absurd before.known (Nat.not_lt_zero n)) sound

/-- A round finds a sink that another record stands in front of, and reports it. -/
theorem rounds_end_once_found :
    let sink : Sdp.Record := ⟨none, [ServiceClass.audioSink], [], [], []⟩
    let source : Sdp.Record := ⟨none, [ServiceClass.audioSource], [], [], []⟩
    let before : List (Except SubmitError Unit × Event) :=
      [(.ok (), .begin 0 .connect), (.ok (), .resume 0 (.opened (.opened 1))),
        (.ok (), .begin 1 .discover), (.ok (), .startRound 0)]
    let turn : Except SubmitError Unit × Event :=
      (.ok (), .resumeRound 0 (.answered (some (.ok [source, sink]))))
    create {} unlinked.remote = .ok unlinked ∧
      (unlinked.run before).Concludes turn.2 ⟨0, 1, 1, .querying⟩ (findings
        (some (.ok [source, sink]))) ∧ (unlinked.run before).count = 1 ∧
      unlinked.Ending before turn [] ⟨0, 1, 1, .querying⟩ (some (.ok [source, sink])) := by
  intro sink source before turn
  have created : create {} unlinked.remote = .ok unlinked := rfl
  have concludes : (unlinked.run before).Concludes turn.2 ⟨0, 1, 1, .querying⟩
      (findings (some (.ok [source, sink]))) := .answered rfl rfl rfl
  obtain ⟨result, ⟨_, accepted, _, r, same, -⟩, ending⟩ :=
    (rounds_end_once created).1 before turn [] _ _ concludes rfl
  have answer : (accepted, .resumeRound 0 (.answered result)) ∈ before ++ [turn] := by
    rw [same]
    exact List.mem_append_right _ List.mem_cons_self
  obtain ⟨-, rfl⟩ : accepted = .ok () ∧ result = some (.ok [source, sink]) := by
    simpa [before, turn] using answer
  exact ⟨created, concludes, rfl, ending⟩

end A2dpSink.Discovery
