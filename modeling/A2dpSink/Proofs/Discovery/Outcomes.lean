import A2dpSink.Discovery

/-!
# What may come of a call and of a round

For each place where a session branches there is one relation that lists what may come of it:
`Served` for a call that holds the lock, `Resumed` for a call that goes on, `Concluded` for a round
that holds the lock and `Advanced` for a round that goes on. Facts about sessions are proved by
going through these lists.
-/

namespace A2dpSink.Discovery

/-! ### New sessions -/

/-- A session begins with nothing but the device and the limit of its queries. -/
theorem create_eq_ok {d : Discovery} {settings : Settings} {remote : Address}
    (created : create settings remote = .ok d) : ∃ limit, d = { remote, queryLimit := limit } := by
  unfold create at created
  cases limit : settings.discoveryTimeout with
  | error e => simp [limit, Except.map] at created
  | ok limit' =>
    simp only [limit, Except.map, Except.ok.injEq] at created
    exact ⟨limit', created.symm⟩

/-! ### Calls and rounds by number -/

/-- A call that goes to a place is there. -/
@[simp] theorem callStage?_setCall_self (d : Discovery) (n : Nat) (stage : Option CallStage) :
    (d.setCall n stage).callStage? n = stage := by
  have gone : (d.calls.filter fun c => c.1 ≠ n).lookup n = none := by
    rw [List.lookup_eq_none_iff]
    intro c there
    have other := (List.mem_filter.mp there).2
    simp only [ne_eq, decide_not, Bool.not_eq_eq_eq_not, Bool.not_true,
      decide_eq_false_iff_not] at other
    simpa using Ne.symm other
  cases stage with
  | none => exact gone
  | some s => simp [callStage?, setCall]

/-- Moving a call leaves the others alone. -/
theorem callStage?_setCall_of_ne (d : Discovery) {n m : Nat} (stage : Option CallStage)
    (h : m ≠ n) : (d.setCall n stage).callStage? m = d.callStage? m := by
  have others : (d.calls.filter fun c => c.1 ≠ n).lookup m = d.calls.lookup m := by
    generalize d.calls = calls
    induction calls with
    | nil => rfl
    | cons c calls ih =>
      obtain ⟨k, s⟩ := c
      by_cases own : k = n
      · subst own
        have differs : (m == k) = false := by simpa using h
        rw [List.filter_cons_of_neg (by simp), ih, List.lookup_cons, differs]
      · rw [List.filter_cons_of_pos (by simpa using own), List.lookup_cons, List.lookup_cons, ih]
  cases stage with
  | none => exact others
  | some s =>
    have differs : (m == n) = false := by simpa using h
    simp only [callStage?, setCall, List.lookup_cons, differs]
    exact others

section Setting

variable (d : Discovery) (n : Nat) (call : Option CallStage) (round : Option RoundStage)

/-- Moving a call leaves the lock alone. -/
@[simp] theorem lock_setCall : (d.setCall n call).lock = d.lock := rfl

/-- Moving a call leaves the link alone. -/
@[simp] theorem link_setCall : (d.setCall n call).link = d.link := rfl

/-- Moving a call does not count as a change of the link. -/
@[simp] theorem count_setCall : (d.setCall n call).count = d.count := rfl

/-- Moving a call starts and ends no discovery. -/
@[simp] theorem discovering_setCall : (d.setCall n call).discovering = d.discovering := rfl

/-- Moving a call leaves the rounds alone. -/
@[simp] theorem rounds_setCall : (d.setCall n call).rounds = d.rounds := rfl

/-- Moving a call uses up no number of a round. -/
@[simp] theorem nextRound_setCall : (d.setCall n call).nextRound = d.nextRound := rfl

/-- Moving a round leaves the lock alone. -/
@[simp] theorem lock_setRound : (d.setRound n round).lock = d.lock := rfl

/-- Moving a round leaves the link alone. -/
@[simp] theorem link_setRound : (d.setRound n round).link = d.link := rfl

/-- Moving a round does not count as a change of the link. -/
@[simp] theorem count_setRound : (d.setRound n round).count = d.count := rfl

/-- Moving a round starts and ends no discovery. -/
@[simp] theorem discovering_setRound : (d.setRound n round).discovering = d.discovering := rfl

/-- Moving a round leaves the calls alone. -/
@[simp] theorem callStage?_setRound (m : Nat) :
    (d.setRound n round).callStage? m = d.callStage? m := rfl

/-- Moving a round uses up no number. -/
@[simp] theorem nextRound_setRound : (d.setRound n round).nextRound = d.nextRound := rfl

/-- Whoever gives up the lock hands it on. -/
@[simp] theorem lock_release : d.release.1.lock = d.lock.release := rfl

/-- Giving up the lock leaves the link alone. -/
@[simp] theorem link_release : d.release.1.link = d.link := rfl

/-- Giving up the lock does not count as a change of the link. -/
@[simp] theorem count_release : d.release.1.count = d.count := rfl

/-- Giving up the lock starts and ends no discovery. -/
@[simp] theorem discovering_release : d.release.1.discovering = d.discovering := rfl

/-- Giving up the lock leaves the calls alone. -/
@[simp] theorem callStage?_release (m : Nat) : d.release.1.callStage? m = d.callStage? m := rfl

/-- Giving up the lock leaves the rounds alone. -/
@[simp] theorem rounds_release : d.release.1.rounds = d.rounds := rfl

/-- Giving up the lock uses up no number of a round. -/
@[simp] theorem nextRound_release : d.release.1.nextRound = d.nextRound := rfl

end Setting

/-- When a round has gone to a place, the others are where they were. -/
theorem mem_setRound_some {d : Discovery} {n : Nat} {stage : RoundStage} {r : Round} :
    r ∈ (d.setRound n (some stage)).rounds ↔
      ∃ r' ∈ d.rounds, (if r'.number = n then { r' with stage } else r') = r := by
  simp [setRound, List.mem_map]

/-- When a round is over, the others are where they were. -/
theorem mem_setRound_none {d : Discovery} {n : Nat} {r : Round} :
    r ∈ (d.setRound n none).rounds ↔ r ∈ d.rounds ∧ r.number ≠ n := by
  simp [setRound, List.mem_filter]

/-- A round is found under its number. -/
theorem round?_eq_some {d : Discovery} {n : Nat} {r : Round} (h : d.round? n = some r) :
    r ∈ d.rounds ∧ r.number = n := by
  constructor
  · exact List.mem_of_find?_eq_some h
  · simpa using List.find?_some h

/-- A session is busy while it has a link or discovers. -/
theorem isBusy_eq_false_iff {d : Discovery} :
    d.isBusy = false ↔ d.link = none ∧ d.discovering = false := by
  simp [isBusy]

/-- What a call at a given place was asked for. -/
def CallStage.request : CallStage → Request
  | .waiting r => r
  | .opening => .connect
  | .closing => .disconnect

/-- The services that actions hand over. -/
def deliveries (actions : List Action) : List (List AudioService) :=
  actions.filterMap fun
    | .deliver services => some services
    | _ => none

/-- Deliveries are counted action by action. -/
@[simp] theorem deliveries_append (a b : List Action) :
    deliveries (a ++ b) = deliveries a ++ deliveries b :=
  List.filterMap_append

/-- Reporting something delivers nothing. -/
@[simp] theorem deliveries_log (lines : List Log.Line) : deliveries (lines.map .log) = [] := by
  simp [deliveries]

/-- Giving up the lock delivers nothing. -/
@[simp] theorem deliveries_release (d : Discovery) : deliveries d.release.2 = [] := by
  simp only [release]
  cases d.lock.release.holder <;> rfl

/-- Giving up the lock has no effect on the link. -/
@[simp] theorem effect_not_mem_release (d : Discovery) (e : Effect) :
    Action.effect e ∉ d.release.2 := by
  simp only [release]
  cases d.lock.release.holder <;> simp

/-! ### Calls -/

/-- What may come of a call that holds the lock. -/
inductive Served (d : Discovery) (n : Nat) : Request → Outcome → Prop
  | told : Served d n .isOpen (d.endCall n [] (.isOpen d.isBusy))
  | refused : d.isBusy = true →
      Served d n .connect (d.endCall n [] (.connected (.error .alreadyOpen)))
  | opening : d.isBusy = false →
      Served d n .connect ⟨d.setCall n (some .opening), [.effect (.connect Sdp.psm)], none⟩
  | unlinked (lines : List Log.Line) : d.link = none →
      Served d n .disconnect ({ d with count := d.count + 1, discovering := false }.endCall n
        (lines.map .log) (.disconnected (.ok ())))
  | closing (lines : List Log.Line) (link : LinkId) : d.link = some link →
      Served d n .disconnect
        ⟨{ d with count := d.count + 1, discovering := false, link := none }.setCall n
          (some .closing), lines.map .log ++ [.effect (.shutdown link)], none⟩
  | pointless (line : Log.Line) : d.discovering = true ∨ d.link = none →
      Served d n .discover (d.endCall n [.log line] .asked)
  | scheduled (link : LinkId) : d.discovering = false → d.link = some link →
      Served d n .discover
        ({ d with
          link := none, discovering := true, nextRound := d.nextRound + 1
          rounds := d.rounds ++ [(⟨d.nextRound, d.count, link, .queued⟩ : Round)] }.endCall n
            [.schedule d.nextRound] .asked)
  | rejected (link : LinkId) (line : Log.Line) : d.discovering = false → d.link = some link →
      Served d n .discover ({ d with link := none }.endCall n [.log line] .asked)

/-- All that may come of a call that holds the lock is in `Served`. -/
theorem perform_served (d : Discovery) (admission : Except SubmitError Unit) (n : Nat)
    (r : Request) : Served d n r (d.perform admission n r) := by
  cases r with
  | isOpen => exact .told
  | connect =>
    simp only [perform]
    by_cases busy : d.isBusy = true
    · rw [if_pos busy]
      exact .refused busy
    · rw [if_neg busy]
      exact .opening (by simpa using busy)
  | disconnect =>
    have abandoned : ∃ lines : List Log.Line, (if d.discovering then
        [Action.log (.sdp .debug "abandoning discovery in progress")] else []) =
          lines.map .log := by
      split
      · exact ⟨[_], rfl⟩
      · exact ⟨[], rfl⟩
    obtain ⟨lines, abandoned⟩ := abandoned
    simp only [perform, abandoned]
    split
    · next link => exact .unlinked lines link
    · next l link => exact .closing lines l link
  | discover =>
    simp only [perform]
    by_cases discovering : d.discovering = true
    · rw [if_pos discovering]
      exact .pointless _ (.inl discovering)
    · rw [if_neg discovering]
      rw [Bool.not_eq_true] at discovering
      split
      · next link => exact .pointless _ (.inr link)
      · next l link =>
        split
        · exact .scheduled l discovering link
        · exact .rejected l _ discovering link

/-- What may come of a call that goes on. -/
inductive Resumed (d : Discovery) (n : Nat) : Outcome → Prop
  | still : Resumed d n ⟨d, [], none⟩
  | served {r : Request} {o : Outcome} : d.callStage? n = some (.waiting r) →
      d.lock.holder = some (.call n) → Served d n r o → Resumed d n o
  | opened (link : LinkId) (line : Log.Line) : d.callStage? n = some .opening →
      Resumed d n ({ d with link := some link, count := d.count + 1 }.endCall n [.log line]
        (.connected (.ok ())))
  | unopened (e : OpenError) (line : Log.Line) : d.callStage? n = some .opening →
      Resumed d n (d.endCall n [.log line] (.connected (.error e)))
  | closed (r : Except CloseError Unit) (line : Log.Line) : d.callStage? n = some .closing →
      Resumed d n (d.endCall n [.log line] (.disconnected r))

/-- All that may come of a call that goes on is in `Resumed`. -/
theorem resume_resumed (d : Discovery) (admission : Except SubmitError Unit) (n : Nat)
    (s : Signal) : Resumed d n (d.resume admission n s) := by
  unfold resume
  split
  · next r stage =>
    split
    · next holder => exact .served stage holder (perform_served d admission n r)
    · exact .still
  · next stage =>
    split
    · exact .opened _ _ stage
    · exact .unopened _ _ stage
  · next stage =>
    split
    · exact .closed _ _ stage
    · exact .closed _ _ stage
  · exact .still

/-! ### Rounds -/

/-- What may come of a round that holds the lock. -/
inductive Concluded (d : Discovery) (r : Round) : Outcome → Prop
  | outlived (line : Log.Line) : d.count ≠ r.count →
      Concluded d r (d.closeRound r [] [.log line])
  | reported (offer : Log.Line) (services : List AudioService) : d.count = r.count →
      Concluded d r
        ⟨({ d with discovering := false, link := some r.link }.setRound r.number none).release.1,
          [.log offer, .deliver services] ++
            ({ d with discovering := false, link := some r.link }.setRound
              r.number none).release.2, none⟩
  | failed (lines : List Log.Line) : d.count = r.count →
      Concluded d r
        ({ d with discovering := false, count := d.count + 1 }.closeRound r (lines.map .log) [])

/-- All that may come of a round that holds the lock is in `Concluded`. -/
theorem conclude_concluded (d : Discovery) (admission : Except SubmitError Unit) (r : Round)
    (found : Findings) : Concluded d r (d.conclude admission r found) := by
  simp only [conclude]
  by_cases current : d.count = r.count
  · rw [if_neg (not_not_intro current)]
    cases found with
    | error e => exact .failed [_] current
    | ok services =>
      cases admission with
      | ok u => exact .reported _ services current
      | error e => exact .failed [_, _] current
  · rw [if_pos current]
    exact .outlived _ current

/-- What may come of a round that goes on. -/
inductive Advanced (d : Discovery) (n : Nat) : Outcome → Prop
  | still : Advanced d n ⟨d, [], none⟩
  | querying (r : Round) (line : Log.Line) : d.round? n = some r → r.stage = .queued →
      Advanced d n ⟨d.setRound n (some .querying),
        [.log line, .effect (.query r.link d.queryLimit)], none⟩
  | waiting (r : Round) (found : Findings) (lines : List Log.Line) : d.round? n = some r →
      r.stage = .querying → d.lock.isFree = false →
      Advanced d n ⟨{ d with lock := d.lock.request (.round n) }.setRound n
        (some (.waiting found)), lines.map .log, none⟩
  | answered (r : Round) (lines : List Log.Line) {o : Outcome} : d.round? n = some r →
      r.stage = .querying → d.lock.isFree = true →
      Concluded { d with lock := d.lock.request (.round n) } r o →
      Advanced d n { o with actions := lines.map .log ++ o.actions }
  | granted (r : Round) (found : Findings) {o : Outcome} : d.round? n = some r →
      r.stage = .waiting found → d.lock.holder = some (.round n) → Concluded d r o →
      Advanced d n o
  | closed (r : Round) : d.round? n = some r → r.stage = .closing →
      Advanced d n ⟨d.setRound n none, [], none⟩

/-- A round that starts hands nothing over yet. -/
theorem deliveries_startRound (d : Discovery) (n : Nat) :
    deliveries (d.startRound n).actions = [] := by
  unfold startRound
  split <;> rfl

/-- All that may come of a round that starts is in `Advanced`. -/
theorem startRound_advanced (d : Discovery) (n : Nat) : Advanced d n (d.startRound n) := by
  unfold startRound
  split
  · next number count link there => exact .querying _ _ there rfl
  · exact .still

/-- All that may come of a round that goes on is in `Advanced`. -/
theorem resumeRound_advanced (d : Discovery) (admission : Except SubmitError Unit) (n : Nat)
    (s : Signal) : Advanced d n (d.resumeRound admission n s) := by
  unfold resumeRound
  cases there : d.round? n with
  | none => exact .still
  | some r =>
    simp only
    split
    · next result stage =>
      split
      · next free =>
        exact .answered r _ there stage free (conclude_concluded _ admission r _)
      · next taken =>
        exact .waiting r _ _ there stage (by simpa using taken)
    · next found stage =>
      split
      · next holder =>
        exact .granted r found there stage holder (conclude_concluded d admission r found)
      · exact .still
    · next stage => exact .closed r there stage
    · exact .still

end A2dpSink.Discovery
