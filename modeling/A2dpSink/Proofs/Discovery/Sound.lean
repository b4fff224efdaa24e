import A2dpSink.Proofs.Discovery.Outcomes
import A2dpSink.Proofs.Lock

/-!
# Sound sessions

`Ordered` is about the rounds of a session: later rounds have higher numbers and counts, and one of
them is current when the session says that a round uses its link, which it then does not hold
itself. `Sound` adds the lock: a call that opens or closes the link holds it, and so nothing else
touches the link. Every step keeps sessions sound.
-/

namespace A2dpSink.Discovery

variable {d : Discovery} {n : Nat}

/-- The rounds go with the rest of the session. -/
structure Ordered (d : Discovery) : Prop where
  sorted : d.rounds.Pairwise fun r r' => r.number < r'.number ∧ r.count < r'.count
  number_lt : ∀ r ∈ d.rounds, r.number < d.nextRound
  count_le : ∀ r ∈ d.rounds, r.count ≤ d.count
  /-- A round that closes its link is not current. -/
  count_lt : ∀ r ∈ d.rounds, r.stage = .closing → r.count < d.count
  discovering : ∀ r ∈ d.rounds, r.count = d.count → d.discovering = true
  current : d.discovering = true → ∃ r ∈ d.rounds, r.count = d.count
  link_eq_none : d.discovering = true → d.link = none

/-- Whoever holds the lock or waits for it is there. -/
def Present (d : Discovery) : Party → Prop
  | .call n => ∃ stage, d.callStage? n = some stage
  | .round n => ∃ r ∈ d.rounds, r.number = n ∧ ∃ found, r.stage = .waiting found

/-- A call opens or closes the link. -/
def Linking (d : Discovery) (n : Nat) : Prop :=
  d.callStage? n = some .opening ∨ d.callStage? n = some .closing

/-- What holds of every session between its steps. -/
structure Sound (d : Discovery) : Prop where
  ordered : d.Ordered
  lock : d.lock.Sound
  present : ∀ p ∈ d.lock.parties, d.Present p
  linking : ∀ n, d.Linking n → d.lock.holder = some (.call n) ∧ d.isBusy = false

/-- What holds while somebody makes use of the lock. -/
structure Held (d : Discovery) (p : Party) : Prop where
  ordered : d.Ordered
  lock : d.lock.Sound
  holder : d.lock.holder = some p
  present : ∀ q ∈ d.lock.waiting, d.Present q
  linking : ∀ m, d.Linking m → p = .call m

/-! ### Changes of the rounds -/

namespace Ordered

/-- Rounds stay in order while nothing they go with changes. -/
theorem same (h : d.Ordered) {d' : Discovery} (rounds : d'.rounds = d.rounds)
    (nextRound : d'.nextRound = d.nextRound) (count : d'.count = d.count)
    (discovering : d'.discovering = d.discovering) (link : d'.link = d.link) : d'.Ordered := by
  obtain ⟨sorted, number_lt, count_le, count_lt, current, discovering', link'⟩ := h
  constructor
  all_goals simp only [rounds, nextRound, count, discovering, link]
  all_goals assumption

/-- Rounds go on to other places. One that closes its link may not be current. -/
theorem setRound_some (h : d.Ordered) {stage : RoundStage}
    (late : stage = .closing → ∀ r ∈ d.rounds, r.number = n → r.count < d.count) :
    (d.setRound n (some stage)).Ordered := by
  have old : ∀ r ∈ (d.setRound n (some stage)).rounds, ∃ r' ∈ d.rounds,
      r.number = r'.number ∧ r.count = r'.count ∧
        (r.number = n ∧ r.stage = stage ∨ r.stage = r'.stage) := by
    intro r there
    obtain ⟨r', there', rfl⟩ := mem_setRound_some.mp there
    refine ⟨r', there', ?_⟩
    split
    · next own => exact ⟨rfl, rfl, .inl ⟨own, rfl⟩⟩
    · exact ⟨rfl, rfl, .inr rfl⟩
  constructor
  · refine List.Pairwise.map _ (fun r r' less => ?_) h.sorted
    split <;> split <;> exact less
  · intro r there
    obtain ⟨r', there', number, -, -⟩ := old r there
    rw [number]
    exact h.number_lt r' there'
  · intro r there
    obtain ⟨r', there', -, count, -⟩ := old r there
    rw [count]
    exact h.count_le r' there'
  · intro r there closing
    obtain ⟨r', there', number, count, own | same⟩ := old r there
    · rw [count]
      exact late (own.2.symm.trans closing) r' there' (number.symm.trans own.1)
    · rw [count]
      exact h.count_lt r' there' (same.symm.trans closing)
  · intro r there
    obtain ⟨r', there', -, count, -⟩ := old r there
    rw [count]
    exact h.discovering r' there'
  · intro discovering
    obtain ⟨r, there, current⟩ := h.current discovering
    exact ⟨_, mem_setRound_some.mpr ⟨r, there, rfl⟩, by split <;> exact current⟩
  · exact h.link_eq_none

/-- A round that is not current goes away. -/
theorem setRound_none (h : d.Ordered) (late : ∀ r ∈ d.rounds, r.number = n → r.count < d.count) :
    (d.setRound n none).Ordered := by
  constructor
  · exact h.sorted.filter _
  · intro r there
    exact h.number_lt r (mem_setRound_none.mp there).1
  · intro r there
    exact h.count_le r (mem_setRound_none.mp there).1
  · intro r there
    exact h.count_lt r (mem_setRound_none.mp there).1
  · intro r there
    exact h.discovering r (mem_setRound_none.mp there).1
  · intro discovering
    obtain ⟨r, there, current⟩ := h.current discovering
    refine ⟨r, mem_setRound_none.mpr ⟨there, ?_⟩, current⟩
    intro own
    exact absurd current (Nat.ne_of_lt (late r there own))
  · exact h.link_eq_none

/-- Two rounds of the same number are the same, and so are two of the same count. -/
theorem eq_of_mem (h : d.Ordered) {r r' : Round} (there : r ∈ d.rounds) (there' : r' ∈ d.rounds)
    (same : r.number = r'.number ∨ r.count = r'.count) : r = r' := by
  have unique : ∀ a ∈ d.rounds, ∀ b ∈ d.rounds,
      a.number = b.number ∨ a.count = b.count → a = b := by
    refine List.Pairwise.forall_of_forall_of_flip (fun _ _ _ => rfl) ?_ ?_
    · refine h.sorted.imp ?_
      intro a b less same
      omega
    · refine h.sorted.imp ?_
      intro a b less same
      omega
  exact unique r there r' there' same

/-- Whatever becomes of the link, when its change is counted no round is current. -/
theorem count_succ (h : d.Ordered) (link : Option LinkId) :
    Ordered { d with count := d.count + 1, discovering := false, link } where
  sorted := h.sorted
  number_lt := h.number_lt
  count_le r there := Nat.le_succ_of_le (h.count_le r there)
  count_lt r there closing := Nat.lt_succ_of_lt (h.count_lt r there closing)
  discovering r there current := by
    have := h.count_le r there
    simp only at current
    omega
  current discovering := by cases discovering
  link_eq_none discovering := by cases discovering

private theorem unlink (h : d.Ordered) : Ordered { d with link := none } where
  sorted := h.sorted
  number_lt := h.number_lt
  count_le := h.count_le
  count_lt := h.count_lt
  discovering := h.discovering
  current := h.current
  link_eq_none _ := rfl

/-- A round is started on the link. -/
theorem schedule (h : d.Ordered) (idle : d.discovering = false) (link : LinkId) :
    Ordered { d with
      link := none, discovering := true, nextRound := d.nextRound + 1
      rounds := d.rounds ++ [(⟨d.nextRound, d.count, link, .queued⟩ : Round)] } := by
  have late : ∀ r ∈ d.rounds, r.count < d.count := by
    intro r there
    apply Nat.lt_of_le_of_ne (h.count_le r there)
    intro current
    rw [h.discovering r there current] at idle
    cases idle
  constructor
  · rw [List.pairwise_append]
    refine ⟨h.sorted, List.pairwise_singleton _ _, ?_⟩
    intro r there r' new
    rw [List.mem_singleton] at new
    subst new
    exact ⟨h.number_lt r there, late r there⟩
  · intro r there
    rcases List.mem_append.mp there with old | new
    · exact Nat.lt_succ_of_lt (h.number_lt r old)
    · rw [List.mem_singleton.mp new]
      exact Nat.lt_succ_self _
  · intro r there
    rcases List.mem_append.mp there with old | new
    · exact h.count_le r old
    · rw [List.mem_singleton] at new
      subst new
      exact Nat.le_refl _
  · intro r there closing
    rcases List.mem_append.mp there with old | new
    · exact late r old
    · rw [List.mem_singleton] at new
      subst new
      cases closing
  · intro r there current
    rfl
  · intro discovering
    exact ⟨_, List.mem_append_right _ (List.mem_singleton_self _), rfl⟩
  · intro discovering
    rfl

/-- The current round gives the link back and goes away. -/
theorem report (h : d.Ordered) {r : Round} (there : r ∈ d.rounds) (current : d.count = r.count) :
    Ordered ({ d with discovering := false, link := some r.link }.setRound r.number none) := by
  constructor
  · exact h.sorted.filter _
  · intro r' there'
    exact h.number_lt r' (mem_setRound_none.mp there').1
  · intro r' there'
    exact h.count_le r' (mem_setRound_none.mp there').1
  · intro r' there'
    exact h.count_lt r' (mem_setRound_none.mp there').1
  · intro r' there' current'
    obtain ⟨there', other⟩ := mem_setRound_none.mp there'
    have same := h.eq_of_mem there' there (.inr (Eq.trans current' current))
    exact absurd (congrArg Round.number same) other
  · intro discovering
    cases discovering
  · intro discovering
    cases discovering

end Ordered

/-! ### Whoever holds the lock -/

private theorem Sound.held (h : d.Sound) {p : Party} (holder : d.lock.holder = some p) :
    d.Held p where
  ordered := h.ordered
  lock := h.lock
  holder := holder
  present q waits := by
    refine h.present q ?_
    rw [Lock.parties_eq_cons holder]
    exact List.mem_cons_of_mem p waits
  linking m links := by
    have own := (h.linking m links).1
    rw [holder] at own
    exact Option.some.inj own

namespace Held

variable {p : Party}

/-- The rest of the session may change while the lock is held. -/
theorem change (h : d.Held p) {d' : Discovery} (ordered : d'.Ordered) (lock : d'.lock = d.lock)
    (calls : ∀ m, d'.callStage? m = d.callStage? m) (rounds : ∀ r ∈ d.rounds, r ∈ d'.rounds) :
    d'.Held p where
  ordered := ordered
  lock := lock ▸ h.lock
  holder := lock ▸ h.holder
  present q waits := by
    rw [lock] at waits
    have present := h.present q waits
    cases q with
    | call m =>
      obtain ⟨stage, there⟩ := present
      exact ⟨stage, (calls m).trans there⟩
    | round m =>
      obtain ⟨r, there, place⟩ := present
      exact ⟨r, rounds r there, place⟩
  linking m links := by
    refine h.linking m ?_
    rwa [Linking, calls] at links

/-- The lock is given up, and no call is at the link. -/
theorem sound_release (h : d.Held p) (d' : Discovery) (ordered : d'.Ordered)
    (lock : d'.lock = d.lock) (present : ∀ q ∈ d.lock.waiting, d'.Present q)
    (linking : ∀ m, ¬ d'.Linking m) : d'.release.1.Sound where
  ordered := ordered.same rfl rfl rfl rfl rfl
  lock := by
    rw [lock_release, lock]
    exact h.lock.release
  present q there := by
    rw [lock_release, lock, Lock.parties_release] at there
    exact present q there
  linking m links := absurd links (linking m)

private theorem sound_endCall (h : d.Held (.call n)) (actions : List Action) (reply : Reply) :
    (d.endCall n actions reply).session.Sound := by
  refine h.sound_release (d.setCall n none) ?_ rfl ?_ ?_
  · exact h.ordered.same rfl rfl rfl rfl rfl
  · intro q waits
    have present := h.present q waits
    cases q with
    | call m =>
      have other : m ≠ n := by
        rintro rfl
        exact h.lock.not_mem_waiting h.holder waits
      obtain ⟨stage, there⟩ := present
      exact ⟨stage, (callStage?_setCall_of_ne d none other).trans there⟩
    | round m => exact present
  · intro m links
    by_cases own : m = n
    · subst own
      simp [Linking] at links
    · rw [Linking, callStage?_setCall_of_ne d none own] at links
      exact own (Party.call.inj (h.linking m links)).symm

/-- A call goes to the link, which nobody uses. -/
theorem sound_setCall (h : d.Held (.call n)) {stage : CallStage}
    (idle : d.isBusy = false) : (d.setCall n (some stage)).Sound where
  ordered := h.ordered.same rfl rfl rfl rfl rfl
  lock := h.lock
  present q there := by
    rw [lock_setCall, Lock.parties_eq_cons h.holder] at there
    cases q with
    | call m =>
      by_cases own : m = n
      · subst own
        exact ⟨stage, callStage?_setCall_self d m (some stage)⟩
      · have waits : Party.call m ∈ d.lock.waiting := by
          simpa [own] using there
        obtain ⟨stage', there'⟩ := h.present _ waits
        exact ⟨stage', (callStage?_setCall_of_ne d _ own).trans there'⟩
    | round m =>
      have waits : Party.round m ∈ d.lock.waiting := by
        simpa using there
      exact h.present _ waits
  linking m links := by
    by_cases own : m = n
    · subst own
      exact ⟨h.holder, idle⟩
    · rw [Linking, callStage?_setCall_of_ne d _ own] at links
      exact absurd (Party.call.inj (h.linking m links)).symm own

private theorem sound_served (h : d.Held (.call n)) {r : Request} {o : Outcome}
    (served : Served d n r o) : o.session.Sound := by
  cases served with
  | told => exact h.sound_endCall _ _
  | refused => exact h.sound_endCall _ _
  | opening idle => exact h.sound_setCall idle
  | unlinked lines link =>
    have held := h.change (h.ordered.count_succ d.link) rfl (fun _ => rfl) fun _ there => there
    exact held.sound_endCall _ _
  | closing lines link =>
    have held := h.change (h.ordered.count_succ none) rfl (fun _ => rfl) fun _ there => there
    exact held.sound_setCall rfl
  | pointless => exact h.sound_endCall _ _
  | scheduled link idle =>
    have held := h.change (h.ordered.schedule idle link) rfl (fun _ => rfl)
      fun _ there => List.mem_append_left _ there
    exact held.sound_endCall _ _
  | rejected =>
    have held := h.change h.ordered.unlink rfl (fun _ => rfl) fun _ there => there
    exact held.sound_endCall _ _

/-- Those who wait do not include the round that holds the lock. -/
theorem present_setRound (h : d.Held (.round n)) (stage : Option RoundStage) :
    ∀ q ∈ d.lock.waiting, (d.setRound n stage).Present q := by
  intro q waits
  have present := h.present q waits
  cases q with
  | call m => exact present
  | round m =>
    have other : m ≠ n := by
      rintro rfl
      exact h.lock.not_mem_waiting h.holder waits
    obtain ⟨r, there, number, place⟩ := present
    refine ⟨r, ?_, number, place⟩
    cases stage with
    | none => exact mem_setRound_none.mpr ⟨there, number ▸ other⟩
    | some stage => exact mem_setRound_some.mpr ⟨r, there, if_neg (number ▸ other)⟩

private theorem not_linking (h : d.Held (.round n)) (m : Nat) : ¬ d.Linking m := by
  intro links
  cases h.linking m links

private theorem sound_closeRound {r : Round} (h : d.Held (.round r.number)) (there : r ∈ d.rounds)
    (late : r.count < d.count) (before after : List Action) :
    (d.closeRound r before after).session.Sound := by
  refine h.sound_release (d.setRound r.number (some .closing)) ?_ rfl
    (h.present_setRound _) h.not_linking
  refine h.ordered.setRound_some fun _ r' there' same => ?_
  rwa [h.ordered.eq_of_mem there' there (.inl same)]

private theorem sound_concluded {r : Round} (h : d.Held (.round r.number)) (there : r ∈ d.rounds)
    {o : Outcome} (concluded : Concluded d r o) : o.session.Sound := by
  cases concluded with
  | outlived _ other =>
    exact h.sound_closeRound there
      (Nat.lt_of_le_of_ne (h.ordered.count_le r there) (Ne.symm other)) _ _
  | reported _ services current =>
    exact h.sound_release _ (h.ordered.report there current) rfl (h.present_setRound none)
      h.not_linking
  | failed lines current =>
    have held := h.change (h.ordered.count_succ d.link) rfl (fun _ => rfl) fun _ there => there
    exact held.sound_closeRound there (Nat.lt_succ_of_le (h.ordered.count_le r there)) _ _

end Held

/-- A free lock is held by the first one who asks. -/
theorem Sound.held_request (h : d.Sound) (free : d.lock.isFree = true) (p : Party) :
    Held { d with lock := d.lock.request p } p := by
  have nobody := Lock.isFree_iff.mp free
  have new : p ∉ d.lock.parties := by
    simp [Lock.parties, nobody, h.lock.waiting_eq_nil nobody]
  refine ⟨h.ordered.same rfl rfl rfl rfl rfl, h.lock.request new,
    Lock.holder_request_of_isFree _ free, ?_, ?_⟩
  · intro q waits
    simp [Lock.request, nobody, h.lock.waiting_eq_nil nobody] at waits
  · intro m links
    have own := (h.linking m links).1
    rw [nobody] at own
    cases own

/-! ### Steps -/

namespace Sound

/-- A session without a link. -/
theorem blank (remote : Address) (limit : Nat) :
    Sound ({ remote, queryLimit := limit } : Discovery) where
  ordered := ⟨List.Pairwise.nil, nofun, nofun, nofun, nofun, nofun, nofun⟩
  lock := ⟨fun _ => rfl, List.nodup_nil⟩
  present := nofun
  linking n links := by
    simp [Linking, callStage?] at links

/-- A session is sound when a new call begins. -/
theorem begin (h : d.Sound) (fresh : d.callStage? n = none) (admission : Except SubmitError Unit)
    (r : Request) : (d.begin admission n r).session.Sound := by
  have new : Party.call n ∉ d.lock.parties := by
    intro there
    obtain ⟨stage, place⟩ := h.present _ there
    rw [fresh] at place
    cases place
  unfold Discovery.begin
  simp only
  split
  · next free =>
    exact (h.held_request free _).sound_served (perform_served _ admission n r)
  · next taken =>
    rw [Bool.not_eq_true] at taken
    constructor
    · exact h.ordered.same rfl rfl rfl rfl rfl
    · exact h.lock.request new
    · intro q there
      rw [lock_setCall, h.lock.parties_request, List.mem_append, List.mem_singleton] at there
      cases q with
      | call m =>
        by_cases own : m = n
        · subst own
          exact ⟨_, callStage?_setCall_self _ m _⟩
        · have old : Party.call m ∈ d.lock.parties := by
            simpa [own] using there
          obtain ⟨stage, place⟩ := h.present _ old
          exact ⟨stage, (callStage?_setCall_of_ne _ _ own).trans place⟩
      | round m =>
        have old : Party.round m ∈ d.lock.parties := by
          simpa using there
        exact h.present _ old
    · intro m links
      by_cases own : m = n
      · subst own
        simp [Linking] at links
      · rw [Linking, callStage?_setCall_of_ne _ _ own] at links
        rw [lock_setCall, Lock.holder_request_of_taken taken]
        exact h.linking m links

/-- A session is sound when a call goes on. -/
theorem resumed (h : d.Sound) {o : Outcome} (resumed : Resumed d n o) : o.session.Sound := by
  cases resumed with
  | still => exact h
  | served _ holder served => exact (h.held holder).sound_served served
  | opened link line stage =>
    obtain ⟨holder, idle⟩ := h.linking n (.inl stage)
    obtain ⟨-, quiet⟩ := isBusy_eq_false_iff.mp idle
    have ordered : Ordered { d with link := some link, count := d.count + 1 } :=
      (h.ordered.count_succ (some link)).same rfl rfl rfl quiet rfl
    have held := (h.held holder).change ordered rfl (fun _ => rfl) fun _ there => there
    exact held.sound_endCall _ _
  | unopened e line stage => exact (h.held (h.linking n (.inl stage)).1).sound_endCall _ _
  | closed r line stage => exact (h.held (h.linking n (.inr stage)).1).sound_endCall _ _

-- Whoever waits for the lock is not the round that does not.
private theorem present_of_not_waiting (h : d.Sound) {r : Round} (there : r ∈ d.rounds)
    (busy : ∀ found, r.stage ≠ .waiting found) (stage : Option RoundStage) :
    ∀ q ∈ d.lock.parties, (d.setRound r.number stage).Present q := by
  intro q waits
  have present := h.present q waits
  cases q with
  | call m => exact present
  | round m =>
    obtain ⟨r', there', number, found, place⟩ := present
    have other : r'.number ≠ r.number := by
      intro same
      rw [h.ordered.eq_of_mem there' there (.inl same)] at place
      exact busy found place
    refine ⟨r', ?_, number, found, place⟩
    cases stage with
    | none => exact mem_setRound_none.mpr ⟨there', other⟩
    | some stage => exact mem_setRound_some.mpr ⟨r', there', if_neg other⟩

/-- A session is sound when a round goes on. -/
theorem advanced (h : d.Sound) {o : Outcome} (advanced : Advanced d n o) : o.session.Sound := by
  cases advanced with
  | still => exact h
  | querying r _ listed stage =>
    obtain ⟨there, rfl⟩ := round?_eq_some listed
    exact ⟨h.ordered.setRound_some (by simp), h.lock,
      h.present_of_not_waiting there (by simp [stage]) _, h.linking⟩
  | waiting r found _ listed stage taken =>
    obtain ⟨there, rfl⟩ := round?_eq_some listed
    have new : Party.round r.number ∉ d.lock.parties := by
      intro waits
      obtain ⟨r', there', number, found, place⟩ := h.present _ waits
      rw [h.ordered.eq_of_mem there' there (.inl number), stage] at place
      cases place
    constructor
    · exact (h.ordered.setRound_some (by simp)).same rfl rfl rfl rfl rfl
    · exact h.lock.request new
    · intro q waits
      rw [lock_setRound, h.lock.parties_request, List.mem_append, List.mem_singleton] at waits
      rcases waits with old | rfl
      · exact h.present_of_not_waiting there (by simp [stage]) (some (.waiting found)) q old
      · exact ⟨_, mem_setRound_some.mpr ⟨r, there, if_pos rfl⟩, rfl, found, rfl⟩
    · intro m links
      rw [lock_setRound, Lock.holder_request_of_taken taken]
      exact h.linking m links
  | answered r lines listed stage free concluded =>
    obtain ⟨there, rfl⟩ := round?_eq_some listed
    have sound := (h.held_request free _).sound_concluded there concluded
    exact sound
  | granted r found listed stage holder concluded =>
    obtain ⟨there, rfl⟩ := round?_eq_some listed
    exact (h.held holder).sound_concluded there concluded
  | closed r listed stage =>
    obtain ⟨there, rfl⟩ := round?_eq_some listed
    refine ⟨h.ordered.setRound_none fun r' there' same => ?_, h.lock,
      h.present_of_not_waiting there (by simp [stage]) _, h.linking⟩
    rw [h.ordered.eq_of_mem there' there (.inl same)]
    exact h.ordered.count_lt r there stage

end Sound

end A2dpSink.Discovery
