import A2dpSink.Proofs.Discovery.Sound

/-!
# What calls and rounds do to a session

`Called` is what a caller has to know about a step of its call, and `Passed` what there is to know
about a step of a round. Both say what becomes of the link: a call closes it, opens it or lets a
round take it, and a round gives it back together with the services it hands over.
-/

namespace A2dpSink.Discovery

variable {d : Discovery} {n : Nat}

/-! ### Calls -/

/-- What a step of the call `n` with a given request does to a session. -/
structure Called (d : Discovery) (n : Nat) (r : Request) (o : Outcome) : Prop where
  /-- Nothing is handed over. -/
  quiet : deliveries o.actions = []
  others : ∀ m, m ≠ n → o.session.callStage? m = d.callStage? m
  pending : o.reply = none → ∃ stage, o.session.callStage? n = some stage ∧ stage.request = r
  ended : o.reply ≠ none → o.session.callStage? n = none
  /-- Only a call that connects makes a session busy. -/
  busy : o.session.isBusy = true → d.isBusy = true ∨ r = .connect
  /-- Only a connection brings a link, and it is told. -/
  link : o.session.link.isSome = true →
    d.link.isSome = true ∨ r = .connect ∧ o.reply = some (.connected (.ok ()))
  parted : r = .disconnect → o.reply ≠ none → o.session.isBusy = false
  discovered : r = .discover → o.reply ≠ none → o.session.link = none
  count_le : d.count ≤ o.session.count
  /-- A link goes only when its change is counted, or when it is asked to discover on it. -/
  kept : d.link.isSome = true → o.session.link.isSome = true ∨ d.count < o.session.count ∨
    r = .discover
  nextRound_le : d.nextRound ≤ o.session.nextRound
  /-- Only a call that changes the link is counted. -/
  count_eq : r ≠ .disconnect → o.reply ≠ some (.connected (.ok ())) → o.session.count = d.count
  /-- A link is opened only when there is none. -/
  linked : o.reply = some (.connected (.ok ())) → d.link = none

private theorem deliveries_endCall (d : Discovery) (n : Nat) (actions : List Action)
    (reply : Reply) : deliveries (d.endCall n actions reply).actions = deliveries actions := by
  simp [endCall]

private theorem Served.quiet {r : Request} {o : Outcome} (h : Served d n r o) :
    deliveries o.actions = [] := by
  cases h with
  | closing lines link =>
    rw [deliveries_append, deliveries_log]
    rfl
  | unlinked lines => rw [deliveries_endCall, deliveries_log]
  | opening => rfl
  | _ => rw [deliveries_endCall]; rfl

/-- A call that begins delivers nothing. -/
theorem begin_quiet (d : Discovery) (admission : Except SubmitError Unit) (n : Nat) (r : Request) :
    deliveries (d.begin admission n r).actions = [] := by
  simp only [begin]
  split
  · exact (perform_served _ admission n r).quiet
  · rfl

/-- A call that goes on delivers nothing. -/
theorem Resumed.quiet {o : Outcome} (h : Resumed d n o) : deliveries o.actions = [] := by
  cases h with
  | still => rfl
  | served _ _ served => exact served.quiet
  | _ => rw [deliveries_endCall]; rfl

private theorem callStage?_endCall_self (d : Discovery) (n : Nat) (actions : List Action)
    (reply : Reply) : (d.endCall n actions reply).session.callStage? n = none :=
  callStage?_setCall_self d n none

private theorem callStage?_endCall_of_ne (d : Discovery) {m : Nat} (h : m ≠ n)
    (actions : List Action) (reply : Reply) :
    (d.endCall n actions reply).session.callStage? m = d.callStage? m :=
  callStage?_setCall_of_ne d none h

/-- A call ends after a change of the rest of the session. -/
theorem called_endCall {d' : Discovery} {r : Request} {actions : List Action} {reply : Reply}
    (quiet : deliveries actions = []) (calls : ∀ m, d'.callStage? m = d.callStage? m)
    (busy : d'.isBusy = true → d.isBusy = true ∨ r = .connect)
    (link : d'.link.isSome = true →
      d.link.isSome = true ∨ r = .connect ∧ reply = .connected (.ok ()))
    (parted : r = .disconnect → d'.isBusy = false) (discovered : r = .discover → d'.link = none)
    (count_le : d.count ≤ d'.count)
    (kept : d.link.isSome = true → d'.link.isSome = true ∨ d.count < d'.count ∨ r = .discover)
    (nextRound_le : d.nextRound ≤ d'.nextRound)
    (count_eq : r ≠ .disconnect → reply ≠ .connected (.ok ()) → d'.count = d.count)
    (linked : reply = .connected (.ok ()) → d.link = none) :
    Called d n r (d'.endCall n actions reply) where
  quiet := by rw [deliveries_endCall, quiet]
  others m other := (callStage?_endCall_of_ne d' other _ _).trans (calls m)
  pending none := by cases none
  ended _ := callStage?_endCall_self d' n _ _
  busy := busy
  link there := (link there).imp_right fun ⟨asked, told⟩ => ⟨asked, congrArg some told⟩
  parted asked _ := parted asked
  discovered asked _ := discovered asked
  count_le := count_le
  kept := kept
  nextRound_le := nextRound_le
  count_eq asked told := count_eq asked fun same => told (congrArg some same)
  linked told := linked (Option.some.inj told)

/-- A call ends and leaves the rest of the session as it is. -/
theorem called_endCall_self {r : Request} {actions : List Action} {reply : Reply}
    (quiet : deliveries actions = []) (parted : r = .disconnect → d.isBusy = false)
    (discovered : r = .discover → d.link = none) (unlinked : reply ≠ .connected (.ok ())) :
    Called d n r (d.endCall n actions reply) :=
  called_endCall quiet (fun _ => rfl) .inl .inl parted discovered (Nat.le_refl _) .inl
    (Nat.le_refl _) (fun _ _ => rfl) fun linked => absurd linked unlinked

private theorem Served.called {r : Request} {o : Outcome} (h : Served d n r o)
    (ordered : d.Ordered) : Called d n r o := by
  have quiet := h.quiet
  cases h with
  | told => exact called_endCall_self rfl (by simp) (by simp) (by simp)
  | refused => exact called_endCall_self rfl (by simp) (by simp) (by simp)
  | opening idle =>
    exact {
      quiet
      others := fun m other => callStage?_setCall_of_ne d _ other
      pending := fun _ => ⟨_, callStage?_setCall_self d n _, rfl⟩
      ended := fun told => absurd rfl told
      busy := .inl
      link := .inl
      parted := by simp
      discovered := by simp
      count_le := Nat.le_refl _
      kept := .inl
      nextRound_le := Nat.le_refl _
      count_eq := fun _ _ => rfl
      linked := by simp }
  | unlinked lines link =>
    refine called_endCall (deliveries_log lines) (fun _ => rfl) ?_ ?_ ?_ (by simp)
      (Nat.le_succ _) ?_ (Nat.le_refl _) (fun asked => absurd rfl asked) (by simp)
    · simp [isBusy, link]
    · simp [link]
    · simp [isBusy, link]
    · simp [link]
  | closing lines link there =>
    exact {
      quiet
      others := fun m other => callStage?_setCall_of_ne _ _ other
      pending := fun _ => ⟨_, callStage?_setCall_self _ n _, rfl⟩
      ended := fun told => absurd rfl told
      busy := fun busy => (by cases busy)
      link := fun there => (by cases there)
      parted := fun _ told => absurd rfl told
      discovered := by simp
      count_le := Nat.le_succ _
      kept := fun _ => .inr (.inl (Nat.lt_succ_self _))
      nextRound_le := Nat.le_refl _
      count_eq := fun asked => absurd rfl asked
      linked := by simp }
  | pointless line why =>
    refine called_endCall_self rfl (by simp) (fun _ => ?_) (by simp)
    exact why.elim ordered.link_eq_none id
  | scheduled link idle there =>
    refine called_endCall rfl (fun _ => rfl) ?_ (by simp) (by simp) (fun _ => rfl)
      (Nat.le_refl _) (fun _ => .inr (.inr rfl)) (Nat.le_succ _) (fun _ _ => rfl) (by simp)
    simp [isBusy, there]
  | rejected link line idle there =>
    refine called_endCall rfl (fun _ => rfl) ?_ (by simp) (by simp) (fun _ => rfl)
      (Nat.le_refl _) (fun _ => .inr (.inr rfl)) (Nat.le_refl _) (fun _ _ => rfl) (by simp)
    simp [isBusy, there]

/-- A new call does to the session what `Called` says. -/
theorem begin_called (h : d.Sound) (admission : Except SubmitError Unit) (r : Request) :
    Called d n r (d.begin admission n r) := by
  simp only [begin]
  split
  · have ordered : Ordered { d with lock := d.lock.request (.call n) } :=
      h.ordered.same rfl rfl rfl rfl rfl
    have called := (perform_served _ admission n r).called ordered
    exact ⟨called.quiet, called.others, called.pending, called.ended, called.busy, called.link,
      called.parted, called.discovered, called.count_le, called.kept, called.nextRound_le,
      called.count_eq, called.linked⟩
  · exact {
      quiet := rfl
      others := fun m other => callStage?_setCall_of_ne _ _ other
      pending := fun _ => ⟨_, callStage?_setCall_self _ n _, rfl⟩
      ended := fun told => absurd rfl told
      busy := .inl
      link := .inl
      parted := fun _ told => absurd rfl told
      discovered := fun _ told => absurd rfl told
      count_le := Nat.le_refl _
      kept := .inl
      nextRound_le := Nat.le_refl _
      count_eq := fun _ _ => rfl
      linked := by simp }

/-- A call that goes on does so with the request it was made with. -/
theorem Resumed.called {o : Outcome} (resumed : Resumed d n o) (h : d.Sound) {stage : CallStage}
    (there : d.callStage? n = some stage) : Called d n stage.request o := by
  cases resumed with
  | still =>
    exact {
      quiet := rfl
      others := fun m other => rfl
      pending := fun _ => ⟨stage, there, rfl⟩
      ended := fun told => absurd rfl told
      busy := .inl
      link := .inl
      parted := fun _ told => absurd rfl told
      discovered := fun _ told => absurd rfl told
      count_le := Nat.le_refl _
      kept := .inl
      nextRound_le := Nat.le_refl _
      count_eq := fun _ _ => rfl
      linked := by simp }
  | served place holder served =>
    rw [there] at place
    cases place
    exact served.called h.ordered
  | opened link line place =>
    have idle := (h.linking n (.inl place)).2
    rw [there] at place
    cases place
    exact called_endCall rfl (fun _ => rfl) (fun _ => .inr rfl) (fun _ => .inr ⟨rfl, rfl⟩)
      (by simp [CallStage.request]) (by simp [CallStage.request]) (Nat.le_succ _)
      (fun _ => .inl rfl) (Nat.le_refl _) (fun _ told => absurd rfl told)
      fun _ => (isBusy_eq_false_iff.mp idle).1
  | unopened e line place =>
    rw [there] at place
    cases place
    exact called_endCall_self rfl (by simp [CallStage.request]) (by simp [CallStage.request])
      (by simp)
  | closed r line place =>
    have idle := (h.linking n (.inr place)).2
    rw [there] at place
    cases place
    exact called_endCall_self rfl (fun _ => idle) (by simp [CallStage.request]) (by simp)

/-- A call that goes on does to the session what `Called` says. -/
theorem resume_called (h : d.Sound) {stage : CallStage} (there : d.callStage? n = some stage)
    (admission : Except SubmitError Unit) (s : Signal) :
    Called d n stage.request (d.resume admission n s) :=
  (resume_resumed d admission n s).called h there

/-- A call that connects waits for the link to open. -/
theorem Served.connects {r : Request} {o : Outcome} (h : Served d n r o) {psm : Psm}
    (connects : .effect (.connect psm) ∈ o.actions) :
    o.session.callStage? n = some .opening ∧ o.reply = none := by
  cases h with
  | opening => exact ⟨callStage?_setCall_self d n _, rfl⟩
  | _ => simp [endCall] at connects

/-- A new call that opens a link waits for it. -/
theorem begin_connects {admission : Except SubmitError Unit} {r : Request} {psm : Psm}
    (connects : .effect (.connect psm) ∈ (d.begin admission n r).actions) :
    (d.begin admission n r).session.callStage? n = some .opening ∧
      (d.begin admission n r).reply = none := by
  simp only [begin] at connects ⊢
  split at connects
  · next free =>
    rw [if_pos free]
    exact (perform_served _ admission n r).connects connects
  · cases connects

/-- A call that goes on and opens a link waits for it. -/
theorem Resumed.connects {o : Outcome} (h : Resumed d n o) {psm : Psm}
    (connects : .effect (.connect psm) ∈ o.actions) :
    o.session.callStage? n = some .opening ∧ o.reply = none := by
  cases h with
  | served _ _ served => exact served.connects connects
  | still => cases connects
  | _ => simp [endCall] at connects

/-- Without a call, nothing goes on. -/
theorem resume_of_none (uncalled : d.callStage? n = none) (admission : Except SubmitError Unit)
    (s : Signal) : d.resume admission n s = ⟨d, [], none⟩ := by
  simp only [resume, uncalled]

/-- A session whose lock is free tells at once whether it is busy. -/
theorem begin_isOpen (free : d.lock = {}) (admission : Except SubmitError Unit) (n : Nat) :
    d.begin admission n .isOpen = ⟨d.setCall n none, [], some (.isOpen d.isBusy)⟩ := by
  simp only [begin, perform, endCall, release, setCall, Lock.isFree, Lock.request, Lock.release,
    isBusy, free]
  rfl

/-- A session whose lock is free and that is not busy starts to connect at once. -/
theorem begin_connect (free : d.lock = {}) (idle : d.isBusy = false)
    (admission : Except SubmitError Unit) (n : Nat) :
    d.begin admission n .connect =
      ⟨{ d with lock := d.lock.request (.call n) }.setCall n (some .opening),
        [.effect (.connect Sdp.psm)], none⟩ := by
  have still : Discovery.isBusy { d with lock := d.lock.request (.call n) } = false := idle
  have unlocked : d.lock.isFree = true := by rw [free]; rfl
  simp only [begin, unlocked, if_true, perform, still]
  rfl

/-! ### Rounds -/

/-- What a step of a round does to a session. -/
structure Passed (d : Discovery) (o : Outcome) : Prop where
  calls : ∀ m, o.session.callStage? m = d.callStage? m
  /-- At most one list is handed over, and then the link is open. -/
  delivered : deliveries o.actions = [] ∨
    ∃ services, deliveries o.actions = [services] ∧ o.session.link.isSome = true
  busy : o.session.isBusy = true → d.isBusy = true
  link : o.session.link.isSome = true → d.link.isSome = true ∨ deliveries o.actions ≠ []
  count_le : d.count ≤ o.session.count
  kept : d.link.isSome = true → o.session.link.isSome = true
  nextRound_eq : o.session.nextRound = d.nextRound
  /-- While there is a link, no change is counted. -/
  count_eq : o.session.link.isSome = true → o.session.count = d.count

private theorem Concluded.passed {r : Round} {o : Outcome} (h : Concluded d r o)
    (ordered : d.Ordered) (there : r ∈ d.rounds) : Passed d o := by
  cases h with
  | outlived line other =>
    refine ⟨fun _ => rfl, .inl ?_, id, .inl, Nat.le_refl _, id, rfl, fun _ => rfl⟩
    simp only [closeRound, List.nil_append, deliveries_append, deliveries_release]
    rfl
  | reported offer services current =>
    have delivered : deliveries ([.log offer, .deliver services] ++
        ({ d with discovering := false, link := some r.link }.setRound r.number none).release.2) =
        [services] := by
      rw [deliveries_append, deliveries_release]
      rfl
    refine ⟨fun _ => rfl, .inr ⟨services, delivered, rfl⟩, ?_, ?_, Nat.le_refl _, fun _ => rfl, rfl,
      fun _ => rfl⟩
    · intro _
      simp [isBusy, ordered.discovering r there current.symm]
    · intro _
      right
      rw [delivered]
      exact List.cons_ne_nil _ _
  | failed lines current =>
    refine ⟨fun _ => rfl, .inl ?_, ?_, .inl, Nat.le_succ _, id, rfl, ?_⟩
    · simp only [closeRound, List.append_nil, deliveries_append, deliveries_release, deliveries_log]
      rfl
    · intro busy
      simp only [closeRound, isBusy, link_release, link_setRound, discovering_release,
        discovering_setRound, Bool.or_false] at busy
      simp [isBusy, busy]
    · intro open_
      have link : d.link.isSome = true := open_
      rw [ordered.link_eq_none (ordered.discovering r there current.symm)] at link
      cases link

private theorem Concluded.connects {r : Round} {o : Outcome} (h : Concluded d r o) (psm : Psm) :
    .effect (.connect psm) ∉ o.actions := by
  cases h <;> simp [closeRound]

/-- Rounds open no links. -/
theorem Advanced.connects {o : Outcome} (h : Advanced d n o) (psm : Psm) :
    .effect (.connect psm) ∉ o.actions := by
  cases h with
  | answered r lines _ _ _ concluded => simp [concluded.connects psm]
  | granted r found _ _ _ concluded => exact concluded.connects psm
  | _ => simp

/-- A step of a round does to the session what `Passed` says. -/
theorem Advanced.passed {o : Outcome} (h : Advanced d n o) (sound : d.Sound) : Passed d o := by
  cases h with
  | still => exact ⟨fun _ => rfl, .inl rfl, id, .inl, Nat.le_refl _, id, rfl, fun _ => rfl⟩
  | querying r line =>
    exact ⟨fun _ => rfl, .inl rfl, id, .inl, Nat.le_refl _, id, rfl, fun _ => rfl⟩
  | waiting r found lines =>
    exact ⟨fun _ => rfl, .inl (deliveries_log lines), id, .inl, Nat.le_refl _, id, rfl,
      fun _ => rfl⟩
  | @answered r lines o listed _ _ concluded =>
    have ordered : Ordered { d with lock := d.lock.request (.round n) } :=
      sound.ordered.same rfl rfl rfl rfl rfl
    obtain ⟨calls, delivered, busy, link, count_le, kept, next, count_eq⟩ :=
      concluded.passed ordered (round?_eq_some listed).1
    have same : deliveries (lines.map .log ++ o.actions) = deliveries o.actions := by
      rw [deliveries_append, deliveries_log, List.nil_append]
    exact ⟨calls, same ▸ delivered, busy, same ▸ link, count_le, kept, next, count_eq⟩
  | granted r found listed _ _ concluded =>
    exact concluded.passed sound.ordered (round?_eq_some listed).1
  | closed r => exact ⟨fun _ => rfl, .inl rfl, id, .inl, Nat.le_refl _, id, rfl, fun _ => rfl⟩

end A2dpSink.Discovery
