import A2dpSink.Proofs.Attachment.Runs

/-!
# Discovery links that are left alone

A link that is open while nobody is about to start a round on it stays as it is until a change of it
is counted (`Left.run`).
-/

namespace A2dpSink.Attachment

variable {a b : Attachment} {s : Surroundings} {p q : Point} {actions : List Action}

/-! ### A link that was left open stays so -/

/-- The link is open, its changes have a given count, and nobody is about to start a round on it. -/
structure Idles (count : Nat) (a : Attachment) : Prop where
  count_eq : a.discovery.count = count
  link : a.discovery.link.isSome = true
  quiet : ∀ n t, a.task? n = some t → t.stage ≠ .starting

/-- The link idles, or its change was counted. -/
def Left (count : Nat) (a : Attachment) : Point → Prop
  | .call _ .discover => count < a.discovery.count
  | .answered _ .connect (.connected (.ok ())) => count < a.discovery.count
  | .answered _ .disconnect _ => count < a.discovery.count
  | .answered _ .discover _ => count < a.discovery.count
  | _ => count < a.discovery.count ∨ a.Idles count

/-- What a call other than to start a round makes of an idle link. -/
theorem Idles.called {count : Nat} {d : Discovery} {n : Nat} {r : Discovery.Request}
    {o : Discovery.Outcome} (count_eq : d.count = count) (link : d.link.isSome = true)
    (called : Discovery.Called d n r o) (other : r ≠ .discover) :
    count < o.session.count ∨ o.session.count = count ∧ o.session.link.isSome = true ∧
      (r = .disconnect → o.reply = none) ∧ o.reply ≠ some (.connected (.ok ())) := by
  have le := called.count_le
  rcases called.kept link with open_ | less | asked
  · by_cases same : o.session.count = count
    · refine .inr ⟨same, open_, ?_, ?_⟩
      · intro disconnects
        cases told : o.reply with
        | none => rfl
        | some reply =>
          have idle := called.parted disconnects (by simp [told])
          rw [(Discovery.isBusy_eq_false_iff.mp idle).1] at open_
          cases open_
      · intro told
        rw [called.linked told] at link
        cases link
    · left
      omega
  · left
    omega
  · exact absurd asked other

private theorem Left.of_lt {count : Nat} (less : count < a.discovery.count) : a.Left count p := by
  unfold Left
  split <;> first | exact less | exact .inl less

private theorem left_unconnected {count : Nat} {t : Task} {reply : Discovery.Reply}
    (other : reply ≠ .connected (.ok ())) : a.Left count (.answered t .connect reply) ↔
      count < a.discovery.count ∨ a.Idles count := by
  cases reply with
  | connected r =>
    cases r with
    | ok u => exact absurd rfl other
    | error e => exact Iff.rfl
  | _ => exact Iff.rfl

/-- A move that leaves the session alone. -/
theorem Idles.same {count : Nat} (h : a.Idles count) (discovery : b.discovery = a.discovery)
    (tasks : ∀ n t, b.task? n = some t → a.task? n = some t ∨ t.stage ≠ .starting) :
    b.Idles count where
  count_eq := by rw [discovery, h.count_eq]
  link := by rw [discovery, h.link]
  quiet n t there := (tasks n t there).elim (h.quiet n t) id

private theorem Left.move {count : Nat} (fine : a.Fine p) (h : a.Left count p)
    (move : Move s a p actions b q) : b.Left count q := by
  -- Tasks that go to another place do not go to start a round, unless they are to.
  have tasks : (∀ t, p ≠ .call t .discover) →
      ∀ n u, b.task? n = some u → a.task? n = some u ∨ u.stage ≠ .starting := by
    intro other n u there
    rcases move.task there with old | ⟨u', place, old, rfl, places⟩
    · exact .inl old
    · right
      cases places with
      | wait t r => cases r <;> first | exact absurd rfl (other t) | simp [Stage.ofRequest]
      | dial => simp
      | hangUp => simp
  -- The session does not know of a change of the link.
  have same : (count < a.discovery.count ∨ a.Idles count) → b.discovery = a.discovery →
      (∀ t, p ≠ .call t .discover) → b.Left count q ∨ b.Idles count := by
    rintro (less | idles) discovery other
    · exact .inl (.of_lt (discovery ▸ less))
    · exact .inr (idles.same discovery (tasks other))
  -- A call is made, and it is not to start a round.
  have called : ∀ {t r}, p = .call t r → r ≠ .discover →
      count < (a.discovery.begin s.admission t.number r).session.count ∨
        (a.discovery.begin s.admission t.number r).session.count = count ∧
        (a.discovery.begin s.admission t.number r).session.link.isSome = true ∧
        (r = .disconnect → (a.discovery.begin s.admission t.number r).reply = none) ∧
        (a.discovery.begin s.admission t.number r).reply ≠ some (.connected (.ok ())) ∧
        a.Idles count := by
    rintro t r rfl other
    have held : ∃ stage, a.Held t stage := by
      cases r with
      | disconnect => exact fine.imp fun _ => And.left
      | _ => exact fine.1
    obtain ⟨stage, held⟩ := held
    have before : count < a.discovery.count ∨ a.Idles count := by
      cases r with
      | discover => exact absurd rfl other
      | _ => exact h
    rcases before with less | idles
    · exact .inl (Nat.lt_of_lt_of_le less (held.called s r).count_le)
    · refine (Idles.called idles.count_eq idles.link (held.called s r) other).imp_right ?_
      rintro ⟨h₁, h₂, h₃, h₄⟩
      exact ⟨h₁, h₂, h₃, h₄, idles⟩
  cases move with
  | @wait t r told =>
    by_cases other : r = .discover
    · subst other
      obtain ⟨⟨stage, held⟩, -⟩ := fine
      exact .of_lt (Nat.lt_of_lt_of_le h (held.called s .discover).count_le)
    · rcases called rfl other with less | ⟨count_eq, link, -, -, idles⟩
      · exact .of_lt less
      · refine .inr ⟨count_eq, link, fun n u there => ?_⟩
        exact (tasks (by simpa using other) n u there).elim (idles.quiet n u) id
  | @serve t r reply told =>
    by_cases other : r = .discover
    · subst other
      obtain ⟨⟨stage, held⟩, -⟩ := fine
      exact .of_lt (Nat.lt_of_lt_of_le h (held.called s .discover).count_le)
    · rcases called rfl other with less | ⟨count_eq, link, waits, unlinked, idles⟩
      · exact .of_lt less
      · have idles : Idles count
            { a with discovery := (a.discovery.begin s.admission t.number r).session } :=
          ⟨count_eq, link, idles.quiet⟩
        rw [told] at waits unlinked
        cases r with
        | discover => exact absurd rfl other
        | disconnect => exact absurd (waits rfl) (by simp)
        | isOpen => exact .inr idles
        | connect =>
          rw [left_unconnected (by simpa using unlinked)]
          exact .inr idles
  | connected => exact .of_lt h
  | unconnected other =>
    rw [left_unconnected other] at h
    exact h
  | started => exact .of_lt h
  | parted => exact .of_lt h
  | cleared => exact .of_lt h
  | busy => exact h
  | idle => exact h
  | _ => exact (same h rfl (by simp)).elim id .inr

private theorem Left.moves {count : Nat} (fine : a.Fine p) (h : a.Left count p)
    (moves : Moves s a p actions b) : b.Left count .rest := by
  induction moves with
  | rest => exact h
  | move move _ ih => exact ih (fine.move move) (h.move fine move)

private theorem Left.entry {count : Nat} {e : Event} (sound : a.Sound) (h : a.Left count .rest)
    (entry : Entry s a e actions b p) : b.Left count p := by
  have tasks : ∀ n u, b.task? n = some u → a.task? n = some u ∨ u.stage ≠ .starting := by
    intro n u there
    by_cases starting : u.stage = .starting
    · exact .inl (entry.task_of_active there (by rw [starting]; rfl))
    · exact .inr starting
  rcases h with less | idles
  · refine .of_lt (Nat.lt_of_lt_of_le less ?_)
    cases entry with
    | went signal there listed => exact (Discovery.resume_called sound.session listed _ _).count_le
    | answered signal there listed => exact (Discovery.resume_called sound.session listed _ _).count_le
    | startRound =>
      rw [attachment_absorb, discovery_addReports]
      exact ((Discovery.startRound_advanced _ _).passed sound.session).count_le
    | resumeRound =>
      rw [attachment_absorb, discovery_addReports]
      exact ((Discovery.resumeRound_advanced _ _ _ _).passed sound.session).count_le
    | summoned summons => cases summons <;> exact Nat.le_refl _
    | received summons => cases summons <;> exact Nat.le_refl _
    | _ => exact Nat.le_refl _
  · -- No call is under way that is to start a round.
    have other : ∀ {n t place}, a.task? n = some t →
        t.stage = .ofRequest (Discovery.CallStage.request place) → place.request ≠ .discover := by
      intro n t place there eq asks
      rw [asks] at eq
      exact idles.quiet n t there eq
    have advanced : ∀ {n o}, Discovery.Advanced a.discovery n o → b = (a.absorb o).attachment →
        b.Idles count := by
      rintro n o advanced eq
      have passed := advanced.passed sound.session
      have discovery : b.discovery = o.session := by
        rw [eq, attachment_absorb, discovery_addReports]
      have link := passed.kept idles.link
      refine ⟨?_, discovery ▸ link, fun n u there => (tasks n u there).elim (idles.quiet n u) id⟩
      rw [discovery, passed.count_eq link, idles.count_eq]
    cases entry with
    | went signal there listed eq told =>
      have called := Discovery.resume_called sound.session listed s.admission signal
      rcases Idles.called idles.count_eq idles.link called (other there eq) with less | after
      · exact .inl less
      · exact .inr ⟨after.1, after.2.1, idles.quiet⟩
    | @answered n t place reply signal there listed eq told =>
      have called := Discovery.resume_called sound.session listed s.admission signal
      rcases Idles.called idles.count_eq idles.link called (other there eq) with
        less | ⟨count_eq, link, waits, unlinked⟩
      · exact .of_lt less
      · have idles' : Idles count
            { a with discovery := (a.discovery.resume s.admission n signal).session } :=
          ⟨count_eq, link, idles.quiet⟩
        rw [told] at waits unlinked
        cases request : place.request with
        | discover => exact absurd request (other there eq)
        | disconnect => exact absurd (waits request) (by simp)
        | isOpen => exact .inr idles'
        | connect =>
          rw [left_unconnected (by simpa using unlinked)]
          exact .inr idles'
    | startRound => exact .inr (advanced (Discovery.startRound_advanced _ _) rfl)
    | resumeRound => exact .inr (advanced (Discovery.resumeRound_advanced _ _ _ _) rfl)
    | summoned summons => cases summons <;> exact .inr (idles.same rfl tasks)
    | received summons => cases summons <;> exact .inr (idles.same rfl tasks)
    | _ => exact .inr (idles.same rfl tasks)

/-- A link that idles goes on idling in a step, or its change is counted. -/
theorem Left.step {count : Nat} (h : a.Left count .rest) (sound : a.Sound) (s : Surroundings)
    (e : Event) : (a.step s e).attachment.Left count .rest := by
  obtain ⟨_, b, p, _, entry, moves, -⟩ := exists_moves sound s e
  exact (h.entry sound entry).moves (sound.entry entry) moves

/-- A link that idles goes on idling in a run, or its change is counted. -/
theorem Left.run {count : Nat} (h : a.Left count .rest) (sound : a.Sound) (script : Script) :
    (a.run script).Left count .rest := by
  induction script generalizing a with
  | nil => exact h
  | cons turn script ih => exact ih (h.step sound turn.1 turn.2) (sound.step turn.1 turn.2)

end A2dpSink.Attachment
