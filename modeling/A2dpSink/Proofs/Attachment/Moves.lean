import A2dpSink.Proofs.Attachment.Tasks
import A2dpSink.Proofs.Discovery.Effects

/-!
# A step is a chain of moves

A task that holds the lock goes from one point to the next until it has to wait or leaves. `Move`
lists all that may happen between two points, and `Moves` chains moves up to the point where nobody
runs. What an attachment does from a point on is such a chain (`moves_go`), so a property of steps
is proved by going through the moves once.
-/

namespace A2dpSink.Attachment

/-! ### Points -/

/-- The place a task is at while it waits for the answer to a request. -/
def Stage.ofRequest : Discovery.Request → Stage
  | .isOpen => .probing
  | .connect => .connecting
  | .disconnect => .parting
  | .discover => .starting

/-- What a task that holds the lock does next. -/
inductive Point where
  /-- Nobody runs. -/
  | rest
  /-- It does what it is there for. -/
  | perform (t : Task)
  /-- It calls the discovery session. -/
  | call (t : Task) (r : Discovery.Request)
  /-- It has got an answer. -/
  | answered (t : Task) (r : Discovery.Request) (reply : Discovery.Reply)
  /-- It takes in services. -/
  | settle (t : Task) (services : List AudioService)
  /-- It opens the transport link. -/
  | dial (t : Task) (psm : Psm)
  /-- It closes the transport link. -/
  | hangUp (t : Task)
  | leave (t : Task) (reply : Option Reply)

/-- What an attachment does from a point on. -/
def go (a : Attachment) (s : Surroundings) : Point → Outcome
  | .rest => ⟨a, []⟩
  | .perform t => a.perform s t
  | .call t r => a.call s t.number r (.ofRequest r) fun a reply =>
      a.answered s { t with stage := .ofRequest r } reply
  | .answered t r reply => a.answered s { t with stage := .ofRequest r } reply
  | .settle t services => a.settle t.number services
  | .dial t psm => a.openTransport t.number psm
  | .hangUp t => a.hangUp t
  | .leave t reply => a.leave t.number reply

/-- How many moves there may be from a point on. -/
def Point.rank : Point → Nat
  | .rest => 0
  | .leave _ _ => 1
  | .dial _ _ => 2
  | .hangUp _ => 2
  | .settle _ _ => 3
  | .answered _ .disconnect _ => 4
  | .answered _ .discover _ => 4
  | .call _ .disconnect => 5
  | .call _ .discover => 5
  | .answered _ .connect _ => 6
  | .call _ .connect => 7
  | .answered _ .isOpen _ => 8
  | .call _ .isOpen => 9
  | .perform _ => 10

/-! ### Moves -/

/-- What a task that holds the lock may do at a point, and where that leaves it. -/
inductive Move (s : Surroundings) (a : Attachment) :
    Point → List Action → Attachment → Point → Prop
  -- An update.
  | late {t : Task} : t.errand = .update → a.closed = true →
      Move s a (.perform t) [] a (.leave t none)
  | reset {t : Task} (line : Log.Line) : t.errand = .update → a.closed = false →
      s.flags.connected = false →
      Move s a (.perform t) [.log line] { a with service := {} } (.call t .disconnect)
  | probe {t : Task} : t.errand = .update → a.closed = false → s.flags.connected = true →
      a.service.role = .unknown → Move s a (.perform t) [] a (.call t .isOpen)
  | keep {t : Task} : t.errand = .update → a.closed = false → s.flags.connected = true →
      a.service.role = .sink → a.transport.isOpen = true →
      Move s a (.perform t) [] a (.leave t none)
  | redial {t : Task} : t.errand = .update → a.closed = false → s.flags.connected = true →
      a.service.role = .sink → a.transport.isOpen = false →
      Move s a (.perform t) [] a (.dial t a.service.psm)
  | pass {t : Task} (line : Log.Line) : t.errand = .update → a.closed = false →
      s.flags.connected = true → a.service.role ≠ .unknown → a.service.role ≠ .sink →
      Move s a (.perform t) [.log line] a (.leave t none)
  -- A report.
  | discard {t : Task} {services : List AudioService} (line : Log.Line) :
      t.errand = .report services → (a.closed || !s.flags.connected) = true →
      Move s a (.perform t) [.log line] a (.leave t none)
  | heed {t : Task} {services : List AudioService} : t.errand = .report services →
      a.closed = false → s.flags.connected = true →
      Move s a (.perform t) [] a (.call t .disconnect)
  -- What the owner asks for.
  | shut {t : Task} : t.errand = .close →
      Move s a (.perform t) [] { a with closed := true, service := {} } (.call t .disconnect)
  | tell {t : Task} : t.errand = .inquire →
      Move s a (.perform t) [] a (.leave t (some (.service a.service)))
  -- The discovery session.
  | wait {t : Task} {r : Discovery.Request} :
      (a.discovery.begin s.admission t.number r).reply = none →
      Move s a (.call t r) (a.absorb (a.discovery.begin s.admission t.number r)).actions
        ({ a with discovery := (a.discovery.begin s.admission t.number r).session }.setTask t.number
          (some (.ofRequest r))) .rest
  | serve {t : Task} {r : Discovery.Request} {reply : Discovery.Reply} :
      (a.discovery.begin s.admission t.number r).reply = some reply →
      Move s a (.call t r) (a.absorb (a.discovery.begin s.admission t.number r)).actions
        { a with discovery := (a.discovery.begin s.admission t.number r).session }
        (.answered t r reply)
  | busy {t : Task} {reply : Discovery.Reply} (line : Log.Line) : reply ≠ .isOpen false →
      Move s a (.answered t .isOpen reply) [.log line] a (.leave t none)
  | idle {t : Task} : Move s a (.answered t .isOpen (.isOpen false)) [] a (.call t .connect)
  | connected {t : Task} :
      Move s a (.answered t .connect (.connected (.ok ()))) [] a (.call t .discover)
  | unconnected {t : Task} {reply : Discovery.Reply} : reply ≠ .connected (.ok ()) →
      Move s a (.answered t .connect reply) [] a (.leave t none)
  | started {t : Task} {reply : Discovery.Reply} :
      Move s a (.answered t .discover reply) [] a (.leave t none)
  | parted {t : Task} {services : List AudioService} {reply : Discovery.Reply} :
      t.errand = .report services →
      Move s a (.answered t .disconnect reply) [] a (.settle t services)
  | cleared {t : Task} {reply : Discovery.Reply} : (∀ services, t.errand ≠ .report services) →
      Move s a (.answered t .disconnect reply) [] a (.hangUp t)
  -- The services.
  | nothing {t : Task} {services : List AudioService} (lines : List Log.Line) :
      pick services = none →
      Move s a (.settle t services) (lines.map .log) a (.leave t none)
  | sink {t : Task} {services : List AudioService} {service : AudioService}
      (lines : List Log.Line) : pick services = some service → service.role = .sink →
      Move s a (.settle t services) (lines.map .log) { a with service } (.dial t service.psm)
  | other {t : Task} {services : List AudioService} {service : AudioService}
      (lines : List Log.Line) : pick services = some service → service.role ≠ .sink →
      Move s a (.settle t services) (lines.map .log) { a with service } (.leave t none)
  -- The transport.
  | dialing {t : Task} {psm : Psm} : (a.transport.connect psm).reply = none →
      Move s a (.dial t psm) ((a.transport.connect psm).effects.map .effect)
        ({ a with transport := (a.transport.connect psm).transport }.setTask t.number
          (some (.opening psm))) .rest
  | dialed {t : Task} {psm : Psm} {reply : Except OpenError Unit} :
      (a.transport.connect psm).reply = some reply →
      Move s a (.dial t psm) ((a.transport.connect psm).effects.map .effect)
        { a with transport := (a.transport.connect psm).transport } (.leave t none)
  | hangingUp {t : Task} : a.transport.disconnect.reply = none →
      Move s a (.hangUp t) (a.transport.disconnect.effects.map .effect)
        ({ a with transport := a.transport.disconnect.transport }.setTask t.number
          (some .hangingUp)) .rest
  | hungUp {t : Task} {reply : Except CloseError Unit} :
      a.transport.disconnect.reply = some reply →
      Move s a (.hangUp t) (a.transport.disconnect.effects.map .effect)
        { a with transport := a.transport.disconnect.transport } (.leave t (farewell t))
  | left {t : Task} {reply : Option Reply} :
      Move s a (.leave t reply) (a.leave t.number reply).actions
        (a.leave t.number reply).attachment .rest

/-- Moves up to the point where nobody runs. -/
inductive Moves (s : Surroundings) : Attachment → Point → List Action → Attachment → Prop
  | rest {a : Attachment} : Moves s a .rest [] a
  | move {a b c : Attachment} {p q : Point} {now later : List Action} :
      Move s a p now b q → Moves s b q later c → Moves s a p (now ++ later) c

/-- Nobody moves where nobody runs. -/
theorem Moves.eq_of_rest {s : Surroundings} {a b : Attachment} {actions : List Action}
    (moves : Moves s a .rest actions b) : b = a := by
  cases moves with
  | rest => rfl
  | move move => cases move

/-- The task in hand at a point goes to another place. -/
inductive Point.Places : Point → Nat → Stage → Prop
  | wait (t : Task) (r : Discovery.Request) : Places (.call t r) t.number (.ofRequest r)
  | dial (t : Task) (psm : Psm) : Places (.dial t psm) t.number (.opening psm)
  | hangUp (t : Task) : Places (.hangUp t) t.number .hangingUp

/-- When a task has gone to a place, the others are where they were. -/
theorem task?_of_setTask_some {a : Attachment} {n m : Nat} {place : Stage} {u : Task}
    (h : (a.setTask n (some place)).task? m = some u) :
    m ≠ n ∧ a.task? m = some u ∨
      m = n ∧ ∃ u', a.task? n = some u' ∧ u = { u' with stage := place } := by
  by_cases same : m = n
  · right
    subst same
    rw [task?_setTask_some] at h
    obtain ⟨u', there, rfl⟩ := Option.map_eq_some_iff.mp h
    exact ⟨rfl, u', there, rfl⟩
  · left
    exact ⟨same, (task?_setTask_of_ne _ same).symm.trans h⟩

/-- When a task is over, the others are where they were. -/
theorem task?_of_setTask_none {a : Attachment} {n m : Nat} {u : Task}
    (h : (a.setTask n none).task? m = some u) : m ≠ n ∧ a.task? m = some u := by
  by_cases same : m = n
  · subst same
    rw [task?_setTask_none] at h
    cases h
  · exact ⟨same, (task?_setTask_of_ne _ same).symm.trans h⟩

/-- No task gets another errand. -/
theorem errand_of_setTask {a : Attachment} {n m : Nat} {stage : Option Stage} {u : Task}
    (h : (a.setTask n stage).task? m = some u) :
    ∃ u', a.task? m = some u' ∧ u'.errand = u.errand := by
  cases stage with
  | none => exact ⟨u, (task?_of_setTask_none h).2, rfl⟩
  | some place =>
    rcases task?_of_setTask_some h with ⟨-, old⟩ | ⟨rfl, u', old, rfl⟩
    · exact ⟨u, old, rfl⟩
    · exact ⟨u', old, rfl⟩

/-- A move changes at most the place of one task. -/
theorem Move.task {s : Surroundings} {a b : Attachment} {p q : Point} {actions : List Action}
    (move : Move s a p actions b q) {n : Nat} {u : Task} (h : b.task? n = some u) :
    a.task? n = some u ∨
      ∃ u' place, a.task? n = some u' ∧ u = { u' with stage := place } ∧ p.Places n place := by
  cases move with
  | @wait t r =>
    rcases task?_of_setTask_some h with ⟨-, old⟩ | ⟨rfl, u', old, eq⟩
    · exact .inl old
    · exact .inr ⟨u', _, old, eq, .wait t r⟩
  | @dialing t psm =>
    rcases task?_of_setTask_some h with ⟨-, old⟩ | ⟨rfl, u', old, eq⟩
    · exact .inl old
    · exact .inr ⟨u', _, old, eq, .dial t psm⟩
  | @hangingUp t =>
    rcases task?_of_setTask_some h with ⟨-, old⟩ | ⟨rfl, u', old, eq⟩
    · exact .inl old
    · exact .inr ⟨u', _, old, eq, .hangUp t⟩
  | left => exact .inl (task?_of_setTask_none h).2
  | _ => exact .inl h

/-! ### Every point has its moves -/

section Next

variable (a : Attachment) (s : Surroundings) (t : Task)

/-- There is a move to a point of lower rank, and what is done at the first point is what is done in
the move and at the second one. -/
def Moving (p : Point) : Prop :=
  ∃ actions b q, Move s a p actions b q ∧ q.rank < p.rank ∧ a.go s p = (b.go s q).after actions

private theorem moving_update (h : t.errand = .update) : a.Moving s (.perform t) := by
  have eq : a.go s (.perform t) = a.update s t := by simp only [go, perform, h]
  unfold update at eq
  split at eq
  · next closed => exact ⟨_, _, _, .late h closed, by simp [Point.rank], eq⟩
  · next closed =>
    rw [Bool.not_eq_true] at closed
    split at eq
    · next gone =>
      exact ⟨_, _, _, .reset _ h closed (by simpa using gone), by simp [Point.rank], eq⟩
    · next there =>
      have there : s.flags.connected = true := by simpa using there
      split at eq
      · next role => exact ⟨_, _, _, .probe h closed there role, by simp [Point.rank], eq⟩
      · next role =>
        split at eq
        · next open_ =>
          exact ⟨_, _, _, .keep h closed there role open_, by simp [Point.rank], eq⟩
        · next shut =>
          rw [Bool.not_eq_true] at shut
          exact ⟨_, _, _, .redial h closed there role shut, by simp [Point.rank], eq⟩
      · next unknown sink =>
        exact ⟨_, _, _, .pass _ h closed there unknown sink, by simp [Point.rank], eq⟩

private theorem moving_perform : a.Moving s (.perform t) := by
  cases h : t.errand with
  | update => exact moving_update a s t h
  | report services =>
    have eq : a.go s (.perform t) = a.perform s t := rfl
    simp only [perform, h] at eq
    split at eq
    · next gone => exact ⟨_, _, _, .discard _ h gone, by simp [Point.rank], eq⟩
    · next there =>
      obtain ⟨closed, connected⟩ : a.closed = false ∧ s.flags.connected = true := by
        simpa using there
      exact ⟨_, _, _, .heed h closed connected, by simp [Point.rank], eq⟩
  | close =>
    have eq : a.go s (.perform t) = { a with closed := true, service := {} }.part s t := by
      simp only [go, perform, h]
    exact ⟨_, _, _, .shut h, by simp [Point.rank], eq⟩
  | inquire =>
    have eq : a.go s (.perform t) = a.leave t.number (some (.service a.service)) := by
      simp only [go, perform, h]
    exact ⟨_, _, _, .tell h, by simp [Point.rank], eq⟩

private theorem moving_call (r : Discovery.Request) : a.Moving s (.call t r) := by
  have quiet := Discovery.begin_quiet a.discovery s.admission t.number r
  cases told : (a.discovery.begin s.admission t.number r).reply with
  | none =>
    refine ⟨_, _, _, .wait told, by cases r <;> simp [Point.rank], ?_⟩
    simp only [go, call, told, attachment_absorb_of_quiet quiet]
  | some reply =>
    refine ⟨_, _, _, .serve told, by cases r <;> simp [Point.rank], ?_⟩
    simp only [go, call, told, attachment_absorb_of_quiet quiet]

private theorem moving_answered (r : Discovery.Request) (reply : Discovery.Reply) :
    a.Moving s (.answered t r reply) := by
  cases r with
  | isOpen =>
    have eq : a.go s (.answered t .isOpen reply) = a.probed s t.number reply := rfl
    by_cases idle : reply = .isOpen false
    · subst idle
      exact ⟨_, _, _, .idle, by simp [Point.rank], eq⟩
    · refine ⟨_, _, _, .busy (busyLine a.remote) idle, by simp [Point.rank], ?_⟩
      rw [eq]
      unfold probed
      split
      · next same => exact absurd rfl idle
      · rfl
  | connect =>
    have eq : a.go s (.answered t .connect reply) = a.connected s t.number reply := rfl
    by_cases linked : reply = .connected (.ok ())
    · subst linked
      exact ⟨_, _, _, .connected, by simp [Point.rank], eq⟩
    · refine ⟨_, _, _, .unconnected linked, by simp [Point.rank], ?_⟩
      rw [eq]
      unfold connected
      split
      · next same => exact absurd rfl linked
      · rfl
  | discover => exact ⟨_, _, _, .started, by simp [Point.rank], rfl⟩
  | disconnect =>
    have eq : a.go s (.answered t .disconnect reply) = a.parted t := rfl
    unfold parted at eq
    split at eq
    · next services found => exact ⟨_, _, _, .parted found, by simp [Point.rank], eq⟩
    · next other => exact ⟨_, _, _, .cleared other, by simp [Point.rank], eq⟩

private theorem moving_settle (services : List AudioService) : a.Moving s (.settle t services) := by
  have choice : ∃ lines : List Log.Line, (if 1 < services.length then
      [Action.log (.a2dp .info (a.remote.text ++ " offers " ++ toString services.length ++
        " audio sink services, picking one"))] else []) = lines.map .log := by
    split
    · exact ⟨[_], rfl⟩
    · exact ⟨[], rfl⟩
  obtain ⟨lines, choice⟩ := choice
  have eq : a.go s (.settle t services) = a.settle t.number services := rfl
  unfold settle at eq
  rw [choice] at eq
  split at eq
  · next none => exact ⟨_, _, _, .nothing lines none, by simp [Point.rank], eq⟩
  · next service picked =>
    have shown : lines.map Action.log ++ [.log (pickedLine a.remote service)] =
        (lines ++ [pickedLine a.remote service]).map .log := by
      simp
    by_cases role : service.role = .sink
    · refine ⟨_, _, _, .sink (lines ++ [pickedLine a.remote service]) picked role,
        by simp [Point.rank], ?_⟩
      simp only [if_pos role, shown] at eq
      exact eq
    · refine ⟨_, _, _, .other (lines ++ [pickedLine a.remote service]) picked role,
        by simp [Point.rank], ?_⟩
      simp only [if_neg role, shown] at eq
      exact eq

private theorem moving_dial (psm : Psm) : a.Moving s (.dial t psm) := by
  cases told : (a.transport.connect psm).reply with
  | none =>
    refine ⟨_, _, _, .dialing told, by simp [Point.rank], ?_⟩
    simp only [go, openTransport, told]
  | some reply =>
    refine ⟨_, _, _, .dialed told, by simp [Point.rank], ?_⟩
    simp only [go, openTransport, told]

private theorem moving_hangUp : a.Moving s (.hangUp t) := by
  cases told : a.transport.disconnect.reply with
  | none =>
    refine ⟨_, _, _, .hangingUp told, by simp [Point.rank], ?_⟩
    simp only [go, hangUp, told]
  | some reply =>
    refine ⟨_, _, _, .hungUp told, by simp [Point.rank], ?_⟩
    simp only [go, hangUp, told]

private theorem moving_leave (reply : Option Reply) : a.Moving s (.leave t reply) := by
  refine ⟨_, _, _, .left, by simp [Point.rank], ?_⟩
  simp [go, Outcome.after]

end Next

private theorem moving {a : Attachment} {s : Surroundings} {p : Point} (h : p ≠ .rest) :
    a.Moving s p := by
  cases p with
  | rest => exact absurd rfl h
  | perform t => exact moving_perform a s t
  | call t r => exact moving_call a s t r
  | answered t r reply => exact moving_answered a s t r reply
  | settle t services => exact moving_settle a s t services
  | dial t psm => exact moving_dial a s t psm
  | hangUp t => exact moving_hangUp a s t
  | leave t reply => exact moving_leave a s t reply

/-- What an attachment does from a point on is a chain of moves. -/
theorem moves_go (a : Attachment) (s : Surroundings) (p : Point) :
    Moves s a p (a.go s p).actions (a.go s p).attachment := by
  induction rank : p.rank using Nat.strongRecOn generalizing a p with
  | ind k ih =>
    by_cases rest : p = .rest
    · subst rest
      exact .rest
    · obtain ⟨actions, b, q, move, less, eq⟩ := moving (a := a) (s := s) rest
      rw [eq]
      exact .move move (ih q.rank (rank ▸ less) b q rfl)

end A2dpSink.Attachment
