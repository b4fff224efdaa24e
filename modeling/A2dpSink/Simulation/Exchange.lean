import A2dpSink.Simulation.Peer

/-!
# Exchanges with a scripted peer

A question put to a scripted peer runs by itself until it has an answer or has to wait. Every move
uses up bytes that the peer may still send, or gets the current request further on its way, so a run
ends; `Exchange.move_decreases` is that fact. `Exchange.complete` also lets the delays of the peer
pass, and finds that a question without an answer stalls.
-/

namespace A2dpSink.Simulation

open Sdp

/-- A question under way, with both ends of the channel. -/
structure Exchange where
  client : Client
  inquiry : Inquiry
  peer : Peer

/-- What comes of a move. -/
inductive Move where
  /-- The exchange goes on, and maybe a request was reported. -/
  | on (x : Exchange) (request : Option Bytes)
  /-- Nothing moves before the time of the peer, if then. -/
  | wait
  /-- The question is answered, and maybe a request was reported. -/
  | over (c : Client) (p : Peer) (r : Result) (request : Option Bytes)

namespace Exchange

/-- Starts a question. -/
def start (c : Client) (p : Peer) (q : Question) : Exchange :=
  let (c, i) := Inquiry.start c q
  ⟨c, i, p⟩

/-- Makes one move at a given time. -/
def move (x : Exchange) (now : Nat) : Move :=
  match x.peer.attempt now x.inquiry.need with
  | none => .wait
  | some r =>
    match x.inquiry.step x.client r.reaction with
    | (c, .going i) => .on ⟨c, i, r.peer⟩ r.request
    | (c, .done result) => .over c r.peer result r.request

/-! ### Every move decreases a measure -/

/-- How many bytes a peer may still send. -/
def supply (p : Peer) : Nat :=
  p.script.foldr (fun turn n => turn.reply.size + n) 0 + p.unread.length

/-- How many bytes may still be looked at; those that have not come in count twice. -/
def weight (x : Exchange) : Nat := 2 * supply x.peer + x.client.buffer.length

/-- How much of the current request is still to be done. -/
def rank (i : Inquiry) : Nat :=
  match i.stage with
  | .sending rest => rest.length + 2
  | .flushing => 1
  | .header _ => 0
  | .parameter _ _ => 0

/-- Asking leaves the buffer alone. -/
@[simp] theorem ask_buffer (c : Client) (i : Inquiry) (s : Bytes) :
    (i.ask c s).1.buffer = c.buffer := rfl

private theorem gather_buffer (c : Client) (i : Inquiry) (f : Fragment) :
    (i.gather c f).1.buffer = c.buffer := by
  simp only [Inquiry.gather]
  split
  · rfl
  · split <;> rfl

/-- Making something of a reply leaves the buffer alone. -/
theorem respond_buffer (c : Client) (i : Inquiry) (p : Pdu) :
    (i.respond c p).1.buffer = c.buffer := by
  simp only [Inquiry.respond]
  split
  · rfl
  · split
    · split <;> rfl
    · split
      · exact gather_buffer c i _
      · rfl
    · rfl

/-- Taking in a parameter leaves no more in the buffer than there was. -/
theorem takeParameter_buffer_le (c : Client) (i : Inquiry) (head : Header) (b : Intake) :
    (i.takeParameter c head b).1.buffer.length ≤ c.buffer.length := by
  have h := Intake.length_take_le b c.buffer
  simp only [Inquiry.takeParameter]
  split
  · rw [respond_buffer]
    exact h
  · exact h

/-- Taking in a header leaves no more in the buffer than there was. -/
theorem takeHeader_buffer_le (c : Client) (i : Inquiry) (b : Intake) :
    (i.takeHeader c b).1.buffer.length ≤ c.buffer.length := by
  have h := Intake.length_take_le b c.buffer
  simp only [Inquiry.takeHeader]
  split
  · split
    · exact Nat.le_trans (takeParameter_buffer_le _ i _ _) h
    · exact h
  · exact h

/-- After a header has been looked for, either all of it was there, or the rest is waited for. -/
theorem takeHeader_going {c c' : Client} {i i' : Inquiry} {b : Intake}
    (h : i.takeHeader c b = (c', .going i')) :
    rank i' = 0 ∨ c'.buffer.length + b.missing ≤ c.buffer.length := by
  simp only [Inquiry.takeHeader] at h
  split at h
  next complete =>
    split at h
    · right
      have bound := Intake.length_take_of_complete complete
      have rest := takeParameter_buffer_le ⟨c.transaction, (b.take c.buffer).2⟩ i
      rename_i head _
      have := rest head (.ofLength head.length)
      rw [h] at this
      exact Nat.le_trans (Nat.add_le_add_right this _) bound
    · simp at h
  next =>
    left
    simp only [Prod.mk.injEq, Progress.going.injEq] at h
    rw [← h.2]
    rfl

/-- A client that has written something has less to do for its request. -/
theorem step_wrote {c c' : Client} {i i' : Inquiry} {rest : Bytes} {n : Nat}
    (stage : i.stage = .sending rest) (h : i.step c (.wrote n) = (c', .going i')) :
    c' = c ∧ rank i' < rank i := by
  simp only [Inquiry.step, stage] at h
  split at h
  · simp at h
  next positive =>
    simp only [Prod.mk.injEq, Progress.going.injEq] at h
    obtain ⟨rfl, rfl⟩ := h
    refine ⟨rfl, ?_⟩
    by_cases empty : (rest.drop n).isEmpty
    · simp [rank, stage, empty]
    · have shorter : (rest.drop n).length < rest.length := by
        have : rest.drop n ≠ [] := by simpa using empty
        have := List.length_pos_iff.mpr this
        simp at this ⊢
        omega
      simp only [rank, stage, empty, Bool.false_eq_true, if_false]
      omega

/-- A client that has sent off its request has less to do, or less in its buffer. -/
theorem step_flushed {c c' : Client} {i i' : Inquiry} (stage : i.stage = .flushing)
    (h : i.step c .flushed = (c', .going i')) :
    c'.buffer.length < c.buffer.length ∨
      c'.buffer.length ≤ c.buffer.length ∧ rank i' < rank i := by
  simp only [Inquiry.step, stage] at h
  have le := takeHeader_buffer_le c i (.ofLength headerLen)
  rw [h] at le
  cases takeHeader_going h with
  | inl zero =>
    have one : rank i = 1 := by simp [rank, stage]
    exact .inr ⟨le, by omega⟩
  | inr less =>
    left
    simp only [Intake.ofLength, headerLen] at less
    omega

private theorem step_received {c c' : Client} {i i' : Inquiry} {bytes : Bytes}
    (reads : i.need = .read) (h : i.step c (.received bytes) = (c', .going i')) :
    bytes ≠ [] ∧ c'.buffer.length ≤ c.buffer.length + bytes.length := by
  cases stage : i.stage with
  | sending rest => simp [Inquiry.need, stage] at reads
  | flushing => simp [Inquiry.need, stage] at reads
  | header b =>
    simp only [Inquiry.step, stage] at h
    split at h
    · simp at h
    next nonempty =>
      have := takeHeader_buffer_le { c with buffer := c.buffer ++ bytes } i b
      rw [h] at this
      exact ⟨by simpa using nonempty, by simpa using this⟩
  | parameter head b =>
    simp only [Inquiry.step, stage] at h
    split at h
    · simp at h
    next nonempty =>
      have := takeParameter_buffer_le { c with buffer := c.buffer ++ bytes } i head b
      rw [h] at this
      exact ⟨by simpa using nonempty, by simpa using this⟩

private theorem step_failed {c c' : Client} {i i' : Inquiry} {e : IoError} :
    i.step c (.failed e) ≠ (c', .going i') := by
  simp [Inquiry.step]

private theorem supply_write (p : Peer) (bytes : Bytes) :
    supply (p.write bytes).peer = supply p := by
  simp only [Peer.write]
  split <;> rfl

private theorem reaction_write (p : Peer) (bytes : Bytes) :
    (∃ e, (p.write bytes).reaction = .failed e) ∨ ∃ n, (p.write bytes).reaction = .wrote n := by
  simp only [Peer.write]
  split <;> simp

private theorem supply_flush (p : Peer) (now : Nat) : supply (p.flush now).peer ≤ supply p := by
  simp only [Peer.flush]
  split
  next => simp [supply]
  next turn script eq =>
    have := Reply.length_bytes_le p.written.reverse turn.reply
    split <;> simp [supply, eq] <;> simp_all <;> omega

/-- A flush succeeds or fails. -/
theorem reaction_flush (p : Peer) (now : Nat) :
    (∃ e, (p.flush now).reaction = .failed e) ∨ (p.flush now).reaction = .flushed := by
  simp only [Peer.flush]
  split
  · simp
  · split <;> simp

private theorem supply_read {p : Peer} {now : Nat} {r : Peer.Response} (h : p.read now = some r) :
    (∃ e, r.reaction = .failed e) ∨
      ∃ bytes, r.reaction = .received bytes ∧ supply r.peer + bytes.length = supply p := by
  simp only [Peer.read] at h
  split at h
  · simp at h
  · split at h
    · split at h
      · simp only [Option.some.injEq] at h
        exact .inl ⟨_, by rw [← h]⟩
      · split at h
        · simp only [Option.some.injEq] at h
          exact .inr ⟨[], by rw [← h], by rw [← h]; simp⟩
        · simp at h
    · simp only [Option.some.injEq] at h
      refine .inr ⟨(p.unread.splitAt (p.most receiveSize)).1, by rw [← h], ?_⟩
      rw [← h]
      simp [supply, List.splitAt_eq]
      omega

/-- Every move that goes on brings the exchange nearer to its end. -/
theorem move_decreases {x y : Exchange} {now : Nat} {request : Option Bytes}
    (h : x.move now = .on y request) :
    weight y < weight x ∨ weight y = weight x ∧ rank y.inquiry < rank x.inquiry := by
  simp only [move] at h
  split at h
  · simp at h
  next r attempt =>
    split at h
    case h_2 => simp at h
    case h_1 c i step =>
      simp only [Move.on.injEq] at h
      obtain ⟨rfl, -⟩ := h
      cases stage : x.inquiry.stage with
      | sending rest =>
        simp only [Inquiry.need, stage, Peer.attempt, Option.some.injEq] at attempt
        subst attempt
        cases reaction_write x.peer rest with
        | inl failed =>
          obtain ⟨e, eq⟩ := failed
          exact absurd (eq ▸ step) step_failed
        | inr wrote =>
          obtain ⟨n, eq⟩ := wrote
          obtain ⟨rfl, less⟩ := step_wrote stage (eq ▸ step)
          exact .inr ⟨by simp [weight, supply_write], less⟩
      | flushing =>
        simp only [Inquiry.need, stage, Peer.attempt, Option.some.injEq] at attempt
        subst attempt
        have supplied := supply_flush x.peer now
        cases reaction_flush x.peer now with
        | inl failed =>
          obtain ⟨e, eq⟩ := failed
          exact absurd (eq ▸ step) step_failed
        | inr flushed =>
          simp only [weight]
          have := step_flushed stage (flushed ▸ step)
          omega
      | _ =>
        have reads : x.inquiry.need = .read := by simp [Inquiry.need, stage]
        rw [reads] at attempt
        cases supply_read attempt with
        | inl failed =>
          obtain ⟨e, eq⟩ := failed
          exact absurd (eq ▸ step) step_failed
        | inr received =>
          obtain ⟨bytes, eq, supplied⟩ := received
          obtain ⟨nonempty, bound⟩ := step_received reads (eq ▸ step)
          have := List.length_pos_iff.mpr nonempty
          simp only [weight]
          omega

/-! ### Runs -/

/-- Where a run of an exchange stops. -/
inductive Stop where
  /-- It waits, and nothing but the passing of time can help. -/
  | waiting (x : Exchange)
  /-- The question is answered. -/
  | answered (c : Client) (p : Peer) (r : Result)

/-- Lets an exchange run at a given time; what it reports is put in front of `requests`. -/
def advance (x : Exchange) (now : Nat) (requests : List Bytes) : Stop × List Bytes :=
  match _ : x.move now with
  | .on y request => y.advance now (request.toList ++ requests)
  | .wait => (.waiting x, requests)
  | .over c p r request => (.answered c p r, request.toList ++ requests)
termination_by (weight x, rank x.inquiry)
decreasing_by
  have := move_decreases ‹_›
  simp only [Prod.lex_def]
  exact this

/-- When an exchange that waits may go on; nothing if it never does. -/
def resumesAt (x : Exchange) (now : Nat) : Option Nat :=
  if now < x.peer.readyAt then some x.peer.readyAt else none

/-- Lets an exchange run, and the time of the peer pass, until there is a result. There is none if
the exchange waits for something that never comes. -/
def complete (x : Exchange) (requests : List Bytes) : Stop × List Bytes :=
  match _ : x.move 0 with
  | .on y request => y.complete (request.toList ++ requests)
  | .wait =>
    if 0 < x.peer.readyAt then complete { x with peer := { x.peer with readyAt := 0 } } requests
    else (.waiting x, requests)
  | .over c p r request => (.answered c p r, request.toList ++ requests)
termination_by (weight x, rank x.inquiry, x.peer.readyAt)
decreasing_by
  · have := move_decreases ‹_›
    simp only [Prod.lex_def]
    omega
  next waits =>
    exact .right _ (.right _ waits)

/-- What is learnt from one question: the result, unless the question stalls, and the requests that
were reported. -/
structure Account where
  result : Option Result
  requests : List Bytes

/-- Puts questions to a peer, one after the other. A question that stalls is given up. -/
def converse (c : Client) (p : Peer) : List Question → List Account
  | [] => []
  | q :: rest =>
    match (start c p q).complete [] with
    | (.answered c p r, requests) => ⟨some r, requests.reverse⟩ :: converse c p rest
    | (.waiting x, requests) => ⟨none, requests.reverse⟩ :: converse x.client x.peer rest

end Exchange

end A2dpSink.Simulation
