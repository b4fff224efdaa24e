import A2dpSink.Proofs.Sdp.Framing
import A2dpSink.Proofs.Sdp.Reply

/-!
# How many requests a query sends

What an answer may have in attribute bytes is limited, and every request but the first one follows a
response that was carried on from. So a query sends one request more than there are such responses,
and those of them that brought any bytes are within the limit (`sent_le`). Nothing limits those that
brought none: a peer may have a query send as many requests as it likes (`exists_sent`).
-/

namespace A2dpSink.Sdp

/-! ### Steps that go on -/

namespace Inquiry

/-- How many requests were begun and not sent off. -/
def unsent (i : Inquiry) : Nat :=
  match i.stage with
  | .sending _ | .flushing => 1
  | .header _ | .parameter _ _ => 0

/-- How many requests a reaction of the channel sends off. -/
def sends (i : Inquiry) (r : Reaction) : Nat :=
  match i.stage, r with
  | .flushing, .flushed => 1
  | _, _ => 0

/-- The exchange of one request goes on. -/
structure Along (i j : Inquiry) : Prop where
  question : j.question = i.question
  collected : j.collected = i.collected
  size : j.size = i.size

/-- A part of the answer was taken in, and another request is to follow. -/
structure Onward (i j : Inquiry) : Prop where
  question : j.question = i.question
  collected : ∃ data, j.collected = data :: i.collected ∧ j.size = i.size + data.length
  size_le : j.size ≤ i.question.limit
  unsent : j.unsent = 1

variable {c c' : Client} {i j : Inquiry} {p : Pdu} {head : Header} {block : Intake} {r : Reaction}

private theorem Along.refl (i : Inquiry) : i.Along i := ⟨rfl, rfl, rfl⟩

/-- A response from which a query goes on is part of the answer. -/
theorem onward_of_respond (h : i.respond c p = (c', .going j)) : i.Onward j := by
  rcases ends_or_gives i.question i.transaction i.size p with ⟨e, ends⟩ | ⟨f, gives⟩
  · rw [respond_of_ends ends] at h
    cases h
  · rw [respond_of_gives gives] at h
    simp only at h
    split at h
    · cases h
    · cases h
      constructor
      · rfl
      · exact ⟨f.data, rfl, rfl⟩
      · exact gives.size_le
      · rfl

private theorem takeParameter_going (h : i.takeParameter c head block = (c', .going j)) :
    i.Along j ∧ j.unsent = 0 ∨ i.Onward j := by
  simp only [takeParameter] at h
  split at h
  · exact .inr (onward_of_respond h)
  · cases h
    exact .inl ⟨⟨rfl, rfl, rfl⟩, rfl⟩

private theorem takeHeader_going (h : i.takeHeader c block = (c', .going j)) :
    i.Along j ∧ j.unsent = 0 ∨ i.Onward j := by
  simp only [takeHeader] at h
  split at h
  · split at h
    · exact takeParameter_going h
    · cases h
  · cases h
    exact .inl ⟨⟨rfl, rfl, rfl⟩, rfl⟩

/-- A query that goes on is still at the same request, which may have been sent off, or goes on to
the next one when it was. -/
theorem step_going (h : i.step c r = (c', .going j)) :
    i.Along j ∧ i.sends r + j.unsent = i.unsent ∨ i.Onward j ∧ i.sends r = i.unsent := by
  have taken : ∀ {n : Nat}, i.Along j ∧ j.unsent = 0 ∨ i.Onward j → n = i.unsent →
      i.Along j ∧ n + j.unsent = i.unsent ∨ i.Onward j ∧ n = i.unsent := by
    intro n going all
    rcases going with ⟨along, spent⟩ | onward
    · exact .inl ⟨along, by omega⟩
    · exact .inr ⟨onward, all⟩
  unfold step at h
  split at h
  · cases h
  · next rest n stage =>
    split at h
    · cases h
    · cases h
      left
      refine ⟨⟨rfl, rfl, rfl⟩, ?_⟩
      by_cases all : (rest.drop n).isEmpty <;> simp [sends, unsent, stage, all]
  · next stage =>
    refine taken (takeHeader_going h) ?_
    simp only [sends, unsent, stage]
  · next block bytes stage =>
    split at h
    · cases h
    · refine taken (takeHeader_going h) ?_
      simp only [sends, unsent, stage]
  · next head block bytes stage =>
    split at h
    · cases h
    · refine taken (takeParameter_going h) ?_
      simp only [sends, unsent, stage]
  · cases h
    left
    refine ⟨.refl i, ?_⟩
    simp only [sends]
    exact Nat.zero_add _

end Inquiry

/-! ### Tallies -/

/-- A query, with an account of what it has sent off so far. -/
structure Tally where
  client : Client
  progress : Progress
  /-- How many requests were sent off. -/
  sent : Nat := 0
  /-- The attribute bytes of each response that was followed by another request. -/
  carried : List Bytes := []

namespace Tally

/-- A query before its first request. -/
def start (c : Client) (q : Question) : Tally :=
  let (client, i) := Inquiry.start c q
  { client, progress := .going i }

/-- The channel has done something. After the end of the query that changes nothing. -/
def react (x : Tally) (r : Reaction) : Tally :=
  match x.progress with
  | .done _ => x
  | .going i =>
    match i.step x.client r with
    | (client, .going j) => ⟨client, .going j, x.sent + i.sends r, j.collected⟩
    | (client, .done result) => ⟨client, .done result, x.sent + i.sends r, x.carried⟩

/-- The channel has done one thing after the other. -/
def run (x : Tally) (reactions : List Reaction) : Tally := reactions.foldl react x

private theorem run_append (x : Tally) (first second : List Reaction) :
    x.run (first ++ second) = (x.run first).run second :=
  List.foldl_append

/-- What is true of a query at all times: the requests were sent off that follow responses, and what
these brought is within the limit. -/
structure Balanced (q : Question) (x : Tally) : Prop where
  carried_le : (x.carried.map List.length).sum ≤ q.limit
  requests_le : x.sent ≤ x.carried.length + 1
  going : ∀ i, x.progress = .going i → i.question = q ∧ i.collected = x.carried ∧
    i.size = (x.carried.map List.length).sum ∧ x.sent + i.unsent = x.carried.length + 1

variable {q : Question} {x : Tally}

private theorem start_balanced (c : Client) (q : Question) : (start c q).Balanced q where
  carried_le := Nat.zero_le _
  requests_le := Nat.zero_le _
  going i there := by
    obtain rfl := Progress.going.inj there
    exact ⟨rfl, rfl, rfl, rfl⟩

private theorem Balanced.react (h : x.Balanced q) (r : Reaction) : (x.react r).Balanced q := by
  unfold Tally.react
  split
  · exact h
  · next i there =>
    obtain ⟨rfl, collected, size, sent⟩ := h.going i there
    have one : i.sends r ≤ i.unsent := by
      unfold Inquiry.sends Inquiry.unsent
      split <;> simp_all
    split
    · next c j step =>
      rcases Inquiry.step_going step with ⟨along, moves⟩ | ⟨onward, all⟩
      · have same : j.collected = x.carried := along.collected.trans collected
        constructor
        · exact same ▸ h.carried_le
        · show x.sent + i.sends r ≤ j.collected.length + 1
          rw [same]
          omega
        · intro j' going
          obtain rfl := Progress.going.inj going
          refine ⟨along.question, rfl, ?_, ?_⟩
          · exact along.size.trans (same ▸ size)
          · show x.sent + i.sends r + j.unsent = j.collected.length + 1
            rw [same]
            omega
      · obtain ⟨data, taken, grown⟩ := onward.collected
        have total : (j.collected.map List.length).sum = j.size := by
          rw [taken, collected, grown, size, List.map_cons, List.sum_cons, Nat.add_comm]
        have longer : j.collected.length = x.carried.length + 1 := by
          rw [taken, collected, List.length_cons]
        constructor
        · show (j.collected.map List.length).sum ≤ i.question.limit
          rw [total]
          exact onward.size_le
        · show x.sent + i.sends r ≤ j.collected.length + 1
          omega
        · intro j' going
          obtain rfl := Progress.going.inj going
          refine ⟨onward.question, rfl, total.symm, ?_⟩
          show x.sent + i.sends r + j.unsent = j.collected.length + 1
          rw [onward.unsent]
          omega
    · constructor
      · exact h.carried_le
      · show x.sent + i.sends r ≤ x.carried.length + 1
        omega
      · intro j there
        cases there

/-- The balance of a query is kept in every run. -/
theorem Balanced.run (h : x.Balanced q) (reactions : List Reaction) :
    (x.run reactions).Balanced q := by
  induction reactions generalizing x with
  | nil => exact h
  | cons r reactions ih => exact ih (h.react r)

-- There are no more parts than bytes in them, but for those that are empty.
private theorem length_le_sum (parts : List Bytes) :
    parts.length ≤ (parts.map List.length).sum + parts.count [] := by
  induction parts with
  | nil => exact Nat.le_refl _
  | cons part parts ih =>
    cases part with
    | nil =>
      simp only [List.length_cons, List.map_cons, List.sum_cons, List.length_nil,
        List.count_cons_self]
      omega
    | cons b part =>
      have same : List.count [] ((b :: part) :: parts) = List.count [] parts :=
        List.count_cons_of_ne (List.cons_ne_nil b part)
      simp only [List.length_cons, List.map_cons, List.sum_cons, same]
      omega

/-- Whatever the channel does, and whatever bytes a peer sends over it, a query sends at most
`16 * maxBytes + 1` requests and one more for every response without attribute bytes that it is told
to carry on from. -/
theorem sent_le (c : Client) (q : Question) (reactions : List Reaction) :
    ((start c q).run reactions).sent ≤
      16 * q.maxBytes.toNat + 1 + ((start c q).run reactions).carried.count [] := by
  have balanced := (start_balanced c q).run reactions
  have few := length_le_sum ((start c q).run reactions).carried
  have bound : (((start c q).run reactions).carried.map List.length).sum ≤
      q.maxBytes.toNat * 16 := balanced.carried_le
  have sent := balanced.requests_le
  omega

/-! ### Responses that bring nothing -/

/-- The part of an answer that has no attribute bytes and is not the last one. -/
def nothing : Fragment := ⟨[], [0]⟩

/-- A response that brings nothing and asks to be carried on from. -/
def idleReply (transaction : BitVec 16) : Pdu :=
  ⟨.searchAttributeResponse, transaction, [0, 0, 1, 0]⟩

/-- A query whose first `n` responses have brought nothing. It is about to write a request with the
number `t`, of which `rest` is left, and the next one will bear the number `t'`. -/
def idling (q : Question) (n : Nat) (t t' : BitVec 16) (rest : Bytes) : Tally where
  client := ⟨t', []⟩
  progress := .going ⟨q, t, List.replicate n [], 0, .sending rest⟩
  sent := n
  carried := List.replicate n []

private theorem idleReply_gives (q : Question) (transaction : BitVec 16) :
    Gives q transaction 0 (idleReply transaction) nothing where
  transaction := rfl
  kind := rfl
  spells := ⟨by decide, by decide, [], rfl⟩
  size_le := Nat.zero_le _

-- An empty block that lacks as many bytes as stand in front is filled with them.
private theorem take_whole {block : Intake} (front tail : Bytes) (empty : block.bytes = [])
    (missing : block.missing = front.length) :
    (block.take (front ++ tail)).1.missing = 0 ∧ (block.take (front ++ tail)).1.bytes = front ∧
      (block.take (front ++ tail)).2 = tail := by
  have parts : block.parts.reverse.flatten = [] := empty
  simp [Intake.take, Intake.bytes, List.splitAt_eq, missing, parts]

private theorem takeHeader_encode (c : Client) (i : Inquiry) {p : Pdu} (complete : p.IsComplete)
    (block : Intake) (empty : block.bytes = []) (missing : block.missing = headerLen)
    (buffer : c.buffer = p.encode) :
    i.takeHeader c block = i.respond { c with buffer := [] } p := by
  obtain ⟨full, front, rest⟩ :=
    take_whole p.front p.parameter empty (missing.trans p.length_front.symm)
  rw [← Pdu.encode_eq, ← buffer] at full front rest
  obtain ⟨full', parameter, rest'⟩ :=
    take_whole p.parameter [] (Intake.bytes_ofLength p.parameter.length) rfl
  rw [List.append_nil] at full' parameter rest'
  simp only [Inquiry.takeHeader, full, if_true, front, Pdu.decode_front complete,
    Inquiry.takeParameter, rest, Pdu.header, full', parameter, rest']

private theorem react_going {c c' : Client} {i j : Inquiry} {r : Reaction} (sent : Nat)
    (carried : List Bytes) (step : i.step c r = (c', .going j)) :
    react ⟨c, .going i, sent, carried⟩ r = ⟨c', .going j, sent + i.sends r, j.collected⟩ := by
  simp only [react, step]

-- One more request is sent, and answered with nothing.
private theorem run_idling (q : Question) (n : Nat) (t t' : BitVec 16) {rest : Bytes}
    (nonempty : rest ≠ []) :
    (idling q n t t' rest).run [.wrote rest.length, .flushed, .received (idleReply t).encode] =
      idling q (n + 1) t' (t' + 1) ((q.request [0]).toPdu t').encode := by
  let collected : List Bytes := List.replicate n []
  let waiting : Inquiry := ⟨q, t, collected, 0, .header ⟨[[]], headerLen⟩⟩
  have written : (idling q n t t' rest).react (.wrote rest.length) =
      ⟨⟨t', []⟩, .going ⟨q, t, collected, 0, .flushing⟩, n, collected⟩ := by
    refine react_going n collected ?_
    have positive : rest.length ≠ 0 := fun empty => nonempty (List.length_eq_zero_iff.mp empty)
    simp only [Inquiry.step, if_neg positive, List.drop_length, List.isEmpty_nil, if_true]
    rfl
  have flushed : react ⟨⟨t', []⟩, .going ⟨q, t, collected, 0, .flushing⟩, n, collected⟩ .flushed =
      ⟨⟨t', []⟩, .going waiting, n + 1, collected⟩ :=
    react_going n collected rfl
  have received : react ⟨⟨t', []⟩, .going waiting, n + 1, collected⟩
      (.received (idleReply t).encode) =
        idling q (n + 1) t' (t' + 1) ((q.request [0]).toPdu t').encode := by
    refine react_going (n + 1) collected ?_
    have complete : (idleReply t).IsComplete := by
      show 4 < 2 ^ 16
      decide
    have whole := takeHeader_encode ⟨t', (idleReply t).encode⟩ waiting complete
      ⟨[[]], headerLen⟩ rfl rfl rfl
    rw [Inquiry.respond_of_gives (idleReply_gives q t)] at whole
    exact whole
  rw [run, List.foldl_cons, List.foldl_cons, List.foldl_cons, written, flushed, received]
  rfl

/-- Whatever is asked, a peer may have the query send as many requests as it likes, and go on. -/
theorem exists_sent (c : Client) (buffer : c.buffer = []) (q : Question) (n : Nat) :
    ∃ reactions t t' rest, rest ≠ [] ∧ (start c q).run reactions = idling q n t t' rest := by
  induction n with
  | zero =>
    obtain ⟨transaction, _⟩ := c
    obtain rfl : _ = [] := buffer
    exact ⟨[], _, _, _, Pdu.encode_ne_nil _, rfl⟩
  | succ n ih =>
    obtain ⟨reactions, t, t', rest, nonempty, run⟩ := ih
    refine ⟨reactions ++ [.wrote rest.length, .flushed, .received (idleReply t).encode],
      t', t' + 1, ((q.request [0]).toPdu t').encode, Pdu.encode_ne_nil _, ?_⟩
    rw [run_append, run, run_idling q n t t' nonempty]

/-- The number of requests is not within `16 * maxBytes + 1`, for any question. -/
theorem sent_unbounded : ¬ ∀ (c : Client) (q : Question) (reactions : List Reaction),
    ((start c q).run reactions).sent ≤ 16 * q.maxBytes.toNat + 1 := by
  intro bounded
  let q : Question := ⟨[ServiceClass.audioSink], 1, [.all]⟩
  obtain ⟨reactions, t, t', rest, -, run⟩ := exists_sent {} rfl q 18
  have few := bounded {} q reactions
  rw [run] at few
  have few : 18 ≤ 17 := few
  omega

end Tally

end A2dpSink.Sdp
