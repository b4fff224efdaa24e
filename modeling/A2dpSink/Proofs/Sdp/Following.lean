import A2dpSink.Proofs.Sdp.Dialogue
import A2dpSink.Proofs.Sdp.Framing

/-!
# Dialogues follow the replies

`Expects` is the invariant of a run: at each place the client may have got to, what is left of the
stream of bytes, the requests that are still due, and the result they lead to. The requests sent off
and those still due make up one list that no step changes (`Expects.step`).
-/

namespace A2dpSink.Sdp

/-- The attribute bytes that have come in. -/
def Inquiry.gathered (i : Inquiry) : Bytes := i.collected.reverse.flatten

/-- An inquiry concludes with what the gathered attribute lists answer. -/
theorem Inquiry.conclude_eq (i : Inquiry) : i.conclude = answerOf i.gathered := rfl

namespace Dialogue

/-- An inquiry is under way that the given replies will be the answer to. -/
structure Awaits (d : Dialogue) (i : Inquiry) (pending requests : List Pdu)
    (result : Option Result) : Prop where
  going : d.progress = .going i
  next : d.client.transaction = i.transaction + 1
  size : i.size = i.gathered.length
  complete : ∀ p ∈ pending, p.IsComplete
  reads : Reads i.question i.transaction i.gathered pending requests result

/-- What is still due: these requests, and this result unless the replies run out. -/
inductive Expects (d : Dialogue) : List Pdu → Option Result → Prop
  | ended {r : Result} : d.progress = .done r → Expects d [] (some r)
  /-- A request is on its way out, and in front of the client are replies that came in early. -/
  | sending {i : Inquiry} {requests : List Pdu} {result : Option Result}
      (request : Pdu) (rest : Bytes) (early : List Pdu)
      (awaits : d.Awaits i (early ++ d.replies) requests result)
      (stage : i.stage = if rest = [] then .flushing else .sending rest)
      (message : d.written ++ rest = request.encode)
      (stream : d.client.buffer ++ d.unread = early.flatMap Pdu.encode) :
      Expects d (request :: requests) result
  /-- The next thing to come in is a reply, if there is one. -/
  | header {i : Inquiry} {block : Intake} {requests : List Pdu} {result : Option Result}
      (early : List Pdu) (awaits : d.Awaits i (early ++ d.replies) requests result)
      (stage : i.stage = .header block)
      (sent : d.written = []) (taken : d.client.buffer = [])
      (due : block.missing ≠ 0) (length : block.missing + block.bytes.length = headerLen)
      (stream : block.bytes ++ d.unread = early.flatMap Pdu.encode)
      (answered : early = [] → d.replies = []) : Expects d requests result
  /-- The header of a reply has come in, and a part of its parameter is to come. -/
  | parameter {i : Inquiry} {block : Intake} {p : Pdu} {requests : List Pdu}
      {result : Option Result} (early : List Pdu)
      (awaits : d.Awaits i (p :: early ++ d.replies) requests result)
      (stage : i.stage = .parameter p.header block)
      (sent : d.written = []) (taken : d.client.buffer = [])
      (due : block.missing ≠ 0) (becomes : block.Becomes p.parameter)
      (stream : block.bytes ++ d.unread = p.parameter ++ early.flatMap Pdu.encode) :
      Expects d requests result

/-! ### A client takes what has come in -/

section Taking

variable {d : Dialogue} {i : Inquiry} {early requests : List Pdu} {result : Option Result}

/-- A complete reply is taken as its reading says. -/
theorem Awaits.respond {p : Pdu} (awaits : d.Awaits i (p :: early ++ d.replies) requests result)
    (sent : d.written = []) (c : Client) (same : c.transaction = d.client.transaction)
    (stream : c.buffer ++ d.unread = early.flatMap Pdu.encode) :
    Expects (d.after (i.respond c p)) requests result := by
  obtain ⟨going, next, size, complete, reads⟩ := awaits
  have others : ∀ p ∈ early ++ d.replies, p.IsComplete := by
    intro p there
    exact complete p (List.mem_cons_of_mem _ there)
  cases reads with
  | ends ends =>
    rw [← size] at ends
    rw [Inquiry.respond_of_ends ends]
    exact .ended rfl
  | @last _ _ _ _ f gives state =>
    rw [← size] at gives
    rw [Inquiry.respond_of_gives gives]
    simp only [state, if_true, Inquiry.conclude_eq]
    have gathered : i.gathered ++ f.data =
        Inquiry.gathered { i with
          collected := f.data :: i.collected, size := i.size + f.data.length } := by
      simp [Inquiry.gathered]
    rw [gathered]
    exact .ended rfl
  | @next _ _ _ _ f _ _ gives state reads =>
    rw [← size] at gives
    rw [Inquiry.respond_of_gives gives]
    simp only [state, if_false]
    refine .sending _ ((i.question.request f.continuation).toPdu c.transaction).encode early
      ⟨rfl, rfl, ?_, others, ?_⟩ ?_ ?_ stream
    · simp [Inquiry.ask, Inquiry.gathered, size]
    · simpa [Inquiry.ask, Inquiry.gathered, same, next] using reads
    · rw [if_neg (Pdu.encode_ne_nil _)]
      rfl
    · rw [same, next]
      simp [after, sent]

/-- The parameter of a reply is taken as far as it is there. -/
theorem Awaits.takeParameter {p : Pdu} {block : Intake}
    (awaits : d.Awaits i (p :: early ++ d.replies) requests result) (sent : d.written = [])
    (becomes : block.Becomes p.parameter) (c : Client)
    (same : c.transaction = d.client.transaction)
    (stream : block.bytes ++ (c.buffer ++ d.unread) =
      p.parameter ++ early.flatMap Pdu.encode) :
    Expects (d.after (i.takeParameter c p.header block)) requests result := by
  rw [Inquiry.takeParameter]
  rcases Intake.take_front becomes stream with ⟨full, bytes, rest⟩ | ⟨due, becomes', empty, rest⟩
  · simp only [full, if_true, bytes]
    exact awaits.respond sent _ same rest
  · simp only [due, if_false, empty]
    exact .parameter early ⟨rfl, same.trans awaits.next, awaits.size, awaits.complete,
      awaits.reads⟩ rfl sent rfl due becomes' (rest.trans stream)

/-- The next reply is taken as far as it is there. -/
theorem Awaits.takeHeader {block : Intake}
    (awaits : d.Awaits i (early ++ d.replies) requests result) (sent : d.written = [])
    (length : block.missing + block.bytes.length = headerLen)
    (answered : early = [] → d.replies = []) (c : Client)
    (same : c.transaction = d.client.transaction)
    (stream : block.bytes ++ (c.buffer ++ d.unread) = early.flatMap Pdu.encode) :
    Expects (d.after (i.takeHeader c block)) requests result := by
  cases early with
  | nil =>
    have nothing : block.bytes = [] ∧ c.buffer = [] ∧ d.unread = [] := by
      simpa using stream
    obtain ⟨blank, empty, quiet⟩ := nothing
    have due : (block.take c.buffer).1.missing ≠ 0 := by
      rw [blank, List.length_nil, headerLen] at length
      simp only [Intake.take, List.splitAt_eq, empty, List.take_nil, List.length_nil]
      omega
    simp only [Inquiry.takeHeader, due, if_false]
    have bytes : (block.take c.buffer).1.bytes = [] := by
      rw [Intake.bytes] at blank
      simp [Intake.take, empty, Intake.bytes, blank]
    have buffer : (block.take c.buffer).2 = [] := by
      simp [Intake.take, empty]
    refine .header [] ⟨rfl, same.trans awaits.next, awaits.size, awaits.complete,
      awaits.reads⟩ rfl sent buffer due ?_ ?_ answered
    · rw [bytes, List.length_nil, ← length, blank]
      simp [Intake.take, empty]
    · rw [bytes]
      exact quiet
  | cons p early =>
    have becomes : block.Becomes p.front := by
      rw [Intake.Becomes, length, Pdu.length_front]
    have stream' : block.bytes ++ (c.buffer ++ d.unread) =
        p.front ++ (p.parameter ++ early.flatMap Pdu.encode) := by
      rw [stream, List.flatMap_cons, Pdu.encode_eq, List.append_assoc]
    have whole : p.IsComplete := awaits.complete p (by simp)
    rw [Inquiry.takeHeader]
    rcases Intake.take_front becomes stream' with ⟨full, bytes, rest⟩ | ⟨due, becomes', empty, rest⟩
    · simp only [full, if_true, bytes, Pdu.decode_front whole]
      exact awaits.takeParameter sent (Intake.ofLength_becomes p.parameter) _ same rest
    · simp only [due, if_false, empty]
      exact .header (p :: early) ⟨rfl, same.trans awaits.next, awaits.size, awaits.complete,
        awaits.reads⟩ rfl sent rfl due (becomes'.trans p.length_front) (rest.trans stream) answered

end Taking

/-! ### Every step keeps the invariant -/

section Steps

variable {d : Dialogue} {i : Inquiry} {due : List Pdu} {result : Option Result}

private theorem Awaits.inquiry_eq {j : Inquiry} {pending requests : List Pdu}
    (awaits : d.Awaits j pending requests result) (going : d.progress = .going i) : j = i := by
  rw [awaits.going] at going
  exact Progress.going.inj going

/-- Only a request may be written. -/
theorem Expects.write (h : Expects d due result) {bytes : Bytes} {n : Nat}
    (going : d.progress = .going i) (need : i.need = .write bytes) (positive : 0 < n) :
    Expects ((d.accept (bytes.take n)).react i (.wrote n)) due result := by
  cases h with
  | ended done => rw [going] at done; cases done
  | @sending j requests _ request rest early awaits stage message stream =>
    obtain rfl := awaits.inquiry_eq going
    by_cases gone : rest = []
    · simp [Inquiry.need, stage, gone] at need
    · rw [if_neg gone] at stage
      simp only [Inquiry.need, stage, Need.write.injEq] at need
      subst need
      have stepped : j.step d.client (.wrote n) = (d.client, .going
          { j with stage := if rest.drop n = [] then .flushing else .sending (rest.drop n) }) := by
        simp [Inquiry.step, stage, Nat.ne_of_gt positive]
      have same : (d.accept (rest.take n)).react j (.wrote n) =
          (d.accept (rest.take n)).after (j.step d.client (.wrote n)) := rfl
      rw [same, stepped]
      refine .sending request (rest.drop n) early ⟨rfl, awaits.next, awaits.size,
        awaits.complete, awaits.reads⟩ rfl ?_ stream
      rw [← message, after_written, accept, List.append_assoc, List.take_append_drop]
  | header _ awaits stage =>
    obtain rfl := awaits.inquiry_eq going
    simp [Inquiry.need, stage] at need
  | parameter _ awaits stage =>
    obtain rfl := awaits.inquiry_eq going
    simp [Inquiry.need, stage] at need

/-- What is sent off is the request that was due. The peer then sends its next reply, and some
replies may be there already. -/
theorem Expects.flush (h : Expects d due result) (going : d.progress = .going i)
    (need : i.need = .flush) :
    ∃ request left, due = request :: left ∧ d.written = request.encode ∧
      Expects (d.sendOff.react i .flushed) left result := by
  cases h with
  | ended done => rw [going] at done; cases done
  | @sending j requests _ request rest early awaits stage message stream =>
    obtain rfl := awaits.inquiry_eq going
    by_cases gone : rest = []
    · rw [if_pos gone] at stage
      rw [gone, List.append_nil] at message
      refine ⟨request, requests, rfl, message, ?_⟩
      have stepped : d.sendOff.react j .flushed =
          d.sendOff.after (j.takeHeader d.client (.ofLength headerLen)) := by
        simp [react, Inquiry.step, stage, sendOff]
      rw [stepped]
      have split : early ++ d.replies.head?.toList ++ d.replies.tail = early ++ d.replies := by
        cases d.replies <;> simp
      have awaits' : d.sendOff.Awaits j (early ++ d.replies.head?.toList ++ d.sendOff.replies)
          requests result :=
        ⟨going, awaits.next, awaits.size, split ▸ awaits.complete, split ▸ awaits.reads⟩
      refine awaits'.takeHeader rfl rfl ?_ _ rfl ?_
      · cases replies : d.replies <;> simp [sendOff, replies]
      · simp only [Intake.bytes_ofLength, List.nil_append, sendOff, ← List.append_assoc, stream]
        cases d.replies <;> simp
    · simp [Inquiry.need, stage, gone] at need
  | header _ awaits stage =>
    obtain rfl := awaits.inquiry_eq going
    simp [Inquiry.need, stage] at need
  | parameter _ awaits stage =>
    obtain rfl := awaits.inquiry_eq going
    simp [Inquiry.need, stage] at need

/-- However much of the stream is handed over, the client makes the same of it. -/
theorem Expects.read (h : Expects d due result) {n : Nat} (going : d.progress = .going i)
    (need : i.need = .read) (positive : 0 < n) (there : n ≤ d.unread.length) :
    Expects ((d.handOver n).react i (.received (d.unread.take n))) due result := by
  have nonempty : (d.unread.take n).isEmpty = false := by
    rw [List.isEmpty_eq_false_iff]
    apply List.ne_nil_of_length_pos
    rw [List.length_take_of_le there]
    exact positive
  cases h with
  | ended done => rw [going] at done; cases done
  | @sending j _ _ _ rest _ awaits stage =>
    obtain rfl := awaits.inquiry_eq going
    by_cases gone : rest = [] <;> simp [Inquiry.need, stage, gone] at need
  | @header j block _ _ early awaits stage sent taken short length stream answered =>
    obtain rfl := awaits.inquiry_eq going
    have stepped : (d.handOver n).react j (.received (d.unread.take n)) =
        (d.handOver n).after (j.takeHeader
          { d.client with buffer := d.client.buffer ++ d.unread.take n } block) := by
      simp [react, Inquiry.step, stage, nonempty, handOver]
    have awaits' : (d.handOver n).Awaits j (early ++ (d.handOver n).replies) due result :=
      ⟨going, awaits.next, awaits.size, awaits.complete, awaits.reads⟩
    rw [stepped]
    refine awaits'.takeHeader sent length answered _ rfl ?_
    rw [taken, List.nil_append, handOver, List.take_append_drop]
    exact stream
  | @parameter j block p _ _ early awaits stage sent taken short becomes stream =>
    obtain rfl := awaits.inquiry_eq going
    have stepped : (d.handOver n).react j (.received (d.unread.take n)) =
        (d.handOver n).after (j.takeParameter
          { d.client with buffer := d.client.buffer ++ d.unread.take n } p.header block) := by
      simp [react, Inquiry.step, stage, nonempty, handOver]
    have awaits' : (d.handOver n).Awaits j (p :: early ++ (d.handOver n).replies) due result :=
      ⟨going, awaits.next, awaits.size, awaits.complete, awaits.reads⟩
    rw [stepped]
    refine awaits'.takeParameter sent becomes _ rfl ?_
    rw [taken, List.nil_append, handOver, List.take_append_drop]
    exact stream

end Steps

/-- A step sends off the first of the requests that are due, or none, and what is due behind it
stays so. -/
theorem Expects.step {d e : Dialogue} {due : List Pdu} {result : Option Result}
    (h : Expects d due result) (step : Step d e) :
    ∃ left, Expects e left result ∧
      e.requests ++ left.map Pdu.encode = d.requests ++ due.map Pdu.encode := by
  cases step with
  | write n going need positive => exact ⟨due, h.write going need positive, rfl⟩
  | flush going need =>
    obtain ⟨request, left, rfl, message, expects⟩ := h.flush going need
    refine ⟨left, expects, ?_⟩
    rw [react, after_requests, sendOff, message, List.map_cons, List.append_assoc]
    rfl
  | read n going need positive there => exact ⟨due, h.read going need positive there, rfl⟩

/-- A run sends off requests that are due, and leaves the others due. -/
theorem Expects.run {d e : Dialogue} {due : List Pdu} {result : Option Result}
    (h : Expects d due result) (run : Run d e) :
    ∃ left, Expects e left result ∧
      e.requests ++ left.map Pdu.encode = d.requests ++ due.map Pdu.encode := by
  induction run with
  | refl => exact ⟨due, h, rfl⟩
  | tail _ step ih =>
    obtain ⟨between, expects, same⟩ := ih
    obtain ⟨left, expects', same'⟩ := expects.step step
    exact ⟨left, expects', same'.trans same⟩

/-! ### The end of a run -/

/-- With a result, nothing more is due. -/
theorem Expects.of_result {d : Dialogue} {due : List Pdu} {result : Option Result} {r : Result}
    (h : Expects d due result) (there : d.result? = some r) : due = [] ∧ result = some r := by
  cases h with
  | ended done =>
    simp only [result?, done] at there
    exact ⟨rfl, there⟩
  | sending _ _ _ awaits => simp [result?, awaits.going] at there
  | header _ awaits => simp [result?, awaits.going] at there
  | parameter _ awaits => simp [result?, awaits.going] at there

/-- A client that waits for bytes has been handed all that were sent when nothing more happens. -/
theorem Stopped.unread_eq {d : Dialogue} {i : Inquiry} (stopped : Stopped d)
    (going : d.progress = .going i) (need : i.need = .read) : d.unread = [] := by
  by_contra more
  have positive := List.length_pos_iff.mpr more
  exact stopped _ (.read 1 going need Nat.one_pos positive (by decide))

/-- When nothing more happens, nothing more is due, and the result is there if there is to be
one. -/
theorem Expects.of_stopped {d : Dialogue} {due : List Pdu} {result : Option Result}
    (h : Expects d due result) (stopped : Stopped d) : due = [] ∧ d.result? = result := by
  cases h with
  | ended done => exact ⟨rfl, by simp [result?, done]⟩
  | @sending i _ _ _ rest _ awaits stage =>
    exfalso
    by_cases gone : rest = []
    · refine stopped _ (.flush awaits.going ?_)
      simp [Inquiry.need, stage, gone]
    · have need : i.need = .write rest := by
        simp [Inquiry.need, stage, gone]
      exact stopped _ (.write 1 awaits.going need Nat.one_pos (List.length_pos_iff.mpr gone))
  | @header i block _ _ early awaits stage _ _ short length stream answered =>
    have quiet := stopped.unread_eq awaits.going (by simp [Inquiry.need, stage])
    rw [quiet, List.append_nil] at stream
    cases early with
    | nil =>
      have reads := awaits.reads
      rw [List.nil_append, answered rfl] at reads
      cases reads with
      | silence => exact ⟨rfl, by simp [result?, awaits.going]⟩
    | cons p early =>
      -- A whole header is there, so it would have been taken.
      exfalso
      rw [stream, List.flatMap_cons, Pdu.encode_eq, List.append_assoc, List.length_append,
        Pdu.length_front] at length
      omega
  | @parameter i block p _ _ early awaits stage _ _ short becomes stream =>
    exfalso
    have quiet := stopped.unread_eq awaits.going (by simp [Inquiry.need, stage])
    rw [quiet, List.append_nil] at stream
    rw [Intake.Becomes, stream, List.length_append] at becomes
    omega

/-! ### Runs -/

/-- What is due at first is what the replies come to. -/
theorem expects_start {c : Client} {q : Question} {early replies requests : List Pdu}
    {result : Option Result} (between : c.buffer = early.flatMap Pdu.encode)
    (complete : ∀ p ∈ early ++ replies, p.IsComplete)
    (reads : Reads q c.transaction [] (early ++ replies) requests result) :
    Expects (start c q replies) ((q.request []).toPdu c.transaction :: requests) result := by
  refine .sending _ ((q.request []).toPdu c.transaction).encode early
    ⟨rfl, rfl, rfl, complete, reads⟩ ?_ rfl ?_
  · rw [if_neg (Pdu.encode_ne_nil _)]
  · rw [← between]
    exact List.append_nil c.buffer

/-- A query follows the replies. Whatever complete replies the peer gives, one for each request, and
however the channel cuts requests and replies, there is no run without end; what is sent off at any
time are the first of the requests that the replies call for from left to right, a result is the
one that they come to, and when nothing more happens all these requests were sent off and the
result is there, unless the replies ran out. Each request asks the same question under the next
number, modulo 65536, and hands back the continuation state of the reply to the request before it.

Replies that came in before they were asked for, if there are such, come first. -/
theorem query_follows_replies (c : Client) (q : Question) (early replies : List Pdu)
    (between : c.buffer = early.flatMap Pdu.encode)
    (complete : ∀ p ∈ early ++ replies, p.IsComplete) :
    Acc (fun later earlier => Step earlier later) (start c q replies) ∧
    (∃ requests result, Reads q c.transaction [] (early ++ replies) requests result) ∧
    ∀ requests result, Reads q c.transaction [] (early ++ replies) requests result →
      let all := (q.request []).toPdu c.transaction :: requests
      (∀ (n : Nat) (request : Pdu), all[n]? = some request → ∃ state : Bytes,
        request = (q.request state).toPdu (c.transaction + BitVec.ofNat 16 n) ∧
        (n = 0 → state = []) ∧
        ∀ m, n = m + 1 → ∃ p f, (early ++ replies)[m]? = some p ∧
          Fragment.Spells f p.parameter ∧ state = f.continuation) ∧
      ∀ d, Run (start c q replies) d →
        d.requests <+: all.map Pdu.encode ∧
        (∀ r, d.result? = some r → result = some r ∧ d.requests = all.map Pdu.encode) ∧
        (Stopped d → d.result? = result ∧ d.requests = all.map Pdu.encode) := by
  refine ⟨acc_step _, Reads.exists _ _ _ _, ?_⟩
  intro requests result reads all
  constructor
  · intro n request listed
    cases n with
    | zero =>
      obtain rfl : (q.request []).toPdu c.transaction = request := by
        simpa [all] using listed
      exact ⟨[], by simp, fun _ => rfl, by simp⟩
    | succ m =>
      obtain ⟨p, f, there, spells, rfl⟩ := reads.request_eq m (by simpa [all] using listed)
      refine ⟨f.continuation, rfl, by simp, ?_⟩
      intro m' same
      obtain rfl : m = m' := Nat.succ.inj same
      exact ⟨p, f, there, spells, rfl⟩
  · intro d run
    obtain ⟨left, expects, same⟩ := (expects_start between complete reads).run run
    have sent : d.requests ++ left.map Pdu.encode = all.map Pdu.encode := same
    refine ⟨⟨_, sent⟩, ?_, ?_⟩
    · intro r there
      obtain ⟨rfl, eq⟩ := expects.of_result there
      exact ⟨eq, by simpa using sent⟩
    · intro stopped
      obtain ⟨rfl, eq⟩ := expects.of_stopped stopped
      exact ⟨eq, by simpa using sent⟩

/-- An empty list of services in two parts, asked for by a client that has run out of numbers. -/
theorem query_follows_replies_around :
    let c : Client := { transaction := 0xFFFF }
    let q : Question := ⟨[], 8, [.all]⟩
    let first : Pdu := ⟨.searchAttributeResponse, 0xFFFF, [0, 1, 0x35, 1, 0xAA]⟩
    let second : Pdu := ⟨.searchAttributeResponse, 0, [0, 1, 0x00, 0]⟩
    c.buffer = List.flatMap Pdu.encode [] ∧ (∀ p ∈ [first, second], p.IsComplete) ∧
      ∀ d, Run (start c q [first, second]) d → Stopped d →
        d.result? = some (.ok []) ∧
        d.requests =
          [((q.request []).toPdu 0xFFFF).encode, ((q.request [0xAA]).toPdu 0).encode] := by
  intro c q first second
  have complete : ∀ p ∈ [first, second], p.IsComplete := by
    simp [first, second, Pdu.IsComplete]
  refine ⟨rfl, complete, ?_⟩
  intro d run stopped
  have part : Gives q 0xFFFF 0 first ⟨[0x35], [0xAA]⟩ :=
    ⟨rfl, rfl, ⟨by decide, by decide, [], rfl⟩, by decide⟩
  have rest : Gives q (0xFFFF + 1) 1 second ⟨[0x00], []⟩ :=
    ⟨rfl, rfl, ⟨by decide, by decide, [], rfl⟩, by decide⟩
  have reads : Reads q 0xFFFF [] [first, second] [(q.request [0xAA]).toPdu (0xFFFF + 1)]
      (some (answerOf ([] ++ [0x35] ++ [0x00]))) :=
    .next (f := ⟨[0x35], [0xAA]⟩) part (List.cons_ne_nil _ _)
      (.last (f := ⟨[0x00], []⟩) rest rfl)
  obtain ⟨-, -, all⟩ := query_follows_replies c q [] [first, second] rfl complete
  exact ((all _ _ reads).2 d run).2.2 stopped

end Dialogue

end A2dpSink.Sdp
