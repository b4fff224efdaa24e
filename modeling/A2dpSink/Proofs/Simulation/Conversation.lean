import A2dpSink.Proofs.Sdp.Following
import A2dpSink.Proofs.Simulation.Asking
import A2dpSink.Proofs.Simulation.Serving

/-!
# A client and a server in conversation

A client asks a server with records, through two pipes that hold only so many bytes, and each of
them runs on when and as far as it likes. The two keep step: what the client has put together is
what stands in front of the place that the server is asked to go on from. `Holds` says so at each
place they may have got to together, and every step of either of them keeps it and leaves less to be
done.
-/

namespace A2dpSink.Simulation

open Sdp

/-! ### Conversations -/

/-- A client with a question and a server, with a pipe in each direction. -/
structure Conversation where
  client : Client
  progress : Progress
  server : Server
  /-- What the client has written and the server has not read. -/
  up : Bytes := []
  /-- What the server has written and the client has not read. -/
  down : Bytes := []
  /-- How many requests the server has received. -/
  requests : Nat := 0

namespace Conversation

/-- A client starts with a question, and the server waits for requests. -/
def start (c : Client) (q : Question) (s : Conduct) : Conversation :=
  let (client, i) := Inquiry.start c q
  { client, progress := .going i, server := { conduct := s } }

/-- The client goes on with what its pipes did. -/
def react (d : Conversation) (i : Inquiry) (r : Reaction) : Conversation :=
  { d with client := (i.step d.client r).1, progress := (i.step d.client r).2 }

/-- The server goes on. -/
def serve (d : Conversation) (e : Server.Event) : Conversation :=
  { d with server := (d.server.step e).1, requests := d.requests + (d.server.step e).2 }

/-- The result, if there is one. -/
def result? (d : Conversation) : Option Result :=
  match d.progress with
  | .going _ => none
  | .done r => some r

/-- What may happen next if each pipe holds `room` bytes: one of the two writes or reads some bytes,
the client sends off a request, or the server has taken its time. A server that is gone has let go
of its pipes. -/
inductive Step (room : Nat) : Conversation → Conversation → Prop
  | ask {d : Conversation} {i : Inquiry} {bytes : Bytes} (n : Nat) : d.progress = .going i →
      i.need = .write bytes → 0 < n → n ≤ bytes.length → d.up.length + n ≤ room →
      Step room d (react { d with up := d.up ++ bytes.take n } i (.wrote n))
  | sendOff {d : Conversation} {i : Inquiry} : d.progress = .going i → i.need = .flush →
      Step room d (d.react i .flushed)
  | hear {d : Conversation} {most : Nat} (n : Nat) : d.server.need = .read most →
      0 < n → n ≤ most → n ≤ d.up.length →
      Step room d (serve { d with up := d.up.drop n } (.received (d.up.take n)))
  | rest {d : Conversation} {span : Nat} : d.server.need = .pause span →
      Step room d (d.serve .rested)
  | say {d : Conversation} {bytes : Bytes} (n : Nat) : d.server.need = .write bytes →
      0 < n → n ≤ bytes.length → d.down.length + n ≤ room →
      Step room d (serve { d with down := d.down ++ bytes.take n } (.wrote n))
  | take {d : Conversation} {i : Inquiry} (n : Nat) : d.progress = .going i → i.need = .read →
      0 < n → n ≤ receiveSize → n ≤ d.down.length →
      Step room d (react { d with down := d.down.drop n } i (.received (d.down.take n)))
  | refuse {d : Conversation} {i : Inquiry} {bytes : Bytes} : d.progress = .going i →
      i.need = .write bytes → d.server.need = .nothing →
      Step room d (d.react i (.failed ⟨.brokenPipe, none⟩))
  | close {d : Conversation} {i : Inquiry} : d.progress = .going i → i.need = .read →
      d.server.need = .nothing → d.down = [] → Step room d (d.react i (.received []))

/-- Some steps, one after the other. -/
abbrev Run (room : Nat) : Conversation → Conversation → Prop := Relation.ReflTransGen (Step room)

/-- Nothing more happens. -/
def Stopped (room : Nat) (d : Conversation) : Prop := ∀ e, ¬ Step room d e

/-! ### What the two have agreed on -/

/-- A question that a server with these attribute lists can be asked: the requests that it takes are
framed well. -/
structure Askable (s : Conduct) (lists : Bytes) (q : Question) : Prop where
  answers : s.answer = .records lists.toArray
  portions : 0 < s.portionLen lists
  positive : 0 < lists.length
  short : lists.length ≤ 65530
  first : (q.request []).parameter.length < 2 ^ 16
  further : s.portionLen lists < lists.length → s.portionLen lists ≤ q.limit →
    (q.request []).parameter.length + 2 < 2 ^ 16

/-- What the answer of the server comes to. -/
def outcome (lists : Bytes) (q : Question) : Result :=
  if lists.length ≤ q.limit then answerOf lists else .error .invalid

/-- How many requests it takes. -/
def total (s : Conduct) (lists : Bytes) (q : Question) : Nat :=
  if lists.length ≤ q.limit then lists.length ⌈/⌉ s.portionLen lists
  else q.limit / s.portionLen lists + 1

/-- The request that goes on behind `k` portions. -/
def nthRequest (s : Conduct) (lists : Bytes) (q : Question) (k : Nat) : Request :=
  q.request (mark lists (k * s.portionLen lists))

/-- The client has put together the first `k` portions, and asks for the next one. -/
structure Asks (s : Conduct) (lists : Bytes) (q : Question) (d : Conversation) (i : Inquiry)
    (k : Nat) : Prop where
  going : d.progress = .going i
  question : i.question = q
  fresh : d.client.buffer = []
  next : d.client.transaction = i.transaction + 1
  gathered : i.gathered = lists.take (k * s.portionLen lists)
  size : i.size = k * s.portionLen lists
  more : k * s.portionLen lists < lists.length
  within : k * s.portionLen lists ≤ q.limit
  conduct : d.server.conduct = s

/-- The reply to the request that goes on behind `k` portions. -/
def nthReply (s : Conduct) (lists : Bytes) (k : Nat) (t : BitVec 16) : Pdu :=
  reply lists (s.portionLen lists) (k * s.portionLen lists) t

/-- What holds at each place that a client and a server with attribute lists may have got to. -/
inductive Holds (s : Conduct) (lists : Bytes) (q : Question) (d : Conversation) : Prop
  /-- A request is on its way. -/
  | hearing {i : Inquiry} {k : Nat} {out heard : Bytes} (asks : Asks s lists q d i k)
      (client : Inquires (nthReply s lists k i.transaction) i.stage out [])
      (server : Hears ((nthRequest s lists q k).toPdu i.transaction) d.server.stage heard)
      (stream : heard ++ (d.up ++ out) = ((nthRequest s lists q k).toPdu i.transaction).encode)
      (down : d.down = []) (count : d.requests = k)
  /-- The server takes its time. -/
  | pausing {i : Inquiry} {k : Nat} (asks : Asks s lists q d i k)
      (client : Inquires (nthReply s lists k i.transaction) i.stage [] [])
      (server : d.server.stage = .pausing i.transaction (nthRequest s lists q k).parameter)
      (up : d.up = []) (down : d.down = []) (count : d.requests = k + 1)
  /-- A reply is on its way. -/
  | replying {i : Inquiry} {k : Nat} {taken rest : Bytes} (asks : Asks s lists q d i k)
      (client : Inquires (nthReply s lists k i.transaction) i.stage [] taken)
      (server : d.server.stage =
        if rest = [] then .header (.ofLength headerLen) else .sending rest)
      (up : d.up = [])
      (stream : taken ++ (d.down ++ rest) = (nthReply s lists k i.transaction).encode)
      (count : d.requests = k + 1)
  /-- The client has its result, and the two are ready for the next question. -/
  | ended (done : d.progress = .done (outcome lists q)) (fresh : d.client.buffer = [])
      (server : d.server = { conduct := s }) (up : d.up = []) (down : d.down = [])
      (count : d.requests = total s lists q)

/-! ### What is still to be done -/

/-- How much of the attribute lists the client lacks. -/
def lacking (lists : Bytes) (d : Conversation) : Nat :=
  match d.progress with
  | .going i => lists.length + 1 - i.size
  | .done _ => 0

/-- How much of a request has not reached the server; what is not written counts twice. -/
def asked (d : Conversation) : Nat :=
  match d.progress with
  | .going i => 2 * Exchange.rank i + d.up.length
  | .done _ => d.up.length

/-- Whether the server takes its time. -/
def paused (d : Conversation) : Nat :=
  match d.server.stage with
  | .pausing _ _ => 1
  | _ => 0

/-- How much of a reply has not reached the client; what is not written counts twice. -/
def said (d : Conversation) : Nat :=
  match d.server.stage with
  | .sending rest => 2 * rest.length + d.down.length
  | _ => d.down.length

/-- The work that is left, the weightiest part first. -/
def work (lists : Bytes) (d : Conversation) : Nat ×ₗ Nat ×ₗ Nat ×ₗ Nat :=
  toLex (d.lacking lists, toLex (d.asked, toLex (d.paused, d.said)))

/-- The second conversation goes on with the invariant, and less is left to be done. -/
def Advances (s : Conduct) (lists : Bytes) (q : Question) (d e : Conversation) : Prop :=
  Holds s lists q e ∧ e.work lists < d.work lists

section Steps

variable {s : Conduct} {lists : Bytes} {q : Question} {d : Conversation} {i : Inquiry}

private theorem Asks.inquiry_eq {j : Inquiry} {k : Nat} (asks : Asks s lists q d j k)
    (going : d.progress = .going i) : j = i := by
  rw [asks.going] at going
  exact Progress.going.inj going

/-- It does not matter where exactly the client is, nor what the server does. -/
theorem Asks.at_stage {e : Conversation} {k : Nat} (asks : Asks s lists q d i k)
    (stage : Sdp.Stage) (going : e.progress = .going { i with stage })
    (client : e.client = d.client) (conduct : e.server.conduct = d.server.conduct) :
    Asks s lists q e { i with stage } k where
  going := going
  question := asks.question
  fresh := client ▸ asks.fresh
  next := client ▸ asks.next
  gathered := asks.gathered
  size := asks.size
  more := asks.more
  within := asks.within
  conduct := conduct ▸ asks.conduct

/-- Requests that are asked for are framed well. -/
theorem Asks.length_lt {k : Nat} (asks : Asks s lists q d i k) (askable : Askable s lists q) :
    (nthRequest s lists q k).parameter.length < 2 ^ 16 := by
  have state := length_mark_le lists (k * s.portionLen lists)
  have length := (nthRequest s lists q k).length_parameter
  have first := (q.request []).length_parameter
  have more := asks.more
  have within := asks.within
  have same : (nthRequest s lists q k).parameter.length =
      (q.request []).parameter.length + (mark lists (k * s.portionLen lists)).length := by
    rw [length, first]
    simp only [nthRequest, Question.request, Request.content, List.length_nil]
    omega
  cases k with
  | zero =>
    have start : mark lists (0 * s.portionLen lists) = [] := by simp [mark]
    rw [same, start]
    exact askable.first
  | succ k =>
    have one : s.portionLen lists ≤ (k + 1) * s.portionLen lists :=
      Nat.le_mul_of_pos_left _ (Nat.succ_pos k)
    have further := askable.further (by omega) (by omega)
    omega

private theorem Askable.reply_isComplete (askable : Askable s lists q) (k : Nat) (t : BitVec 16) :
    (nthReply s lists k t).IsComplete := by
  have short := askable.short
  exact Simulation.reply_isComplete (by omega)

private theorem work_lt {e : Conversation}
    (h : e.lacking lists < d.lacking lists ∨ e.lacking lists = d.lacking lists ∧
      (e.asked < d.asked ∨ e.asked = d.asked ∧
        (e.paused < d.paused ∨ e.paused = d.paused ∧ e.said < d.said))) :
    e.work lists < d.work lists := by
  simpa only [work, Prod.Lex.toLex_lt_toLex] using h

/-- At the start of a request the server waits. -/
theorem Asks.holds {k : Nat} (asks : Asks s lists q d i k)
    (stage : i.stage = .sending ((nthRequest s lists q k).toPdu i.transaction).encode)
    (server : d.server.stage = .header (.ofLength headerLen)) (up : d.up = [])
    (down : d.down = []) (count : d.requests = k) : Holds s lists q d := by
  have client : Inquires (nthReply s lists k i.transaction) i.stage
      ((nthRequest s lists q k).toPdu i.transaction).encode [] := by
    rw [stage]
    exact .sending (Pdu.encode_ne_nil _)
  have hears : Hears ((nthRequest s lists q k).toPdu i.transaction) d.server.stage [] := by
    rw [server]
    exact .await _ d.server
  refine .hearing asks client hears ?_ down count
  rw [up, List.nil_append, List.nil_append]

private theorem react_going {r : Reaction} {j : Inquiry}
    (stepped : i.step d.client r = (d.client, .going j)) :
    d.react i r = { d with progress := .going j } := by
  rw [react, stepped]

private theorem serve_eq {e : Server.Event} {server : Server} {n : Nat}
    (stepped : d.server.step e = (server, n)) :
    d.serve e = { d with server, requests := d.requests + n } := by
  rw [serve, stepped]

/-- Only a request may be written. -/
theorem Holds.ask {bytes : Bytes} {n : Nat} (h : Holds s lists q d)
    (going : d.progress = .going i) (need : i.need = .write bytes) (positive : 0 < n)
    (there : n ≤ bytes.length) :
    Advances s lists q d (react { d with up := d.up ++ bytes.take n } i (.wrote n)) := by
  cases h with
  | @hearing j k out heard asks client server stream down count =>
    obtain rfl := asks.inquiry_eq going
    obtain ⟨stage, rfl, -⟩ := client.of_write need
    have stepped := react_going (d := { d with up := d.up ++ out.take n }) (i := j)
      (r := .wrote n) (j := { j with
        stage := if (out.drop n).isEmpty then .flushing else .sending (out.drop n) })
      (by simp [Inquiry.step, stage, Nat.ne_of_gt positive])
    rw [stepped]
    constructor
    · refine .hearing (asks.at_stage _ rfl rfl rfl) (.sending_drop _) server ?_ down count
      rw [List.append_assoc, List.take_append_drop]
      exact stream
    · apply work_lt
      have rank : Exchange.rank { j with
          stage := if (out.drop n).isEmpty then .flushing else .sending (out.drop n) } + n ≤
            Exchange.rank j := by
        simp only [Exchange.rank, stage]
        by_cases gone : (out.drop n).isEmpty = true
        · simp only [gone, if_true]
          omega
        · simp only [gone, Bool.false_eq_true, if_false, List.length_drop]
          omega
      refine .inr ⟨?_, .inl ?_⟩
      · simp only [lacking, going]
      · simp only [asked, going, List.length_append, List.length_take]
        omega
  | pausing asks client =>
    obtain rfl := asks.inquiry_eq going
    obtain ⟨-, rfl, -⟩ := client.of_write need
    simp at there
    omega
  | replying asks client =>
    obtain rfl := asks.inquiry_eq going
    obtain ⟨-, rfl, -⟩ := client.of_write need
    simp at there
    omega
  | ended done => rw [going] at done; cases done

/-- Sending off a request changes nothing for the server, which may have it already. -/
theorem Holds.sendOff (h : Holds s lists q d) (going : d.progress = .going i)
    (need : i.need = .flush) : Advances s lists q d (d.react i .flushed) := by
  have less (stage : i.stage = .flushing) : work lists { d with
      progress := .going { i with stage := .header ⟨[[]], headerLen⟩ } } < d.work lists := by
    apply work_lt
    refine .inr ⟨?_, .inl ?_⟩
    · simp only [lacking, going]
    · simp only [asked, going, Exchange.rank, stage]
      omega
  cases h with
  | @hearing j k out heard asks client server stream down count =>
    obtain rfl := asks.inquiry_eq going
    obtain ⟨stage, rfl, -⟩ := client.of_flush need
    obtain ⟨stepped, client'⟩ := Inquires.step_flushed stage asks.fresh
    rw [react_going stepped]
    exact ⟨.hearing (asks.at_stage _ rfl rfl rfl) client' server stream down count, less stage⟩
  | pausing asks client server up down count =>
    obtain rfl := asks.inquiry_eq going
    obtain ⟨stage, -⟩ := client.of_flush need
    obtain ⟨stepped, client'⟩ := Inquires.step_flushed stage asks.fresh
    rw [react_going stepped]
    exact ⟨.pausing (asks.at_stage _ rfl rfl rfl) client' server up down count, less stage⟩
  | replying asks client server up stream count =>
    obtain rfl := asks.inquiry_eq going
    obtain ⟨stage, -, rfl⟩ := client.of_flush need
    obtain ⟨stepped, client'⟩ := Inquires.step_flushed stage asks.fresh
    rw [react_going stepped]
    exact ⟨.replying (asks.at_stage _ rfl rfl rfl) client' server up stream count, less stage⟩
  | ended done => rw [going] at done; cases done

/-- The server hears a request, and counts it with its last byte. -/
theorem Holds.hear {most n : Nat} (h : Holds s lists q d) (askable : Askable s lists q)
    (need : d.server.need = .read most) (positive : 0 < n) (within : n ≤ most)
    (there : n ≤ d.up.length) :
    Advances s lists q d (serve { d with up := d.up.drop n } (.received (d.up.take n))) := by
  cases h with
  | @hearing j k out heard asks client server stream down count =>
    have ne_nil : d.up.take n ≠ [] := by
      apply List.ne_nil_of_length_pos
      rwa [List.length_take_of_le there]
    have split : heard ++ (d.up.take n ++ (d.up.drop n ++ out)) =
        ((nthRequest s lists q k).toPdu j.transaction).encode := by
      rw [← List.append_assoc (d.up.take n), List.take_append_drop]
      exact stream
    have long : (nthRequest s lists q k).parameter ≠ [] := by
      apply List.ne_nil_of_length_pos
      rw [Request.length_parameter]
      omega
    have less {server : Server} {m : Nat} : work lists { d with
        up := d.up.drop n, server, requests := m } < d.work lists := by
      apply work_lt
      refine .inr ⟨rfl, .inl ?_⟩
      simp only [asked, asks.going, List.length_drop]
      omega
    rcases Server.step_received server (asks.length_lt askable) long need ne_nil
      (by rw [List.length_take_of_le there]; exact within) split with
        ⟨nothing, stepped⟩ | ⟨more, stage, stepped, server'⟩
    · obtain ⟨up, rfl⟩ := List.append_eq_nil_iff.mp nothing
      rw [serve_eq (d := { d with up := d.up.drop n }) stepped, count]
      exact ⟨.pausing (asks.at_stage j.stage asks.going rfl rfl) client rfl up down rfl, less⟩
    · rw [serve_eq (d := { d with up := d.up.drop n }) stepped]
      refine ⟨.hearing (asks.at_stage j.stage asks.going rfl rfl) client server' ?_ down count,
        less⟩
      rw [List.append_assoc]
      exact split
  | pausing asks client server up down count => simp [Server.need, server] at need
  | replying asks client server up stream count =>
    rw [up] at there
    simp at there
    omega
  | ended done fresh server up =>
    rw [up] at there
    simp at there
    omega

/-- The server answers the request that it has heard. -/
theorem Holds.rest {span : Nat} (h : Holds s lists q d) (askable : Askable s lists q)
    (need : d.server.need = .pause span) : Advances s lists q d (d.serve .rested) := by
  cases h with
  | hearing asks client server =>
    obtain ⟨most, -, reads⟩ := server.need_eq
    rw [need] at reads
    cases reads
  | @pausing j k asks client server up down count =>
    have short := askable.short
    have answered := Conduct.respond_request askable.answers askable.portions q j.transaction
      (by omega) asks.more (asks.length_lt askable)
    have stepped : d.server.step .rested =
        ({ d.server with stage := .sending (nthReply s lists k j.transaction).encode }, 0) := by
      simp only [Server.step, server, asks.conduct, nthRequest, answered, nthReply]
    rw [serve_eq stepped]
    constructor
    · refine .replying (asks.at_stage j.stage asks.going rfl rfl) client
        (if_neg (Pdu.encode_ne_nil _)).symm up ?_ count
      rw [down, List.nil_append, List.nil_append]
    · apply work_lt
      refine .inr ⟨rfl, .inr ⟨rfl, .inl ?_⟩⟩
      simp [paused, server]
  | replying asks client server => split at server <;> simp [Server.need, server] at need
  | ended done fresh server => simp [Server.need, server] at need

/-- The server writes its reply, and waits for the next request behind it. -/
theorem Holds.say {bytes : Bytes} {n : Nat} (h : Holds s lists q d)
    (need : d.server.need = .write bytes) (positive : 0 < n) (there : n ≤ bytes.length) :
    Advances s lists q d (serve { d with down := d.down ++ bytes.take n } (.wrote n)) := by
  cases h with
  | hearing asks client server =>
    obtain ⟨most, -, reads⟩ := server.need_eq
    rw [need] at reads
    cases reads
  | pausing asks client server => simp [Server.need, server] at need
  | @replying j k taken rest asks client server up stream count =>
    by_cases gone : rest = []
    · rw [if_pos gone] at server
      simp [Server.need, server] at need
    · rw [if_neg gone] at server
      simp only [Server.need, server, Server.Need.write.injEq] at need
      subst need
      have stepped : d.server.step (.wrote n) = (⟨d.server.conduct,
          if rest.drop n = [] then .header (.ofLength headerLen) else .sending (rest.drop n)⟩,
          0) := by
        by_cases last : rest.drop n = []
        · simp [Server.step, server, Server.await, last]
        · simp [Server.step, server, last]
      rw [serve_eq (d := { d with down := d.down ++ rest.take n }) stepped]
      constructor
      · refine .replying (asks.at_stage j.stage asks.going rfl rfl) client rfl up ?_ count
        rw [List.append_assoc, List.take_append_drop]
        exact stream
      · apply work_lt
        refine .inr ⟨rfl, .inr ⟨rfl, .inr ?_⟩⟩
        by_cases last : rest.drop n = []
        · simp [paused, said, server, last]
          omega
        · simp [paused, said, server, last]
          omega
  | ended done fresh server => simp [Server.need, server] at need

/-- With too much in a reply, the request for it was the last one. -/
theorem total_of_excess {k : Nat} (within : k * s.portionLen lists ≤ q.limit)
    (excess : q.limit < min ((k + 1) * s.portionLen lists) lists.length) :
    total s lists q = k + 1 := by
  have long : ¬ lists.length ≤ q.limit := by omega
  have quotient : q.limit / s.portionLen lists = k := by
    apply Nat.div_eq_of_lt_le within
    omega
  rw [total, if_neg long, quotient]

/-- The request for the last portion was the last one. -/
theorem total_of_last {k : Nat} (portions : 0 < s.portionLen lists)
    (more : k * s.portionLen lists < lists.length)
    (last : lists.length ≤ (k + 1) * s.portionLen lists) (within : lists.length ≤ q.limit) :
    total s lists q = k + 1 := by
  rw [total, if_pos within]
  apply Nat.le_antisymm
  · rw [ceilDiv_le_iff_le_smul portions, smul_eq_mul, Nat.mul_comm]
    exact last
  · by_contra fewer
    have enough : lists.length ⌈/⌉ s.portionLen lists ≤ k := by omega
    rw [ceilDiv_le_iff_le_smul portions, smul_eq_mul, Nat.mul_comm] at enough
    omega

/-- An answer in one piece takes one request. -/
theorem total_whole (whole : s.part = none) (positive : 0 < lists.length) :
    total s lists q = 1 := by
  have all : s.portionLen lists = lists.length := by rw [Conduct.portionLen, whole]; rfl
  by_cases within : lists.length ≤ q.limit
  · exact total_of_last (all ▸ positive) (by simpa using positive) (by simp [all]) within
  · exact total_of_excess (by simp) (by simp [all]; omega)

/-- What a client makes of the reply: it has its result, or asks for the portion behind it. -/
theorem Asks.respond {k : Nat} (asks : Asks s lists q d i k) (askable : Askable s lists q) :
    (i.respond d.client (nthReply s lists k i.transaction) =
        (d.client, .done (outcome lists q)) ∧ total s lists q = k + 1) ∨
      ∃ (c : Client) (j : Inquiry), i.respond d.client (nthReply s lists k i.transaction) =
          (c, .going j) ∧
        Asks s lists q { d with client := c, progress := .going j } j (k + 1) ∧
        j.stage = .sending ((nthRequest s lists q (k + 1)).toPdu j.transaction).encode := by
  have short := askable.short
  have portions := askable.portions
  have more := asks.more
  have within := asks.within
  have size := asks.size
  have next : (k + 1) * s.portionLen lists = k * s.portionLen lists + s.portionLen lists :=
    Nat.succ_mul k _
  have length := length_portion lists (s.portionLen lists) (k * s.portionLen lists)
  have spells : (portion lists (s.portionLen lists) (k * s.portionLen lists)).Spells
      (nthReply s lists k i.transaction).parameter := reply_spells (by omega)
  by_cases excess : q.limit <
      i.size + (portion lists (s.portionLen lists) (k * s.portionLen lists)).data.length
  · left
    rw [size, length] at excess
    have ends : Ends i.question i.transaction i.size (nthReply s lists k i.transaction) .invalid :=
      .excessive rfl rfl spells (by rw [asks.question, size, length]; exact excess)
    rw [Inquiry.respond_of_ends ends, outcome, if_neg (by omega)]
    exact ⟨rfl, total_of_excess within (by omega)⟩
  · have gives : Gives i.question i.transaction i.size (nthReply s lists k i.transaction)
        (portion lists (s.portionLen lists) (k * s.portionLen lists)) :=
      ⟨rfl, rfl, spells, by rw [asks.question]; exact Nat.not_lt.mp excess⟩
    rw [size, length] at excess
    have state : (portion lists (s.portionLen lists) (k * s.portionLen lists)).continuation =
        mark lists ((k + 1) * s.portionLen lists) := by
      rw [portion, next]
    have together : i.gathered ++
        (portion lists (s.portionLen lists) (k * s.portionLen lists)).data =
          lists.take ((k + 1) * s.portionLen lists) := by
      rw [asks.gathered, portion, next, List.take_add]
    rw [Inquiry.respond_of_gives gives, state]
    by_cases last : lists.length ≤ (k + 1) * s.portionLen lists
    · left
      have nothing : mark lists ((k + 1) * s.portionLen lists) = [] := if_neg (by omega)
      rw [List.take_of_length_le last] at together
      simp only [nothing, if_true, Inquiry.conclude_eq, Inquiry.gathered, List.reverse_cons,
        List.flatten_append, List.flatten_cons, List.flatten_nil, List.append_nil]
      rw [Inquiry.gathered] at together
      rw [together, outcome, if_pos (by omega)]
      exact ⟨rfl, total_of_last portions more last (by omega)⟩
    · right
      have something : mark lists ((k + 1) * s.portionLen lists) ≠ [] := by
        rw [mark, if_pos (by omega)]
        exact List.ne_nil_of_length_pos (by simp)
      simp only [something, if_false]
      refine ⟨_, _, rfl, ⟨rfl, asks.question, asks.fresh, rfl, ?_, ?_, by omega, by omega,
        asks.conduct⟩, ?_⟩
      · rw [← together]
        simp [Inquiry.ask, Inquiry.gathered]
      · show i.size + _ = _
        rw [size, length]
        omega
      · simp only [Inquiry.ask, asks.question]
        rfl

/-- The client looks at the reply, and with its last byte at what it says. -/
theorem Holds.take {n : Nat} (h : Holds s lists q d) (askable : Askable s lists q)
    (going : d.progress = .going i) (need : i.need = .read) (positive : 0 < n)
    (there : n ≤ d.down.length) :
    Advances s lists q d
      (react { d with down := d.down.drop n } i (.received (d.down.take n))) := by
  cases h with
  | hearing asks client server stream down =>
    rw [down] at there
    simp at there
    omega
  | pausing asks client server up down =>
    rw [down] at there
    simp at there
    omega
  | @replying j k taken rest asks client server up stream count =>
    obtain rfl := asks.inquiry_eq going
    have ne_nil : d.down.take n ≠ [] := by
      apply List.ne_nil_of_length_pos
      rwa [List.length_take_of_le there]
    have split : taken ++ (d.down.take n ++ (d.down.drop n ++ rest)) =
        (nthReply s lists k j.transaction).encode := by
      rw [← List.append_assoc (d.down.take n), List.take_append_drop]
      exact stream
    rcases client.step_received (askable.reply_isComplete k _) need asks.fresh ne_nil split with
      ⟨nothing, stepped⟩ | ⟨more, stage, taken', stepped, rank, client', stream'⟩
    · obtain ⟨down, rfl⟩ := List.append_eq_nil_iff.mp nothing
      rw [if_pos rfl] at server
      have asks' : Asks s lists q { d with down := [] } j k :=
        asks.at_stage j.stage asks.going rfl rfl
      have size := asks.size
      have more := asks.more
      rcases asks'.respond askable with ⟨done, all⟩ | ⟨c, i, goes, later, stage⟩
      · have reacted : react { d with down := d.down.drop n } j (.received (d.down.take n)) =
            { d with down := [], progress := .done (outcome lists q) } := by
          rw [react, stepped, done, down]
        rw [reacted]
        refine ⟨.ended rfl asks.fresh ?_ up rfl (count.trans all.symm), ?_⟩
        · rw [← asks.conduct, ← server]
        · apply work_lt
          left
          simp only [lacking, going]
          omega
      · have reacted : react { d with down := d.down.drop n } j (.received (d.down.take n)) =
            { d with down := [], client := c, progress := .going i } := by
          rw [react, stepped, goes, down]
        rw [reacted]
        refine ⟨later.holds stage server up rfl count, ?_⟩
        apply work_lt
        left
        have longer := later.size
        rw [Nat.succ_mul] at longer
        have portions := askable.portions
        simp only [lacking, going]
        omega
    · rw [react_going (d := { d with down := d.down.drop n }) stepped]
      refine ⟨.replying (asks.at_stage stage rfl rfl rfl) client' server up stream' count, ?_⟩
      apply work_lt
      refine .inr ⟨?_, .inr ⟨?_, .inr ⟨rfl, ?_⟩⟩⟩
      · simp only [lacking, going]
      · have before : Exchange.rank j = 0 := by
          rw [Exchange.rank]
          cases stage : j.stage <;> simp_all [Inquiry.need]
        simp only [asked, going, rank, before]
      · by_cases last : rest = []
        · simp [said, server, last]
          omega
        · simp [said, server, last]
          omega
  | ended done => rw [going] at done; cases done

/-- The server is always there. -/
theorem Holds.server_need (h : Holds s lists q d) : d.server.need ≠ .nothing := by
  cases h with
  | hearing asks client server =>
    obtain ⟨most, -, reads⟩ := server.need_eq
    simp [reads]
  | pausing asks client server => simp [Server.need, server]
  | replying asks client server => split at server <;> simp [Server.need, server]
  | ended done fresh server => simp [Server.need, server]

end Steps

end Conversation

end A2dpSink.Simulation
