import A2dpSink.Proofs.Sdp.Lists
import A2dpSink.Proofs.Simulation.Conversation

/-!
# A client and a server agree

Every conversation of a client and a server with records comes to an end, and the client has the
records then that the server has, or is refused because they are too many (`query_agrees`).
-/

namespace A2dpSink.Simulation

open Sdp

namespace Conversation

section Steps

variable {s : Conduct} {lists : Bytes} {q : Question} {d : Conversation}

/-- Every step keeps the invariant and leaves less to be done. -/
theorem Holds.step {room : Nat} {e : Conversation} (h : Holds s lists q d)
    (askable : Askable s lists q) (step : Step room d e) : Advances s lists q d e := by
  cases step with
  | ask n going need positive there => exact h.ask going need positive there
  | sendOff going need => exact h.sendOff going need
  | hear n need positive within there => exact h.hear askable need positive within there
  | rest need => exact h.rest askable need
  | say n need positive there => exact h.say need positive there
  | take n going need positive _ there => exact h.take askable going need positive there
  | refuse _ _ gone => exact absurd gone h.server_need
  | close _ _ gone => exact absurd gone h.server_need

/-- What holds of a conversation holds after every run. -/
theorem Holds.run {room : Nat} {e : Conversation} (h : Holds s lists q d)
    (askable : Askable s lists q) (run : Run room d e) : Holds s lists q e := by
  induction run with
  | refl => exact h
  | tail _ step ih => exact (ih.step askable step).1

/-- There is no conversation without end. -/
theorem Holds.acc {room : Nat} (h : Holds s lists q d) (askable : Askable s lists q) :
    Acc (fun later earlier => Step room earlier later) d := by
  induction work_eq : d.work lists using WellFoundedLT.induction generalizing d with
  | ind w ih =>
    refine ⟨_, fun e step => ?_⟩
    obtain ⟨holds, less⟩ := h.step askable step
    exact ih _ (work_eq ▸ less) holds rfl

/-- With a result, the question is over. -/
theorem Holds.of_result {r : Result} (h : Holds s lists q d) (there : d.result? = some r) :
    r = outcome lists q ∧ d.requests = total s lists q ∧ d.client.buffer = [] ∧ d.up = [] ∧
      d.down = [] ∧ d.server = { conduct := s } := by
  cases h with
  | hearing asks => simp [result?, asks.going] at there
  | pausing asks => simp [result?, asks.going] at there
  | replying asks => simp [result?, asks.going] at there
  | ended done fresh server up down count =>
    simp only [result?, done, Option.some.injEq] at there
    exact ⟨there.symm, count, fresh, up, down, server⟩

/-- When nothing more happens, the result is there. -/
theorem Holds.of_stopped {room : Nat} (h : Holds s lists q d) (roomy : 0 < room)
    (stopped : Stopped room d) : ∃ r, d.result? = some r := by
  cases h with
  | @hearing i k out heard asks client server stream =>
    exfalso
    by_cases up : d.up = []
    · have out_ : out ≠ [] := by
        have more := server.ne_nil stream
        rwa [up, List.nil_append] at more
      refine stopped _ (.ask 1 asks.going (client.need_of_ne_nil out_) Nat.one_pos (List.length_pos_iff.mpr out_) ?_)
      rw [up]
      exact roomy
    · obtain ⟨most, within, need⟩ := server.need_eq
      exact stopped _ (.hear 1 need Nat.one_pos within (List.length_pos_iff.mpr up))
  | pausing asks client server =>
    have need : d.server.need = .pause d.server.conduct.delay := by rw [Server.need, server]
    exact absurd (.rest need) (stopped _)
  | @replying i k taken rest asks client server up stream =>
    exfalso
    by_cases down : d.down = []
    · have rest_ : rest ≠ [] := by
        have more := client.ne_nil stream
        rwa [down, List.nil_append] at more
      have need : d.server.need = .write rest := by rw [Server.need, server, if_neg rest_]
      refine stopped _ (.say 1 need Nat.one_pos (List.length_pos_iff.mpr rest_) ?_)
      rw [down]
      exact roomy
    · rcases client.need_of_out with need | need
      · exact stopped _ (.sendOff asks.going need)
      · exact stopped _
          (.take 1 asks.going need Nat.one_pos (by decide) (List.length_pos_iff.mpr down))
  | ended done => exact ⟨_, by rw [result?, done]⟩

end Steps

/-! ### Runs -/

section Runs

variable {records : List Attributes} {s : Conduct} {q : Question}

/-- A server that has been given records, and cuts their lists into parts that are not empty, can be
asked every question whose requests have short enough parameters. -/
theorem askable_of_records
    (answers : s.answer = .ofElements (records.map Attributes.toElement)) (parts : s.part ≠ some 0)
    (short : (Attributes.lists records).encode.length ≤ 65530)
    (first : (q.request []).parameter.length < 2 ^ 16)
    (further : ∀ f, s.part = some f → f < (Attributes.lists records).encode.length →
      f ≤ q.limit → (q.request []).parameter.length + 2 < 2 ^ 16) :
    Askable s (Attributes.lists records).encode q := by
  have positive := List.length_pos_iff.mpr (Element.encode_ne_nil (Attributes.lists records))
  refine ⟨answers, ?_, positive, short, first, ?_⟩
  · cases part : s.part with
    | none => simpa [Conduct.portionLen, part] using positive
    | some f =>
      have positive : f ≠ 0 := by
        rintro rfl
        exact parts part
      simpa [Conduct.portionLen, part] using Nat.pos_of_ne_zero positive
  · intro cut within
    cases part : s.part with
    | none => simp [Conduct.portionLen, part] at cut
    | some f =>
      simp only [Conduct.portionLen, part, Option.getD_some] at cut within
      exact further f part cut within

private theorem holds_start {c : Client} {lists : Bytes} (fresh : c.buffer = [])
    (askable : Askable s lists q) : Holds s lists q (start c q s) := by
  have start_ : nthRequest s lists q 0 = q.request [] := by simp [nthRequest, mark]
  have asks : Asks s lists q (start c q s) (Inquiry.start c q).2 0 :=
    ⟨rfl, rfl, fresh, rfl, by simp [Inquiry.gathered, Inquiry.start, Inquiry.ask],
      by simp [Inquiry.start, Inquiry.ask], by simpa using askable.positive, by simp, rfl⟩
  refine asks.holds ?_ rfl rfl rfl rfl
  rw [start_]
  rfl

end Runs

/-- A client and a server agree, however large the parts are that the server cuts its answer into,
and however the pipes cut what passes through them. Let a server have records whose attribute lists
stand at most `maxNesting` deep and take at most 65530 bytes, and let the requests of a question
have parameters that their headers can tell the length of. Then no conversation goes on without
end, and when nothing more happens the client has a result. It has all the records, read as
`Record.parseLists` reads the lists, if they are within the limit of the question, and is told that
the answer is invalid if they are not. An answer in one piece takes one request, and one in parts of
`f` bytes as many as there are parts, or as many as it takes to pass the limit. Client, server and
pipes are then as they were at the start, so the same holds for the next question. -/
theorem query_agrees (records : List Attributes) (s : Conduct) (c : Client) (q : Question)
    (room : Nat) (roomy : 0 < room) (fresh : c.buffer = [])
    (answers : s.answer = .ofElements (records.map Attributes.toElement))
    (parts : s.part ≠ some 0)
    (shallow : (Attributes.lists records).depth ≤ maxNesting)
    (short : (Attributes.lists records).encode.length ≤ 65530)
    (first : (q.request []).parameter.length < 2 ^ 16)
    (further : ∀ f, s.part = some f → f < (Attributes.lists records).encode.length →
      f ≤ q.limit → (q.request []).parameter.length + 2 < 2 ^ 16) :
    let size := (Attributes.lists records).encode.length
    Record.parseLists (Attributes.lists records).encode =
      .ok (records.map Record.ofAttributes) ∧
    Acc (fun later earlier => Step room earlier later) (start c q s) ∧
    ∀ d, Run room (start c q s) d →
      (Stopped room d → ∃ r, d.result? = some r) ∧
      ∀ r, d.result? = some r →
        r = (if size ≤ q.limit then .ok (records.map Record.ofAttributes)
          else .error .invalid) ∧
        (s.part = none → d.requests = 1) ∧
        (∀ f, s.part = some f →
          d.requests = if size ≤ q.limit then size ⌈/⌉ f else q.limit / f + 1) ∧
        d.client.buffer = [] ∧ d.up = [] ∧ d.down = [] ∧ d.server = { conduct := s } := by
  intro size
  have fits : (Attributes.lists records).encodedLen ≤ Element.sizeLimit := by
    rw [← Element.length_encode, Element.sizeLimit]
    omega
  have read := Record.parseLists_lists fits shallow
  have askable := askable_of_records answers parts short first further
  have holds := holds_start fresh askable
  refine ⟨read, holds.acc askable, ?_⟩
  intro d run
  have holds' := holds.run askable run
  refine ⟨holds'.of_stopped roomy, ?_⟩
  intro r there
  obtain ⟨result, requests, ready⟩ := holds'.of_result there
  have answer : answerOf (Attributes.lists records).encode =
      .ok (records.map Record.ofAttributes) := by
    rw [answerOf, read]
  refine ⟨by rw [result, outcome, answer], ?_, ?_, ready⟩
  · intro whole
    rw [requests, total_whole whole askable.positive]
  · intro f part
    rw [requests, total, Conduct.portionLen, part, Option.getD_some]

/-- Two records whose lists take 14 bytes, in parts of 4 bytes through pipes that hold 3. -/
theorem query_agrees_parts :
    let records : List Attributes :=
      [[(.classIds, .sequence [.uuid ServiceClass.audioSink])], []]
    let s : Conduct := ⟨.ofElements (records.map Attributes.toElement), some 4, 10⟩
    let q : Question := ⟨[ServiceClass.audioSink], 1, [.all]⟩
    s.part ≠ some 0 ∧ (Attributes.lists records).depth ≤ maxNesting ∧
      (Attributes.lists records).encode.length = 14 ∧
      (q.request []).parameter.length + 2 < 2 ^ 16 ∧
      Acc (fun later earlier => Step 3 earlier later) (start {} q s) ∧
      ∀ d, Run 3 (start {} q s) d → Stopped 3 d →
        d.result? = some (.ok (records.map Record.ofAttributes)) ∧ d.requests = 4 := by
  intro records s q
  have parts : s.part ≠ some 0 := by decide
  have shallow : (Attributes.lists records).depth ≤ maxNesting := by decide
  have length : (Attributes.lists records).encode.length = 14 := by decide
  have framed : (q.request []).parameter.length + 2 < 2 ^ 16 := by decide
  obtain ⟨-, ends, agrees⟩ := query_agrees records s {} q 3 (by decide) rfl rfl parts shallow
    (by rw [length]; decide) (by omega) (fun _ _ _ _ => framed)
  refine ⟨parts, shallow, length, framed, ends, ?_⟩
  intro d run stopped
  obtain ⟨there, results⟩ := agrees d run
  obtain ⟨r, result⟩ := there stopped
  obtain ⟨rfl, -, requests, -⟩ := results r result
  have within : 14 ≤ q.limit := by decide
  rw [length, if_pos within] at result
  have count := requests 4 rfl
  rw [length, if_pos within] at count
  exact ⟨result, count⟩

end Conversation

end A2dpSink.Simulation
