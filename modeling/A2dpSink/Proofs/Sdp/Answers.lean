import A2dpSink.Proofs.Sdp.Following
import A2dpSink.Proofs.Sdp.Lists

/-!
# Peers that return records

A peer returns its records in parts: each reply brings the next bytes of the attribute lists, and the
last one has no continuation state. A client that gets such replies ends with these records as its
result (`Answers.result_eq`), however the channel cuts, and it does end (`Answers.exists_result`).
-/

namespace A2dpSink.Sdp

/-- Replies that bring attribute lists in parts, when the request with number `t` is sent off and the
data `gathered` has come in before. What stands behind the last part is never asked for. -/
inductive Answers (q : Question) : BitVec 16 → Bytes → List Pdu → Bytes → Prop
  | last {t : BitVec 16} {gathered : Bytes} {p : Pdu} {replies : List Pdu} {f : Fragment} :
      Gives q t gathered.length p f → f.continuation = [] →
      Answers q t gathered (p :: replies) (gathered ++ f.data)
  | next {t : BitVec 16} {gathered lists : Bytes} {p : Pdu} {replies : List Pdu} {f : Fragment} :
      Gives q t gathered.length p f → f.continuation ≠ [] →
      Answers q (t + 1) (gathered ++ f.data) replies lists →
      Answers q t gathered (p :: replies) lists

private theorem Answers.reads {q : Question} {t : BitVec 16} {gathered lists : Bytes}
    {replies : List Pdu} (h : Answers q t gathered replies lists) :
    ∃ requests, Reads q t gathered replies requests (some (answerOf lists)) := by
  induction h with
  | last gives ends => exact ⟨_, .last gives ends⟩
  | next gives goesOn _ ih =>
    obtain ⟨requests, reads⟩ := ih
    exact ⟨_, .next gives goesOn reads⟩

/-- Attribute lists are read as the records they were written for, whatever size fields they were
written with. -/
theorem answerOf_of_decode {lists rest : Bytes} {records : List Attributes}
    (decodes : Element.decode lists = .ok (Attributes.lists records, rest)) :
    answerOf lists = .ok (records.map Record.ofAttributes) := by
  simp only [answerOf, Record.parseLists, decodes, Attributes.lists, Record.mapM_ofElement?]

namespace Dialogue

/-- Every dialogue can be carried on until nothing more happens. -/
theorem exists_stopped (d : Dialogue) : ∃ e, Run d e ∧ Stopped e := by
  induction acc_step d with
  | intro d _ ih =>
    by_cases stopped : Stopped d
    · exact ⟨d, .refl, stopped⟩
    · obtain ⟨e, step⟩ : ∃ e, Step d e := by simpa [Stopped] using stopped
      obtain ⟨last, run, stopped⟩ := ih e step
      exact ⟨last, .head step run, stopped⟩

end Dialogue

section Result

variable {q : Question} {replies : List Pdu} {lists rest : Bytes} {records : List Attributes}

/-- What a new client that asks a peer for its records sends off, and ends with. -/
theorem Answers.expects (h : Answers q 0 [] replies lists) (complete : ∀ p ∈ replies, p.IsComplete) :
    ∃ due, Dialogue.Expects (Dialogue.start {} q replies) due (some (answerOf lists)) := by
  obtain ⟨requests, reads⟩ := h.reads
  exact ⟨_, Dialogue.expects_start (List.flatMap_nil : [].flatMap Pdu.encode = []).symm complete reads⟩

/-- A client that asks a peer for its records has them as its result. -/
theorem Answers.result_eq (h : Answers q 0 [] replies lists)
    (complete : ∀ p ∈ replies, p.IsComplete)
    (decodes : Element.decode lists = .ok (Attributes.lists records, rest)) {d : Dialogue}
    (run : Dialogue.Run (Dialogue.start {} q replies) d) {r : Result}
    (there : d.result? = some r) : r = .ok (records.map Record.ofAttributes) := by
  obtain ⟨due, begins⟩ := h.expects complete
  obtain ⟨left, expects, -⟩ := begins.run run
  obtain ⟨-, same⟩ := expects.of_result there
  rw [Option.some.injEq] at same
  rw [← same, answerOf_of_decode decodes]

/-- A client that asks a peer for its records gets a result. -/
theorem Answers.exists_result (h : Answers q 0 [] replies lists)
    (complete : ∀ p ∈ replies, p.IsComplete) :
    ∃ d r, Dialogue.Run (Dialogue.start {} q replies) d ∧ d.result? = some r := by
  obtain ⟨due, begins⟩ := h.expects complete
  obtain ⟨d, run, stopped⟩ := (Dialogue.start {} q replies).exists_stopped
  obtain ⟨left, expects, -⟩ := begins.run run
  obtain ⟨-, same⟩ := expects.of_stopped stopped
  exact ⟨d, _, run, same⟩

end Result

end A2dpSink.Sdp
