import A2dpSink.Proofs.Sdp.Framing
import A2dpSink.Simulation.Exchange

/-!
# A client with a request

Where a client is with one request and the reply to it, in terms of bytes: what it has still to
write, and what it has looked at. A reply is taken as a whole with its last byte, wherever the
stream of bytes is cut (`Inquires.step_received`).
-/

namespace A2dpSink.Simulation

open Sdp

/-- A client has `out` of a request still to write, and has looked at the bytes `taken` of the reply
to it, but not at all of them. -/
inductive Inquires (reply : Pdu) : Sdp.Stage → (out taken : Bytes) → Prop
  | sending {rest : Bytes} : rest ≠ [] → Inquires reply (.sending rest) rest []
  | flushing : Inquires reply .flushing [] []
  | header {block : Intake} : block.missing ≠ 0 → block.Becomes reply.front →
      Inquires reply (.header block) [] block.bytes
  | parameter {block : Intake} : block.missing ≠ 0 → block.Becomes reply.parameter →
      Inquires reply (.parameter reply.header block) [] (reply.front ++ block.bytes)

namespace Inquires

variable {reply : Pdu} {stage : Sdp.Stage} {out taken tail : Bytes}

/-- What is looked at goes on. -/
theorem ne_nil (h : Inquires reply stage out taken) (stream : taken ++ tail = reply.encode) :
    tail ≠ [] := by
  rw [Pdu.encode_eq] at stream
  cases h with
  | sending | flushing =>
    intro empty
    have length := congrArg List.length stream
    simp [empty, headerLen] at length
    omega
  | header due becomes => exact becomes.ne_nil due stream
  | parameter due becomes =>
    rw [List.append_assoc] at stream
    exact becomes.ne_nil due ((List.append_cancel_left stream).trans (List.append_nil _).symm)

variable {c : Client} {i : Inquiry} {bytes : Bytes}

/-- A client that writes has the rest of a request to write, and has looked at nothing. -/
theorem of_write (h : Inquires reply i.stage out taken) (need : i.need = .write bytes) :
    i.stage = .sending bytes ∧ out = bytes ∧ taken = [] := by
  generalize staged : i.stage = stage at h
  cases h <;> simp_all [Inquiry.need]

/-- A client that flushes has written its request, and has looked at nothing. -/
theorem of_flush (h : Inquires reply i.stage out taken) (need : i.need = .flush) :
    i.stage = .flushing ∧ out = [] ∧ taken = [] := by
  generalize staged : i.stage = stage at h
  cases h <;> simp_all [Inquiry.need]

/-- A client with something to write writes it. -/
theorem need_of_ne_nil (h : Inquires reply i.stage out taken) (ne_nil : out ≠ []) :
    i.need = .write out := by
  generalize staged : i.stage = stage at h
  cases h <;> simp_all [Inquiry.need]

/-- With nothing left to write, a client sends off its request or reads. -/
theorem need_of_out (h : Inquires reply i.stage [] taken) : i.need = .flush ∨ i.need = .read := by
  generalize staged : i.stage = stage at h
  cases h <;> simp_all [Inquiry.need]

/-- What is left of a request after some of it was written. -/
theorem sending_drop (rest : Bytes) :
    Inquires reply (if rest.isEmpty then .flushing else .sending rest) rest [] := by
  by_cases gone : rest = []
  · subst gone
    exact .flushing
  · rw [if_neg (by simpa using gone)]
    exact .sending gone

/-- A client that has sent off a request and looked at nothing yet waits for the header. -/
theorem step_flushed (stage : i.stage = .flushing) (fresh : c.buffer = []) :
    i.step c .flushed = (c, .going { i with stage := .header ⟨[[]], headerLen⟩ }) ∧
      Inquires reply (.header ⟨[[]], headerLen⟩) [] [] := by
  constructor
  · have same : { c with buffer := [] } = c := by rw [← fresh]
    have nothing : (Intake.ofLength headerLen).take c.buffer = (⟨[[]], headerLen⟩, []) := by
      rw [fresh]
      rfl
    have due : headerLen ≠ 0 := by decide
    simp only [Inquiry.step, stage, Inquiry.takeHeader, nothing, due, if_false, same]
  · have due : (⟨[[]], headerLen⟩ : Intake).missing ≠ 0 := by decide
    exact .header due reply.length_front.symm

private theorem takeParameter_taking {block : Intake} (becomes : block.Becomes reply.parameter)
    (stream : block.bytes ++ (c.buffer ++ tail) = reply.parameter) :
    tail = [] ∧ i.takeParameter c reply.header block = i.respond { c with buffer := [] } reply ∨
      tail ≠ [] ∧ ∃ stage taken, i.takeParameter c reply.header block =
          ({ c with buffer := [] }, .going { i with stage }) ∧
        Exchange.rank { i with stage } = 0 ∧ Inquires reply stage [] taken ∧
        taken ++ tail = reply.encode := by
  rw [← List.append_nil reply.parameter] at stream
  rcases Intake.take_front becomes stream with ⟨full, whole, rest⟩ | ⟨due, becomes', empty, all⟩
  · obtain ⟨empty, rfl⟩ := List.append_eq_nil_iff.mp rest
    refine .inl ⟨rfl, ?_⟩
    simp only [Inquiry.takeParameter, full, if_true, whole, empty]
    rfl
  · refine .inr ⟨becomes'.ne_nil due (all.trans stream), _, _, ?_, rfl,
      .parameter due becomes', ?_⟩
    · simp only [Inquiry.takeParameter, due, if_false, empty]
    · rw [List.append_assoc, all, stream, List.append_nil, Pdu.encode_eq]

/-- The bytes of a reply are taken as they come in, and the reply is taken as a whole with the last
one. -/
theorem step_received (inquires : Inquires reply i.stage out taken)
    (whole : reply.IsComplete) (need : i.need = .read) (fresh : c.buffer = [])
    (ne_nil : bytes ≠ []) (stream : taken ++ (bytes ++ tail) = reply.encode) :
    tail = [] ∧ i.step c (.received bytes) = i.respond c reply ∨
      tail ≠ [] ∧ ∃ stage taken, i.step c (.received bytes) = (c, .going { i with stage }) ∧
        Exchange.rank { i with stage } = 0 ∧ Inquires reply stage [] taken ∧
        taken ++ tail = reply.encode := by
  have nonempty : bytes.isEmpty = false := List.isEmpty_eq_false_iff.mpr ne_nil
  have same : { c with buffer := [] } = c := by rw [← fresh]
  generalize staged : i.stage = stage at inquires
  cases inquires with
  | sending | flushing => simp [Inquiry.need, staged] at need
  | @header block due becomes =>
    have stepped : i.step c (.received bytes) =
        i.takeHeader { c with buffer := bytes } block := by
      simp [Inquiry.step, staged, nonempty, fresh]
    rw [Pdu.encode_eq] at stream
    rw [stepped, Inquiry.takeHeader]
    rcases Intake.take_front becomes stream with ⟨full, front, rest⟩ | ⟨due, becomes', empty, all⟩
    · simp only [full, if_true, front, Pdu.decode_front whole]
      have taking := takeParameter_taking (c := { c with buffer := (block.take bytes).2 }) (i := i)
        (Intake.ofLength_becomes reply.parameter) rest
      rwa [same] at taking
    · simp only [due, if_false, empty, same]
      rw [stream] at all
      exact .inr ⟨becomes'.ne_nil due all, _, _, rfl, rfl, .header due becomes',
        all.trans (Pdu.encode_eq reply).symm⟩
  | @parameter block due becomes =>
    have stepped : i.step c (.received bytes) =
        i.takeParameter { c with buffer := bytes } reply.header block := by
      simp [Inquiry.step, staged, nonempty, fresh]
    rw [Pdu.encode_eq, List.append_assoc] at stream
    have taking := takeParameter_taking (c := { c with buffer := bytes }) (i := i) becomes
      (List.append_cancel_left stream)
    rwa [same, ← stepped] at taking

end Inquires

end A2dpSink.Simulation
