import A2dpSink.Proofs.Sdp.Reply
import A2dpSink.Proofs.Sdp.Requests
import A2dpSink.Simulation.Server

/-!
# What a server makes of requests

A server with records cuts their attribute lists into portions of one size. The continuation state
it hands out names the place in the lists where the next portion starts, and it finds that place
again in the request that hands the state back (`Conduct.respond_request`). Requests are found again
wherever the stream of bytes is cut (`Server.step_received`).
-/

namespace A2dpSink.Simulation

open Sdp

/-! ### Portions -/

/-- The continuation state that names a place inside attribute lists: the place in two bytes. Nothing
is left to name at their start and behind their end. -/
def mark (lists : Bytes) (place : Nat) : Bytes :=
  if 0 < place ∧ place < lists.length then Bytes.ofNat 2 place else []

/-- The portion of attribute lists that starts at a place and has `most` bytes at most. -/
def portion (lists : Bytes) (most place : Nat) : Fragment :=
  ⟨(lists.drop place).take most, mark lists (place + most)⟩

/-- The response that gives a portion. -/
def reply (lists : Bytes) (most place : Nat) (t : BitVec 16) : Pdu :=
  let f := portion lists most place
  ⟨.searchAttributeResponse, t, Bytes.ofNat 2 f.data.length ++
    (f.data ++ UInt8.ofNat f.continuation.length :: f.continuation)⟩

/-- The size of the portions a server cuts attribute lists into. -/
def Conduct.portionLen (s : Conduct) (lists : Bytes) : Nat := s.part.getD lists.length

/-- A place is named in two bytes at most. -/
theorem length_mark_le (lists : Bytes) (place : Nat) : (mark lists place).length ≤ 2 := by
  unfold mark
  split <;> simp

/-- A portion is as long as asked for, unless the lists end before. -/
theorem length_portion (lists : Bytes) (most place : Nat) :
    (portion lists most place).data.length = min most (lists.length - place) := by
  simp [portion]

section Replies

variable {lists : Bytes} {most place : Nat} {t : BitVec 16}

/-- A portion of lists that are not too long is spelled in its response. -/
theorem reply_spells (short : lists.length < 2 ^ 16) :
    (portion lists most place).Spells (reply lists most place t).parameter := by
  have state := length_mark_le lists (place + most)
  refine ⟨?_, Nat.le_trans state (by decide), [], ?_⟩
  · rw [length_portion]
    omega
  · simp [reply]

/-- A response is complete when five more bytes than the lists have fit into it. -/
theorem reply_isComplete (short : lists.length + 5 < 2 ^ 16) :
    (reply lists most place t).IsComplete := by
  have data := length_portion lists most place
  have state := length_mark_le lists (place + most)
  have length : (reply lists most place t).parameter.length =
      2 + ((portion lists most place).data.length + (1 + (mark lists (place + most)).length)) := by
    simp [reply, portion]
    omega
  rw [Pdu.IsComplete, length]
  omega

/-- A response in terms of the places where its portion starts and stops. -/
theorem parameter_reply {stop : Nat} (there : place < lists.length) (positive : 0 < most)
    (stops : stop = min (place + most) lists.length) :
    (reply lists most place t).parameter =
      Bytes.ofNat 2 (stop - place) ++ (lists.toArray.extract place stop).toList ++
        (if stop < lists.length then 2 :: Bytes.ofNat 2 stop else [0]) := by
  have data : (lists.toArray.extract place stop).toList = (portion lists most place).data := by
    rw [Array.toList_extract, List.extract_eq_take_drop, portion, List.take_eq_take_iff]
    simp
    omega
  have size : (portion lists most place).data.length = stop - place := by
    rw [length_portion]
    omega
  have state : UInt8.ofNat (mark lists (place + most)).length :: mark lists (place + most) =
      if stop < lists.length then 2 :: Bytes.ofNat 2 stop else [0] := by
    by_cases more : place + most < lists.length
    · have same : stop = place + most := by omega
      rw [mark, if_pos ⟨by omega, more⟩, same, if_pos more, Bytes.length_ofNat]
      rfl
    · rw [mark, if_neg (fun inside => more inside.2), if_neg (by omega)]
      rfl
  rw [data, ← state, ← size, List.append_assoc]
  rfl

/-- The portion a server sends is written as its response is. -/
theorem Conduct.portion?_eq (s : Conduct) (there : place < lists.length)
    (positive : 0 < s.portionLen lists) :
    portion? lists.toArray s.part place =
      some (reply lists (s.portionLen lists) place t).parameter := by
  rw [parameter_reply there positive rfl]
  cases part : s.part with
  | none => simp [portion?, portionLen, part, Nat.not_lt.mpr (Nat.le_of_lt there)]
  | some n =>
    have ahead : ¬ min (place + n) lists.length < place := by omega
    simp only [portion?, portionLen, part, List.size_toArray, ahead, if_false,
      Option.getD_some]

end Replies

/-! ### The place a request asks for -/

/-- A request that hands back the mark of a place is understood to ask for what starts there. -/
theorem Conduct.offset?_mark {lists : Bytes} {place : Nat} (q : Question)
    (short : lists.length < 2 ^ 16) (inside : place = 0 ∨ place < lists.length)
    (small : (q.request (mark lists place)).parameter.length < 2 ^ 16) :
    offset? (q.request (mark lists place)).parameter = .ok place := by
  obtain ⟨pattern, ranges⟩ := Request.dataLen_le_of_length_lt small
  rw [Request.parameter_eq, offset?, Request.content, Request.decode_pattern _ pattern]
  simp only [Except.bind, Read.guardedWord_append 2, Request.decode_ranges _ ranges,
    Read.guardedWord_cons]
  by_cases start : place = 0
  · simp [Question.request, mark, start]
  · have there : mark lists place = Bytes.ofNat 2 place := by
      rw [mark, if_pos (by omega)]
    have read := Read.guardedWord_ofNat (n := 2) (v := place) (by omega) []
    rw [List.append_nil] at read
    simp [Question.request, there, read, Except.map]
    omega

/-- A server with records answers a request with the portion that starts at the place it asks
for. -/
theorem Conduct.respond_request {s : Conduct} {lists : Bytes} {place : Nat}
    (answers : s.answer = .records lists.toArray) (positive : 0 < s.portionLen lists) (q : Question)
    (t : BitVec 16) (short : lists.length < 2 ^ 16) (there : place < lists.length)
    (small : (q.request (mark lists place)).parameter.length < 2 ^ 16) :
    s.respond t (q.request (mark lists place)).parameter =
      .respond (reply lists (s.portionLen lists) place t).encode := by
  have offset := offset?_mark q short (.inr there) small
  have portion := s.portion?_eq (t := t) there positive
  simp only [respond, answers, offset, portion]
  rfl

/-! ### Requests in a stream of bytes -/

/-- A server has heard some bytes of a request, but not all. -/
inductive Hears (request : Pdu) : Server.Stage → Bytes → Prop
  | header {block : Intake} : block.missing ≠ 0 → block.Becomes request.front →
      Hears request (.header block) block.bytes
  | parameter {block : Intake} : block.missing ≠ 0 → block.Becomes request.parameter →
      Hears request (.parameter request.transaction block) (request.front ++ block.bytes)

/-- A server that waits has heard nothing of the next request. -/
theorem Hears.await (request : Pdu) (s : Server) : Hears request s.await.stage [] :=
  .header (by decide) request.length_front.symm

/-- Who has not heard all of a request reads on. -/
theorem Hears.need_eq {request : Pdu} {s : Server} {heard : Bytes}
    (h : Hears request s.stage heard) : ∃ most, 0 < most ∧ s.need = .read most := by
  generalize staged : s.stage = stage at h
  cases h with
  | @header block due => exact ⟨block.missing, Nat.pos_of_ne_zero due, by rw [Server.need, staged]⟩
  | @parameter block due => exact ⟨block.missing, Nat.pos_of_ne_zero due, by rw [Server.need, staged]⟩

/-- What is heard goes on. -/
theorem Hears.ne_nil {request : Pdu} {stage : Server.Stage} {heard tail : Bytes}
    (h : Hears request stage heard) (stream : heard ++ tail = request.encode) : tail ≠ [] := by
  rw [Pdu.encode_eq] at stream
  cases h with
  | header due becomes => exact becomes.ne_nil due stream
  | parameter due becomes =>
    rw [List.append_assoc] at stream
    exact becomes.ne_nil due ((List.append_cancel_left stream).trans (List.append_nil _).symm)

namespace Server

/-- The front of a request tells its transaction number and the length of its parameter. -/
theorem front_told {request : Pdu} (whole : request.IsComplete) :
    Bytes.toWord 2 ((request.front.drop 1).take 2) = request.transaction ∧
      Bytes.toNat (request.front.drop 3) = request.parameter.length := by
  have number : (request.front.drop 1).take 2 = Bytes.ofWord 2 request.transaction := by
    rw [Pdu.front, List.drop_one, List.tail_cons]
    exact List.take_left' (Bytes.length_ofWord 2 request.transaction)
  have length : request.front.drop 3 = Bytes.ofNat 2 request.parameter.length := by
    rw [Pdu.front, List.drop_succ_cons]
    exact List.drop_left' (Bytes.length_ofWord 2 request.transaction)
  rw [number, length, Bytes.toWord_ofWord, Bytes.toNat_ofNat]
  exact ⟨rfl, Nat.mod_eq_of_lt whole⟩

/-- What a server makes of bytes of a request depends on whether these are the last ones. It reads
no further than the request goes. -/
theorem step_received {s : Server} {request : Pdu} {heard bytes tail : Bytes} {most : Nat}
    (hears : Hears request s.stage heard) (whole : request.IsComplete)
    (asks : request.parameter ≠ []) (need : s.need = .read most) (ne_nil : bytes ≠ [])
    (within : bytes.length ≤ most) (stream : heard ++ (bytes ++ tail) = request.encode) :
    tail = [] ∧ s.step (.received bytes) =
        ({ s with stage := .pausing request.transaction request.parameter }, 1) ∨
      tail ≠ [] ∧ ∃ stage, s.step (.received bytes) = ({ s with stage }, 0) ∧
        Hears request stage (heard ++ bytes) := by
  have nonempty : bytes.isEmpty = false := List.isEmpty_eq_false_iff.mpr ne_nil
  rw [Pdu.encode_eq] at stream
  generalize staged : s.stage = stage at hears
  cases hears with
  | @header block due becomes =>
    simp only [Server.need, staged, Need.read.injEq] at need
    obtain ⟨all, becomes'⟩ := Intake.take_within becomes (need ▸ within)
    rw [← List.append_assoc, ← all] at stream
    by_cases full : (block.take bytes).1.missing = 0
    · -- The header is there, and nothing of the parameter.
      obtain ⟨front, rest⟩ := becomes'.full full stream
      obtain ⟨number, length⟩ := front_told whole
      have due : request.parameter.length ≠ 0 := by simpa using asks
      have empty : (Intake.ofLength request.parameter.length).take [] =
          (⟨[[]], request.parameter.length⟩, []) := by
        simp [Intake.ofLength, Intake.take, List.splitAt_eq]
      have stepped : s.step (.received bytes) =
          (⟨s.conduct, .parameter request.transaction ⟨[[]], request.parameter.length⟩⟩, 0) := by
        simp only [step, staged, nonempty, Bool.false_eq_true, if_false, full, if_true, front, number,
          length, takeParameter, empty, due]
      refine .inr ⟨rest ▸ asks, _, stepped, ?_⟩
      rw [← all, front, ← List.append_nil request.front]
      exact .parameter due (by simp [Intake.Becomes, Intake.bytes])
    · have stepped : s.step (.received bytes) =
          ({ s with stage := .header (block.take bytes).1 }, 0) := by
        simp [step, staged, nonempty, full]
      exact .inr ⟨becomes'.ne_nil full stream, _, stepped, all ▸ .header full becomes'⟩
  | @parameter block due becomes =>
    simp only [Server.need, staged, Need.read.injEq] at need
    obtain ⟨all, becomes'⟩ := Intake.take_within becomes (need ▸ within)
    rw [List.append_assoc, ← List.append_assoc block.bytes, ← all] at stream
    have parameter : (block.take bytes).1.bytes ++ tail = request.parameter ++ [] := by
      rw [List.append_nil]
      exact List.append_cancel_left stream
    by_cases full : (block.take bytes).1.missing = 0
    · obtain ⟨whole, rest⟩ := becomes'.full full parameter
      exact .inl ⟨rest, by simp [step, staged, nonempty, takeParameter, full, whole]⟩
    · have stepped : s.step (.received bytes) =
          (⟨s.conduct, .parameter request.transaction (block.take bytes).1⟩, 0) := by
        simp [step, staged, nonempty, takeParameter, full]
      refine .inr ⟨becomes'.ne_nil full parameter, _, stepped, ?_⟩
      rw [List.append_assoc, ← all]
      exact .parameter full becomes'

end Server

end A2dpSink.Simulation
