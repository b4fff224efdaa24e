import A2dpSink.Proofs.Sdp.Bounded
import A2dpSink.Simulation.Exchange

/-!
# Where a query leaves the stream

A client takes a unit in two parts and reads the first one before it goes on to the second. A header
that names no kind ends the query there, and the parameter stays in the stream (`Frame.spill`). Of
every other unit nothing stays, whatever comes of it.

An `Interview` is a client with one question after the other and a peer that answers each request
with its next unit. `Aligned` is the invariant: units were passed as a whole, as many as there were
requests. Steps keep it until a unit is spilled (`Aligned.step`), and `query_ends_at_boundary` says
what that means for the question that comes next.
-/

namespace A2dpSink.Sdp

/-! ### Units of any kind -/

private theorem PduKind.ofCode?_eq {n : Nat} {k : PduKind} (h : ofCode? n = some k) :
    n = k.code := by
  unfold ofCode? at h
  split at h
  all_goals first
    | cases h; simp only [code]; omega
    | cases h

/-- A unit as it comes in, with any number where its kind should stand. -/
structure Frame where
  code : UInt8
  transaction : BitVec 16
  parameter : Bytes

namespace Frame

/-- The kind that the number stands for, if there is one. -/
def kind? (f : Frame) : Option PduKind := PduKind.ofCode? f.code.toNat

/-- The bytes in front of the parameter. -/
def front (f : Frame) : Bytes :=
  f.code :: (Bytes.ofWord 2 f.transaction ++ Bytes.ofNat 2 f.parameter.length)

/-- The bytes of a frame. -/
def encode (f : Frame) : Bytes := f.front ++ f.parameter

/-- A frame whose length field is able to hold the length of its parameter. -/
def IsComplete (f : Frame) : Prop := f.parameter.length < 2 ^ 16

/-- The unit a frame is when its number stands for a kind. -/
def toPdu (f : Frame) (k : PduKind) : Pdu := ⟨k, f.transaction, f.parameter⟩

/-- A client passes a frame as a whole unless it finds no kind in the header and leaves a parameter
behind. -/
def Passes (f : Frame) : Prop := f.kind? ≠ none ∨ f.parameter = []

/-- What a client leaves of a frame in the stream. -/
def spill (f : Frame) : Bytes := if f.kind? = none then f.parameter else []

variable {f : Frame}

private theorem length_front (f : Frame) : f.front.length = headerLen := by
  simp [front, headerLen]

private theorem front_toPdu {k : PduKind} (h : f.kind? = some k) : f.front = (f.toPdu k).front := by
  have code : f.code = UInt8.ofNat k.code := by
    rw [← PduKind.ofCode?_eq h, UInt8.ofNat_toNat]
  rw [front, Pdu.front, code, toPdu]

private theorem decode_front {k : PduKind} (h : f.kind? = some k) (complete : f.IsComplete) :
    Header.decode f.front = .ok (f.toPdu k).header := by
  rw [front_toPdu h]
  exact Pdu.decode_front complete

/-- A number that stands for no kind is refused before the rest of the header is looked at. -/
theorem decode_front_none (h : f.kind? = none) : Header.decode f.front = .error .malformed := by
  have code : Read.word 1 f.front = .ok (f.code.toBitVec,
      Bytes.ofWord 2 f.transaction ++ Bytes.ofNat 2 f.parameter.length) := by
    have read := Read.word_append 1 f.code.toBitVec
      (Bytes.ofWord 2 f.transaction ++ Bytes.ofNat 2 f.parameter.length)
    rw [Bytes.ofWord_one] at read
    simpa [front] using read
  rw [Header.decode, code]
  simp only [Except.bind]
  rw [show PduKind.ofCode? (f.code.toBitVec.toNat : Int) = none from h]

private theorem spill_of_kind {k : PduKind} (h : f.kind? = some k) : f.spill = [] := by
  simp [spill, h]

private theorem spill_of_none (h : f.kind? = none) : f.spill = f.parameter := by
  simp [spill, h]

private theorem spill_eq_nil : f.spill = [] ↔ f.Passes := by
  by_cases h : f.kind? = none <;> simp [spill, Passes, h]

end Frame

/-! ### Interviews -/

/-- How many requests were begun and not sent off. -/
def Progress.unsent : Progress → Nat
  | .going i => i.unsent
  | .done _ => 0

/-- The query came to an end on a channel that did its part. -/
def Result.IsAnswer (r : Result) : Prop := ∀ e, r ≠ .error (.io e)

/-- A client that has been asked some questions, and a peer that has frames for its requests. -/
structure Interview where
  client : Client
  progress : Progress
  /-- How many requests were sent off. -/
  sent : Nat := 0
  /-- What the peer has sent and the client has not read. -/
  unread : Bytes := []
  /-- The frames that the peer has not sent. -/
  frames : List Frame

namespace Interview

/-- An interview starts with a question. -/
def start (c : Client) (q : Question) (frames : List Frame) : Interview :=
  let (client, i) := Inquiry.start c q
  { client, progress := .going i, frames }

/-- The next question, put to the client as the last one left it. -/
def ask (x : Interview) (q : Question) : Interview :=
  let (client, i) := Inquiry.start x.client q
  { x with client, progress := .going i }

/-- The client has taken a step. -/
def after (x : Interview) (taken : Client × Progress) : Interview :=
  { x with client := taken.1, progress := taken.2 }

/-- The client goes on with what the channel did. -/
def react (x : Interview) (i : Inquiry) (r : Reaction) : Interview := x.after (i.step x.client r)

/-- A request gets to the peer, which sends its next frame. -/
def sendOff (x : Interview) : Interview :=
  { x with
    sent := x.sent + 1
    unread := x.unread ++ x.frames.head?.elim [] Frame.encode
    frames := x.frames.tail }

/-- The channel hands over the first bytes that were sent. -/
def handOver (x : Interview) (n : Nat) : Interview := { x with unread := x.unread.drop n }

/-- What the channel may do: it takes some of the bytes that the client writes, sends off a request,
hands over some of the bytes that the peer sent, or fails. If it takes or hands over nothing, it has
come to its end. -/
inductive Step : Interview → Interview → Prop
  | write {x : Interview} {i : Inquiry} {bytes : Bytes} (n : Nat) : x.progress = .going i →
      i.need = .write bytes → n ≤ bytes.length → Step x (x.react i (.wrote n))
  | flush {x : Interview} {i : Inquiry} : x.progress = .going i → i.need = .flush →
      Step x (x.sendOff.react i .flushed)
  | read {x : Interview} {i : Inquiry} (n : Nat) : x.progress = .going i → i.need = .read →
      n ≤ x.unread.length → n ≤ receiveSize →
      Step x ((x.handOver n).react i (.received (x.unread.take n)))
  | fail {x : Interview} {i : Inquiry} (e : IoError) : x.progress = .going i →
      Step x (x.react i (.failed e))

private theorem Step.going {x y : Interview} (h : Step x y) : ∃ i, x.progress = .going i := by
  cases h with
  | write n going | flush going | read n going | fail e going => exact ⟨_, going⟩

/-- What comes of a client and a peer when the client is asked a question, and another one each time
it has answered. -/
inductive Reached (c : Client) (frames : List Frame) : Interview → Prop
  | first (q : Question) : Reached c frames (start c q frames)
  | step {x y : Interview} : Reached c frames x → Step x y → Reached c frames y
  | again {x : Interview} {r : Result} (q : Question) : Reached c frames x →
      x.progress = .done r → r.IsAnswer → Reached c frames (x.ask q)

/-- The query came to an end on a channel that failed or closed. -/
def Broken (x : Interview) : Prop := ∃ e, x.progress = .done (.error (.io e))

/-! ### Being at a boundary -/

/-- These of the frames were sent, one for each request. -/
structure Behind (x : Interview) (frames past : List Frame) : Prop where
  frames_eq : past ++ x.frames = frames
  sent_eq : past.length = x.sent

/-- The client has passed all frames that were sent, or is on its way through the last of them. -/
inductive Aligned (frames : List Frame) (x : Interview) : Prop
  /-- A request is on its way out. -/
  | asking {i : Inquiry} (past : List Frame) (going : x.progress = .going i)
      (unsent : i.unsent = 1) (behind : x.Behind frames past)
      (stream : x.client.buffer ++ x.unread = [])
  | header {i : Inquiry} {block : Intake} (past : List Frame) (f : Frame)
      (going : x.progress = .going i) (stage : i.stage = .header block)
      (behind : x.Behind frames (past ++ [f])) (taken : x.client.buffer = [])
      (becomes : block.Becomes f.front) (stream : block.bytes ++ x.unread = f.encode)
  | parameter {i : Inquiry} {head : Header} {block : Intake} (past : List Frame) (f : Frame)
      {k : PduKind} (going : x.progress = .going i) (stage : i.stage = .parameter head block)
      (behind : x.Behind frames (past ++ [f])) (taken : x.client.buffer = [])
      (kind : f.kind? = some k) (becomes : block.Becomes f.parameter)
      (stream : block.bytes ++ x.unread = f.parameter)
  /-- The peer has run out of frames, and nothing comes in any more. -/
  | silence {i : Inquiry} {block : Intake} (going : x.progress = .going i)
      (stage : i.stage = .header block) (unread : x.unread = [])
  /-- The last frame was passed as far as a client passes it. -/
  | ended {r : Result} (past : List Frame) (f : Frame) (done : x.progress = .done r)
      (behind : x.Behind frames (past ++ [f]))
      (stream : x.client.buffer ++ x.unread = f.spill)
      (refused : f.kind? = none → r = .error .invalid)

section Taking

variable {frames past : List Frame} {x : Interview} {f : Frame} {i : Inquiry} {block : Intake}

-- A whole unit is behind the client, whatever it makes of it.
private theorem respond_aligned {k : PduKind} (behind : x.Behind frames (past ++ [f]))
    (kind : f.kind? = some k) (c : Client) (p : Pdu) (stream : c.buffer ++ x.unread = []) :
    Aligned frames (x.after (i.respond c p)) := by
  have buffer := Simulation.Exchange.respond_buffer c i p
  rcases step : i.respond c p with ⟨d, j | r⟩
  · rw [step] at buffer
    refine .asking (past ++ [f]) rfl (Inquiry.onward_of_respond step).unsent
      ⟨behind.frames_eq, behind.sent_eq⟩ ?_
    rw [← stream, ← buffer]
    rfl
  · rw [step] at buffer
    refine .ended past f rfl ⟨behind.frames_eq, behind.sent_eq⟩ ?_ ?_
    · rw [Frame.spill_of_kind kind, ← stream, ← buffer]
      rfl
    · simp [kind]

private theorem takeParameter_aligned {k : PduKind} (behind : x.Behind frames (past ++ [f]))
    (kind : f.kind? = some k) (c : Client) (head : Header) (becomes : block.Becomes f.parameter)
    (stream : block.bytes ++ (c.buffer ++ x.unread) = f.parameter) :
    Aligned frames (x.after (i.takeParameter c head block)) := by
  have stream' : block.bytes ++ (c.buffer ++ x.unread) = f.parameter ++ [] := by
    rw [stream, List.append_nil]
  rw [Inquiry.takeParameter]
  rcases Intake.take_front becomes stream' with ⟨full, bytes, rest⟩ | ⟨due, becomes', empty, rest⟩
  · simp only [full, if_true]
    exact respond_aligned behind kind _ _ rest
  · simp only [due, if_false, empty]
    exact .parameter past f rfl rfl ⟨behind.frames_eq, behind.sent_eq⟩ rfl kind becomes'
      (rest.trans stream)

-- A header that names no kind is all that is taken of a frame.
private theorem takeHeader_aligned (behind : x.Behind frames (past ++ [f]))
    (complete : f.IsComplete) (c : Client) (becomes : block.Becomes f.front)
    (stream : block.bytes ++ (c.buffer ++ x.unread) = f.encode) :
    Aligned frames (x.after (i.takeHeader c block)) := by
  rw [Inquiry.takeHeader]
  rcases Intake.take_front becomes stream with ⟨full, bytes, rest⟩ | ⟨due, becomes', empty, rest⟩
  · simp only [full, if_true, bytes]
    cases kind : f.kind? with
    | none =>
      simp only [Frame.decode_front_none kind]
      refine .ended past f rfl ⟨behind.frames_eq, behind.sent_eq⟩ ?_ fun _ => rfl
      rw [Frame.spill_of_none kind]
      exact rest
    | some k =>
      simp only [Frame.decode_front kind complete]
      exact takeParameter_aligned behind kind _ _ (Intake.ofLength_becomes f.parameter) rest
  · simp only [due, if_false, empty]
    exact .header past f rfl rfl ⟨behind.frames_eq, behind.sent_eq⟩ rfl becomes'
      (rest.trans stream)

end Taking

/-! ### Every step keeps the invariant -/

section Steps

variable {frames : List Frame} {x y : Interview} {i : Inquiry}

private theorem going_inj {j : Inquiry} (there : x.progress = .going j)
    (going : x.progress = .going i) : j = i :=
  Progress.going.inj (there.symm.trans going)

private theorem Broken.of_failed (e : IoError) : (x.react i (.failed e)).Broken :=
  ⟨e, by simp [react, after, Inquiry.step]⟩

/-- A request that is written makes no difference to the stream of replies. -/
theorem Aligned.write (h : Aligned frames x) {bytes : Bytes} {n : Nat}
    (going : x.progress = .going i) (need : i.need = .write bytes) :
    Aligned frames (x.react i (.wrote n)) ∨ (x.react i (.wrote n)).Broken := by
  cases h with
  | @asking j past there unsent behind stream =>
    obtain rfl := going_inj there going
    cases stage : j.stage with
    | sending rest =>
      by_cases zero : n = 0
      · right
        exact ⟨⟨.writeZero, none⟩, by simp [react, after, Inquiry.step, stage, zero]⟩
      · left
        refine .asking past (i := { j with
          stage := if (rest.drop n).isEmpty then .flushing else .sending (rest.drop n) })
          ?_ ?_ ⟨behind.frames_eq, behind.sent_eq⟩ ?_
        · simp [react, after, Inquiry.step, stage, zero]
        · by_cases gone : (rest.drop n).isEmpty <;> simp [Inquiry.unsent, gone]
        · simpa [react, after, Inquiry.step, stage, zero] using stream
    | flushing => simp [Inquiry.need, stage] at need
    | header block => simp [Inquiry.need, stage] at need
    | parameter head block => simp [Inquiry.need, stage] at need
  | header _ _ there stage | parameter _ _ there stage | silence there stage =>
    obtain rfl := going_inj there going
    simp [Inquiry.need, stage] at need
  | ended _ _ done => rw [going] at done; cases done

/-- With a request a frame gets into the stream, behind all that were passed. -/
theorem Aligned.flush (h : Aligned frames x) (complete : ∀ f ∈ frames, f.IsComplete)
    (going : x.progress = .going i) (need : i.need = .flush) :
    Aligned frames (x.sendOff.react i .flushed) := by
  cases h with
  | @asking j past there unsent behind stream =>
    obtain rfl := going_inj there going
    obtain ⟨buffer, unread⟩ := List.append_eq_nil_iff.mp stream
    cases stage : j.stage with
    | flushing =>
      have stepped : x.sendOff.react j .flushed =
          x.sendOff.after (j.takeHeader x.client (.ofLength headerLen)) := by
        simp [react, Inquiry.step, stage, sendOff]
      rw [stepped]
      cases more : x.frames with
      | nil =>
        have due : headerLen ≠ 0 := by decide
        simp only [Inquiry.takeHeader, Intake.take, List.splitAt_eq, buffer, List.take_nil,
          List.length_nil, Nat.sub_zero, Intake.ofLength, due, if_false]
        refine .silence rfl rfl ?_
        simp [after, sendOff, more, unread]
      | cons f rest =>
        have behind' : x.sendOff.Behind frames (past ++ [f]) := by
          constructor
          · simp [sendOff, more, ← behind.frames_eq]
          · simp [sendOff, behind.sent_eq]
        have becomes : (Intake.ofLength headerLen).Becomes f.front := by
          rw [← f.length_front]
          exact Intake.ofLength_becomes _
        refine takeHeader_aligned behind' (complete f ?_) _ becomes ?_
        · rw [← behind.frames_eq, more]
          simp
        · simp [sendOff, more, buffer, unread]
    | sending rest => simp [Inquiry.need, stage] at need
    | header block => simp [Inquiry.need, stage] at need
    | parameter head block => simp [Inquiry.need, stage] at need
  | header _ _ there stage | parameter _ _ there stage | silence there stage =>
    obtain rfl := going_inj there going
    simp [Inquiry.need, stage] at need
  | ended _ _ done => rw [going] at done; cases done

/-- However much is handed over, it is a part of the frame that the client is on its way
through. -/
theorem Aligned.read (h : Aligned frames x) (complete : ∀ f ∈ frames, f.IsComplete) {n : Nat}
    (going : x.progress = .going i) (need : i.need = .read) :
    Aligned frames ((x.handOver n).react i (.received (x.unread.take n))) ∨
      ((x.handOver n).react i (.received (x.unread.take n))).Broken := by
  have closed : x.unread.take n = [] → (∃ block, i.stage = .header block) ∨
      (∃ head block, i.stage = .parameter head block) →
      ((x.handOver n).react i (.received (x.unread.take n))).Broken := by
    rintro empty (⟨block, stage⟩ | ⟨head, block, stage⟩) <;>
      exact ⟨⟨.unexpectedEof, none⟩, by simp [react, after, Inquiry.step, stage, empty]⟩
  cases h with
  | @asking j _ there unsent =>
    obtain rfl := going_inj there going
    cases stage : j.stage <;> simp [Inquiry.need, Inquiry.unsent, stage] at need unsent
  | @header j block past f there stage behind taken becomes stream =>
    obtain rfl := going_inj there going
    by_cases empty : x.unread.take n = []
    · exact .inr (closed empty (.inl ⟨_, stage⟩))
    · left
      have stepped : (x.handOver n).react j (.received (x.unread.take n)) =
          (x.handOver n).after (j.takeHeader
            { x.client with buffer := x.client.buffer ++ x.unread.take n } block) := by
        simp [react, Inquiry.step, stage, List.isEmpty_iff, empty, handOver]
      rw [stepped]
      refine takeHeader_aligned (x := x.handOver n) ⟨behind.frames_eq, behind.sent_eq⟩
        (complete f ?_) _ becomes ?_
      · rw [← behind.frames_eq]
        simp
      · rw [taken, List.nil_append, handOver, List.take_append_drop]
        exact stream
  | @parameter j head block past f k there stage behind taken kind becomes stream =>
    obtain rfl := going_inj there going
    by_cases empty : x.unread.take n = []
    · exact .inr (closed empty (.inr ⟨_, _, stage⟩))
    · left
      have stepped : (x.handOver n).react j (.received (x.unread.take n)) =
          (x.handOver n).after (j.takeParameter
            { x.client with buffer := x.client.buffer ++ x.unread.take n } head block) := by
        simp [react, Inquiry.step, stage, List.isEmpty_iff, empty, handOver]
      rw [stepped]
      refine takeParameter_aligned (x := x.handOver n) ⟨behind.frames_eq, behind.sent_eq⟩ kind _ _
        becomes ?_
      rw [taken, List.nil_append, handOver, List.take_append_drop]
      exact stream
  | @silence j block there stage unread =>
    obtain rfl := going_inj there going
    exact .inr (closed (by simp [unread]) (.inl ⟨_, stage⟩))
  | ended _ _ done => rw [going] at done; cases done

/-- A step keeps the client aligned with the frames, or breaks the link. -/
theorem Aligned.step (h : Aligned frames x) (complete : ∀ f ∈ frames, f.IsComplete)
    (step : Step x y) : Aligned frames y ∨ y.Broken := by
  cases step with
  | write n going need _ => exact h.write going need
  | flush going need => exact .inl (h.flush complete going need)
  | read n going need _ _ => exact h.read complete going need
  | fail e going => exact .inr (.of_failed e)

end Steps

/-! ### Spilled frames -/

/-- A result that is not the fault of the channel is there only when every request that was begun
was sent off. -/
theorem Inquiry.sends_of_answer {c d : Client} {i : Inquiry} {r : Reaction} {result : Result}
    (h : i.step c r = (d, .done result)) (answer : result.IsAnswer) : i.sends r = i.unsent := by
  unfold Inquiry.step at h
  split at h
  · cases h
    exact absurd rfl (answer _)
  · split at h
    · cases h
      exact absurd rfl (answer _)
    · cases h
  · next stage => simp [Inquiry.sends, Inquiry.unsent, stage]
  · next stage => simp [Inquiry.sends, Inquiry.unsent, stage]
  · next stage => simp [Inquiry.sends, Inquiry.unsent, stage]
  · cases h

/-- How many requests came before the one that is under way or was the last. -/
def past (x : Interview) : Nat := x.sent + x.progress.unsent - 1

/-- Something of a frame was left in the stream when the client went on to the next request. -/
def Spoilt (frames : List Frame) (x : Interview) : Prop :=
  ∃ f ∈ frames.take x.past, ¬ f.Passes

variable {frames : List Frame} {x y : Interview}

private theorem Spoilt.mono (h : Spoilt frames x) (le : x.past ≤ y.past) : Spoilt frames y := by
  obtain ⟨f, mem, unpassed⟩ := h
  exact ⟨f, List.take_subset_take_left frames le mem, unpassed⟩

/-- A client goes on to other requests, and never back. -/
theorem past_le {i : Inquiry} {r : Reaction} (going : x.progress = .going i)
    (sent : y.sent = x.sent + i.sends r) :
    x.past ≤ (y.react i r).past ∨ (y.react i r).Broken := by
  rcases step : i.step y.client r with ⟨d, j | result⟩
  · left
    have counted : i.unsent ≤ i.sends r + j.unsent := by
      rcases Inquiry.step_going step with ⟨_, same⟩ | ⟨onward, same⟩
      · exact same.ge
      · exact same ▸ Nat.le_add_right _ _
    simp only [past, Progress.unsent, going, react, after, step, sent]
    omega
  · by_cases answer : result.IsAnswer
    · left
      have counted := Inquiry.sends_of_answer step answer
      simp only [past, Progress.unsent, going, react, after, step, sent]
      omega
    · right
      obtain ⟨e, rfl⟩ : ∃ e, result = .error (.io e) := by
        simpa [Result.IsAnswer] using answer
      exact ⟨e, by simp [react, after, step]⟩

/-- A stream that is spoilt stays so, or the link breaks. -/
theorem Spoilt.step (h : Spoilt frames x) (step : Step x y) : Spoilt frames y ∨ y.Broken := by
  have later : x.past ≤ y.past ∨ y.Broken := by
    cases step with
    | @write i bytes n going need _ =>
      refine past_le going ?_
      cases stage : i.stage <;> simp [Inquiry.need, Inquiry.sends, stage] at need ⊢
    | @flush i going need =>
      refine past_le going ?_
      cases stage : i.stage <;> simp [Inquiry.need, Inquiry.sends, stage, sendOff] at need ⊢
    | @read i n going need _ _ =>
      refine past_le going ?_
      cases stage : i.stage <;> simp [Inquiry.need, Inquiry.sends, stage, handOver] at need ⊢
    | fail e going => exact .inr (.of_failed e)
  exact later.imp_left h.mono

/-! ### Runs -/

private theorem unsent_start (c : Client) (q : Question) : (Inquiry.start c q).2.unsent = 1 := rfl

/-- A client is at a boundary, or got off one when it went on from a frame it had spilled. -/
theorem Reached.aligned {c : Client} (between : c.buffer = [])
    (complete : ∀ f ∈ frames, f.IsComplete) (h : Reached c frames x) :
    Aligned frames x ∨ Spoilt frames x ∨ x.Broken := by
  induction h with
  | first q => exact .inl (.asking [] rfl (unsent_start c q) ⟨rfl, rfl⟩ (by simp [start, between,
      Inquiry.start, Inquiry.ask]))
  | @step x y _ step ih =>
    rcases ih with aligned | spoilt | ⟨e, broken⟩
    · exact (aligned.step complete step).imp_right .inr
    · exact .inr (spoilt.step step)
    · obtain ⟨i, going⟩ := step.going
      rw [broken] at going
      cases going
  | @again x r q _ done answer ih =>
    rcases ih with aligned | spoilt | ⟨e, broken⟩
    · cases aligned with
      | ended past f _ behind stream =>
        by_cases whole : f.Passes
        · exact .inl (.asking (past ++ [f]) rfl (unsent_start x.client q)
            ⟨behind.frames_eq, behind.sent_eq⟩ (stream.trans (Frame.spill_eq_nil.mpr whole)))
        · refine .inr (.inl ⟨f, ?_, whole⟩)
          have counted : (x.ask q).past = (past ++ [f]).length := by
            rw [behind.sent_eq]
            rfl
          rw [counted, ← behind.frames_eq, List.take_left]
          simp
      | asking _ going | header _ _ going | parameter _ _ going | silence going =>
        rw [done] at going
        cases going
    · refine .inr (.inl (spoilt.mono ?_))
      simp only [Interview.past, Progress.unsent, done, ask, unsent_start]
      omega
    · rw [done] at broken
      cases broken
      exact absurd rfl (answer e)

/-- A query leaves the stream at the end of a unit, unless the header of the unit names no kind.
However the channel cuts the stream, and whatever questions were asked before, a query that was
answered has passed as many complete units as there were requests, as long as none of those before
the last one was left in part. Of the last unit the whole parameter is left in the stream if its
kind is unknown, and nothing otherwise; with nothing left, the next question is asked as a new
client with the same count of requests would ask it. -/
theorem query_ends_at_boundary {c : Client} {r : Result} (between : c.buffer = [])
    (complete : ∀ f ∈ frames, f.IsComplete) (reached : Reached c frames x)
    (done : x.progress = .done r) (answer : r.IsAnswer)
    (earlier : ∀ f ∈ frames.take (x.sent - 1), f.Passes) :
    ∃ past last, frames = past ++ last :: x.frames ∧ past.length + 1 = x.sent ∧
      x.client.buffer ++ x.unread = last.spill ∧
      (last.kind? = none → r = .error .invalid) ∧
      (last.Passes ↔ x.client.buffer = [] ∧ x.unread = []) ∧
      (last.Passes → ∀ q, x.ask q =
        { start { transaction := x.client.transaction } q x.frames with sent := x.sent }) := by
  rcases reached.aligned between complete with aligned | ⟨f, mem, unpassed⟩ | ⟨e, broken⟩
  · cases aligned with
    | ended past last there behind stream refused =>
      rw [done] at there
      cases there
      have boundary : last.Passes ↔ x.client.buffer = [] ∧ x.unread = [] := by
        rw [← Frame.spill_eq_nil, ← stream, List.append_eq_nil_iff]
      refine ⟨past, last, ?_, ?_, stream, refused, boundary, ?_⟩
      · simp [← behind.frames_eq]
      · simp [← behind.sent_eq]
      · intro passes q
        obtain ⟨buffer, unread⟩ := boundary.mp passes
        simp [ask, start, Inquiry.start, Inquiry.ask, buffer, unread]
    | asking _ going | header _ _ going | parameter _ _ going | silence going =>
      rw [done] at going
      cases going
  · refine absurd (earlier f ?_) unpassed
    simpa [Interview.past, Progress.unsent, done] using mem
  · rw [done] at broken
    cases broken
    exact absurd rfl (answer e)

/-- A peer refuses a request, and answers the next one with a number that stands for no kind. -/
theorem query_ends_at_boundary_refused :
    let frames : List Frame := [⟨1, 0, [0, 3]⟩, ⟨9, 1, [0xAB]⟩]
    ∃ x, Reached {} frames x ∧ x.progress = .done (.error .invalid) ∧ x.sent = 2 ∧
      ∃ past last, frames = past ++ last :: x.frames ∧ past.length + 1 = x.sent ∧
        x.client.buffer ++ x.unread = last.spill ∧ ¬ last.Passes := by
  intro frames
  let q : Question := ⟨[], 8, [.all]⟩
  have first : Reached {} frames (start {} q frames) := .first q
  have sent := (first.step (.write 17 rfl rfl (by decide))).step (.flush rfl rfl)
  have refused : Reached {} frames
      { client := { transaction := 1 }
        progress := .done (.error (.remote .invalidRequestSyntax))
        sent := 1
        frames := frames.tail } := by
    have answered := sent.step (.read 7 rfl rfl (by decide) (by decide))
    exact answered
  have again := ((refused.again q rfl (by rintro e ⟨⟩)).step
    (.write 17 rfl rfl (by decide))).step (.flush rfl rfl)
  have reached : Reached {} frames
      { client := { transaction := 2, buffer := [0xAB] }
        progress := .done (.error .invalid)
        sent := 2
        frames := [] } := by
    have answered := again.step (.read 6 rfl rfl (by decide) (by decide))
    exact answered
  have complete : ∀ f ∈ frames, f.IsComplete := by
    simp [frames, Frame.IsComplete]
  have earlier : ∀ f ∈ frames.take 1, f.Passes := by
    intro f mem
    obtain rfl := List.mem_singleton.mp mem
    exact .inl (by decide)
  obtain ⟨past, last, same, length, left, -, boundary, -⟩ :=
    query_ends_at_boundary rfl complete reached rfl (by rintro e ⟨⟩) earlier
  refine ⟨_, reached, rfl, rfl, past, last, same, length, left, ?_⟩
  intro passes
  exact List.cons_ne_nil _ _ (boundary.mp passes).1

/-- Not every query leaves the stream at the end of a unit: after a number that stands for no kind,
the parameter is still there. -/
theorem not_always_at_boundary :
    ¬ ∀ (c : Client) (frames : List Frame) (x : Interview) (r : Result), c.buffer = [] →
      (∀ f ∈ frames, f.IsComplete) → Reached c frames x → x.progress = .done r → r.IsAnswer →
      ∃ past, frames = past ++ x.frames ∧ past.length = x.sent ∧
        x.client.buffer = [] ∧ x.unread = [] := by
  intro always
  let frames : List Frame := [⟨9, 0, [0xAB]⟩]
  have first : Reached {} frames (start {} ⟨[], 8, [.all]⟩ frames) := .first _
  have sent := (first.step (.write 17 rfl rfl (by decide))).step (.flush rfl rfl)
  have reached : Reached {} frames
      { client := { transaction := 1, buffer := [0xAB] }
        progress := .done (.error .invalid)
        sent := 1
        frames := [] } := by
    have answered := sent.step (.read 6 rfl rfl (by decide) (by decide))
    exact answered
  obtain ⟨past, -, -, buffer, -⟩ := always {} frames _ (.error .invalid) rfl
    (by simp [frames, Frame.IsComplete]) reached rfl (by rintro e ⟨⟩)
  exact List.cons_ne_nil _ _ buffer

end Interview

end A2dpSink.Sdp
