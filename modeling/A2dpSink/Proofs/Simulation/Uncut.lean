import A2dpSink.Proofs.Sdp.Framing
import A2dpSink.Simulation.Exchange

/-!
# Channels that cut what they carry

A channel takes and hands over bytes in portions of limited size. What comes of a question does not
depend on them. An exchange is compared with the one that is left when everything that has come in is
put back on the side of the peer (`Exchange.uncut`), and that one moves by whole requests, headers and
parameters (`Exchange.leap`). A move of an exchange either is not seen there or is made of such leaps
(`foretold_move`), and what leaps lead to is determined (`Ends.unique`).
-/

namespace A2dpSink

open Sdp

/-! ### Blocks and partial helpings -/

namespace Sdp

namespace Intake

/-- A block that is going to have `n` bytes. -/
def Fills (b : Intake) (n : Nat) : Prop := b.missing + b.bytes.length = n

private theorem fills_ofLength (n : Nat) : (ofLength n).Fills n := by
  simp [Fills, ofLength, bytes]

private theorem Fills.take {b : Intake} {n : Nat} (fills : b.Fills n) (buffer : Bytes) :
    (b.take buffer).1.Fills n := by
  rw [Fills] at fills ⊢
  rw [missing_take, bytes_take, List.length_append, List.length_take]
  omega

private theorem Fills.length_bytes {b : Intake} {n : Nat} (fills : b.Fills n)
    (full : b.missing = 0) : b.bytes.length = n := by
  rwa [Fills, full, Nat.zero_add] at fills

private theorem Fills.not_le {b : Intake} {n : Nat} (fills : b.Fills n) (due : b.missing ≠ 0) :
    ¬ n ≤ b.bytes.length := by
  rw [Fills] at fills
  omega

/-- A helping goes into the block, and what is left of it stands behind. -/
theorem bytes_take_append_rest (b : Intake) (buffer : Bytes) :
    (b.take buffer).1.bytes ++ (b.take buffer).2 = b.bytes ++ buffer := by
  rw [bytes_take, rest_take, List.append_assoc, List.take_append_drop]

/-- Nothing is left of a helping while the block lacks something. -/
theorem rest_take_eq_nil {b : Intake} {buffer : Bytes} (due : (b.take buffer).1.missing ≠ 0) :
    (b.take buffer).2 = [] := by
  rw [missing_take] at due
  rw [rest_take]
  exact List.drop_of_length_le (by omega)

end Intake

end Sdp

namespace Simulation

/-! ### What a peer takes and hands over -/

/-- What a write fails with if the peer takes no bytes. -/
def Peer.refusal (p : Peer) : Option IoError :=
  match p.script with
  | ⟨.failWrite e, _⟩ :: _ => some e
  | ⟨.refuseWrite, _⟩ :: _ => some ⟨.writeZero, none⟩
  | _ => none

/-- A write that is refused ends a question. -/
theorem Peer.write_of_refusal {p : Peer} {e : IoError} (refuses : p.refusal = some e)
    (bytes : Bytes) : ∃ r, p.write bytes = ⟨r, p, none⟩ ∧
      ∀ (c : Client) (i : Inquiry) (rest : Bytes), i.stage = .sending rest →
        i.step c r = (c, .done (.error (.io e))) := by
  unfold refusal at refuses
  split at refuses
  · next e' _ _ script =>
    obtain rfl := Option.some.inj refuses
    exact ⟨.failed e', by simp [write, script], fun c i rest stage => by simp [Inquiry.step]⟩
  · next script =>
    obtain rfl := Option.some.inj refuses
    exact ⟨.wrote 0, by simp [write, script], fun c i rest stage => by simp [Inquiry.step, stage]⟩
  · cases refuses

private theorem Peer.write_of_not_refusal {p : Peer} (takes : p.refusal = none) (bytes : Bytes) :
    p.write bytes = ⟨.wrote (p.most bytes.length),
      { p with written := (bytes.take (p.most bytes.length)).reverse ++ p.written }, none⟩ := by
  unfold refusal at takes
  unfold write
  split <;> simp_all

private theorem Peer.most_pos (p : Peer) {n : Nat} (positive : 0 < n) : 0 < p.most n := by
  unfold most
  split <;> omega

/-- A read fails, finds the end of the stream, or takes some of the unread bytes. -/
theorem Peer.read_cases {p : Peer} {r : Peer.Response} (hears : p.read 0 = some r) :
    p.unread = [] ∧ (∃ e, p.failure = some e ∧ r = ⟨.failed e, { p with failure := none }, none⟩) ∨
      p.unread = [] ∧ (p.failure = none ∧ p.hungUp = true ∧ r = ⟨.received [], p, none⟩) ∨
      ∃ bytes rest, bytes ≠ [] ∧ p.unread = bytes ++ rest ∧
        r = ⟨.received bytes, { p with unread := rest }, none⟩ := by
  unfold read at hears
  split at hears
  · cases hears
  · split at hears
    · next empty =>
      rw [List.isEmpty_iff] at empty
      split at hears
      · next e failure => exact .inl ⟨empty, e, failure, (Option.some.inj hears).symm⟩
      · next failure =>
        split at hears
        · next hungUp => exact .inr (.inl ⟨empty, failure, hungUp, (Option.some.inj hears).symm⟩)
        · cases hears
    · next nonempty =>
      rw [List.isEmpty_iff] at nonempty
      rw [List.splitAt_eq] at hears
      refine .inr (.inr ⟨_, _, ?_, (List.take_append_drop (p.most receiveSize) p.unread).symm,
        (Option.some.inj hears).symm⟩)
      have positive := p.most_pos (n := receiveSize) (by decide)
      simp [List.take_eq_nil_iff, positive.ne', nonempty]

/-- Nothing is left where a read waits that does not wait for the time. -/
theorem Peer.nothing_of_deaf {p : Peer} (ready : p.readyAt = 0) (deaf : p.read 0 = none) :
    p.unread = [] ∧ p.failure = none ∧ p.hungUp = false := by
  unfold read at deaf
  simp only [ready, Nat.lt_irrefl, if_false] at deaf
  split at deaf
  · next empty =>
    refine ⟨List.isEmpty_iff.mp empty, ?_⟩
    split at deaf
    · cases deaf
    · next failure => exact ⟨failure, by simpa using deaf⟩
  · cases deaf

namespace Exchange

/-! ### Exchanges without cuts -/

/-- The two ends of a channel when everything the client has not looked at is back on the side of a
peer that neither cuts nor delays it. -/
def level (c : Client) (p : Peer) : Client × Peer :=
  ({ c with buffer := [] }, { p with portion := none, readyAt := 0, unread := c.buffer ++ p.unread })

/-- The exchange that is left when no request has been written in part, and no block has come in in
part. -/
def uncut (x : Exchange) : Exchange :=
  let (c, p) := level x.client x.peer
  match x.inquiry.stage with
  | .sending rest =>
    ⟨c, { x.inquiry with stage := .sending (p.written.reverse ++ rest) }, { p with written := [] }⟩
  | .flushing => ⟨c, x.inquiry, p⟩
  | .header b =>
    ⟨c, { x.inquiry with stage := .header (.ofLength headerLen) },
      { p with unread := b.bytes ++ p.unread }⟩
  | .parameter head b =>
    ⟨c, { x.inquiry with stage := .parameter head (.ofLength head.length) },
      { p with unread := b.bytes ++ p.unread }⟩

/-- The move of an exchange that needs more bytes than there are: they are lost. -/
def starve (x : Exchange) : Move := { x with peer := { x.peer with unread := [] } }.move 0

/-- A move of an exchange without cuts: a whole request, header or parameter. -/
def leap (x : Exchange) : Move :=
  match x.inquiry.stage with
  | .sending _ => x.move 0
  | .flushing =>
    let r := x.peer.flush 0
    match r.reaction with
    | .failed e => .over x.client r.peer (.error (.io e)) r.request
    | _ => .on ⟨x.client, { x.inquiry with stage := .header (.ofLength headerLen) }, r.peer⟩ r.request
  | .header _ =>
    if headerLen ≤ x.peer.unread.length then
      let p := { x.peer with unread := x.peer.unread.drop headerLen }
      match Header.decode (x.peer.unread.take headerLen) with
      | .ok head =>
        .on ⟨x.client, { x.inquiry with stage := .parameter head (.ofLength head.length) }, p⟩ none
      | .error _ => .over x.client p (.error .invalid) none
    else x.starve
  | .parameter head _ =>
    if head.length ≤ x.peer.unread.length then
      let p := { x.peer with unread := x.peer.unread.drop head.length }
      match x.inquiry.respond x.client
          ⟨head.kind, head.transaction, x.peer.unread.take head.length⟩ with
      | (c, .going i) => .on ⟨c, i, p⟩ none
      | (c, .done r) => .over c p r none
    else x.starve

/-- What is left of a question: its result, unless it stalls, and the two ends of the channel. -/
abbrev Remains := Option Result × Client × Peer

/-- The leaps of an exchange lead to its end. What is reported is put in front of `requests`. -/
inductive Ends : Exchange → List Bytes → Remains × List Bytes → Prop
  | leapt {x y : Exchange} {request : Option Bytes} {requests : List Bytes}
      {out : Remains × List Bytes} (leap : x.leap = .on y request)
      (ends : Ends y.uncut (request.toList ++ requests) out) : Ends x requests out
  | answered {x : Exchange} {c : Client} {p : Peer} {r : Result} {request : Option Bytes}
      {requests : List Bytes} (leap : x.leap = .over c p r request) :
      Ends x requests ((some r, level c p), request.toList ++ requests)
  | stalled {x : Exchange} {requests : List Bytes} (leap : x.leap = .wait) :
      Ends x requests ((none, x.client, { x.peer with unread := [] }), requests)

private theorem Ends.unique {x : Exchange} {requests : List Bytes} {out out' : Remains × List Bytes}
    (h : Ends x requests out) (h' : Ends x requests out') : out = out' := by
  induction h with
  | leapt leap ends ih =>
    cases h' with
    | leapt leap' ends' =>
      obtain ⟨rfl, rfl⟩ := Move.on.inj (leap.symm.trans leap')
      exact ih ends'
    | answered leap' => cases leap.symm.trans leap'
    | stalled leap' => cases leap.symm.trans leap'
  | answered leap =>
    cases h' with
    | leapt leap' ends' => cases leap.symm.trans leap'
    | answered leap' =>
      obtain ⟨rfl, rfl, rfl, rfl⟩ := Move.over.inj (leap.symm.trans leap')
      rfl
    | stalled leap' => cases leap.symm.trans leap'
  | stalled leap =>
    cases h' with
    | leapt leap' ends' => cases leap.symm.trans leap'
    | answered leap' => cases leap.symm.trans leap'
    | stalled leap' => rfl

/-! ### What is made of bytes that are there -/

variable {x : Exchange} {c : Client} {i : Inquiry} {p : Peer} {requests : List Bytes}
  {out : Remains × List Bytes}

/-- What a client and the progress of its inquiry lead to. -/
def Goes (p : Peer) (requests : List Bytes) (out : Remains × List Bytes) : Client × Progress → Prop
  | (c, .going i) => Ends (uncut ⟨c, i, p⟩) requests out
  | (c, .done r) => out = ((some r, level c p), requests)

private theorem uncut_level (c : Client) (i : Inquiry) (p : Peer) :
    uncut ⟨(level c p).1, i, (level c p).2⟩ = uncut ⟨c, i, p⟩ := by
  cases i with | mk question transaction collected size stage => cases stage <;> rfl

private theorem uncut_congr {c' : Client} {p' : Peer} (same : level c' p' = level c p)
    (i : Inquiry) : uncut ⟨c', i, p'⟩ = uncut ⟨c, i, p⟩ := by
  rw [← uncut_level, same, uncut_level]

private theorem respond_of_buffer (c : Client) (buffer : Bytes) (i : Inquiry) (u : Pdu) :
    i.respond { c with buffer } u =
      ({ (i.respond c u).1 with buffer }, (i.respond c u).2) := by
  simp only [Inquiry.respond, Inquiry.gather]
  split
  · rfl
  · split
    · split <;> rfl
    · split
      · split
        · rfl
        · split <;> rfl
      · rfl
    · rfl

private theorem goes_level (c : Client) (p : Peer) (progress : Progress) :
    Goes (level c p).2 requests out ((level c p).1, progress) ↔ Goes p requests out (c, progress) := by
  cases progress with
  | going i => simp only [Goes, uncut_level]
  | done r => exact Iff.rfl

/-- A parameter that is there as a whole is taken in by one leap. -/
theorem ends_of_parameter {head : Header} {b : Intake} {front rest : Bytes}
    (stage : x.inquiry.stage = .parameter head b) (whole : front.length = head.length)
    (stream : x.peer.unread = front ++ rest)
    (goes : Goes { x.peer with unread := rest } requests out
      (x.inquiry.respond x.client ⟨head.kind, head.transaction, front⟩)) :
    Ends x requests out := by
  have enough : head.length ≤ x.peer.unread.length := by
    rw [stream, List.length_append]
    omega
  have leap : x.leap =
      match x.inquiry.respond x.client ⟨head.kind, head.transaction, front⟩ with
      | (c, .going i) => .on ⟨c, i, { x.peer with unread := rest }⟩ none
      | (c, .done r) => .over c { x.peer with unread := rest } r none := by
    simp only [Exchange.leap, stage]
    rw [if_pos enough]
    simp only [stream, List.take_left' whole, List.drop_left' whole]
  rcases responds : x.inquiry.respond x.client ⟨head.kind, head.transaction, front⟩
    with ⟨c, i | r⟩
  · rw [responds] at goes leap
    exact .leapt leap goes
  · rw [responds] at goes leap
    obtain rfl := goes
    exact .answered leap

/-- A header that is there as a whole is taken in by one leap. -/
theorem ends_of_header {b : Intake} {front rest : Bytes}
    (stage : x.inquiry.stage = .header b) (whole : front.length = headerLen)
    (stream : x.peer.unread = front ++ rest)
    (goes : Goes { x.peer with unread := rest } requests out
      (x.client, match Header.decode front with
        | .ok head =>
          .going { x.inquiry with stage := .parameter head (.ofLength head.length) }
        | .error _ => .done (.error .invalid))) :
    Ends x requests out := by
  have enough : headerLen ≤ x.peer.unread.length := by
    rw [stream, List.length_append]
    omega
  have leap : x.leap = match Header.decode front with
      | .ok head =>
        .on ⟨x.client, { x.inquiry with stage := .parameter head (.ofLength head.length) },
          { x.peer with unread := rest }⟩ none
      | .error _ => .over x.client { x.peer with unread := rest } (.error .invalid) none := by
    simp only [Exchange.leap, stage]
    rw [if_pos enough]
    simp only [stream, List.take_left' whole, List.drop_left' whole]
  cases decoded : Header.decode front with
  | ok head =>
    rw [decoded] at goes leap
    exact .leapt leap goes
  | error e =>
    rw [decoded] at goes leap
    obtain rfl := goes
    exact .answered leap

private theorem ends_takeParameter {head : Header} {b : Intake} (fills : b.Fills head.length)
    (goes : Goes p requests out (i.takeParameter c head b)) :
    Ends (uncut ⟨c, { i with stage := .parameter head b }, p⟩) requests out := by
  have parts := b.bytes_take_append_rest c.buffer
  unfold Inquiry.takeParameter at goes
  by_cases full : (b.take c.buffer).1.missing = 0
  · simp only [full, if_true] at goes
    have stream : (uncut ⟨c, { i with stage := .parameter head b }, p⟩).peer.unread =
        (b.take c.buffer).1.bytes ++ ((b.take c.buffer).2 ++ p.unread) := by
      simp [uncut, level, ← List.append_assoc, parts]
    refine ends_of_parameter rfl ((fills.take c.buffer).length_bytes full) stream ?_
    rw [respond_of_buffer, ← goes_level] at goes
    have responds := respond_of_buffer c [] i
      ⟨head.kind, head.transaction, (b.take c.buffer).1.bytes⟩
    exact responds.symm ▸ goes
  · simp only [if_neg full] at goes
    have same : uncut ⟨{ c with buffer := (b.take c.buffer).2 },
        { i with stage := .parameter head (b.take c.buffer).1 }, p⟩ =
        uncut ⟨c, { i with stage := .parameter head b }, p⟩ := by
      simp [uncut, level, ← List.append_assoc, parts]
    exact same ▸ goes

private theorem ends_takeHeader {b : Intake} (fills : b.Fills headerLen)
    (goes : Goes p requests out (i.takeHeader c b)) :
    Ends (uncut ⟨c, { i with stage := .header b }, p⟩) requests out := by
  have parts := b.bytes_take_append_rest c.buffer
  unfold Inquiry.takeHeader at goes
  by_cases full : (b.take c.buffer).1.missing = 0
  · simp only [full, if_true] at goes
    have stream : (uncut ⟨c, { i with stage := .header b }, p⟩).peer.unread =
        (b.take c.buffer).1.bytes ++ ((b.take c.buffer).2 ++ p.unread) := by
      simp [uncut, level, ← List.append_assoc, parts]
    refine ends_of_header rfl ((fills.take c.buffer).length_bytes full) stream ?_
    cases decoded : Header.decode (b.take c.buffer).1.bytes with
    | error e =>
      rw [decoded, ← goes_level] at goes
      exact goes
    | ok head =>
      rw [decoded] at goes
      have ends := ends_takeParameter (Intake.fills_ofLength head.length) goes
      exact (uncut_level _ _ _).symm ▸ ends
  · simp only [if_neg full] at goes
    have same : uncut ⟨{ c with buffer := (b.take c.buffer).2 },
        { i with stage := .header (b.take c.buffer).1 }, p⟩ =
        uncut ⟨c, { i with stage := .header b }, p⟩ := by
      simp [uncut, level, ← List.append_assoc, parts]
    exact same ▸ goes

/-! ### Moves -/

/-- What holds of exchanges under way. -/
def Sound (x : Exchange) : Prop :=
  match x.inquiry.stage with
  | .sending rest => rest ≠ [] ∧ (x.peer.refusal ≠ none → x.peer.written = [])
  | .flushing => True
  | .header b =>
    x.peer.written = [] ∧ x.client.buffer = [] ∧ b.missing ≠ 0 ∧ b.Fills headerLen
  | .parameter head b =>
    x.peer.written = [] ∧ x.client.buffer = [] ∧ b.missing ≠ 0 ∧ b.Fills head.length

/-- What holds of a client and the progress of its inquiry after a step. -/
def SoundAfter (p : Peer) : Client × Progress → Prop
  | (c, .going i) => Sound ⟨c, i, p⟩
  | (_, .done _) => p.written = []

private theorem sound_respond (sent : p.written = []) (c : Client) (i : Inquiry) (u : Pdu) :
    SoundAfter p (i.respond c u) := by
  simp only [Inquiry.respond, Inquiry.gather]
  split
  · exact sent
  · split
    · split <;> exact sent
    · split
      · split
        · exact sent
        · split
          · exact sent
          · exact ⟨Pdu.encode_ne_nil _, fun _ => sent⟩
      · exact sent
    · exact sent

private theorem sound_takeParameter {head : Header} {b : Intake} (fills : b.Fills head.length)
    (sent : p.written = []) (c : Client) (i : Inquiry) :
    SoundAfter p (i.takeParameter c head b) := by
  unfold Inquiry.takeParameter
  by_cases full : (b.take c.buffer).1.missing = 0
  · simp only [full, if_true]
    exact sound_respond sent _ _ _
  · simp only [if_neg full]
    exact ⟨sent, Intake.rest_take_eq_nil full, full, fills.take _⟩

private theorem sound_takeHeader {b : Intake} (fills : b.Fills headerLen) (sent : p.written = [])
    (c : Client) (i : Inquiry) : SoundAfter p (i.takeHeader c b) := by
  unfold Inquiry.takeHeader
  by_cases full : (b.take c.buffer).1.missing = 0
  · simp only [full, if_true]
    split
    · exact sound_takeParameter (Intake.fills_ofLength _) sent _ _
    · exact sent
  · simp only [if_neg full]
    exact ⟨sent, Intake.rest_take_eq_nil full, full, fills.take _⟩

/-- What the channel did is not seen, or made of leaps. -/
structure Leads (x : Exchange) (r : Peer.Response) : Prop where
  sound : SoundAfter r.peer (x.inquiry.step x.client r.reaction)
  ends : ∀ requests out,
    Goes r.peer (r.request.toList ++ requests) out (x.inquiry.step x.client r.reaction) →
      Ends x.uncut requests out

/-- A question ends when the channel fails, and the leap that sees it fails too. -/
theorem leads_of_error {r : Peer.Response} {e : QueryError} {c' : Client} {p' : Peer}
    (ended : x.inquiry.step x.client r.reaction = (x.client, .done (.error e)))
    (sent : r.peer.written = []) (leap : x.uncut.leap = .over c' p' (.error e) r.request)
    (same : level c' p' = level x.client r.peer) : x.Leads r := by
  refine ⟨by rw [ended]; exact sent, fun requests out goes => ?_⟩
  rw [ended, Goes, ← same] at goes
  obtain rfl := goes
  exact .answered leap

private theorem uncut_of_sending {rest : Bytes} (stage : x.inquiry.stage = .sending rest) :
    x.uncut = ⟨(level x.client x.peer).1,
      { x.inquiry with stage := .sending (x.peer.written.reverse ++ rest) },
      { (level x.client x.peer).2 with written := [] }⟩ := by
  simp only [uncut, stage]
  rfl

/-- A write that is refused ends the exchange. -/
theorem leap_of_refusal {rest : Bytes} {e : IoError} (stage : x.inquiry.stage = .sending rest)
    (refuses : x.peer.refusal = some e) : x.leap = .over x.client x.peer (.error (.io e)) none := by
  obtain ⟨r, wrote, ends⟩ := Peer.write_of_refusal refuses rest
  simp only [leap, move, Inquiry.need, stage, Peer.attempt, wrote, ends _ _ _ stage]

/-- A peer that takes everything at once is left with a request to send off. -/
theorem leap_of_write {rest : Bytes} (stage : x.inquiry.stage = .sending rest) (due : rest ≠ [])
    (takes : x.peer.refusal = none) (all : x.peer.portion = none) :
    x.leap = .on ⟨x.client, { x.inquiry with stage := .flushing },
      { x.peer with written := rest.reverse ++ x.peer.written }⟩ none := by
  have most : x.peer.most rest.length = rest.length := by simp [Peer.most, all]
  simp [leap, move, Inquiry.need, stage, Peer.attempt, Peer.write_of_not_refusal takes, most,
    Inquiry.step, due]

private theorem leads_of_refusal {rest : Bytes} {e : IoError}
    (stage : x.inquiry.stage = .sending rest)
    (refuses : x.peer.refusal = some e) (unsent : x.peer.written = []) :
    x.Leads (x.peer.write rest) := by
  have whole := uncut_of_sending stage
  obtain ⟨r, wrote, ended⟩ := Peer.write_of_refusal refuses rest
  rw [wrote]
  exact leads_of_error (ended _ _ rest stage) unsent
    (leap_of_refusal (by rw [whole]) (by rw [whole]; exact refuses))
    (by simp [whole, level, unsent])

/-- A part of a request that is written is not seen, and the last one completes the request. -/
theorem leads_of_write {rest : Bytes} (stage : x.inquiry.stage = .sending rest) (due : rest ≠ [])
    (takes : x.peer.refusal = none) : x.Leads (x.peer.write rest) := by
  have whole := uncut_of_sending stage
  have positive := x.peer.most_pos (List.length_pos_iff.mpr due)
  rw [Peer.write_of_not_refusal takes]
  generalize x.peer.most rest.length = n at positive
  have wrote : x.inquiry.step x.client (.wrote n) = (x.client, .going
      { x.inquiry with
        stage := if rest.drop n = [] then .flushing else .sending (rest.drop n) }) := by
    simp only [Inquiry.step, stage, positive.ne', if_false, List.isEmpty_iff]
  have parts := List.take_append_drop n rest
  by_cases last : rest.drop n = []
  · rw [last, List.append_nil] at parts
    rw [if_pos last] at wrote
    refine ⟨by rw [wrote]; trivial, fun requests out goes => ?_⟩
    rw [wrote, Goes] at goes
    rw [whole]
    refine .leapt (leap_of_write rfl (by simp [due]) takes rfl) ?_
    simpa [uncut, level, parts] using goes
  · rw [if_neg last] at wrote
    refine ⟨by rw [wrote]; exact ⟨last, fun refused => absurd takes refused⟩,
      fun requests out goes => ?_⟩
    rw [wrote, Goes] at goes
    rw [whole]
    simpa [uncut, level, parts] using goes

private theorem leads_write {rest : Bytes} (stage : x.inquiry.stage = .sending rest)
    (sound : x.Sound) : x.Leads (x.peer.write rest) := by
  simp only [Sound, stage] at sound
  obtain ⟨due, unsent⟩ := sound
  cases refuses : x.peer.refusal with
  | some e => exact leads_of_refusal stage refuses (unsent (by simp [refuses]))
  | none => exact leads_of_write stage due refuses

private theorem written_flush (p : Peer) (now : Nat) : (p.flush now).peer.written = [] := by
  simp only [Peer.flush]
  split
  · rfl
  · split <;> rfl

/-- A request is sent off in the same way when the bytes are put back. -/
theorem flush_level (c : Client) (p : Peer) :
    ((level c p).2.flush 0).reaction = (p.flush 0).reaction ∧
      ((level c p).2.flush 0).request = (p.flush 0).request ∧
      level (level c p).1 ((level c p).2.flush 0).peer = level c (p.flush 0).peer := by
  obtain ⟨script, reports, portion, written, unread, readyAt, failure, hungUp⟩ := p
  rcases script with _ | ⟨⟨reply, delay⟩, script⟩
  · exact ⟨rfl, rfl, rfl⟩
  · cases reply <;> exact ⟨rfl, rfl, by simp [Peer.flush, level]⟩

private theorem leads_flush (stage : x.inquiry.stage = .flushing) : x.Leads (x.peer.flush 0) := by
  obtain ⟨reaction, request, peer⟩ := flush_level x.client x.peer
  have whole : x.uncut = ⟨(level x.client x.peer).1, x.inquiry, (level x.client x.peer).2⟩ := by
    simp only [uncut, stage]
  have sent := written_flush x.peer 0
  rcases reaction_flush x.peer 0 with ⟨e, failed⟩ | flushed
  · exact leads_of_error (e := .io e) (by simp [failed, Inquiry.step]) sent
      (by simp [whole, leap, stage, reaction, failed, request]) peer
  · have begun : x.inquiry.step x.client (x.peer.flush 0).reaction =
        x.inquiry.takeHeader x.client (.ofLength headerLen) := by simp [flushed, Inquiry.step, stage]
    have fills := Intake.fills_ofLength headerLen
    refine ⟨by rw [begun]; exact sound_takeHeader fills sent _ _, fun requests out goes => ?_⟩
    rw [begun] at goes
    have ends := ends_takeHeader fills goes
    rw [← uncut_congr peer, ← request] at ends
    rw [whole]
    refine .leapt ?_ ends
    simp [leap, stage, reaction, flushed]

private theorem Sound.written (sound : x.Sound) (reads : x.inquiry.need = .read) :
    x.peer.written = [] := by
  cases stage : x.inquiry.stage <;> simp_all [Sound, Inquiry.need]

private theorem Sound.buffer (sound : x.Sound) (reads : x.inquiry.need = .read) :
    x.client.buffer = [] := by
  cases stage : x.inquiry.stage <;> simp_all [Sound, Inquiry.need]

/-- The leap of an exchange that lacks something when everything has been handed over. -/
theorem leap_of_starved (reads : x.inquiry.need = .read) (sound : x.Sound)
    (empty : x.peer.unread = []) :
    x.uncut.leap = match x.peer.failure with
      | some e =>
        .over x.client { (level x.client x.peer).2 with failure := none } (.error (.io e)) none
      | none =>
        if x.peer.hungUp then
          .over x.client (level x.client x.peer).2 (.error (.io ⟨.unexpectedEof, none⟩)) none
        else .wait := by
  have buffer := sound.buffer reads
  obtain ⟨⟨transaction, _⟩, ⟨question, number, collected, size, stage⟩,
    ⟨script, reports, portion, written, _, readyAt, failure, hungUp⟩⟩ := x
  obtain rfl := buffer
  obtain rfl := empty
  cases stage with
  | sending rest => cases reads
  | flushing => cases reads
  | header b =>
    obtain ⟨-, -, due, fills⟩ := sound
    have short := fills.not_le due
    cases failure <;> cases hungUp <;>
      simp [uncut, level, leap, starve, short, move, Inquiry.need, Peer.attempt, Peer.read,
        Inquiry.step]
  | parameter head b =>
    obtain ⟨-, -, due, fills⟩ := sound
    have short := fills.not_le due
    cases failure <;> cases hungUp <;>
      simp [uncut, level, leap, starve, short, move, Inquiry.need, Peer.attempt, Peer.read,
        Inquiry.step]

/-- Bytes that come in are put back where they came from. -/
theorem leads_received {bytes rest : Bytes} (reads : x.inquiry.need = .read) (sound : x.Sound)
    (ne_nil : bytes ≠ []) (stream : x.peer.unread = bytes ++ rest) :
    x.Leads ⟨.received bytes, { x.peer with unread := rest }, none⟩ := by
  have sent := sound.written reads
  have same : level { x.client with buffer := x.client.buffer ++ bytes }
      { x.peer with unread := rest } = level x.client x.peer := by
    simp [level, stream]
  obtain ⟨c, ⟨question, number, collected, size, stage⟩, p⟩ := x
  cases stage with
  | sending rest => cases reads
  | flushing => cases reads
  | header b =>
    obtain ⟨-, -, -, fills⟩ := sound
    let i : Inquiry := ⟨question, number, collected, size, .header b⟩
    have begun : i.step c (.received bytes) =
        i.takeHeader { c with buffer := c.buffer ++ bytes } b := by simp [i, Inquiry.step, ne_nil]
    refine ⟨by rw [begun]; exact sound_takeHeader fills sent _ _, fun requests out goes => ?_⟩
    rw [begun] at goes
    exact uncut_congr same i ▸ ends_takeHeader fills goes
  | parameter head b =>
    obtain ⟨-, -, -, fills⟩ := sound
    let i : Inquiry := ⟨question, number, collected, size, .parameter head b⟩
    have begun : i.step c (.received bytes) =
        i.takeParameter { c with buffer := c.buffer ++ bytes } head b := by
      simp [i, Inquiry.step, ne_nil]
    refine ⟨by rw [begun]; exact sound_takeParameter fills sent _ _, fun requests out goes => ?_⟩
    rw [begun] at goes
    exact uncut_congr same i ▸ ends_takeParameter fills goes

private theorem leads_read {r : Peer.Response} (reads : x.inquiry.need = .read) (sound : x.Sound)
    (hears : x.peer.read 0 = some r) : x.Leads r := by
  have sent := sound.written reads
  have buffer := sound.buffer reads
  rcases Peer.read_cases hears with ⟨empty, e, failure, rfl⟩ | ⟨empty, failure, hungUp, rfl⟩ |
    ⟨bytes, rest, nonempty, stream, rfl⟩
  · have leap := leap_of_starved reads sound empty
    rw [failure] at leap
    exact leads_of_error (by simp [Inquiry.step]) sent leap (by simp [level, buffer])
  · have leap := leap_of_starved reads sound empty
    rw [failure, hungUp] at leap
    refine leads_of_error ?_ sent leap (by simp [level, buffer])
    cases stage : x.inquiry.stage <;> simp_all [Inquiry.step, Inquiry.need]
  · exact leads_received reads sound nonempty stream

private theorem ends_of_deaf (reads : x.inquiry.need = .read) (sound : x.Sound)
    (ready : x.peer.readyAt = 0) (deaf : x.peer.read 0 = none) (requests : List Bytes) :
    Ends x.uncut requests ((none, level x.client x.peer), requests) := by
  have buffer := sound.buffer reads
  obtain ⟨empty, failure, hungUp⟩ := Peer.nothing_of_deaf ready deaf
  have leap := leap_of_starved reads sound empty
  rw [failure, hungUp] at leap
  have same : (x.uncut.client, { x.uncut.peer with unread := [] }) = level x.client x.peer := by
    have spent : (level x.client x.peer).2.unread = [] := by simp [level, buffer, empty]
    rw [← spent]
    obtain ⟨c, ⟨question, number, collected, size, stage⟩, p⟩ := x
    cases stage with
    | sending rest => cases reads
    | flushing => cases reads
    | header b => rfl
    | parameter head b => rfl
  rw [← same]
  exact .stalled leap

private theorem leads_attempt (sound : x.Sound) {r : Peer.Response}
    (responds : x.peer.attempt 0 x.inquiry.need = some r) : x.Leads r := by
  cases stage : x.inquiry.stage with
  | sending rest =>
    simp only [Inquiry.need, stage, Peer.attempt] at responds
    exact Option.some.inj responds ▸ leads_write stage sound
  | flushing =>
    simp only [Inquiry.need, stage, Peer.attempt] at responds
    exact Option.some.inj responds ▸ leads_flush stage
  | header b =>
    have reads : x.inquiry.need = .read := by simp only [Inquiry.need, stage]
    exact leads_read reads sound (by rwa [reads] at responds)
  | parameter head b =>
    have reads : x.inquiry.need = .read := by simp only [Inquiry.need, stage]
    exact leads_read reads sound (by rwa [reads] at responds)

/-- A move is not seen in the exchange without cuts, or made of leaps there. -/
def Foretold (x : Exchange) : Move → Prop
  | .on y request => y.Sound ∧
    ∀ requests out, Ends y.uncut (request.toList ++ requests) out → Ends x.uncut requests out
  | .over c p r request => p.written = [] ∧
    ∀ requests, Ends x.uncut requests ((some r, level c p), request.toList ++ requests)
  | .wait => x.inquiry.need = .read ∧ x.peer.read 0 = none

private theorem foretold_move (sound : x.Sound) : x.Foretold (x.move 0) := by
  unfold move
  cases responds : x.peer.attempt 0 x.inquiry.need with
  | none =>
    cases reads : x.inquiry.need with
    | read => exact ⟨reads, by rwa [reads] at responds⟩
    | write bytes => simp [reads, Peer.attempt] at responds
    | flush => simp [reads, Peer.attempt] at responds
  | some r =>
    obtain ⟨sound', ends⟩ := leads_attempt sound responds
    rcases stepped : x.inquiry.step x.client r.reaction with ⟨c, i | result⟩
    · rw [stepped] at sound' ends
      simp only [stepped]
      exact ⟨sound', ends⟩
    · rw [stepped] at sound' ends
      simp only [stepped]
      exact ⟨sound', fun requests => ends requests _ rfl⟩

/-! ### Runs -/

/-- The result of a run that stops, if the question is answered. -/
def Stop.result : Stop → Option Result
  | .waiting _ => none
  | .answered _ _ r => some r

/-- The two ends of the channel where a run stops. -/
def Stop.ends : Stop → Client × Peer
  | .waiting x => (x.client, x.peer)
  | .answered c p _ => (c, p)

private theorem ends_complete (sound : x.Sound) (requests : List Bytes) :
    (x.complete requests).1.ends.2.written = [] ∧
      Ends x.uncut requests (((x.complete requests).1.result,
        level (x.complete requests).1.ends.1 (x.complete requests).1.ends.2),
        (x.complete requests).2) := by
  fun_induction complete x requests with
  | case1 x requests y request moved ih =>
    have move := foretold_move sound
    rw [moved] at move
    obtain ⟨sound', ends⟩ := move
    exact ⟨(ih sound').1, ends _ _ (ih sound').2⟩
  | case2 x requests waits due ih =>
    -- The time of the peer is not part of the exchange without cuts.
    exact ih sound
  | case3 x requests waits ready =>
    have move := foretold_move sound
    rw [waits] at move
    obtain ⟨reads, deaf⟩ := move
    exact ⟨sound.written reads, ends_of_deaf reads sound (by omega) deaf requests⟩
  | case4 x requests c p r request ended =>
    have move := foretold_move sound
    rw [ended] at move
    obtain ⟨sent, ends⟩ := move
    exact ⟨sent, ends requests⟩

private theorem converse_cons (c : Client) (p : Peer) (q : Question) (rest : List Question) :
    converse c p (q :: rest) =
      ⟨((start c p q).complete []).1.result, ((start c p q).complete []).2.reverse⟩ ::
        converse ((start c p q).complete []).1.ends.1 ((start c p q).complete []).1.ends.2 rest := by
  rw [converse]
  split <;> simp_all [Stop.result, Stop.ends]

private theorem sound_start (sent : p.written = []) (c : Client) (q : Question) :
    (start c p q).Sound :=
  ⟨Pdu.encode_ne_nil _, fun _ => sent⟩

private theorem uncut_start_level (c : Client) (p : Peer) (q : Question) :
    uncut (start (level c p).1 (level c p).2 q) = uncut (start c p q) := rfl

/-- The ends of a channel determine what comes of questions up to where the bytes are that have not
been looked at. -/
theorem converse_congr (questions : List Question) {c c' : Client} {p p' : Peer}
    (same : level c p = level c' p') (sent : p.written = []) :
    converse c p questions = converse c' p' questions := by
  induction questions generalizing c c' p p' with
  | nil => rfl
  | cons q rest ih =>
    have sent' : p'.written = [] := (congrArg (·.2.written) same).symm.trans sent
    obtain ⟨left, ends⟩ := ends_complete (sound_start sent c q) []
    obtain ⟨-, ends'⟩ := ends_complete (sound_start sent' c' q) []
    rw [← uncut_start_level, ← same, uncut_start_level] at ends'
    have remains := ends.unique ends'
    rw [Prod.mk.injEq, Prod.mk.injEq] at remains
    obtain ⟨⟨result, level⟩, requests⟩ := remains
    rw [converse_cons, converse_cons, result, requests, ih level left]

/-- What comes of questions does not depend on how the channel cuts the bytes. Whatever the peer's
script is and whatever is asked over one client, the results and the requests are the same for any two
bounds on the bytes that are taken or handed over at once; among the results are those of questions
that fail and of questions that stall half-way and are given up. The requests are compared for scripts
of any length when `reports` holds. -/
theorem converse_portion (c : Client) (script : List Turn) (reports : Bool) (m n : Option Nat)
    (questions : List Question) :
    converse c { Peer.start script m with reports } questions =
      converse c { Peer.start script n with reports } questions :=
  converse_congr questions rfl rfl

end Exchange

end Simulation

end A2dpSink
