import A2dpSink.Proofs.Simulation.Conversation
import A2dpSink.Simulation.Network

/-!
# What a network carries

A network lets the client and the server of a link run as far as the pipes between them allow. All
they do is steps of a conversation, with pipes that hold `Pipe.capacity` bytes each, so that what
holds of every conversation holds of what is said on a link (`exists_run_of_talks`).
-/

namespace A2dpSink

/-! ### Nobody writes or reads nothing -/

namespace Sdp.Inquiry

/-- A client that writes has something to write. -/
def Lively (i : Inquiry) : Prop := ∀ bytes, i.need = .write bytes → bytes ≠ []

variable {c : Client} {i i' : Inquiry}

private theorem lively_of_read (reads : i.need = .read) : i.Lively := by
  intro bytes write
  cases reads.symm.trans write

private theorem lively_ask (c : Client) (i : Inquiry) (continuation : Bytes) :
    (i.ask c continuation).2.Lively := by
  rintro bytes write
  cases write
  exact Pdu.encode_ne_nil _

private theorem lively_gather {f : Fragment} (going : (i.gather c f).2 = .going i') :
    i'.Lively := by
  simp only [gather] at going
  split at going
  · cases going
  · split at going
    · cases going
    · cases going
      exact lively_ask _ _ _

private theorem lively_respond {p : Pdu} (going : (i.respond c p).2 = .going i') : i'.Lively := by
  unfold respond at going
  split at going
  · cases going
  · split at going
    · split at going <;> cases going
    · split at going
      · exact lively_gather going
      · cases going
    · cases going

private theorem lively_takeParameter {head : Header} {block : Intake}
    (going : (i.takeParameter c head block).2 = .going i') : i'.Lively := by
  simp only [takeParameter] at going
  split at going
  · exact lively_respond going
  · cases going
    exact lively_of_read rfl

private theorem lively_takeHeader {block : Intake} (going : (i.takeHeader c block).2 = .going i') :
    i'.Lively := by
  simp only [takeHeader] at going
  split at going
  · split at going
    · exact lively_takeParameter going
    · cases going
  · cases going
    exact lively_of_read rfl

/-- A client that goes on has something to write when it writes. -/
theorem Lively.step {r : Reaction} (h : i.Lively) (going : (i.step c r).2 = .going i') :
    i'.Lively := by
  unfold Inquiry.step at going
  split at going
  · cases going
  · next rest n _ =>
    split at going
    · cases going
    · cases going
      by_cases empty : (rest.drop n).isEmpty = true
      · rw [if_pos empty]
        rintro bytes write
        cases write
      · rw [if_neg empty]
        rintro bytes write
        cases write
        simpa using empty
  · exact lively_takeHeader going
  · split at going
    · cases going
    · exact lively_takeHeader going
  · split at going
    · cases going
    · exact lively_takeParameter going
  · cases going
    exact h

end Sdp.Inquiry

namespace Simulation

open Sdp

namespace Server

/-- A server that writes has something to write, and one that reads has room for something. -/
structure Lively (s : Server) : Prop where
  write : ∀ bytes, s.need = .write bytes → bytes ≠ []
  read : ∀ most, s.need = .read most → 0 < most

variable {s : Server}

private theorem lively_of_read {most : Nat} (reads : s.need = .read most) (positive : 0 < most) :
    s.Lively where
  write bytes write := by cases reads.symm.trans write
  read most' same := by
    cases reads.symm.trans same
    exact positive

private theorem lively_of_write {bytes : Bytes} (writes : s.need = .write bytes)
    (ne_nil : bytes ≠ []) : s.Lively where
  write bytes' same := by
    cases writes.symm.trans same
    exact ne_nil
  read most read := by cases writes.symm.trans read

private theorem lively_of_pause {span : Nat} (pauses : s.need = .pause span) : s.Lively where
  write bytes write := by cases pauses.symm.trans write
  read most read := by cases pauses.symm.trans read

private theorem lively_of_gone (gone : s.need = .nothing) : s.Lively where
  write bytes write := by cases gone.symm.trans write
  read most read := by cases gone.symm.trans read

private theorem lively_await : s.await.Lively := lively_of_read rfl (by decide)

private theorem lively_takeParameter (transaction : BitVec 16) (block : Intake) (bytes : Bytes) :
    (s.takeParameter transaction block bytes).1.Lively := by
  simp only [takeParameter]
  split
  · exact lively_of_pause rfl
  · next missing => exact lively_of_read rfl (Nat.pos_of_ne_zero missing)

private theorem encoded_of_respond {conduct : Conduct} {transaction : BitVec 16}
    {parameter bytes : Bytes}
    (h : conduct.respond transaction parameter = .respond bytes) : ∃ p : Pdu, bytes = p.encode := by
  unfold Conduct.respond at h
  split at h
  · cases h
  · cases h
    exact ⟨_, rfl⟩
  · split at h
    · cases h
    · split at h
      · cases h
        exact ⟨_, rfl⟩
      · cases h

/-- A server that goes on has something to write, or room to read. -/
theorem Lively.step (h : s.Lively) (e : Event) : (s.step e).1.Lively := by
  unfold Server.step
  split
  · exact lively_of_gone rfl
  · split
    · exact lively_of_gone rfl
    · dsimp only
      split
      · exact lively_takeParameter _ _ _
      · next missing => exact lively_of_read rfl (Nat.pos_of_ne_zero missing)
  · split
    · exact lively_of_gone rfl
    · exact lively_takeParameter _ _ _
  · split
    · next bytes responds =>
      obtain ⟨p, rfl⟩ := encoded_of_respond responds
      exact lively_of_write rfl (Pdu.encode_ne_nil p)
    · exact lively_await
    · exact lively_of_gone rfl
  · dsimp only
    split
    · exact lively_await
    · next more => exact lively_of_write rfl (by simpa using more)
  · exact h

private theorem step_rested_of_gone (s : Server) (gone : s.need = .nothing) :
    s.step .rested = (s, 0) := by
  cases stage : s.stage with
  | gone => simp only [step, stage]
  | _ => simp [need, stage] at gone

end Server

/-! ### Pipes -/

namespace Pipe

variable {α : Type} (p : Pipe α) (self : α)

/-- What may come of writing some bytes. -/
inductive Written (bytes : Bytes) : Outcome α (Option Nat) → Prop
  | refused : p.closed = true → Written bytes (.ready none p none)
  | waits {p' : Pipe α} : p'.bytes = p.bytes → p'.closed = p.closed → Written bytes (.pending p')
  | wrote {p' : Pipe α} {call : Option α} (n : Nat) : 0 < n → n ≤ bytes.length →
      p.bytes.length + n ≤ capacity → p'.bytes = p.bytes ++ bytes.take n → p'.closed = p.closed →
      Written bytes (.ready (some n) p' call)

/-- What may come of reading. -/
inductive Taken (most : Nat) : Outcome α Bytes → Prop
  | ended : p.closed = true → p.bytes = [] → Taken most (.ready [] p none)
  | waits {p' : Pipe α} : p'.bytes = p.bytes → p'.closed = p.closed → Taken most (.pending p')
  | took {p' : Pipe α} {call : Option α} (n : Nat) : 0 < n → n ≤ most → n ≤ p.bytes.length →
      p'.bytes = p.bytes.drop n → p'.closed = p.closed →
      Taken most (.ready (p.bytes.take n) p' call)

private theorem written_write {bytes : Bytes} (ne_nil : bytes ≠ []) :
    p.Written bytes (p.write bytes self) := by
  have length := List.length_pos_iff.mpr ne_nil
  unfold write
  split
  · next closed => exact .refused closed
  · next unclosed =>
    dsimp only
    split
    · exact .waits rfl rfl
    · next room =>
      have part : (bytes.take (capacity - p.bytes.length)).length =
          min (capacity - p.bytes.length) bytes.length := List.length_take
      refine .wrote _ (by omega) (by omega) (by omega) ?_ rfl
      rw [part, ← List.take_eq_take_min]

private theorem taken_read {most : Nat} (positive : 0 < most) :
    p.Taken most (p.read most self) := by
  unfold read
  split
  · next empty =>
    have nothing : p.bytes = [] := by simpa using empty
    split
    · next closed => exact .ended closed nothing
    · exact .waits rfl rfl
  · next more =>
    have length : 0 < p.bytes.length := by
      rw [List.length_pos_iff]
      simpa using more
    have parts : p.bytes.splitAt most =
        (p.bytes.take (min most p.bytes.length), p.bytes.drop (min most p.bytes.length)) := by
      rw [List.splitAt_eq, ← List.take_eq_take_min, ← List.drop_eq_drop_min]
    rw [parts]
    exact .took _ (by omega) (by omega) (by omega) rfl rfl

end Pipe

/-! ### Clients that run -/

namespace Conversation

variable {self : Agent} {s : Server} {requests : Nat} {up down : Pipe Agent}

/-- A client has run, and has left itself, its question and the pipes as given. -/
structure Ran (d : Conversation) (up down : Pipe Agent)
    (r : Client × Progress × Pipe Agent × Pipe Agent × List Agent) : Prop where
  run : Run Pipe.capacity d
    { d with client := r.1, progress := r.2.1, up := r.2.2.1.bytes, down := r.2.2.2.1.bytes }
  up_closed : r.2.2.1.closed = up.closed
  down_closed : r.2.2.2.1.closed = down.closed
  lively : ∀ i, r.2.1 = .going i → i.Lively

/-- A client that runs takes steps of a conversation. A pipe is closed only when the server is
gone. -/
theorem ran_converse (fuel : Nat) {c : Client} {i : Inquiry} (calls : List Agent)
    (lively : i.Lively) (upward : up.closed = true → s.need = .nothing)
    (downward : down.closed = true → s.need = .nothing) :
    Ran ⟨c, .going i, s, up.bytes, down.bytes, requests⟩ up down
      (Network.converse self c i up down calls fuel) := by
  induction fuel generalizing c i up down calls with
  | zero =>
    rw [Network.converse]
    refine ⟨.refl, rfl, rfl, fun i' same => ?_⟩
    cases same
    exact lively
  | succ fuel ih =>
    have waits : ∀ {up' down' : Pipe Agent}, up'.bytes = up.bytes → up'.closed = up.closed →
        down'.bytes = down.bytes → down'.closed = down.closed →
        Ran ⟨c, .going i, s, up.bytes, down.bytes, requests⟩ up down
          (c, .going i, up', down', calls) := by
      intro up' down' bytes closed bytes' closed'
      refine ⟨?_, closed, closed', fun i' same => ?_⟩
      · rw [bytes, bytes']
      · cases same
        exact lively
    -- After a step the client runs on, or it has a result.
    have goes : ∀ (r : Reaction) {up' down' : Pipe Agent} (calls' : List Agent),
        up'.closed = up.closed → down'.closed = down.closed →
        Step Pipe.capacity ⟨c, .going i, s, up.bytes, down.bytes, requests⟩
          ⟨(i.step c r).1, (i.step c r).2, s, up'.bytes, down'.bytes, requests⟩ →
        Ran ⟨c, .going i, s, up.bytes, down.bytes, requests⟩ up down
          (Network.converse.go self up' down' calls' fuel (i.step c r)) := by
      intro r up' down' calls' closed closed' step
      cases taken : i.step c r with
      | mk c' progress =>
        rw [taken] at step
        cases progress with
        | done result =>
          rw [Network.converse.go]
          exact ⟨.single step, closed, closed', fun i' going => by cases going⟩
        | going i' =>
          have lively' : i'.Lively := lively.step (congrArg Prod.snd taken)
          have ran := ih (c := c') calls' lively' (closed ▸ upward) (closed' ▸ downward)
          rw [Network.converse.go]
          exact ⟨.head step ran.run, ran.up_closed.trans closed, ran.down_closed.trans closed',
            ran.lively⟩
    rw [Network.converse]
    cases need : i.need with
    | flush => exact goes _ _ rfl rfl (.sendOff rfl need)
    | write bytes =>
      have written := up.written_write self (lively bytes need)
      dsimp only
      generalize up.write bytes self = o at written
      cases written with
      | refused closed => exact goes _ _ rfl rfl (.refuse rfl need (upward closed))
      | waits bytes closed => exact waits bytes closed rfl rfl
      | wrote n positive part room bytes closed =>
        have step : Step Pipe.capacity ⟨c, .going i, s, up.bytes, down.bytes, requests⟩ _ :=
          .ask n rfl need positive part room
        exact goes _ _ closed rfl (bytes ▸ step)
    | read =>
      have taken := down.taken_read self (show 0 < receiveSize by decide)
      dsimp only
      generalize down.read receiveSize self = o at taken
      cases taken with
      | ended closed empty => exact goes _ _ rfl rfl (.close rfl need (downward closed) empty)
      | waits bytes closed => exact waits rfl rfl bytes closed
      | took n positive part there bytes closed =>
        have step : Step Pipe.capacity ⟨c, .going i, s, up.bytes, down.bytes, requests⟩ _ :=
          .take n rfl need positive part there
        exact goes _ _ rfl closed (bytes ▸ step)

/-! ### Servers that run -/

/-- The conversation of a server at work, which had received so many requests before. -/
def during (c : Client) (progress : Progress) (before : Nat) (shift : Network.Shift) :
    Conversation where
  client := c
  progress := progress
  server := shift.server
  up := shift.up.bytes
  down := shift.down.bytes
  requests := before + shift.requests

private theorem serve_during (c : Client) (progress : Progress) (before : Nat)
    (shift : Network.Shift) (e : Server.Event) :
    (during c progress before shift).serve e = during c progress before (shift.step e) := by
  simp only [serve, during, Network.Shift.step, Nat.add_assoc]

/-- A server has run, and has left itself and the pipes as given. -/
structure Worked (c : Client) (progress : Progress) (before : Nat) (shift : Network.Shift)
    (r : Network.Shift × Network.Idle) : Prop where
  run : Run Pipe.capacity (during c progress before shift) (during c progress before r.1)
  up_closed : r.1.up.closed = shift.up.closed
  down_closed : r.1.down.closed = shift.down.closed
  lively : r.1.server.Lively
  /-- A server is gone when it is over, and stays so. -/
  gone : r.2 = .over ∨ shift.server.need = .nothing → r.1.server.need = .nothing

/-- A server that runs takes steps of a conversation. A pipe is closed only when it is gone. -/
theorem worked_run (fuel : Nat) {c : Client} {progress : Progress} {before : Nat}
    {shift : Network.Shift} (lively : shift.server.Lively)
    (upward : shift.up.closed = true → shift.server.need = .nothing)
    (downward : shift.down.closed = true → shift.server.need = .nothing) :
    Worked c progress before shift (Network.Shift.run self shift fuel) := by
  induction fuel generalizing shift with
  | zero => exact ⟨.refl, rfl, rfl, lively, fun gone => gone.resolve_left nofun⟩
  | succ fuel ih =>
    have waits : ∀ {up' down' : Pipe Agent} {idle : Network.Idle}, up'.bytes = shift.up.bytes →
        up'.closed = shift.up.closed → down'.bytes = shift.down.bytes →
        down'.closed = shift.down.closed → idle ≠ .over →
        Worked c progress before shift ({ shift with up := up', down := down' }, idle) := by
      intro up' down' idle bytes closed bytes' closed' idles
      refine ⟨?_, closed, closed', lively, fun gone => gone.resolve_left idles⟩
      simp only [during, bytes, bytes']
      exact .refl
    -- The pipes are open while the server has something to do.
    have goes : ∀ (e : Server.Event) {shift' : Network.Shift}, shift.server.need ≠ .nothing →
        shift'.server = shift.server → shift'.up.closed = shift.up.closed →
        shift'.down.closed = shift.down.closed →
        Step Pipe.capacity (during c progress before shift)
          (during c progress before (shift'.step e)) →
        Worked c progress before shift (Network.Shift.run self (shift'.step e) fuel) := by
      intro e shift' busy server closed closed' step
      have lively' : (shift'.step e).server.Lively := by
        rw [← server] at lively
        exact lively.step e
      have worked := ih lively' (fun shut => absurd (upward (closed ▸ shut)) busy)
        (fun shut => absurd (downward (closed' ▸ shut)) busy)
      exact ⟨.head step worked.run, worked.up_closed.trans closed,
        worked.down_closed.trans closed', worked.lively,
        fun gone => worked.gone (.inl (gone.resolve_right busy))⟩
    rw [Network.Shift.run]
    cases need : shift.server.need with
    | nothing => exact ⟨.refl, rfl, rfl, lively, fun _ => need⟩
    | pause span =>
      cases span with
      | zero =>
        have step : Step Pipe.capacity (during c progress before shift) _ := .rest need
        rw [serve_during] at step
        exact goes _ (by rw [need]; nofun) rfl rfl rfl step
      | succ span => exact waits rfl rfl rfl rfl nofun
    | read most =>
      have taken := shift.up.taken_read self (lively.read most need)
      dsimp only
      generalize shift.up.read most self = o at taken
      cases taken with
      | ended closed => cases need.symm.trans (upward closed)
      | waits bytes closed => exact waits bytes closed rfl rfl nofun
      | @took p' call n positive part there bytes closed =>
        have step : Step Pipe.capacity (during c progress before shift) _ :=
          .hear n need positive part there
        refine goes _ (by rw [need]; nofun) rfl closed rfl ?_
        rw [← serve_during]
        simpa only [during, bytes] using step
    | write bytes =>
      have written := shift.down.written_write self (lively.write bytes need)
      dsimp only
      generalize shift.down.write bytes self = o at written
      cases written with
      | refused closed => cases need.symm.trans (downward closed)
      | waits bytes closed => exact waits rfl rfl bytes closed nofun
      | @wrote p' call n positive part room bytes closed =>
        have step : Step Pipe.capacity (during c progress before shift) _ :=
          .say n need positive part room
        refine goes _ (by rw [need]; nofun) rfl rfl closed ?_
        rw [← serve_during]
        simpa only [during, bytes] using step

end Conversation

/-! ### Links of a network -/

namespace Network

open Conversation (Run Ran Worked)

variable {n n' : Network} {id : LinkId} {station before now : Nat} {d : Conversation}
  {i : Inquiry} {p : Progress} {self : Agent} {rested : Bool}

/-- What is said on a link, with a client that has got so far, is a conversation. The server has its
place in the network, and the network had received so many requests before. -/
structure Carries (n : Network) (id : LinkId) (station before : Nat) (d : Conversation) : Prop where
  link : ∃ l up down, n.links[id]? = some l ∧ l.wire = .pipes up down ∧ l.client = d.client ∧
    up.bytes = d.up ∧ down.bytes = d.down ∧ (up.closed = true → d.server.need = .nothing) ∧
    (down.closed = true → d.server.need = .nothing)
  station : n.stations[station]? = some ⟨d.server, id⟩
  requests : n.requests = before + d.requests
  client : ∀ i, d.progress = .going i → i.Lively
  server : d.server.Lively

private theorem advance_of_pipes {l : Link} {up down : Pipe Agent} (there : n.links[id]? = some l)
    (wire : l.wire = .pipes up down) :
    let r := converse self l.client i up down [] stepLimit
    n.advance now self id i =
      ⟨n.setLink id { l with client := r.1, wire := .pipes r.2.2.1 r.2.2.2.1 }, r.2.1, [],
        r.2.2.2.2, none⟩ := by
  simp only [advance, there, wire]

/-- A client that gets its turn takes steps of the conversation. -/
theorem Carries.advance (h : n.Carries id station before d) (going : d.progress = .going i)
    (now : Nat) (self : Agent) :
    ∃ e, Run Pipe.capacity d e ∧ e.progress = (n.advance now self id i).progress ∧
      (n.advance now self id i).network.Carries id station before e := by
  obtain ⟨l, up, down, there, wire, client, bytes, bytes', upward, downward⟩ := h.link
  obtain ⟨c, progress, s, above, below, requests⟩ := d
  obtain rfl : progress = .going i := going
  obtain rfl : l.client = c := client
  obtain rfl : up.bytes = above := bytes
  obtain rfl : down.bytes = below := bytes'
  have ran : Ran ⟨l.client, .going i, s, up.bytes, down.bytes, requests⟩ up down
      (converse self l.client i up down [] stepLimit) :=
    Conversation.ran_converse stepLimit [] (h.client i rfl) upward downward
  have less := (List.getElem?_eq_some_iff.mp there).1
  rw [advance_of_pipes there wire]
  refine ⟨_, ran.run, rfl, ?_, h.station, h.requests, ran.lively, h.server⟩
  refine ⟨_, _, _, List.getElem?_set_self less, rfl, rfl, rfl, rfl, ?_, ?_⟩
  · rw [ran.up_closed]
    exact upward
  · rw [ran.down_closed]
    exact downward

/-- A pause that is over is a step of the conversation, or there was none. -/
theorem run_rested (d : Conversation) :
    Run Pipe.capacity d { d with server := (d.server.step .rested).1 } := by
  cases stage : d.server.stage with
  | pausing transaction parameter =>
    have step : Conversation.Step Pipe.capacity d (d.serve .rested) :=
      .rest (show d.server.need = .pause d.server.conduct.delay by rw [Server.need, stage])
    have none_new : (d.server.step .rested).2 = 0 := by
      simp only [Server.step, stage]
      split <;> rfl
    rw [Conversation.serve, none_new] at step
    exact .single step
  | _ =>
    have same : d.server.step .rested = (d.server, 0) := by simp only [Server.step, stage]
    rw [same]

/-- A server that gets its turn takes steps of the conversation. -/
theorem Carries.serve (h : n.Carries id station before d) (rested : Bool) :
    ∃ e, Run Pipe.capacity d e ∧ e.progress = d.progress ∧
      (n.serve station rested).1.Carries id station before e := by
  obtain ⟨l, up, down, there, wire, client, bytes, bytes', upward, downward⟩ := h.link
  obtain ⟨c, progress, s, above, below, requests⟩ := d
  obtain rfl : l.client = c := client
  obtain rfl : up.bytes = above := bytes
  obtain rfl : down.bytes = below := bytes'
  have less := (List.getElem?_eq_some_iff.mp there).1
  have less' := (List.getElem?_eq_some_iff.mp h.station).1
  generalize awake : (if rested then (s.step .rested).1 else s) = s'
  have rest : Run Pipe.capacity ⟨l.client, progress, s, up.bytes, down.bytes, requests⟩
      ⟨l.client, progress, s', up.bytes, down.bytes, requests⟩ := by
    rw [← awake]
    split
    · exact run_rested _
    · exact .refl
  have lively : s'.Lively := by
    rw [← awake]
    split
    · exact h.server.step .rested
    · exact h.server
  have still : s.need = .nothing → s'.need = .nothing := by
    intro gone
    rw [← awake]
    split
    · rw [s.step_rested_of_gone gone]
      exact gone
    · exact gone
  have worked : Worked l.client progress requests ⟨s', up, down, 0, []⟩
      (Shift.run (.server station) ⟨s', up, down, 0, []⟩ stepLimit) :=
    Conversation.worked_run stepLimit lively (fun shut => still (upward shut))
      (fun shut => still (downward shut))
  unfold Network.serve
  simp only [h.station, there, wire, awake]
  generalize Shift.run (.server station) ⟨s', up, down, 0, []⟩ stepLimit = r at worked
  obtain ⟨shift, idle⟩ := r
  have carries : ∀ {up' down' : Pipe Agent}, up'.bytes = shift.up.bytes →
      down'.bytes = shift.down.bytes → (up'.closed = true → shift.server.need = .nothing) →
      (down'.closed = true → shift.server.need = .nothing) →
      Carries
        { n.setLink id { l with wire := .pipes up' down' } with
          stations := n.stations.set station ⟨shift.server, id⟩
          requests := n.requests + shift.requests } id station before
        (Conversation.during l.client progress requests shift) := by
    intro up' down' bytes bytes' upward' downward'
    refine ⟨⟨_, up', down', List.getElem?_set_self less, rfl, rfl, bytes, bytes', upward',
      downward'⟩, List.getElem?_set_self less', ?_, h.client, worked.lively⟩
    rw [h.requests, Nat.add_assoc]
    rfl
  refine ⟨_, rest.trans worked.run, rfl, ?_⟩
  by_cases ended : idle = .over
  · -- A server that is over lets go of its pipes.
    subst ended
    exact carries rfl rfl (fun _ => worked.gone (.inl rfl)) (fun _ => worked.gone (.inl rfl))
  · have kept : shift.up.closed = true → shift.server.need = .nothing := fun shut =>
      worked.gone (.inr (still (upward (worked.up_closed.symm.trans shut))))
    have kept' : shift.down.closed = true → shift.server.need = .nothing := fun shut =>
      worked.gone (.inr (still (downward (worked.down_closed.symm.trans shut))))
    cases idle with
    | client => exact carries rfl rfl kept kept'
    | pause span => exact carries rfl rfl kept kept'
    | _ => exact absurd rfl ended

/-- What may become of a network and of a query on a link while the client and the server of the
link get their turns. -/
inductive Talks (id : LinkId) (station : Nat) (n : Network) (p : Progress) :
    Network → Progress → Prop
  | refl : Talks id station n p n p
  | advance {n' : Network} {i : Inquiry} (now : Nat) (self : Agent) :
      Talks id station n p n' (.going i) →
      Talks id station n p (n'.advance now self id i).network (n'.advance now self id i).progress
  | serve {n' : Network} {p' : Progress} (rested : Bool) : Talks id station n p n' p' →
      Talks id station n p (n'.serve station rested).1 p'

/-- Whatever is said on a link is a conversation. -/
theorem carried (h : n.Carries id station before d) {p : Progress} {n' : Network}
    (talks : Talks id station n d.progress n' p) :
    ∃ e, Run Pipe.capacity d e ∧ e.progress = p ∧ n'.Carries id station before e := by
  induction talks with
  | refl => exact ⟨d, .refl, rfl, h⟩
  | advance now self _ ih =>
    obtain ⟨e, run, progress, carries⟩ := ih
    obtain ⟨e', run', progress', carries'⟩ := carries.advance progress now self
    exact ⟨e', run.trans run', progress', carries'⟩
  | serve rested _ ih =>
    obtain ⟨e, run, progress, carries⟩ := ih
    obtain ⟨e', run', progress', carries'⟩ := carries.serve rested
    exact ⟨e', run.trans run', progress'.trans progress, carries'⟩

/-- A link to a server that has just been opened carries a conversation as it starts. -/
theorem carries_ask {conduct : Conduct} {refused hanging : List Psm} {adapter : Address}
    (serving : n.connector = .serving conduct refused hanging) (accepted : Sdp.psm ∉ refused)
    (prompt : Sdp.psm ∉ hanging) (now : Nat) (q : Question) :
    let opened := n.connect now adapter Sdp.psm
    let asked := opened.network.ask n.links.length q
    opened.station = some n.stations.length ∧
      opened.course = ⟨.opened (.opened n.links.length), some now⟩ ∧
      (Conversation.start {} q conduct).progress = .going asked.2 ∧
      asked.1.Carries n.links.length n.stations.length n.requests
        (Conversation.start {} q conduct) := by
  intro opened asked
  let link : Link := { psm := Sdp.psm, rule := {}, wire := .pipes {} {} }
  have opens : n.connect now adapter Sdp.psm =
      ⟨{ n with
          attempts := Sdp.psm :: n.attempts
          adapters := adapter :: n.adapters
          links := n.links ++ [link]
          stations := n.stations ++ [⟨{ conduct }, n.links.length⟩] },
        ⟨.opened (.opened n.links.length), some now⟩, some n.stations.length⟩ := by
    simp only [connect, serving, accepted, prompt, if_true, if_false]
    rfl
  have there : opened.network.links[n.links.length]? = some link := by
    simp [opened, opens]
  have asks : asked = (opened.network.setLink n.links.length
      { link with client := (Inquiry.start link.client q).1 }, (Inquiry.start link.client q).2) := by
    simp only [asked, ask, there]
  have less := (List.getElem?_eq_some_iff.mp there).1
  refine ⟨by simp only [opened, opens], by simp only [opened, opens], by rw [asks]; rfl, ?_⟩
  rw [asks]
  constructor
  · exact ⟨_, {}, {}, List.getElem?_set_self less, rfl, rfl, rfl, rfl, nofun, nofun⟩
  · simp [opened, opens, setLink, Conversation.start]
  · simp [opened, opens, setLink, Conversation.start]
  · intro i going
    cases going
    exact Inquiry.lively_ask _ _ _
  · exact Server.lively_await (s := { conduct })

/-- Whatever is said on a link to a server after a first question is a conversation from its
start. -/
theorem exists_run_of_talks {conduct : Conduct} {refused hanging : List Psm} {adapter : Address}
    (serving : n.connector = .serving conduct refused hanging) (accepted : Sdp.psm ∉ refused)
    (prompt : Sdp.psm ∉ hanging) (now : Nat) (q : Question) :
    let asked := (n.connect now adapter Sdp.psm).network.ask n.links.length q
    ∀ {n' : Network} {p : Progress},
      Talks n.links.length n.stations.length asked.1 (.going asked.2) n' p →
      ∃ e, Run Pipe.capacity (Conversation.start {} q conduct) e ∧ e.progress = p ∧
        n'.Carries n.links.length n.stations.length n.requests e := by
  intro asked n' p talks
  obtain ⟨-, -, going, carries⟩ := carries_ask serving accepted prompt now q
  exact carried carries (going ▸ talks)

end Network

end Simulation

end A2dpSink
