import A2dpSink.Proofs.Sdp.Readers
import A2dpSink.Sdp.Client

/-!
# What a reply says

A reply ends a query or gives one more part of the answer. `Ends` and `Gives` say which, in terms of
how the parameter is spelled and without a reader: they are the rules of the protocol. Every reply
does one of the two (`ends_or_gives`), and a client takes it so (`respond_of_ends`,
`respond_of_gives`).
-/

namespace A2dpSink.Sdp

/-! ### Spelling -/

/-- A parameter that starts with an error code. What stands behind the code does not matter. -/
def ErrorCode.Spells (c : ErrorCode) (parameter : Bytes) : Prop :=
  ∃ trailing, parameter = Bytes.ofNat 2 c.code ++ trailing

/-- A parameter that starts with a fragment: the length of its data in two bytes, the data, the
length of its continuation state in one byte, and the state, which has `maxContinuation` bytes at
most. What stands behind them does not matter. -/
structure Fragment.Spells (f : Fragment) (parameter : Bytes) : Prop where
  data_lt : f.data.length < 2 ^ 16
  continuation_le : f.continuation.length ≤ maxContinuation
  spelled : ∃ trailing, parameter = Bytes.ofNat 2 f.data.length ++ (f.data ++
    (UInt8.ofNat f.continuation.length :: (f.continuation ++ trailing)))

private theorem ErrorCode.ofCode?_eq {n : Nat} {c : ErrorCode} (h : ofCode? n = some c) :
    n = c.code := by
  unfold ofCode? at h
  split at h
  all_goals first
    | cases h; simp only [code]; omega
    | cases h

private theorem ErrorCode.decode_of_spells {c : ErrorCode} {parameter : Bytes}
    (h : c.Spells parameter) : ErrorCode.decode parameter = .ok c := by
  obtain ⟨trailing, rfl⟩ := h
  have small : c.code < 2 ^ (8 * 2) := by cases c <;> decide
  have number : (BitVec.ofNat (8 * 2) c.code).toNat = c.code := by
    rw [BitVec.toNat_ofNat, Nat.mod_eq_of_lt small]
  rw [ErrorCode.decode, Read.guardedWord_ofNat small]
  simp only [Except.bind, number, ofCode?_code]

private theorem ErrorCode.spells_of_decode {c : ErrorCode} {parameter : Bytes}
    (h : ErrorCode.decode parameter = .ok c) : c.Spells parameter := by
  unfold ErrorCode.decode at h
  cases read : Read.guardedWord 2 parameter with
  | error fault => simp [read, Except.bind] at h
  | ok pair =>
    obtain ⟨n, trailing⟩ := pair
    simp only [read, Except.bind] at h
    cases named : ofCode? n.toNat with
    | none => simp [named] at h
    | some c' =>
      simp only [named, Except.ok.injEq] at h
      subst h
      refine ⟨trailing, ?_⟩
      rw [Read.guardedWord_ok read, Bytes.ofWord, ofCode?_eq named]

private theorem decodeContinuation_of_spelled {state : Bytes}
    (short : state.length ≤ maxContinuation) (trailing : Bytes) :
    decodeContinuation (UInt8.ofNat state.length :: (state ++ trailing)) = .ok state := by
  have number : (UInt8.ofNat state.length).toBitVec.toNat = state.length := by
    rw [maxContinuation] at short
    simp
    omega
  rw [decodeContinuation, Read.guardedWord_cons]
  simp only [Except.bind, number, Nat.not_lt.mpr short, if_false, Read.ensure_append,
    Read.take_append]
  rfl

private theorem spelled_of_decodeContinuation {bytes state : Bytes}
    (h : decodeContinuation bytes = .ok state) :
    state.length ≤ maxContinuation ∧
      ∃ trailing, bytes = UInt8.ofNat state.length :: (state ++ trailing) := by
  unfold decodeContinuation at h
  cases read : Read.guardedWord 1 bytes with
  | error fault => simp [read, Except.bind] at h
  | ok pair =>
    obtain ⟨n, rest⟩ := pair
    simp only [read, Except.bind] at h
    split at h
    · cases h
    · next short =>
      cases there : Read.ensure n.toNat rest with
      | error fault => simp [there] at h
      | ok u =>
        cases taken : Read.take n.toNat rest with
        | error fault => simp [there, taken, Except.map] at h
        | ok pair =>
          obtain ⟨front, trailing⟩ := pair
          simp only [there, taken, Except.map, Except.ok.injEq] at h
          subst h
          obtain ⟨rfl, length⟩ := Read.take_ok taken
          refine ⟨by omega, trailing, ?_⟩
          rw [Read.guardedWord_ok read, Bytes.ofWord_one, length]
          rfl

private theorem Fragment.decode_of_spells {f : Fragment} {parameter : Bytes}
    (h : f.Spells parameter) : Fragment.decode parameter = .ok f := by
  obtain ⟨small, short, trailing, rfl⟩ := h
  have number : (BitVec.ofNat (8 * 2) f.data.length).toNat = f.data.length := by
    rw [BitVec.toNat_ofNat, Nat.mod_eq_of_lt small]
  rw [Fragment.decode, Read.guardedWord_ofNat small]
  simp only [Except.bind, number, Read.ensure_append, Read.take_append,
    decodeContinuation_of_spelled short]
  rfl

private theorem Fragment.spells_of_decode {f : Fragment} {parameter : Bytes}
    (h : Fragment.decode parameter = .ok f) : f.Spells parameter := by
  unfold Fragment.decode at h
  cases read : Read.guardedWord 2 parameter with
  | error fault => simp [read, Except.bind] at h
  | ok pair =>
    obtain ⟨n, rest⟩ := pair
    cases there : Read.ensure n.toNat rest with
    | error fault => simp [read, there, Except.bind] at h
    | ok u =>
      cases taken : Read.take n.toNat rest with
      | error fault => simp [read, there, taken, Except.bind] at h
      | ok pair =>
        obtain ⟨data, tail⟩ := pair
        cases state : decodeContinuation tail with
        | error fault => simp [read, there, taken, state, Except.bind, Except.map] at h
        | ok continuation =>
          simp only [read, there, taken, state, Except.bind, Except.map,
            Except.ok.injEq] at h
          subst h
          obtain ⟨rfl, length⟩ := Read.take_ok taken
          obtain ⟨short, trailing, rfl⟩ := spelled_of_decodeContinuation state
          refine ⟨by rw [length]; exact n.isLt, short, trailing, ?_⟩
          rw [Read.guardedWord_ok read, Bytes.ofWord, length]

/-! ### Ending and going on -/

/-- A reply to the request with number `t` ends a query that has brought in `size` bytes so far. -/
inductive Ends (q : Question) (t : BitVec 16) (size : Nat) (p : Pdu) : QueryError → Prop
  /-- It belongs to another request. -/
  | stray : p.transaction ≠ t → Ends q t size p .invalid
  /-- The server refuses. -/
  | refused {c : ErrorCode} : p.transaction = t → p.kind = .errorResponse →
      c.Spells p.parameter → Ends q t size p (.remote c)
  /-- The server refuses without saying why, or for no reason there is. -/
  | unclear : p.transaction = t → p.kind = .errorResponse →
      (∀ c : ErrorCode, ¬ c.Spells p.parameter) → Ends q t size p .invalid
  /-- It answers something else. -/
  | unexpected : p.transaction = t → p.kind ≠ .errorResponse →
      p.kind ≠ .searchAttributeResponse → Ends q t size p (.unexpected p.kind)
  /-- It holds no fragment. -/
  | malformed : p.transaction = t → p.kind = .searchAttributeResponse →
      (∀ f : Fragment, ¬ f.Spells p.parameter) → Ends q t size p .invalid
  /-- With it the answer has more bytes than were allowed for. -/
  | excessive {f : Fragment} : p.transaction = t → p.kind = .searchAttributeResponse →
      f.Spells p.parameter → q.limit < size + f.data.length → Ends q t size p .invalid

/-- A reply to the request with number `t` gives a part of the answer to a query that has brought in
`size` bytes so far. -/
structure Gives (q : Question) (t : BitVec 16) (size : Nat) (p : Pdu) (f : Fragment) : Prop where
  transaction : p.transaction = t
  kind : p.kind = .searchAttributeResponse
  spells : f.Spells p.parameter
  size_le : size + f.data.length ≤ q.limit

/-- Every reply ends the query or gives a part of the answer. -/
theorem ends_or_gives (q : Question) (t : BitVec 16) (size : Nat) (p : Pdu) :
    (∃ e, Ends q t size p e) ∨ ∃ f, Gives q t size p f := by
  by_cases own : p.transaction = t
  · by_cases refusal : p.kind = .errorResponse
    · by_cases reason : ∃ c : ErrorCode, c.Spells p.parameter
      · obtain ⟨c, spells⟩ := reason
        exact .inl ⟨_, .refused own refusal spells⟩
      · exact .inl ⟨_, .unclear own refusal fun c spells => reason ⟨c, spells⟩⟩
    · by_cases response : p.kind = .searchAttributeResponse
      · by_cases fragment : ∃ f : Fragment, f.Spells p.parameter
        · obtain ⟨f, spells⟩ := fragment
          by_cases within : size + f.data.length ≤ q.limit
          · exact .inr ⟨f, own, response, spells, within⟩
          · exact .inl ⟨_, .excessive own response spells (Nat.not_le.mp within)⟩
        · exact .inl ⟨_, .malformed own response fun f spells => fragment ⟨f, spells⟩⟩
      · exact .inl ⟨_, .unexpected own refusal response⟩
  · exact .inl ⟨_, .stray own⟩

namespace Inquiry

/-- A reply that ends a query is taken so. -/
theorem respond_of_ends {c : Client} {i : Inquiry} {p : Pdu} {e : QueryError}
    (h : Ends i.question i.transaction i.size p e) : i.respond c p = (c, .done (.error e)) := by
  cases h with
  | stray other => simp [respond, other]
  | refused own kind spells => simp [respond, own, kind, ErrorCode.decode_of_spells spells]
  | unclear own kind no =>
    cases decoded : ErrorCode.decode p.parameter with
    | ok c => exact absurd (ErrorCode.spells_of_decode decoded) (no c)
    | error fault => simp [respond, own, kind, decoded]
  | unexpected own refusal response =>
    -- The last branch of the match, which the other two kinds do not reach.
    simp only [respond, own, ne_eq, not_true, if_false]
  | malformed own kind no =>
    cases decoded : Fragment.decode p.parameter with
    | ok f => exact absurd (Fragment.spells_of_decode decoded) (no f)
    | error fault => simp [respond, own, kind, decoded]
  | excessive own kind spells excess =>
    simp [respond, own, kind, Fragment.decode_of_spells spells, gather, excess]

/-- A reply that gives a part of the answer is taken so: it is the last one if it leaves no
continuation state, and otherwise the state is handed back. -/
theorem respond_of_gives {c : Client} {i : Inquiry} {p : Pdu} {f : Fragment}
    (h : Gives i.question i.transaction i.size p f) :
    i.respond c p =
      let j := { i with collected := f.data :: i.collected, size := i.size + f.data.length }
      if f.continuation = [] then (c, .done j.conclude)
      else ((ask c j f.continuation).1, .going (ask c j f.continuation).2) := by
  obtain ⟨own, kind, spells, within⟩ := h
  simp [respond, own, kind, Fragment.decode_of_spells spells, gather, Nat.not_lt.mpr within,
    List.isEmpty_iff, Prod.map]

end Inquiry

end A2dpSink.Sdp
