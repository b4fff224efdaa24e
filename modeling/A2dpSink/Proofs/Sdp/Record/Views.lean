import A2dpSink.Sdp.Record
import Mathlib

/-!
# What the views of elements recognise

Records are read through views that give nothing for an element of another form. Here each view is
followed by the elements that it recognises, and what is found among the members of an attribute by
where it stands there.
-/

namespace A2dpSink.Sdp

namespace Element

/-! ### Numbers, UUIDs and lists -/

/-- Unsigned integers of at most 64 bits tell numbers. -/
inductive Tells : Element → Nat → Prop
  | unsigned {w : Width} (narrow : w ≠ .w128) (v : BitVec w.bits) : Tells (.unsigned w v) v.toNat

/-- The numbers that elements give are those they tell. -/
theorem toNat?_eq_some_iff {e : Element} {n : Nat} : e.toNat? = some n ↔ e.Tells n := by
  constructor
  · intro h
    cases e with
    | unsigned w v =>
      cases w with
      | w128 => cases h
      | _ =>
        cases h
        exact .unsigned (by decide) v
    | _ => cases h
  · rintro ⟨narrow, v⟩
    rename_i w
    cases w with
    | w128 => exact absurd rfl narrow
    | _ => rfl

/-- What tells a number is no UUID. -/
theorem Tells.toUuid?_eq_none {e : Element} {n : Nat} (h : e.Tells n) : e.toUuid? = none := by
  cases h
  rfl

/-- What tells a number is no list. -/
theorem Tells.members?_eq_none {e : Element} {n : Nat} (h : e.Tells n) : e.members? = none := by
  cases h
  rfl

/-- An element tells one number. -/
theorem Tells.unique {e : Element} {m n : Nat} (h : e.Tells m) (h' : e.Tells n) : m = n :=
  Option.some.inj ((toNat?_eq_some_iff.mpr h).symm.trans (toNat?_eq_some_iff.mpr h'))

/-- A number of 16 bits may be told by an integer of any of the four widths. -/
theorem toU16?_eq_some_iff {e : Element} {n : BitVec 16} : e.toU16? = some n ↔ e.Tells n.toNat := by
  rw [toU16?, Option.bind_eq_some_iff]
  constructor
  · rintro ⟨m, told, h⟩
    split at h
    · next small =>
      cases h
      rw [BitVec.toNat_ofNat, Nat.mod_eq_of_lt small]
      exact toNat?_eq_some_iff.mp told
    · cases h
  · intro told
    refine ⟨n.toNat, toNat?_eq_some_iff.mpr told, ?_⟩
    rw [if_pos n.isLt, BitVec.ofNat_toNat, BitVec.setWidth_eq]

/-- Only UUIDs give UUIDs. -/
theorem toUuid?_eq_some_iff {e : Element} {u : Uuid} : e.toUuid? = some u ↔ e = .uuid u := by
  cases e <;> simp [toUuid?]

/-- Only lists have members. -/
theorem members?_eq_some_iff {e : Element} {ms : List Element} :
    e.members? = some ms ↔ ∃ kind, e = .list kind ms := by
  cases e <;> simp [members?]

/-! ### Entries of attributes -/

/-- An entry of a protocol stack is a list of either kind that starts with a UUID. -/
def IsProtocol (e : Element) (entry : ProtocolEntry) : Prop :=
  ∃ kind, e = .list kind (.uuid entry.protocol :: entry.parameters)

/-- A profile is a list of either kind that starts with a UUID and a number of 16 bits. -/
def IsProfile (e : Element) (entry : ProfileEntry) : Prop :=
  ∃ kind version others, e = .list kind (.uuid entry.profile :: version :: others) ∧
    version.Tells entry.version.toNat

end Element

/-- The entries of a protocol that elements give are those they are. -/
theorem ProtocolEntry.ofElement?_eq_some_iff {e : Element} {entry : ProtocolEntry} :
    ofElement? e = some entry ↔ e.IsProtocol entry := by
  constructor
  · intro h
    unfold ofElement? at h
    split at h
    · next first parameters listed =>
      obtain ⟨kind, rfl⟩ := Element.members?_eq_some_iff.mp listed
      obtain ⟨u, named, rfl⟩ := Option.map_eq_some_iff.mp h
      rw [Element.toUuid?_eq_some_iff.mp named]
      exact ⟨kind, rfl⟩
    · cases h
  · rintro ⟨kind, rfl⟩
    rfl

/-- The entries of a profile that elements give are those they are. -/
theorem ProfileEntry.ofElement?_eq_some_iff {e : Element} {entry : ProfileEntry} :
    ofElement? e = some entry ↔ e.IsProfile entry := by
  constructor
  · intro h
    unfold ofElement? at h
    split at h
    · next first version others listed =>
      obtain ⟨kind, rfl⟩ := Element.members?_eq_some_iff.mp listed
      obtain ⟨u, named, h⟩ := Option.bind_eq_some_iff.mp h
      obtain ⟨n, told, rfl⟩ := Option.map_eq_some_iff.mp h
      rw [Element.toUuid?_eq_some_iff.mp named]
      exact ⟨kind, version, others, rfl, Element.toU16?_eq_some_iff.mp told⟩
    · cases h
  · rintro ⟨kind, version, others, rfl, told⟩
    have read := Element.toU16?_eq_some_iff.mpr told
    simp [ofElement?, Element.members?, Element.toUuid?, read]

namespace Record

/-- What an attribute lists is read from the members that parse. -/
theorem mem_listOf {α : Type} {parse : Element → Option α} {value : Option Element} {x : α} :
    x ∈ listOf parse value ↔
      ∃ kind ms, value = some (.list kind ms) ∧ ∃ e ∈ ms, parse e = some x := by
  unfold listOf
  split
  · next ms listed =>
    obtain ⟨e, rfl, listed⟩ := Option.bind_eq_some_iff.mp listed
    obtain ⟨kind, rfl⟩ := Element.members?_eq_some_iff.mp listed
    rw [List.mem_filterMap]
    constructor
    · exact fun there => ⟨kind, ms, rfl, there⟩
    · rintro ⟨_, _, same, there⟩
      cases same
      exact there
  · next other =>
    constructor
    · intro there
      cases there
    · rintro ⟨kind, ms, rfl, -⟩
      cases other

/-- The first entry with a property stands behind elements that do not parse or lack it. -/
theorem find?_filterMap_eq_some_iff {α : Type} {parse : Element → Option α} {p : α → Bool}
    {ms : List Element} {x : α} :
    (ms.filterMap parse).find? p = some x ↔
      ∃ before e after, ms = before ++ e :: after ∧ parse e = some x ∧ p x = true ∧
        ∀ e' ∈ before, ∀ y, parse e' = some y → p y = false := by
  rw [List.find?_filterMap, Option.bind_eq_some_iff]
  constructor
  · rintro ⟨e, found, read⟩
    obtain ⟨holds, before, after, rfl, failing⟩ := List.find?_eq_some_iff_append.mp found
    rw [read, Option.any_some] at holds
    refine ⟨before, e, after, rfl, read, holds, ?_⟩
    intro e' there y read'
    simpa [read'] using failing e' there
  · rintro ⟨before, e, after, rfl, read, holds, failing⟩
    refine ⟨e, List.find?_eq_some_iff_append.mpr ⟨?_, before, after, rfl, ?_⟩, read⟩
    · rw [read, Option.any_some, holds]
    · intro e' there
      cases read' : parse e' with
      | none => rfl
      | some y => simp [failing e' there y read']

end Record

end A2dpSink.Sdp
