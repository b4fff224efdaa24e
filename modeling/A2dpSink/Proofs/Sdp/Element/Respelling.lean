import A2dpSink.Proofs.Sdp.Element.Structure
import A2dpSink.Proofs.Sdp.Record.Views

/-!
# Other spellings of an element

A peer may write a UUID in any width that holds its value, and a number in any of four. Elements that
differ only so, at any depth, look the same through every view: numbers are equal, UUIDs equivalent,
and what has members has members that are spelled differently at most. Entries of protocol stacks and
profiles follow.
-/

namespace A2dpSink.Sdp

namespace Element

/-- Elements that differ at most in how their UUIDs and their numbers of at most 64 bits are
written, at any depth. -/
inductive Respells : Element → Element → Prop
  | same (e : Element) : Respells e e
  | uuid {u v : Uuid} (h : u ≈ v) : Respells (.uuid u) (.uuid v)
  | number {e e' : Element} {n : Nat} (h : e.Tells n) (h' : e'.Tells n) : Respells e e'
  | list {kind : ListKind} {ms ms' : List Element} (h : List.Forall₂ Respells ms ms') :
    Respells (.list kind ms) (.list kind ms')

/-- Lists that are related member by member compose where the relation does. -/
theorem forall₂_trans {α : Type} {R : α → α → Prop} {as bs cs : List α}
    (step : ∀ a ∈ as, ∀ b c, R a b → R b c → R a c) (h : List.Forall₂ R as bs)
    (h' : List.Forall₂ R bs cs) : List.Forall₂ R as cs := by
  induction h generalizing cs with
  | nil => exact h'
  | cons first others ih =>
    cases h' with
    | cons first' others' =>
      refine .cons (step _ List.mem_cons_self _ _ first first') (ih ?_ others')
      exact fun a there => step a (List.mem_cons_of_mem _ there)

private theorem Respells.trans {a b c : Element} (h : Respells a b) (h' : Respells b c) :
    Respells a c := by
  induction a using members_induction generalizing b c with
  | leaf e leaf =>
    cases h with
    | same => exact h'
    | uuid same =>
      cases h' with
      | same => exact .uuid same
      | uuid same' => exact .uuid (Setoid.trans same same')
      | number told => cases told
    | number told told' =>
      cases told' with
      | unsigned narrow v =>
        cases h' with
        | same => exact .number told (.unsigned narrow v)
        | number told₁ told₂ => exact .number told ((told₁.unique (.unsigned narrow v)) ▸ told₂)
    | list members => simp [members?] at leaf
  | node kind ms ih =>
    cases h with
    | same => exact h'
    | number told => cases told
    | list members =>
      cases h' with
      | same => exact .list members
      | number told => cases told
      | list members' =>
        exact .list (forall₂_trans (fun m there _ _ => ih m there) members members')

/-! ### Views -/

/-- Numbers do not depend on the spelling. -/
theorem Respells.toNat?_eq {e e' : Element} (h : Respells e e') : e.toNat? = e'.toNat? := by
  cases h with
  | same => rfl
  | uuid => rfl
  | number told told' => rw [toNat?_eq_some_iff.mpr told, toNat?_eq_some_iff.mpr told']
  | list => rfl

/-- Numbers of 16 bits do not depend on the spelling. -/
theorem Respells.toU16?_eq {e e' : Element} (h : Respells e e') : e.toU16? = e'.toU16? := by
  rw [toU16?, toU16?, h.toNat?_eq]

/-- UUIDs are equivalent in every spelling. -/
theorem Respells.toUuid? {e e' : Element} (h : Respells e e') :
    Option.Rel (· ≈ ·) e.toUuid? e'.toUuid? := by
  cases h with
  | same =>
    cases e.toUuid? with
    | none => exact .none
    | some u => exact .some (Setoid.refl u)
  | uuid same => exact .some same
  | number told told' =>
    rw [told.toUuid?_eq_none, told'.toUuid?_eq_none]
    exact .none
  | list => exact .none

/-- Members of a list are respelled with the list. -/
theorem Respells.members? {e e' : Element} (h : Respells e e') :
    Option.Rel (List.Forall₂ Respells) e.members? e'.members? := by
  cases h with
  | same =>
    cases e.members? with
    | none => exact .none
    | some ms => exact .some (List.forall₂_same.mpr fun m _ => .same m)
  | uuid => exact .none
  | number told told' =>
    rw [told.members?_eq_none, told'.members?_eq_none]
    exact .none
  | list members => exact .some members

end Element

/-! ### Entries -/

/-- Entries of a protocol, with parameters that are spelled differently at most. -/
structure ProtocolEntry.Alike (p q : ProtocolEntry) : Prop where
  protocol : p.protocol ≈ q.protocol
  parameters : List.Forall₂ Element.Respells p.parameters q.parameters

/-- Entries of a profile, with the same version. -/
structure ProfileEntry.Alike (p q : ProfileEntry) : Prop where
  profile : p.profile ≈ q.profile
  version : p.version = q.version

/-- An entry of a protocol is like itself. -/
theorem ProtocolEntry.Alike.refl (p : ProtocolEntry) : p.Alike p :=
  ⟨Setoid.refl _, List.forall₂_same.mpr fun e _ => .same e⟩

/-- Likeness of entries of a protocol carries over. -/
theorem ProtocolEntry.Alike.trans {p q r : ProtocolEntry} (h : p.Alike q) (h' : q.Alike r) :
    p.Alike r :=
  ⟨Setoid.trans h.protocol h'.protocol,
    Element.forall₂_trans (fun _ _ _ _ => Element.Respells.trans) h.parameters h'.parameters⟩

/-- An entry of a profile is like itself. -/
theorem ProfileEntry.Alike.refl (p : ProfileEntry) : p.Alike p := ⟨Setoid.refl _, rfl⟩

/-- Likeness of entries of a profile carries over. -/
theorem ProfileEntry.Alike.trans {p q r : ProfileEntry} (h : p.Alike q) (h' : q.Alike r) :
    p.Alike r :=
  ⟨Setoid.trans h.profile h'.profile, h.version.trans h'.version⟩

/-! ### Entries are recognised in every spelling -/

/-- Searches that are related step by step have related results. -/
theorem rel_bind {α β γ δ : Type} {R : α → β → Prop} {S : γ → δ → Prop} {x : Option α}
    {y : Option β} {f : α → Option γ} {g : β → Option δ} (h : Option.Rel R x y)
    (follows : ∀ a b, R a b → Option.Rel S (f a) (g b)) : Option.Rel S (x.bind f) (y.bind g) := by
  cases h with
  | none => exact .none
  | some related => exact follows _ _ related

/-- Related values lead to the same if everything that follows from related ones does. -/
theorem bind_eq_of_rel {α β γ : Type} {R : α → β → Prop} {x : Option α} {y : Option β}
    {f : α → Option γ} {g : β → Option γ} (h : Option.Rel R x y)
    (follows : ∀ a b, R a b → f a = g b) : x.bind f = y.bind g := by
  cases h with
  | none => rfl
  | some related => exact follows _ _ related

namespace ProtocolEntry

private theorem ofElement?_list_cons (kind : ListKind) (first : Element)
    (parameters : List Element) : ofElement? (.list kind (first :: parameters)) =
      first.toUuid?.bind fun u => some ⟨u, parameters⟩ :=
  Option.map_eq_bind

private theorem ofElement?_of_tells {e : Element} {n : Nat} (h : e.Tells n) :
    ofElement? e = none := by
  rw [ofElement?, h.members?_eq_none]

/-- Respelled elements give like entries of a protocol. -/
theorem ofElement?_respelled {e e' : Element} (h : e.Respells e') :
    Option.Rel Alike (ofElement? e) (ofElement? e') := by
  cases h with
  | same =>
    cases ofElement? e with
    | none => exact .none
    | some p => exact .some (.refl p)
  | uuid => exact .none
  | number told told' =>
    rw [ofElement?_of_tells told, ofElement?_of_tells told']
    exact .none
  | list members =>
    cases members with
    | nil => exact .none
    | cons named others =>
      rw [ofElement?_list_cons, ofElement?_list_cons]
      apply rel_bind named.toUuid?
      exact fun _ _ same => .some ⟨same, others⟩

end ProtocolEntry

namespace ProfileEntry

private theorem ofElement?_list_cons_cons (kind : ListKind) (first second : Element)
    (others : List Element) :
    ofElement? (.list kind (first :: second :: others)) =
      first.toUuid?.bind fun u => second.toU16?.map (⟨u, ·⟩) :=
  rfl

private theorem ofElement?_of_tells {e : Element} {n : Nat} (h : e.Tells n) :
    ofElement? e = none := by
  rw [ofElement?, h.members?_eq_none]

/-- Respelled elements give like entries of a profile. -/
theorem ofElement?_respelled {e e' : Element} (h : e.Respells e') :
    Option.Rel Alike (ofElement? e) (ofElement? e') := by
  cases h with
  | same =>
    cases ofElement? e with
    | none => exact .none
    | some p => exact .some (.refl p)
  | uuid => exact .none
  | number told told' =>
    rw [ofElement?_of_tells told, ofElement?_of_tells told']
    exact .none
  | list members =>
    cases members with
    | nil => exact .none
    | cons named others =>
      cases others with
      | nil => exact .none
      | @cons _ second' _ _ version others =>
        rw [ofElement?_list_cons_cons, ofElement?_list_cons_cons, version.toU16?_eq]
        apply rel_bind named.toUuid?
        intro _ _ same
        cases second'.toU16? with
        | none => exact .none
        | some n => exact .some ⟨same, rfl⟩

end ProfileEntry

end A2dpSink.Sdp
