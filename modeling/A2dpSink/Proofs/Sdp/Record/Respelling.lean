import A2dpSink.AudioService
import A2dpSink.Proofs.Sdp.Element.Respelling
import A2dpSink.Proofs.Sdp.Record.AttributeLists
import A2dpSink.Proofs.Uuid

/-!
# Other spellings of a record

A peer may spell the values of its attributes otherwise, send attributes that nothing is read from,
and list entries that do not parse beside those that do. What is learnt from the record stays the
same through any sequence of such edits (`Record.indistinct_of_edits`): the handle, what is found
among classes, profiles and protocols, and the audio service. Edits that spell nothing otherwise
leave even the entries as they are.
-/

namespace A2dpSink.Sdp

/-! ### Edits -/

/-- A list with one more element, which reads as nothing. -/
def Pads {α : Type} (Reads : Element → α → Prop) (ms ms' : List Element) : Prop :=
  ∃ before odd after, ms = before ++ after ∧ ms' = before ++ odd :: after ∧ ∀ x, ¬ Reads odd x

namespace Attributes

/-- The attributes that records and their services are read from. -/
def interpreted : List AttributeId :=
  [.recordHandle, .classIds, .protocols, .profiles, .supportedFeatures]

/-- The value of an attribute with one more entry, which does not parse as what the attribute lists.
Among several protocol stacks the entry may stand in any. -/
inductive Grows : AttributeId → Element → Element → Prop
  | classes {kind : ListKind} {ms ms' : List Element} (h : Pads (fun e u => e = .uuid u) ms ms') :
    Grows .classIds (.list kind ms) (.list kind ms')
  | profiles {kind : ListKind} {ms ms' : List Element} (h : Pads Element.IsProfile ms ms') :
    Grows .profiles (.list kind ms) (.list kind ms')
  | stack {ms ms' : List Element} (h : Pads Element.IsProtocol ms ms') :
    Grows .protocols (.sequence ms) (.sequence ms')
  | choice {kind : ListKind} {ms ms' front back : List Element}
      (h : Pads Element.IsProtocol ms ms') :
    Grows .protocols (.alternative (front ++ .list kind ms :: back))
      (.alternative (front ++ .list kind ms' :: back))

/-- One more attribute that nothing is read from, or one more entry that does not parse. -/
inductive Padding (a b : Attributes) : Prop
  | add {id : AttributeId} {value : Element} (other : id ∉ interpreted)
      (h : b.get? = Function.update a.get? id (some value)) : Padding a b
  | grow {id : AttributeId} {value value' : Element} (there : a.get? id = some value)
      (grows : Grows id value value') (h : b.get? = Function.update a.get? id (some value')) :
    Padding a b

/-- What a peer may do to its attributes without telling anything else: respell all values, or
pad. -/
inductive Edit (a b : Attributes) : Prop
  | respell (h : ∀ id, Option.Rel Element.Respells (a.get? id) (b.get? id)) : Edit a b
  | pad (h : Padding a b) : Edit a b

/-! ### Edits of what was sent -/

/-- Attributes that are sent behind others are set, whether or not they were there. -/
theorem get?_concat_eq_update (a : Attributes) (id : AttributeId) (value : Element) :
    get? (a ++ [(id, value)]) = Function.update a.get? id (some value) := by
  funext key
  rw [get?_concat, Function.update_apply]
  simp only [eq_comm]

/-- Attributes may be respelled one by one. -/
theorem Edit.pairs {a b : Attributes}
    (h : List.Forall₂ (fun p q => p.1 = q.1 ∧ Element.Respells p.2 q.2) a b) : Edit a b := by
  refine .respell fun id => ?_
  apply List.rel_foldl (P := Option.Rel Element.Respells) ?_ Option.Rel.none h
  rintro found found' same ⟨key, value⟩ ⟨-, value'⟩ ⟨rfl, respelled⟩
  dsimp only
  split
  · exact .some respelled
  · exact same

end Attributes

/-! ### Padding -/

private theorem Pads.filterMap_eq {α : Type} {Reads : Element → α → Prop} {ms ms' : List Element}
    {parse : Element → Option α} (reads : ∀ e x, parse e = some x ↔ Reads e x)
    (h : Pads Reads ms ms') : ms'.filterMap parse = ms.filterMap parse := by
  obtain ⟨before, odd, after, rfl, rfl, unread⟩ := h
  have unparsed : parse odd = none := by
    apply Option.eq_none_iff_forall_ne_some.mpr
    exact fun x read => unread x ((reads odd x).mp read)
  rw [List.filterMap_append, List.filterMap_cons_none unparsed, ← List.filterMap_append]

namespace Attributes

variable {a b : Attributes}

private theorem Grows.classes_eq {value value' : Element} (h : Grows .classIds value value') :
    Record.listOf Element.toUuid? (some value') = Record.listOf Element.toUuid? (some value) := by
  generalize same : AttributeId.classIds = id at h
  cases h with
  | classes pads => exact pads.filterMap_eq fun e u => Element.toUuid?_eq_some_iff
  | _ => exact absurd same (by decide)

private theorem Grows.profiles_eq {value value' : Element} (h : Grows .profiles value value') :
    Record.listOf ProfileEntry.ofElement? (some value') =
      Record.listOf ProfileEntry.ofElement? (some value) := by
  generalize same : AttributeId.profiles = id at h
  cases h with
  | profiles pads => exact pads.filterMap_eq fun e p => ProfileEntry.ofElement?_eq_some_iff
  | _ => exact absurd same (by decide)

private theorem Grows.protocols_eq {value value' : Element} (h : Grows .protocols value value') :
    Record.stackOf (some value') = Record.stackOf (some value) := by
  generalize same : AttributeId.protocols = id at h
  cases h with
  | stack pads => exact pads.filterMap_eq fun e p => ProtocolEntry.ofElement?_eq_some_iff
  | @choice _ _ _ front _ pads =>
    -- only the first stack counts, and the padded one is the first if none stands in front
    cases front with
    | nil => exact pads.filterMap_eq fun e p => ProtocolEntry.ofElement?_eq_some_iff
    | cons => rfl
  | _ => exact absurd same (by decide)

/-- Values do not grow where numbers stand. -/
theorem Grows.ne_number {id : AttributeId} {value value' : Element} (h : Grows id value value') :
    id ≠ .recordHandle ∧ id ≠ .supportedFeatures := by
  cases h <;> decide

-- What is read from an attribute stays when another one is set, or when it is set to a value that
-- reads the same.
private theorem read_update {β : Type} (read : Option Element → β) {id other : AttributeId}
    {value : Element} (h : b.get? = Function.update a.get? id (some value))
    (same : id = other → read (some value) = read (a.get? other)) :
    read (b.get? other) = read (a.get? other) := by
  rw [h, Function.update_apply]
  split
  · next here => exact same here.symm
  · rfl

/-- Padded attributes read the same. -/
structure Unread (a b : Attributes) : Prop where
  record : Record.ofAttributes b = { Record.ofAttributes a with attributes := b }
  features : (b.get? .supportedFeatures).bind (·.toU16?) =
    (a.get? .supportedFeatures).bind (·.toU16?)

private theorem unread_update {id : AttributeId} {value : Element}
    (h : b.get? = Function.update a.get? id (some value))
    (handle : id ≠ .recordHandle) (features : id ≠ .supportedFeatures)
    (classes : id = .classIds → Record.listOf Element.toUuid? (some value) =
      Record.listOf Element.toUuid? (a.get? .classIds))
    (profiles : id = .profiles → Record.listOf ProfileEntry.ofElement? (some value) =
      Record.listOf ProfileEntry.ofElement? (a.get? .profiles))
    (protocols : id = .protocols →
      Record.stackOf (some value) = Record.stackOf (a.get? .protocols)) :
    Unread a b := by
  constructor
  case features => exact read_update (·.bind (·.toU16?)) h fun here => absurd here features
  case record =>
    have handle := read_update (·.bind Record.handleOf?) h fun here => absurd here handle
    have classes := read_update (Record.listOf Element.toUuid?) h classes
    have profiles := read_update (Record.listOf ProfileEntry.ofElement?) h profiles
    have protocols := read_update Record.stackOf h protocols
    simp only [Record.ofAttributes, handle, classes, profiles, protocols]

private theorem Padding.unread (h : Padding a b) : Unread a b := by
  cases h with
  | @add id value other h =>
    have apart : ∀ known ∈ interpreted, id ≠ known := fun known there same => other (same ▸ there)
    apply unread_update h
    · exact apart _ (by decide)
    · exact apart _ (by decide)
    · exact fun here => absurd here (apart _ (by decide))
    · exact fun here => absurd here (apart _ (by decide))
    · exact fun here => absurd here (apart _ (by decide))
  | @grow id value value' there grows h =>
    apply unread_update h grows.ne_number.1 grows.ne_number.2
    all_goals
      rintro rfl
      rw [there]
    · exact grows.classes_eq
    · exact grows.profiles_eq
    · exact grows.protocols_eq

private theorem Unread.trans {c : Attributes} (h : Unread a b) (h' : Unread b c) : Unread a c :=
  ⟨by rw [h'.record, h.record], h'.features.trans h.features⟩

private theorem unread_of_paddings (h : Relation.ReflTransGen Padding a b) : Unread a b := by
  induction h with
  | refl => exact ⟨rfl, rfl⟩
  | tail _ last ih => exact ih.trans last.unread

end Attributes

/-! ### Spelling -/

/-- Records with the same contents, apart from spelling. -/
structure Record.Alike (r r' : Record) : Prop where
  handle : r.handle = r'.handle
  classes : List.Forall₂ (· ≈ ·) r.classes r'.classes
  protocols : List.Forall₂ ProtocolEntry.Alike r.protocols r'.protocols
  profiles : List.Forall₂ ProfileEntry.Alike r.profiles r'.profiles
  features : (r.attribute? .supportedFeatures).bind (·.toU16?) =
    (r'.attribute? .supportedFeatures).bind (·.toU16?)

namespace Record

private theorem listOf_respelled {α : Type} {R : α → α → Prop} {parse : Element → Option α}
    (respelled : ∀ e e', Element.Respells e e' → Option.Rel R (parse e) (parse e'))
    {value value' : Option Element} (h : Option.Rel Element.Respells value value') :
    List.Forall₂ R (listOf parse value) (listOf parse value') := by
  have members := rel_bind h fun _ _ => Element.Respells.members?
  unfold listOf
  generalize value.bind (·.members?) = found at members ⊢
  generalize value'.bind (·.members?) = found' at members ⊢
  cases members with
  | none => exact .nil
  | some members => exact List.rel_filterMap (fun e e' => respelled e e') members

/-- Of several stacks the first one is listed. -/
theorem stackOf_alternative (choices : List Element) :
    stackOf (some (.alternative choices)) = listOf ProtocolEntry.ofElement? choices.head? := rfl

private theorem stackOf_sequence (entries : List Element) :
    stackOf (some (.sequence entries)) =
      listOf ProtocolEntry.ofElement? (some (.sequence entries)) := rfl

private theorem stackOf_of_tells {e : Element} {n : Nat} (h : e.Tells n) :
    stackOf (some e) = [] := by
  cases h
  rfl

private theorem head?_rel {α : Type} {R : α → α → Prop} {as bs : List α}
    (h : List.Forall₂ R as bs) : Option.Rel R as.head? bs.head? := by
  cases h with
  | nil => exact .none
  | cons first => exact .some first

private theorem stackOf_respelled {value value' : Option Element}
    (h : Option.Rel Element.Respells value value') :
    List.Forall₂ ProtocolEntry.Alike (stackOf value) (stackOf value') := by
  cases h with
  | none => exact .nil
  | some respelled =>
    cases respelled with
    | same => exact List.forall₂_same.mpr fun p _ => .refl p
    | uuid => exact .nil
    | number told told' =>
      rw [stackOf_of_tells told, stackOf_of_tells told']
      exact .nil
    | @list kind _ _ members =>
      cases kind with
      | sequence =>
        rw [stackOf_sequence, stackOf_sequence]
        apply listOf_respelled fun _ _ => ProtocolEntry.ofElement?_respelled
        exact .some (.list members)
      | alternative =>
        rw [stackOf_alternative, stackOf_alternative]
        apply listOf_respelled fun _ _ => ProtocolEntry.ofElement?_respelled
        exact head?_rel members

private theorem alike_of_respelled {a b : Attributes}
    (h : ∀ id, Option.Rel Element.Respells (a.get? id) (b.get? id)) :
    (ofAttributes a).Alike (ofAttributes b) where
  handle := by
    apply bind_eq_of_rel (h _)
    intro e e' same
    rw [handleOf?, handleOf?, same.toNat?_eq]
  classes := listOf_respelled (fun _ _ => Element.Respells.toUuid?) (h _)
  protocols := stackOf_respelled (h _)
  profiles := listOf_respelled (fun _ _ => ProfileEntry.ofElement?_respelled) (h _)
  features := bind_eq_of_rel (h _) fun _ _ => Element.Respells.toU16?_eq

private theorem alike_of_unread {a b : Attributes} (h : Attributes.Unread a b) :
    (ofAttributes a).Alike (ofAttributes b) where
  handle := by rw [h.record]
  classes := by
    rw [h.record]
    exact List.forall₂_same.mpr fun u _ => Setoid.refl u
  protocols := by
    rw [h.record]
    exact List.forall₂_same.mpr fun p _ => .refl p
  profiles := by
    rw [h.record]
    exact List.forall₂_same.mpr fun p _ => .refl p
  features := h.features.symm

private theorem Alike.trans {r r' r'' : Record} (h : r.Alike r') (h' : r'.Alike r'') :
    r.Alike r'' where
  handle := h.handle.trans h'.handle
  classes := Element.forall₂_trans (fun _ _ _ _ => Setoid.trans) h.classes h'.classes
  protocols :=
    Element.forall₂_trans (fun _ _ _ _ => ProtocolEntry.Alike.trans) h.protocols h'.protocols
  profiles :=
    Element.forall₂_trans (fun _ _ _ _ => ProfileEntry.Alike.trans) h.profiles h'.profiles
  features := h.features.trans h'.features

private theorem alike_of_edit {a b : Attributes} (h : Attributes.Edit a b) :
    (ofAttributes a).Alike (ofAttributes b) := by
  cases h with
  | respell h => exact alike_of_respelled h
  | pad h => exact alike_of_unread h.unread

private theorem alike_of_edits {a b : Attributes} (h : Relation.ReflTransGen Attributes.Edit a b) :
    (ofAttributes a).Alike (ofAttributes b) := by
  induction h with
  | refl => exact alike_of_unread ⟨rfl, rfl⟩
  | tail _ last ih => exact ih.trans (alike_of_edit last)

/-! ### What is learnt -/

variable {r r' : Record}

private theorem find?_rel {α : Type} {R : α → α → Prop} {p : α → Bool} {as bs : List α}
    (agree : ∀ a b, R a b → p a = p b) (h : List.Forall₂ R as bs) :
    Option.Rel R (as.find? p) (bs.find? p) := by
  induction h with
  | nil => exact .none
  | @cons a b _ _ first _ ih =>
    rw [List.find?_cons, List.find?_cons, agree a b first]
    cases p b with
    | true => exact .some first
    | false => exact ih

private theorem isSome_eq_of_rel {α : Type} {R : α → α → Prop} {x y : Option α}
    (h : Option.Rel R x y) : x.isSome = y.isSome := by
  cases h <;> rfl

/-- Equivalent classes are equivalent to the same ones. -/
theorem decide_equiv_congr {u v : Uuid} (same : u ≈ v) (w : Uuid) :
    decide (u ≈ w) = decide (v ≈ w) := by
  apply decide_eq_decide.mpr
  exact ⟨Setoid.trans (Setoid.symm same), Setoid.trans same⟩

private theorem Alike.hasClass_eq (h : r.Alike r') (u : Uuid) : r.hasClass u = r'.hasClass u := by
  rw [hasClass, hasClass, ← List.isSome_find?, ← List.isSome_find?]
  exact isSome_eq_of_rel (find?_rel (fun _ _ same => decide_equiv_congr same u) h.classes)

private theorem Alike.profile? (h : r.Alike r') (u : Uuid) :
    Option.Rel ProfileEntry.Alike (r.profile? u) (r'.profile? u) :=
  find?_rel (fun _ _ same => decide_equiv_congr same.profile u) h.profiles

private theorem Alike.protocol? (h : r.Alike r') (u : Uuid) :
    Option.Rel ProtocolEntry.Alike (r.protocol? u) (r'.protocol? u) :=
  find?_rel (fun _ _ same => decide_equiv_congr same.protocol u) h.protocols

end Record

private theorem ProtocolEntry.Alike.leading?_eq {p q : ProtocolEntry} (h : p.Alike q) :
    p.leading? = q.leading? :=
  bind_eq_of_rel (Record.head?_rel h.parameters) fun _ _ => Element.Respells.toU16?_eq

end A2dpSink.Sdp

namespace A2dpSink.AudioService

open Sdp (Record)

variable {r r' : Record}

private theorem parameter?_alike (h : r.Alike r') (u : Uuid) :
    parameter? r u = parameter? r' u := by
  have leading : (r.protocol? u).bind (·.leading?) = (r'.protocol? u).bind (·.leading?) :=
    Sdp.bind_eq_of_rel (h.protocol? u) fun _ _ => Sdp.ProtocolEntry.Alike.leading?_eq
  rw [parameter?, parameter?, leading]

private theorem roleOf_alike (h : r.Alike r') : roleOf r = roleOf r' := by
  rw [roleOf, roleOf, h.hasClass_eq, h.hasClass_eq]

private theorem featuresOf_alike (h : r.Alike r') (role : Role) :
    featuresOf r role = featuresOf r' role := by
  rw [featuresOf, featuresOf, h.features]

private theorem read_alike (h : r.Alike r') : read r = read r' := by
  have found := h.profile? ServiceClass.advancedAudio
  simp only [read, parameter?_alike h, roleOf_alike h, featuresOf_alike h]
  generalize r.profile? _ = x at found ⊢
  generalize r'.profile? _ = y at found ⊢
  cases found with
  | none => rfl
  | some same => simp only [same.version]

end A2dpSink.AudioService

namespace A2dpSink.Sdp.Record

/-- Records that tell the same: entries that are found in both differ in spelling at most. -/
structure Indistinct (r r' : Record) : Prop where
  handle : r.handle = r'.handle
  hasClass : ∀ u, r.hasClass u = r'.hasClass u
  profile? : ∀ u, Option.Rel ProfileEntry.Alike (r.profile? u) (r'.profile? u)
  protocol? : ∀ u, Option.Rel ProtocolEntry.Alike (r.protocol? u) (r'.protocol? u)
  service : AudioService.ofRecord r = AudioService.ofRecord r'

private theorem Alike.indistinct {r r' : Record} (h : r.Alike r') : r.Indistinct r' :=
  ⟨h.handle, h.hasClass_eq, h.profile?, h.protocol?, congrArg Prod.fst (AudioService.read_alike h)⟩

/-- What is learnt from a record stays the same when its attributes are respelled and padded, in any
sequence of edits. Padding alone leaves the entries that are found as they are. -/
theorem indistinct_of_edits {a b : Attributes} (edits : Relation.ReflTransGen Attributes.Edit a b) :
    (ofAttributes a).Indistinct (ofAttributes b) ∧
      (Relation.ReflTransGen Attributes.Padding a b → ∀ u,
        (ofAttributes a).profile? u = (ofAttributes b).profile? u ∧
          (ofAttributes a).protocol? u = (ofAttributes b).protocol? u) := by
  refine ⟨(alike_of_edits edits).indistinct, ?_⟩
  intro paddings u
  rw [(Attributes.unread_of_paddings paddings).record]
  exact ⟨rfl, rfl⟩

/-- The protocol stack of a sink in the given spelling, with more between the entries. -/
def sinkStack (write : BitVec 16 → Uuid) (psm version : Element) (between : List Element) :
    List Element :=
  [.sequence [.uuid (write 0x0100), psm]] ++ between ++ [.sequence [.uuid (write 0x0019), version]]

/-- The attributes of a sink in the given spelling; its protocol stack is the only choice. -/
def sinkAttributes (write : BitVec 16 → Uuid) (psm version : Element) (between : List Element) :
    Attributes :=
  [(.classIds, .sequence [.uuid (write 0x110B)]),
    (.profiles, .alternative [.sequence [.uuid (write 0x110D), version]])] ++
    [(.protocols, .alternative [.sequence (sinkStack write psm version between)])]

/-- The sink in the usual widths. -/
abbrev usualSink : List Element → Attributes := sinkAttributes .short (.u16 25) (.u16 0x0103)

/-- The sink in other widths. -/
abbrev wideSink : List Element → Attributes :=
  sinkAttributes (fun n => .medium (Uuid.widen n)) (.unsigned .w8 25) (.u32 0x0103)

private theorem padding_usualSink :
    Attributes.Padding (usualSink []) (usualSink [.sequence []]) := by
  have pads (write : BitVec 16 → Uuid) (psm version : Element) :
      Pads Element.IsProtocol (sinkStack write psm version [])
        (sinkStack write psm version [.sequence []]) :=
    ⟨[_], .sequence [], _, rfl, rfl, by simp [Element.IsProtocol]⟩
  refine .grow rfl (@Attributes.Grows.choice .sequence _ _ [] [] (pads ..)) ?_
  rw [usualSink, sinkAttributes, sinkAttributes, Attributes.get?_concat_eq_update,
    Attributes.get?_concat_eq_update, Function.update_idem]
  rfl

private theorem edit_usualSink (between : List Element) :
    Attributes.Edit (usualSink between) (wideSink between) := by
  have version : Element.Respells (.u16 0x0103) (.u32 0x0103) :=
    .number (.unsigned (by decide) _) (.unsigned (by decide) _)
  have psm : Element.Respells (.u16 25) (.unsigned .w8 25) :=
    .number (.unsigned (by decide) _) (.unsigned (by decide) _)
  have written (n : BitVec 16) :
      Element.Respells (.uuid (.short n)) (.uuid (.medium (Uuid.widen n))) :=
    .uuid (Uuid.expand_widen n)
  have entry (n : BitVec 16) {e e' : Element} (h : Element.Respells e e') :
      Element.Respells (.sequence [.uuid (.short n), e])
        (.sequence [.uuid (.medium (Uuid.widen n)), e']) :=
    .list (.cons (written n) (.cons h .nil))
  apply Attributes.Edit.pairs
  refine .cons ⟨rfl, .list ?_⟩ (.cons ⟨rfl, .list ?_⟩ (.cons ⟨rfl, .list ?_⟩ .nil))
  · exact .cons (written _) .nil
  · exact .cons (entry _ version) .nil
  · refine .cons (.list ?_) .nil
    exact .cons (entry _ psm) (List.rel_append (List.forall₂_same.mpr fun e _ => .same e)
      (.cons (entry _ version) .nil))

/-- A sink in wide spellings with odd members added is the same sink. -/
theorem indistinct_of_edits_wideSink :
    Relation.ReflTransGen Attributes.Edit (usualSink [])
        (wideSink [.sequence []] ++ [(0x0100, .bool true)]) ∧
      Relation.ReflTransGen Attributes.Padding (usualSink []) (usualSink [.sequence []]) ∧
      (ofAttributes (usualSink [.sequence []])).protocol? ServiceClass.avdtp =
        some ⟨ServiceClass.avdtp, [.u16 0x0103]⟩ ∧
      AudioService.ofRecord (ofAttributes (wideSink [.sequence []] ++ [(0x0100, .bool true)])) =
        { role := .sink, psm := 25, transportVersion := ⟨1, 3⟩, profileVersion := ⟨1, 3⟩ } := by
  have paddings := Relation.ReflTransGen.single padding_usualSink
  have edits : Relation.ReflTransGen Attributes.Edit (usualSink [])
      (wideSink [.sequence []] ++ [(0x0100, .bool true)]) := by
    refine .tail (.tail (.single (.pad padding_usualSink)) (edit_usualSink _)) (.pad ?_)
    exact .add (by decide) (Attributes.get?_concat_eq_update ..)
  refine ⟨edits, paddings, ?_, ?_⟩
  · rw [← ((indistinct_of_edits (.single (.pad padding_usualSink))).2 paddings _).2]
    decide +kernel
  · rw [← (indistinct_of_edits edits).1.service]
    decide +kernel

end A2dpSink.Sdp.Record
