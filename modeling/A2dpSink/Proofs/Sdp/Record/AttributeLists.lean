import A2dpSink.Proofs.Sdp.Lists

/-!
# Attribute lists and nothing else

Attribute lists that are not too deep and not too long are read back as one record for each, whose
attributes have the values of the last pairs with their numbers. Everything else that a byte string
can start with is refused, and then there are no records at all: not even those of lists in front of
the first one that is misshapen (`parseLists_record_by_record`).
-/

namespace A2dpSink.Sdp

namespace Attributes

/-! ### Of several pairs the last one counts -/

/-- A number has a value in the last pair with this number. -/
def IsLast (a : Attributes) (id : AttributeId) (value : Element) : Prop :=
  ∃ before after, a = before ++ (id, value) :: after ∧ ∀ p ∈ after, p.1 ≠ id

/-- An attribute at the end counts instead of an earlier one with its number. -/
theorem get?_concat (a : Attributes) (p : AttributeId × Element) (id : AttributeId) :
    get? (a ++ [p]) id = if p.1 = id then some p.2 else a.get? id := by
  simp [get?, List.foldl_append]

private theorem isLast_concat {a : Attributes} {p : AttributeId × Element} {id : AttributeId}
    {value : Element} :
    IsLast (a ++ [p]) id value ↔ if p.1 = id then p.2 = value else a.IsLast id value := by
  split
  · next same =>
    constructor
    · rintro ⟨before, after, eq, others⟩
      rcases List.eq_nil_or_concat' after with rfl | ⟨after, q, rfl⟩
      · have last := (List.append_inj' eq rfl).2
        rw [List.singleton_inj.mp last]
      · rw [← List.cons_append, ← List.append_assoc] at eq
        have last := List.singleton_inj.mp (List.append_inj' eq rfl).2
        exact absurd same (last ▸ others q (by simp))
    · rintro rfl
      exact ⟨a, [], by rw [← same], by simp⟩
  · next other =>
    constructor
    · rintro ⟨before, after, eq, others⟩
      rcases List.eq_nil_or_concat' after with rfl | ⟨after, q, rfl⟩
      · have last := List.singleton_inj.mp (List.append_inj' eq rfl).2
        exact absurd (congrArg Prod.fst last) other
      · rw [← List.cons_append, ← List.append_assoc] at eq
        exact ⟨before, after, (List.append_inj' eq rfl).1,
          fun r there => others r (List.mem_append_left _ there)⟩
    · rintro ⟨before, after, rfl, others⟩
      refine ⟨before, after ++ [p], by simp, ?_⟩
      intro r there
      rcases List.mem_append.mp there with there | there
      · exact others r there
      · exact List.mem_singleton.mp there ▸ other

/-- The value of an attribute is that of the last pair with its number. -/
theorem get?_eq_some_iff {a : Attributes} {id : AttributeId} {value : Element} :
    a.get? id = some value ↔ a.IsLast id value := by
  induction a using List.reverseRecOn with
  | nil => simp [get?, IsLast]
  | append_singleton a p ih =>
    rw [get?_concat, isLast_concat]
    split
    · exact Option.some_inj
    · exact ih

/-- An attribute is absent if no pair has its number. -/
theorem get?_eq_none_iff {a : Attributes} {id : AttributeId} :
    a.get? id = none ↔ ∀ p ∈ a, p.1 ≠ id := by
  induction a using List.reverseRecOn with
  | nil => simp [get?]
  | append_singleton a p ih =>
    rw [get?_concat, List.forall_mem_append, List.forall_mem_singleton, ← ih]
    by_cases same : p.1 = id <;> simp [same]

/-! ### The shape of attribute lists -/

private theorem ofElementsOnto_eq_some {found a : Attributes} {ms : List Element}
    (h : ofElementsOnto found ms = some a) : ∃ b, ms = members b ∧ a = found.reverse ++ b := by
  induction ms using List.twoStepInduction generalizing found with
  | nil => exact ⟨[], rfl, by simpa using (Option.some.inj h).symm⟩
  | singleton e =>
    cases e with
    | unsigned w id => cases w <;> cases h
    | _ => cases h
  | cons_cons first value rest ih _ =>
    obtain ⟨id, rfl⟩ : ∃ id, first = .u16 id := by
      cases first with
      | unsigned w id =>
        cases w with
        | w16 => exact ⟨id, rfl⟩
        | _ => cases h
      | _ => cases h
    have h : ofElementsOnto ((id, value) :: found) rest = some a := h
    obtain ⟨b, rfl, rfl⟩ := ih h
    exact ⟨(id, value) :: b, rfl, by simp⟩

/-- Attributes are read from the list that they are written as, and from no other. -/
theorem ofElements?_eq_some_iff {ms : List Element} {a : Attributes} :
    ofElements? ms = some a ↔ ms = a.members := by
  constructor
  · intro h
    obtain ⟨b, rfl, eq⟩ := ofElementsOnto_eq_some h
    rw [eq]
    rfl
  · rintro rfl
    exact ofElements?_members a

private theorem members_cons (p : AttributeId × Element) (a : Attributes) :
    members (p :: a) = .u16 p.1 :: p.2 :: a.members := rfl

/-- Lists of attributes have an even number of members, and every other one is a number of 16
bits. -/
theorem exists_members_iff {ms : List Element} :
    (∃ a, ms = members a) ↔
      ms.length % 2 = 0 ∧ ∀ i e, ms[2 * i]? = some e → ∃ id, e = .u16 id := by
  constructor
  · rintro ⟨a, rfl⟩
    induction a with
    | nil => simp [members]
    | cons p a ih =>
      obtain ⟨even, numbers⟩ := ih
      rw [members_cons]
      constructor
      · simp only [List.length_cons]
        omega
      · intro i e place
        cases i with
        | zero => exact ⟨p.1, (Option.some.inj place).symm⟩
        | succ i => exact numbers i e place
  · rintro ⟨even, numbers⟩
    induction ms using List.twoStepInduction with
    | nil => exact ⟨[], rfl⟩
    | singleton => simp at even
    | cons_cons first value rest ih _ =>
      obtain ⟨id, rfl⟩ := numbers 0 first rfl
      have even : rest.length % 2 = 0 := by
        simp only [List.length_cons] at even
        omega
      obtain ⟨a, rfl⟩ := ih even fun i e place => numbers (i + 1) e place
      exact ⟨(id, value) :: a, rfl⟩

end Attributes

/-- What is wrong with an element that is not the attribute lists of some records. -/
inductive Misshapen : Element → Prop
  | noSequence {e : Element} (h : ∀ lists, e ≠ .sequence lists) : Misshapen e
  | noList {lists : List Element} {m : Element} (there : m ∈ lists)
      (h : ∀ pairs, m ≠ .sequence pairs) : Misshapen (.sequence lists)
  | odd {lists pairs : List Element} (there : .sequence pairs ∈ lists)
      (h : pairs.length % 2 = 1) : Misshapen (.sequence lists)
  | noNumber {lists pairs : List Element} {i : Nat} {e : Element}
      (there : .sequence pairs ∈ lists) (place : pairs[2 * i]? = some e)
      (h : ∀ id, e ≠ .u16 id) : Misshapen (.sequence lists)

private theorem Misshapen.not_lists {e : Element} (h : Misshapen e) (records : List Attributes) :
    e ≠ Attributes.lists records := by
  rintro rfl
  have shaped : ∀ m ∈ records.map Attributes.toElement,
      ∃ a : Attributes, m = .sequence a.members := by
    intro m there
    obtain ⟨a, -, rfl⟩ := List.mem_map.mp there
    exact ⟨a, rfl⟩
  cases h with
  | noSequence h => exact h _ rfl
  | noList there h =>
    obtain ⟨a, rfl⟩ := shaped _ there
    exact h _ rfl
  | odd there h =>
    obtain ⟨a, eq⟩ := shaped _ there
    injection eq with _ eq
    have even := (Attributes.exists_members_iff.mp ⟨a, eq⟩).1
    omega
  | noNumber there place h =>
    obtain ⟨a, eq⟩ := shaped _ there
    injection eq with _ eq
    obtain ⟨id, rfl⟩ := (Attributes.exists_members_iff.mp ⟨a, eq⟩).2 _ _ place
    exact h id rfl

/-- Nothing else can be wrong. -/
theorem exists_lists_of_not_misshapen {e : Element} (h : ¬ Misshapen e) :
    ∃ records, e = Attributes.lists records := by
  obtain ⟨lists, rfl⟩ : ∃ lists, e = .sequence lists := by
    by_contra none
    exact h (.noSequence fun lists same => none ⟨lists, same⟩)
  have shaped : ∀ m ∈ lists, m ∈ Set.range Attributes.toElement := by
    intro m there
    obtain ⟨pairs, rfl⟩ : ∃ pairs, m = .sequence pairs := by
      by_contra none
      exact h (.noList there fun pairs same => none ⟨pairs, same⟩)
    have even : pairs.length % 2 = 0 := by
      by_contra odd
      exact h (.odd there (by omega))
    have numbers : ∀ i e, pairs[2 * i]? = some e → ∃ id, e = .u16 id := by
      intro i e place
      by_contra none
      exact h (.noNumber there place fun id same => none ⟨id, same⟩)
    obtain ⟨a, rfl⟩ := Attributes.exists_members_iff.mpr ⟨even, numbers⟩
    exact ⟨a, rfl⟩
  have written : lists ∈ Set.range (List.map Attributes.toElement) := by
    rw [Set.range_list_map]
    exact shaped
  obtain ⟨records, rfl⟩ := written
  exact ⟨records, rfl⟩

private theorem misshapen_iff {e : Element} :
    Misshapen e ↔ ¬ ∃ records, e = Attributes.lists records := by
  constructor
  · rintro h ⟨records, same⟩
    exact h.not_lists records same
  · intro other
    by_contra well
    exact other (exists_lists_of_not_misshapen well)

namespace Record

/-! ### Records read from attribute lists -/

private theorem ofElement?_eq_some_iff {e : Element} {r : Record} :
    ofElement? e = some r ↔ ∃ a : Attributes, e = a.toElement ∧ r = ofAttributes a := by
  constructor
  · intro h
    unfold ofElement? at h
    split at h
    · next ms =>
      obtain ⟨a, read, rfl⟩ := Option.map_eq_some_iff.mp h
      exact ⟨a, congrArg Element.sequence (Attributes.ofElements?_eq_some_iff.mp read), rfl⟩
    · cases h
  · rintro ⟨a, rfl, rfl⟩
    exact ofElement?_toElement a

/-- All records of an answer are read, or none. -/
theorem mapM_ofElement?_eq_some {lists : List Element} {found : List Record}
    (h : lists.mapM ofElement? = some found) :
    ∃ records : List Attributes, lists = records.map Attributes.toElement := by
  induction lists generalizing found with
  | nil => exact ⟨[], rfl⟩
  | cons first others ih =>
    rw [List.mapM_cons] at h
    obtain ⟨r, read, h⟩ := Option.bind_eq_some_iff.mp h
    obtain ⟨rs, rest, -⟩ := Option.bind_eq_some_iff.mp h
    obtain ⟨a, rfl, -⟩ := ofElement?_eq_some_iff.mp read
    obtain ⟨records, rfl⟩ := ih rest
    exact ⟨a :: records, rfl⟩

/-- What is not the attribute lists of some records is refused as a whole. -/
theorem parseLists_of_misshapen {bytes rest : Bytes} {e : Element}
    (read : Element.decode bytes = .ok (e, rest)) (h : Misshapen e) :
    parseLists bytes = .error .malformed := by
  rw [parseLists, read]
  cases e with
  | list kind lists =>
    cases kind with
    | alternative => rfl
    | sequence =>
      cases found : lists.mapM ofElement? with
      | none => simp only [found]
      | some rs =>
        obtain ⟨records, rfl⟩ := mapM_ofElement?_eq_some found
        exact absurd rfl (h.not_lists records)
  | _ => rfl

end Record

namespace Attributes

/-- Values that stand at most 30 lists deep are read within the two lists around them. -/
theorem depth_lists_le {records : List Attributes}
    (shallow : ∀ a ∈ records, ∀ p ∈ a, p.2.depth ≤ 30) :
    (lists records).depth ≤ maxNesting := by
  apply Element.depth_list_le_iff.mpr
  intro m there
  obtain ⟨a, listed, rfl⟩ := List.mem_map.mp there
  apply Element.depth_list_le_iff.mpr
  intro e there
  obtain ⟨p, paired, there⟩ := List.mem_flatMap.mp there
  rcases List.mem_pair.mp there with rfl | rfl
  · exact Nat.zero_le _
  · exact shallow a listed p paired

end Attributes

/-- The data of a list bounds the data of everything inside it. -/
theorem Element.fits_of_dataLen_le {kind : ListKind} {ms : List Element}
    (short : (list kind ms).dataLen ≤ sizeLimit) : (list kind ms).fits = true := by
  refine fits_list_iff.mpr ⟨short, ?_⟩
  intro m there
  apply fits_of_encodedLen_le
  rw [dataLen_list] at short
  exact Nat.le_trans (List.le_sum_of_mem (List.mem_map_of_mem there)) short

namespace Record

/-- A record has the attributes of a list: of several pairs with one number the last one counts. -/
structure Holds (r : Record) (a : Attributes) : Prop where
  present : ∀ id value, r.attribute? id = some value ↔ a.IsLast id value
  absent : ∀ id, r.attribute? id = none ↔ ∀ p ∈ a, p.1 ≠ id

private theorem holds_ofAttributes (a : Attributes) : (ofAttributes a).Holds a :=
  ⟨fun _ _ => Attributes.get?_eq_some_iff, fun _ => Attributes.get?_eq_none_iff⟩

/-- Attribute lists are read record by record, whatever stands behind them, if values stand at most
30 lists deep and the data of all lists together fits its size field. If a byte string starts with
an element of any other shape, it is refused and gives no records. -/
theorem parseLists_record_by_record {records : List Attributes}
    (shallow : ∀ a ∈ records, ∀ p ∈ a, p.2.depth ≤ 30)
    (short : (Attributes.lists records).dataLen ≤ Element.sizeLimit) (rest : Bytes) :
    (∃ found, parseLists ((Attributes.lists records).encode ++ rest) = .ok found ∧
      List.Forall₂ Holds found records) ∧
    (∀ bytes e rest, Element.decode bytes = .ok (e, rest) → Misshapen e →
      parseLists bytes = .error .malformed) ∧
    ∀ e, Misshapen e ↔ ¬ ∃ records, e = Attributes.lists records := by
  refine ⟨⟨records.map ofAttributes, ?_, ?_⟩, ?_, fun e => misshapen_iff⟩
  · exact parseLists_lists_append (Element.fits_of_dataLen_le short)
      (Attributes.depth_lists_le shallow) rest
  · rw [List.forall₂_map_left_iff]
    exact List.forall₂_same.mpr fun a _ => holds_ofAttributes a
  · intro bytes e rest read h
    exact parseLists_of_misshapen read h

/-- Two records, of which the first gives an attribute twice, the second time with a value that is as
deep as values may be. -/
def twoRecords : List Attributes :=
  [[(0x0311, .u16 3), (0x0009, .bool true), (0x0311, .nest .alternative 30 (.u32 7))], []]

/-- Of an attribute given twice the second value counts, and the other record goes without it. -/
theorem parseLists_record_by_record_twice :
    (∀ a ∈ twoRecords, ∀ p ∈ a, p.2.depth ≤ 30) ∧
      (Attributes.lists twoRecords).dataLen ≤ Element.sizeLimit ∧
      ∃ r r', parseLists ((Attributes.lists twoRecords).encode ++ [0xFF]) = .ok [r, r'] ∧
        r.attribute? 0x0311 = some (.nest .alternative 30 (.u32 7)) ∧ r'.attribute? 0x0311 = none := by
  have shallow : ∀ a ∈ twoRecords, ∀ p ∈ a, p.2.depth ≤ 30 := by decide +kernel
  have short : (Attributes.lists twoRecords).dataLen ≤ Element.sizeLimit := by decide +kernel
  obtain ⟨⟨found, read, each⟩, -⟩ := parseLists_record_by_record shallow short [0xFF]
  refine ⟨shallow, short, ?_⟩
  rcases each with _ | ⟨first, _ | ⟨second, _ | _⟩⟩
  refine ⟨_, _, read, (first.present _ _).mpr ?_, (second.absent _).mpr (by simp)⟩
  exact ⟨[(0x0311, .u16 3), (0x0009, .bool true)], [], rfl, by simp⟩

end Record

end A2dpSink.Sdp
