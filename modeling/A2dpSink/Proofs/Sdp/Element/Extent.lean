import A2dpSink.Proofs.Sdp.Element.Canonical

/-!
# The bytes an element takes

A reader of elements takes bytes from the front and does not look at what stands behind them. So an
element that was read is read again from the bytes it took, whatever follows these, and nothing is
read from a part of them (`decode_takes_extent`).

The same holds inside an element. A list announces how many bytes its members take, and the members
take these one after the other, each of them bytes that it could have been read from alone
(`Occupies`). None gets at a byte behind the announced ones.
-/

namespace A2dpSink.Sdp

/-! ### Readers that do not look behind what they take -/

namespace Read

/-- A reader is local if it takes bytes from the front that it would take in front of any others. -/
def Local {α : Type} (item : Bytes → Reading α) : Prop :=
  ∀ bytes, Within (fun p => ∃ front, bytes = front ++ p.2 ∧
    ∀ rest, item (front ++ rest) = .ok (p.1, rest)) (item bytes)

namespace Local

variable {α β : Type} {item : Bytes → Reading α}

private theorem map (h : Local item) (f : α → β) :
    Local fun bytes => (item bytes).map fun p => (f p.1, p.2) := by
  intro bytes
  apply (h bytes).map
  rintro p ⟨front, eq, again⟩
  refine ⟨front, eq, ?_⟩
  intro rest
  simp only [again, Except.map]

private theorem bind (h : Local item) (next : α → Bytes → Reading β)
    (follows : ∀ a, Local (next a)) :
    Local fun bytes => (item bytes).bind fun p => next p.1 p.2 := by
  intro bytes
  apply (h bytes).bind
  rintro ⟨a, between⟩ ⟨first, rfl, again⟩
  apply (follows a between).mono
  rintro p ⟨second, eq, again'⟩
  refine ⟨first ++ second, ?_, ?_⟩
  · rw [List.append_assoc, ← eq]
  · intro rest
    simp only [List.append_assoc, again, Except.bind, again']

/-- What is read from some bytes is read from those of them that it takes. -/
theorem exists_front (h : Local item) {bytes rest : Bytes} {a : α}
    (read : item bytes = .ok (a, rest)) :
    ∃ front, bytes = front ++ rest ∧ ∀ rest', item (front ++ rest') = .ok (a, rest') := by
  have here := h bytes
  rw [read] at here
  exact here

/-- What is read from some bytes is read from them whatever follows. -/
theorem append (h : Local item) {bytes rest : Bytes} {a : α} (read : item bytes = .ok (a, rest))
    (more : Bytes) : item (bytes ++ more) = .ok (a, rest ++ more) := by
  obtain ⟨front, rfl, again⟩ := h.exists_front read
  rw [List.append_assoc]
  exact again (rest ++ more)

/-- Nothing is read from a proper part of the bytes that a value takes. -/
theorem malformed_of_prefix (h : Local item) {front part : Bytes} {a : α}
    (read : item front = .ok (a, [])) (within : part <+: front) (proper : part ≠ front) :
    item part = .error .malformed := by
  obtain ⟨lacking, rfl⟩ := within
  have here := h part
  cases partial_ : item part with
  | error fault =>
    rw [partial_] at here
    exact congrArg _ here
  | ok p =>
    have read' := h.append partial_ lacking
    rw [read] at read'
    have empty : p.2 ++ lacking = [] := (congrArg Prod.snd (Except.ok.inj read')).symm
    rw [(List.append_eq_nil_iff.mp empty).2, List.append_nil] at proper
    exact absurd rfl proper

end Local

private theorem local_guardedWord (n : Nat) : Local (guardedWord n) := by
  intro bytes
  apply (within_guardedWord_append n bytes).mono
  intro p eq
  exact ⟨_, eq, guardedWord_append n p.1⟩

private theorem local_size (sizeClass : Nat) : Local (size sizeClass) := by
  intro bytes
  unfold size
  split
  · exact (local_guardedWord 1).map BitVec.toNat bytes
  · exact (local_guardedWord 2).map BitVec.toNat bytes
  · exact (local_guardedWord 4).map BitVec.toNat bytes
  · rfl

private theorem local_take (n : Nat) :
    Local fun bytes => (ensure n bytes).bind fun _ => take n bytes := by
  intro bytes
  apply (within_ensure n bytes).bind
  intro _ there
  apply (within_take there).of_ok
  rintro ⟨front, rest⟩ taken
  obtain ⟨rfl, rfl⟩ := take_ok taken
  refine ⟨front, rfl, ?_⟩
  intro rest'
  simp only [ensure_append, Except.bind, take_append]

private theorem local_sized (sizeClass : Nat) : Local (sized sizeClass) :=
  (local_size sizeClass).bind _ local_take

/-- Data behind a size field: the field announces as many bytes as the data has. -/
theorem within_sized_field (sizeClass : Nat) (bytes : Bytes) :
    Within (fun p => ∃ field, bytes = field ++ (p.1 ++ p.2) ∧
      size sizeClass field = .ok (p.1.length, [])) (sized sizeClass bytes) := by
  apply (local_size sizeClass bytes).bind
  rintro ⟨n, between⟩ ⟨field, rfl, again⟩
  apply (within_ensure n between).bind
  intro _ there
  apply (within_take there).of_ok
  rintro ⟨data, rest⟩ taken
  obtain ⟨rfl, rfl⟩ := take_ok taken
  refine ⟨field, rfl, ?_⟩
  rw [← again [], List.append_nil]

/-- Values that are read until the bytes are used up take these one after the other, each of them
bytes that it is read from alone. -/
theorem within_members_spans {α : Type} {item : Bytes → Reading α} (consumes : Consumes item)
    (here : Local item) (bytes : Bytes) :
    Within (fun values => ∃ spans : List Bytes, bytes = spans.flatten ∧
      List.Forall₂ (fun v span => item span = .ok (v, [])) values spans) (members item bytes) := by
  rw [← Checked.rounds_eq_members consumes]
  suffices h : ∀ n, bytes.length ≤ n →
      Within (fun values => ∃ spans : List Bytes, bytes = spans.flatten ∧
        List.Forall₂ (fun v span => item span = .ok (v, [])) values spans)
        (Checked.rounds item n bytes) from h _ (Nat.le_refl _)
  intro n enough
  induction n generalizing bytes with
  | zero =>
    rw [List.length_eq_zero_iff.mp (Nat.le_zero.mp enough)]
    exact ⟨[], rfl, .nil⟩
  | succ n ih =>
    cases bytes with
    | nil => exact ⟨[], rfl, .nil⟩
    | cons b bytes =>
      rw [Checked.rounds]
      apply ((consumes (b :: bytes)).and (here (b :: bytes))).bind
      rintro ⟨v, rest⟩ ⟨shorter, front, eq, again⟩
      have left : rest.length ≤ n := Nat.le_of_lt_succ (Nat.lt_of_lt_of_le shorter enough)
      apply (ih rest left).map
      rintro values ⟨spans, rfl, others⟩
      refine ⟨front :: spans, eq, .cons ?_ others⟩
      rw [← again [], List.append_nil]

/-- A reader that reads whatever another one reads does so with one value after the other. -/
theorem members_mono {α : Type} {item item' : Bytes → Reading α}
    (more : ∀ bytes p, item bytes = .ok p → item' bytes = .ok p) {bytes : Bytes} {values : List α}
    (h : members item bytes = .ok values) : members item' bytes = .ok values := by
  suffices onto : ∀ n found bytes, membersOnto item found n bytes = .ok values →
      membersOnto item' found n bytes = .ok values from onto _ _ _ h
  intro n found bytes read
  fun_induction membersOnto item found n bytes with
  | case1 n found =>
    rw [membersOnto]
    exact read
  | case2 found b bytes => cases read
  | case3 found n bytes _ fault failed => cases read
  | case4 found n bytes nonempty v rest first ih =>
    rw [membersOnto, more _ _ first]
    · exact ih read
    · exact nonempty

end Read

/-! ### Elements -/

namespace Element

section Body

variable {inner : Bytes → Except Fault (List Element)}

private theorem local_decodeBody (contents : ∀ content, Within (fun _ => True) (inner content))
    (typeNumber sizeClass : Nat) : Read.Local (decodeBody inner typeNumber sizeClass) := by
  have list (kind : ListKind) : Read.Local fun bytes =>
      (Read.sized sizeClass bytes).bind fun p => (inner p.1).map fun ms => (list kind ms, p.2) := by
    apply (Read.local_sized sizeClass).bind fun content rest =>
      (inner content).map fun ms => (list kind ms, rest)
    intro content bytes
    have there := contents content
    cases read : inner content with
    | error fault =>
      rw [read] at there
      exact there
    | ok ms => exact ⟨[], rfl, fun _ => rfl⟩
  intro bytes
  unfold decodeBody
  split <;> first
    | exact ⟨[], rfl, fun _ => rfl⟩
    | exact (Read.local_guardedWord 2).map (fun v => uuid (.short v)) bytes
    | exact (Read.local_guardedWord 4).map (fun v => uuid (.medium v)) bytes
    | exact (Read.local_guardedWord 16).map (fun v => uuid (.full v)) bytes
    | exact (Read.local_guardedWord 1).map (fun v => bool (v != 0)) bytes
    | exact (Read.local_guardedWord _).map _ bytes
    | exact (Read.local_sized _).map _ bytes
    | exact list _ bytes
    | rfl

private theorem local_decodeWith (contents : ∀ content, Within (fun _ => True) (inner content)) :
    Read.Local (decodeWith inner) :=
  (Read.local_guardedWord 1).bind
    (fun first => decodeBody inner (first.toNat / 8) (first.toNat % 8))
    fun _ => local_decodeBody contents _ _

/-- What is read behind the first byte: something that is no list, or a list whose members are read
from as many bytes as its size field announces. -/
inductive Filled (inner : Bytes → Except Fault (List Element)) (typeNumber sizeClass : Nat) :
    Element → Bytes → Prop
  | leaf {e : Element} {front : Bytes} : e.members? = none → Filled inner typeNumber sizeClass e front
  | list {kind : ListKind} {ms : List Element} {field content : Bytes} :
      typeNumber = kind.typeNumber → Read.size sizeClass field = .ok (content.length, []) →
      inner content = .ok ms → Filled inner typeNumber sizeClass (list kind ms) (field ++ content)

/-- What is read behind the first byte takes bytes from the front, and they fill it. -/
abbrev FilledFrom (inner : Bytes → Except Fault (List Element)) (typeNumber sizeClass : Nat)
    (bytes : Bytes) (p : Element × Bytes) : Prop :=
  ∃ front, bytes = front ++ p.2 ∧ Filled inner typeNumber sizeClass p.1 front

private theorem within_decodeBody_filled
    (contents : ∀ content, Within (fun _ => True) (inner content))
    (typeNumber sizeClass : Nat) (bytes : Bytes) :
    Within (FilledFrom inner typeNumber sizeClass bytes)
      (decodeBody inner typeNumber sizeClass bytes) := by
  have word {n typeNumber sizeClass : Nat} (f : BitVec (8 * n) → Element)
      (leaf : ∀ v, (f v).members? = none) :
      Within (FilledFrom inner typeNumber sizeClass bytes)
        ((Read.guardedWord n bytes).map fun p => (f p.1, p.2)) := by
    apply (Read.within_guardedWord_append n bytes).map
    intro p eq
    exact ⟨_, eq, .leaf (leaf p.1)⟩
  have text {typeNumber sizeClass : Nat} (kind : StringKind) :
      Within (FilledFrom inner typeNumber sizeClass bytes)
        ((Read.sized sizeClass bytes).map fun p => (string kind p.1, p.2)) := by
    apply (Read.local_sized sizeClass bytes).map
    rintro p ⟨front, eq, -⟩
    exact ⟨front, eq, .leaf rfl⟩
  have members {typeNumber sizeClass : Nat} (kind : ListKind)
      (number : typeNumber = kind.typeNumber) :
      Within (FilledFrom inner typeNumber sizeClass bytes)
        ((Read.sized sizeClass bytes).bind fun p =>
          (inner p.1).map fun ms => (list kind ms, p.2)) := by
    apply (Read.within_sized_field sizeClass bytes).bind
    rintro ⟨content, rest⟩ ⟨field, rfl, announced⟩
    apply ((contents content).of_ok fun ms read => read).map
    intro ms read
    exact ⟨field ++ content, (List.append_assoc _ _ _).symm, .list number announced read⟩
  unfold decodeBody
  split <;> first
    | exact ⟨[], rfl, .leaf rfl⟩
    | exact word (n := 2) (fun v => uuid (.short v)) fun _ => rfl
    | exact word (n := 4) (fun v => uuid (.medium v)) fun _ => rfl
    | exact word (n := 16) (fun v => uuid (.full v)) fun _ => rfl
    | exact word (fun v => bool (v != 0)) fun _ => rfl
    | exact word _ fun _ => rfl
    | exact text _
    | exact members _ rfl
    | rfl

variable (inner) in
/-- The first byte of an element tells how to read what is behind it. -/
theorem within_decodeWith_filled (contents : ∀ content, Within (fun _ => True) (inner content))
    (bytes : Bytes) :
    Within (fun p => ∃ first front, bytes = first :: (front ++ p.2) ∧
      Filled inner (first.toNat / 8) (first.toNat % 8) p.1 front) (decodeWith inner bytes) := by
  apply (Read.within_guardedWord_append 1 bytes).bind
  rintro ⟨v, between⟩ rfl
  have first : (UInt8.ofNat v.toNat).toNat = v.toNat := UInt8.toNat_ofNat_of_lt' v.isLt
  apply (within_decodeBody_filled contents (v.toNat / 8) (v.toNat % 8) between).mono
  rintro p ⟨front, rfl, filled⟩
  refine ⟨UInt8.ofNat v.toNat, front, ?_, ?_⟩
  · rw [Bytes.ofWord_one]
    rfl
  · rwa [first]

end Body

/-- A reader of the contents of lists that reads whatever another one reads makes a reader of elements
of which the same is true. -/
theorem decodeWith_mono {inner inner' : Bytes → Except Fault (List Element)}
    (more : ∀ content ms, inner content = .ok ms → inner' content = .ok ms) {bytes : Bytes}
    {p : Element × Bytes} (h : decodeWith inner bytes = .ok p) : decodeWith inner' bytes = .ok p := by
  have body (typeNumber sizeClass : Nat) (rest : Bytes)
      (read : decodeBody inner typeNumber sizeClass rest = .ok p) :
      decodeBody inner' typeNumber sizeClass rest = .ok p := by
    have members (kind : ListKind)
        (read : ((Read.sized sizeClass rest).bind fun p =>
          (inner p.1).map fun ms => (list kind ms, p.2)) = .ok p) :
        ((Read.sized sizeClass rest).bind fun p =>
          (inner' p.1).map fun ms => (list kind ms, p.2)) = .ok p := by
      cases cut : Read.sized sizeClass rest with
      | error fault => simp [cut, Except.bind] at read
      | ok q =>
        simp only [cut, Except.bind] at read ⊢
        cases contents : inner q.1 with
        | error fault => simp [contents, Except.map] at read
        | ok ms => simpa [more _ _ contents, contents, Except.map] using read
    by_cases sequence : typeNumber = 6
    · subst sequence
      exact members .sequence read
    · by_cases alternative : typeNumber = 7
      · subst alternative
        exact members .alternative read
      · rw [← read]
        exact Checked.decodeBody_of_ne sequence alternative _ _ sizeClass rest
  unfold decodeWith at h ⊢
  cases first : Read.guardedWord 1 bytes with
  | error fault => simp [first, Except.bind] at h
  | ok q =>
    simp only [first, Except.bind] at h ⊢
    exact body _ _ _ h

/-- What is read where lists may stand some levels deep is read where they may stand deeper. -/
theorem decodeAt_mono {levels levels' : Nat} (h : levels ≤ levels') {bytes : Bytes}
    {p : Element × Bytes} (read : decodeAt levels bytes = .ok p) : decodeAt levels' bytes = .ok p := by
  induction levels generalizing levels' bytes p with
  | zero =>
    cases levels' with
    | zero => exact read
    | succ levels' => exact decodeWith_mono (fun _ _ none => by cases none) read
  | succ levels ih =>
    obtain ⟨more, rfl⟩ := Nat.exists_eq_add_of_le' h
    refine decodeWith_mono (fun content ms contents => ?_) read
    exact Read.members_mono (fun bytes p => ih (Nat.le_add_left levels more)) contents

private theorem local_decodeAt (levels : Nat) : Read.Local (decodeAt levels) := by
  induction levels with
  | zero =>
    apply local_decodeWith
    intro content
    rfl
  | succ levels ih =>
    apply local_decodeWith
    intro content
    exact (Read.within_members_spans (consumes_decodeAt levels) ih content).mono fun _ _ => trivial

/-! ### Where the members of a list stand -/

/-- The first bytes of a list of a kind whose members take `n` bytes: one byte for the kind, and a size
field that tells the number. -/
def Announces (kind : ListKind) (header : Bytes) (n : Nat) : Prop :=
  ∃ first field, header = first :: field ∧ first.toNat / 8 = kind.typeNumber ∧
    Read.size (first.toNat % 8) field = .ok (n, [])

/-- The bytes an element takes: it is read from them with nothing left, and if it is a list, its first
bytes announce how many more there are, and its members take these one after the other. -/
inductive Occupies : Element → Bytes → Prop
  | leaf {e : Element} {extent : Bytes} : e.members? = none → decode extent = .ok (e, []) →
      Occupies e extent
  | list {kind : ListKind} {ms : List Element} {header : Bytes} {extents : List Bytes} :
      Announces kind header extents.flatten.length → List.Forall₂ Occupies ms extents →
      decode (header ++ extents.flatten) = .ok (list kind ms, []) →
      Occupies (list kind ms) (header ++ extents.flatten)

/-- The members of a list are read from bytes of their own, where lists may stand one level less
deep. -/
theorem occupies_of_decodeAt {levels : Nat} (within : levels ≤ maxNesting) {e : Element}
    {extent : Bytes} (h : decodeAt levels extent = .ok (e, [])) : e.Occupies extent := by
  have whole : decode extent = .ok (e, []) := decodeAt_mono within h
  induction levels generalizing e extent with
  | zero =>
    have parts := within_decodeWith_filled (fun _ => .error .malformed) (fun _ => rfl) extent
    rw [← decodeAt, h] at parts
    obtain ⟨first, front, -, filled⟩ := parts
    cases filled with
    | leaf leaf => exact .leaf leaf whole
    | list _ _ contents => cases contents
  | succ levels ih =>
    have spans (content : Bytes) :=
      Read.within_members_spans (consumes_decodeAt levels) (local_decodeAt levels) content
    have parts := within_decodeWith_filled (Read.members (decodeAt levels))
      (fun content => (spans content).mono fun _ _ => trivial) extent
    rw [← decodeAt, h] at parts
    obtain ⟨first, front, eq, filled⟩ := parts
    rw [List.append_nil] at eq
    cases filled with
    | leaf leaf => exact .leaf leaf whole
    | @list kind ms field content number announced contents =>
      have members := spans content
      rw [contents] at members
      obtain ⟨extents, rfl, each⟩ := members
      have shallow : levels ≤ maxNesting := Nat.le_of_succ_le within
      subst eq
      have header : Announces kind (first :: field) extents.flatten.length :=
        ⟨first, field, rfl, number, announced⟩
      refine .list header ?_ whole
      exact each.imp fun m span read => ih shallow read (decodeAt_mono shallow read)

/-- An element that was read is read whatever follows, from the bytes it took and from no proper part
of them. These bytes are shared out among the elements inside it: each list announces how many bytes
its members take, and no member gets at others. -/
theorem decode_takes_extent {bytes rest : Bytes} {e : Element} (h : decode bytes = .ok (e, rest)) :
    (∀ more, decode (bytes ++ more) = .ok (e, rest ++ more)) ∧
      ∃ extent, bytes = extent ++ rest ∧
        (∀ part, part <+: extent → part ≠ extent → decode part = .error .malformed) ∧
        e.Occupies extent := by
  have here : Read.Local decode := local_decodeAt maxNesting
  refine ⟨here.append h, ?_⟩
  obtain ⟨extent, rfl, again⟩ := here.exists_front h
  have alone : decode extent = .ok (e, []) := by
    rw [← again [], List.append_nil]
  refine ⟨extent, rfl, ?_, occupies_of_decodeAt (Nat.le_refl _) alone⟩
  intro part within proper
  exact here.malformed_of_prefix alone within proper

/-- A sequence of a number and an alternative with two members, in front of one more byte. -/
theorem decode_takes_extent_nested :
    let bytes : Bytes := [0x36, 0, 8, 0x08, 7, 0x3D, 4, 0x28, 1, 0x25, 0]
    let e : Element := sequence [unsigned .w8 7, alternative [bool true, string .text []]]
    decode (bytes ++ [0x35]) = .ok (e, [0x35]) ∧
      decode (bytes ++ [0x35] ++ [0xFF]) = .ok (e, [0x35] ++ [0xFF]) ∧
      ∃ extent, bytes ++ [0x35] = extent ++ [0x35] ∧
        (∀ part, part <+: extent → part ≠ extent → decode part = .error .malformed) ∧
        e.Occupies extent := by
  intro bytes e
  have read : decode (bytes ++ [0x35]) = .ok (e, [0x35]) := by rfl
  obtain ⟨followed, extent, taken⟩ := decode_takes_extent read
  exact ⟨read, followed [0xFF], extent, taken⟩

end Element

end A2dpSink.Sdp
