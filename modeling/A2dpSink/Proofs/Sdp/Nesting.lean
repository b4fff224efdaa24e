import A2dpSink.Proofs.Sdp.Readers

/-!
# Reading within bounds

`Checked.decode` is the reader of elements with every operation that could end the program written
out: it takes bytes, counts the depth of lists, loops over the members and calls itself for the
contents of a list. Whatever has a bound fails with `Fault.overrun` when it is passed, calls one
inside the other included. No byte string makes any of them fail: what is read is what
`Element.decode` reads, with room for 33 calls for the contents of lists (`Checked.decode_eq`).
-/

namespace A2dpSink.Sdp

/-! ### Outcomes within bounds -/

/-- What a reader gives is within bounds if it is a value, with the given property, or a refusal. -/
def Within {α : Type} (P : α → Prop) : Except Fault α → Prop
  | .ok a => P a
  | .error fault => fault = .malformed

namespace Within

variable {α β : Type} {P : α → Prop} {Q : β → Prop} {outcome : Except Fault α}

/-- What is within bounds is no overrun. -/
theorem ne_overrun (h : Within P outcome) : outcome ≠ .error .overrun := by
  rintro rfl
  cases h

/-- Readers in a row stay within bounds if each does. -/
theorem bind {next : α → Except Fault β} (h : Within P outcome)
    (follows : ∀ a, P a → Within Q (next a)) : Within Q (outcome.bind next) := by
  cases outcome with
  | error fault => exact h
  | ok a => exact follows a h

/-- A change of the value stays within bounds. -/
theorem map {f : α → β} (h : Within P outcome) (follows : ∀ a, P a → Q (f a)) :
    Within Q (outcome.map f) := by
  cases outcome with
  | error fault => exact h
  | ok a => exact follows a h

/-- What is within bounds with one property is with every property that follows. -/
theorem mono {P' : α → Prop} (h : Within P outcome) (follows : ∀ a, P a → P' a) :
    Within P' outcome := by
  cases outcome with
  | error fault => exact h
  | ok a => exact follows a h

/-- Two properties of what is read hold together. -/
theorem and {P' : α → Prop} (h : Within P outcome) (h' : Within P' outcome) :
    Within (fun a => P a ∧ P' a) outcome := by
  cases outcome with
  | error fault => exact h
  | ok a => exact ⟨h, h'⟩

/-- A property of all values that are read holds within bounds. -/
theorem of_ok {P' : α → Prop} (h : Within P outcome) (follows : ∀ a, outcome = .ok a → P' a) :
    Within P' outcome := by
  cases outcome with
  | error fault => exact h
  | ok a => exact follows a rfl

end Within

namespace Read

/-- A reader consumes if it takes at least one byte for each value. -/
def Consumes {α : Type} (item : Bytes → Reading α) : Prop :=
  ∀ bytes, Within (fun p => p.2.length < bytes.length) (item bytes)

/-- Enough bytes are there when the check for them is passed. -/
theorem within_ensure (n : Nat) (bytes : Bytes) :
    Within (fun _ => n ≤ bytes.length) (ensure n bytes) := by
  unfold ensure
  split
  · next covered => exact Bytes.covers_iff.mp covered
  · rfl

/-- Bytes that are there can be taken. -/
theorem within_take {n : Nat} {bytes : Bytes} (h : n ≤ bytes.length) :
    Within (fun p => p.2.length + n = bytes.length) (take n bytes) := by
  rw [take, if_pos (Bytes.covers_iff.mpr h), List.splitAt_eq]
  show (bytes.drop n).length + n = bytes.length
  rw [List.length_drop]
  omega

/-- A word that is read has taken its bytes. -/
theorem within_guardedWord (n : Nat) (bytes : Bytes) :
    Within (fun p => p.2.length + n = bytes.length) (guardedWord n bytes) := by
  apply (within_ensure n bytes).bind
  intro _ there
  apply (within_take there).map
  intro p left
  exact left

private theorem within_size (sizeClass : Nat) (bytes : Bytes) :
    Within (fun p => p.2.length ≤ bytes.length) (size sizeClass bytes) := by
  have field (n : Nat) : Within (fun p => p.2.length ≤ bytes.length)
      ((guardedWord n bytes).map fun p => (p.1.toNat, p.2)) := by
    apply (within_guardedWord n bytes).map
    intro p left
    show p.2.length ≤ bytes.length
    omega
  unfold size
  split
  · exact field 1
  · exact field 2
  · exact field 4
  · rfl

private theorem within_sized (sizeClass : Nat) (bytes : Bytes) :
    Within (fun p => p.2.length ≤ bytes.length) (sized sizeClass bytes) := by
  apply (within_size sizeClass bytes).bind
  rintro ⟨n, rest⟩ shorter
  apply (within_ensure n rest).bind
  intro _ there
  apply (within_take there).mono
  intro p left
  show p.2.length ≤ bytes.length
  have : rest.length ≤ bytes.length := shorter
  omega

end Read

/-! ### The reader of elements -/

namespace Element

variable {inner : Bytes → Except Fault (List Element)}

private theorem within_decodeBody (contents : ∀ bytes, Within (fun _ => True) (inner bytes))
    (typeNumber sizeClass : Nat) (bytes : Bytes) :
    Within (fun p => p.2.length ≤ bytes.length)
      (decodeBody inner typeNumber sizeClass bytes) := by
  have word {n : Nat} (f : BitVec (8 * n) → Element) :
      Within (fun p => p.2.length ≤ bytes.length)
        ((Read.guardedWord n bytes).map fun p => (f p.1, p.2)) := by
    apply (Read.within_guardedWord n bytes).map
    intro p left
    show p.2.length ≤ bytes.length
    omega
  have text (kind : StringKind) :
      Within (fun p => p.2.length ≤ bytes.length)
        ((Read.sized sizeClass bytes).map fun p => (string kind p.1, p.2)) := by
    apply (Read.within_sized sizeClass bytes).map
    intro p left
    exact left
  have members (kind : ListKind) :
      Within (fun p => p.2.length ≤ bytes.length)
        ((Read.sized sizeClass bytes).bind fun p =>
          (inner p.1).map fun ms => (list kind ms, p.2)) := by
    apply (Read.within_sized sizeClass bytes).bind
    intro p left
    apply (contents p.1).map
    intro _ _
    exact left
  unfold decodeBody
  split <;> first
    | exact word _
    | exact word (n := 2) fun v => uuid (.short v)
    | exact word (n := 4) fun v => uuid (.medium v)
    | exact word (n := 16) fun v => uuid (.full v)
    | exact word fun v => bool (v != 0)
    | exact text _
    | exact members _
    | exact Nat.le_refl _
    | rfl

/-- An element takes at least one byte. -/
theorem consumes_decodeWith (contents : ∀ bytes, Within (fun _ => True) (inner bytes)) :
    Read.Consumes (decodeWith inner) := by
  intro bytes
  apply (Read.within_guardedWord 1 bytes).bind
  rintro ⟨first, rest⟩ left
  apply (within_decodeBody contents _ _ rest).mono
  intro p shorter
  show p.2.length < bytes.length
  have : rest.length + 1 = bytes.length := left
  omega

end Element

/-! ### Operations with a bound -/

namespace Checked

/-- Adds two numbers within 32 bits, the narrower of the machine words that sizes are held in. -/
def add (a b : Nat) : Except Fault Nat :=
  if a + b < 2 ^ 32 then .ok (a + b) else .error .overrun

/-- Shifts a word up by less than its width. -/
def shiftLeft {w : Nat} (v : BitVec w) (n : Nat) : Except Fault (BitVec w) :=
  if n < w then .ok (v <<< n) else .error .overrun

/-- Shifts a word down by less than its width. -/
def shiftRight {w : Nat} (v : BitVec w) (n : Nat) : Except Fault (BitVec w) :=
  if n < w then .ok (v >>> n) else .error .overrun

/-- Reads one value after another until the bytes are used up. More rounds than the given number
pass the bound. -/
def rounds {α : Type} (item : Bytes → Reading α) : Nat → Bytes → Except Fault (List α)
  | _, [] => .ok []
  | 0, _ :: _ => .error .overrun
  | n + 1, b :: bytes => (item (b :: bytes)).bind fun (a, rest) => (rounds item n rest).map (a :: ·)

/-- Reads the contents of a list at a depth, which are the next `n` bytes. -/
def elements (item : Bytes → Reading Element) (depth n : Nat) (bytes : Bytes) :
    Reading (List Element) :=
  if maxNesting < depth then .error .malformed
  else
    (Read.ensure n bytes).bind fun _ => (Read.take n bytes).bind fun (content, rest) =>
      (rounds item content.length content).map fun members => (members, rest)

/-- Reads an element. The contents of a list are read with `lists`, which is told how many bytes
they take. -/
def decodeWith (lists : Nat → Bytes → Reading (List Element)) (bytes : Bytes) : Reading Element :=
  (Read.guardedWord 1 bytes).bind fun (first, rest) =>
    (shiftRight (first &&& 0xF8#8) 3).bind fun typeNumber =>
      let sizeClass := (first &&& 0x07#8).toNat
      let listOf (kind : ListKind) : Reading Element :=
        (Read.size sizeClass rest).bind fun (n, rest) =>
          (lists n rest).map fun (members, rest) => (.list kind members, rest)
      match typeNumber.toNat with
      | 6 => listOf .sequence
      | 7 => listOf .alternative
      | other => Element.decodeBody (fun _ => .error .malformed) other sizeClass rest

/-- Reads an element that stands in lists of the given depth. The contents of a list take one more
call, and `room` calls may be under way one inside the other. -/
def decode : (room depth : Nat) → Bytes → Reading Element
  | 0, _ => decodeWith fun _ _ => .error .overrun
  | room + 1, depth => decodeWith fun n bytes =>
    (add depth 1).bind fun below => elements (decode room below) below n bytes

/-! ### No bound is passed -/

section Loop

variable {α : Type} {item : Bytes → Reading α}

private theorem within_rounds (consumes : Read.Consumes item) {n : Nat} {bytes : Bytes}
    (enough : bytes.length ≤ n) : Within (fun _ => True) (rounds item n bytes) := by
  induction n generalizing bytes with
  | zero =>
    rw [List.length_eq_zero_iff.mp (Nat.le_zero.mp enough)]
    trivial
  | succ n ih =>
    cases bytes with
    | nil => trivial
    | cons b bytes =>
      apply (consumes (b :: bytes)).bind
      intro p shorter
      have left : p.2.length ≤ n := Nat.le_of_lt_succ (Nat.lt_of_lt_of_le shorter enough)
      apply (ih left).map
      intro _ _
      trivial

/-- As many rounds as there are bytes are enough for a loop over items of at least one byte. -/
theorem membersOnto_eq_rounds (consumes : Read.Consumes item) {n : Nat} {bytes : Bytes}
    (enough : bytes.length ≤ n) (found : List α) :
    Read.membersOnto item found n bytes =
      (rounds item n bytes).map fun members => found.reverse ++ members := by
  induction n generalizing bytes found with
  | zero =>
    rw [List.length_eq_zero_iff.mp (Nat.le_zero.mp enough)]
    simp [Read.membersOnto, rounds, Except.map]
  | succ n ih =>
    cases bytes with
    | nil => simp [Read.membersOnto, rounds, Except.map]
    | cons b bytes =>
      have here := consumes (b :: bytes)
      rw [Read.membersOnto, rounds]
      cases read : item (b :: bytes) with
      | error fault => rfl
      | ok p =>
        obtain ⟨a, rest⟩ := p
        rw [read] at here
        have left : rest.length ≤ n := Nat.le_of_lt_succ (Nat.lt_of_lt_of_le here enough)
        simp only [Except.bind, ih left]
        cases rounds item n rest with
        | error fault => rfl
        | ok members => simp [Except.map]
      · simp

/-- A reader of members never needs more rounds than there are bytes. -/
theorem rounds_eq_members (consumes : Read.Consumes item) (bytes : Bytes) :
    rounds item bytes.length bytes = Read.members item bytes := by
  rw [Read.members, membersOnto_eq_rounds consumes (Nat.le_refl _)]
  cases rounds item bytes.length bytes <;> rfl

end Loop

end Checked

/-- Every element takes at least one byte. -/
theorem Element.consumes_decodeAt (levels : Nat) : Read.Consumes (decodeAt levels) := by
  induction levels with
  | zero =>
    apply consumes_decodeWith
    intro contents
    rfl
  | succ levels ih =>
    apply consumes_decodeWith
    intro contents
    rw [← Checked.rounds_eq_members ih]
    exact Checked.within_rounds ih (Nat.le_refl _)

namespace Checked

-- Type number and size class stand in the upper five and the lower three bits.
private theorem descriptor_parts : ∀ first : BitVec 8,
    shiftRight (first &&& 0xF8#8) 3 = .ok ((first &&& 0xF8#8) >>> 3) ∧
      ((first &&& 0xF8#8) >>> 3).toNat = first.toNat / 8 ∧
      (first &&& 0x07#8).toNat = first.toNat % 8 := by
  intro first
  refine ⟨if_pos (by decide), ?_, ?_⟩
  · revert first; decide +kernel
  · exact Nat.and_two_pow_sub_one_eq_mod first.toNat 3

/-- What is not a list is read without what reads the contents of lists. -/
theorem decodeBody_of_ne {typeNumber : Nat} (sequence : typeNumber ≠ 6)
    (alternative : typeNumber ≠ 7) (inner inner' : Bytes → Except Fault (List Element))
    (sizeClass : Nat) (bytes : Bytes) :
    Element.decodeBody inner typeNumber sizeClass bytes =
      Element.decodeBody inner' typeNumber sizeClass bytes := by
  unfold Element.decodeBody
  split <;> first | rfl | contradiction

section Contents

variable {lists : Nat → Bytes → Reading (List Element)} {inner : Bytes → Except Fault (List Element)}

/-- The contents of a list are cut out by `lists` and read with `inner`. -/
def Cuts (lists : Nat → Bytes → Reading (List Element))
    (inner : Bytes → Except Fault (List Element)) : Prop :=
  ∀ n bytes, lists n bytes = (Read.ensure n bytes).bind fun _ =>
    (Read.take n bytes).bind fun p => (inner p.1).map fun members => (members, p.2)

-- Cutting out the contents of a list before or within their reader comes to the same.
private theorem sized_list (cut : Cuts lists inner) (kind : ListKind) (sizeClass : Nat)
    (bytes : Bytes) :
    ((Read.size sizeClass bytes).bind fun p =>
        (lists p.1 p.2).map fun q => (Element.list kind q.1, q.2)) =
      (Read.sized sizeClass bytes).bind fun p =>
        (inner p.1).map fun members => (Element.list kind members, p.2) := by
  rw [Read.sized]
  cases Read.size sizeClass bytes with
  | error fault => rfl
  | ok p =>
    simp only [Except.bind, cut p.1 p.2]
    cases Read.ensure p.1 p.2 with
    | error fault => rfl
    | ok u =>
      cases Read.take p.1 p.2 with
      | error fault => rfl
      | ok q => cases read : inner q.1 <;> simp [Except.map, read]

/-- The readers of elements agree if those of the contents of lists do. -/
theorem decodeWith_eq (cut : Cuts lists inner) (bytes : Bytes) :
    decodeWith lists bytes = Element.decodeWith inner bytes := by
  unfold decodeWith Element.decodeWith
  cases Read.guardedWord 1 bytes with
  | error fault => rfl
  | ok p =>
    obtain ⟨first, rest⟩ := p
    obtain ⟨shifted, high, low⟩ := descriptor_parts first
    simp only [Except.bind, shifted, high, low]
    split
    · next six =>
      rw [six]
      exact sized_list cut .sequence _ rest
    · next seven =>
      rw [seven]
      exact sized_list cut .alternative _ rest
    · next sequence alternative => exact decodeBody_of_ne sequence alternative _ _ _ _

end Contents

private theorem add_one {depth : Nat} (h : depth ≤ maxNesting) : add depth 1 = .ok (depth + 1) := by
  rw [maxNesting] at h
  exact if_pos (by omega)

/-- At a depth from which `levels` more are allowed, room for one call more than these is enough. -/
theorem decode_eq_decodeAt {levels depth : Nat} (h : depth + levels = maxNesting) :
    decode (levels + 1) depth = Element.decodeAt levels := by
  induction levels generalizing depth with
  | zero =>
    funext bytes
    apply decodeWith_eq
    intro n bytes
    have deep : maxNesting < depth + 1 := by omega
    rw [add_one (by omega)]
    show elements _ (depth + 1) n bytes = _
    rw [elements, if_pos deep]
    -- The contents are refused at this depth whether they are there or not.
    by_cases covered : bytes.covers n <;>
      simp [Read.ensure, Read.take, covered, Except.bind, Except.map]
  | succ levels ih =>
    funext bytes
    apply decodeWith_eq
    intro n bytes
    have shallow : ¬ maxNesting < depth + 1 := by omega
    have inner : decode (levels + 1) (depth + 1) = Element.decodeAt levels := ih (by omega)
    rw [add_one (by omega)]
    show elements _ (depth + 1) n bytes = _
    rw [elements, if_neg shallow, inner]
    simp only [rounds_eq_members (Element.consumes_decodeAt levels)]

/-- With room for 33 calls for the contents of lists no bound is passed. -/
theorem decode_eq : decode 33 0 = Element.decode :=
  decode_eq_decodeAt (show 0 + maxNesting = maxNesting from Nat.zero_add _)

-- Room for one call less is not enough for every byte string.
example : decode 32 0 (Element.nest .sequence 33 .null).encode = .error .overrun := by
  decide +kernel

end Checked

end A2dpSink.Sdp
