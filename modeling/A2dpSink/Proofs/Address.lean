import A2dpSink.Address
import Mathlib

/-!
# Addresses as text

A text spells an address if it is the written form of the address, in capital or small letters, with
white space around it. Whatever spells an address is read as that address (`parse_spelt`). The
converse fails (`not_faithful`): an octet below sixteen is also read from a plus sign and one digit.
That is all that is read beyond the spellings (`parse_accepts`).
-/

namespace A2dpSink

namespace Text.Hex

/-! ### Hexadecimal digits -/

private theorem ascii_of_value? {c : Char} {n : Nat} (h : value? c = some n) :
    c.toNat < 128 ∧ n < 16 := by
  unfold value? at h
  split at h
  · next decimal =>
    have last : c.toNat ≤ 57 := UInt32.le_iff_toNat_le.mp decimal.2
    obtain rfl := Option.some.inj h
    omega
  · split at h
    · next small =>
      have last : c.toNat ≤ 102 := UInt32.le_iff_toNat_le.mp small.2
      obtain rfl := Option.some.inj h
      omega
    · split at h
      · next capital =>
        have last : c.toNat ≤ 70 := UInt32.le_iff_toNat_le.mp capital.2
        obtain rfl := Option.some.inj h
        omega
      · cases h

private theorem ascii_of_toUpper {c : Char} {n : Nat} (small : n < 16)
    (h : c.toUpper = digit .upper n) : c.toNat < 128 := by
  by_cases lower : c.isLower = true
  · have bounds := lower
    simp only [Char.isLower, Bool.and_eq_true, decide_eq_true_eq] at bounds
    have last : c.toNat ≤ 122 := UInt32.le_iff_toNat_le.mp bounds.2
    omega
  · have capitals : ∀ n < 16, (digit .upper n).toNat < 128 := by decide
    rw [Char.toUpper_eq_of_not_isLower lower] at h
    exact h ▸ capitals n small

-- Neither digits nor what their capitals come from lie beyond ASCII, so a table decides.
private theorem value?_ascii : ∀ code < 128, ∀ n < 16,
    value? (Char.ofNat code) = some n ↔ (Char.ofNat code).toUpper = digit .upper n := by
  decide +kernel

/-- A digit has its value in either letter case, and nothing else has a value. -/
theorem value?_eq_some_iff {c : Char} {n : Nat} :
    value? c = some n ↔ n < 16 ∧ c.toUpper = digit .upper n := by
  constructor
  · intro h
    obtain ⟨ascii, small⟩ := ascii_of_value? h
    have table := value?_ascii c.toNat ascii n small
    rw [Char.ofNat_toNat] at table
    exact ⟨small, table.mp h⟩
  · rintro ⟨small, h⟩
    have table := value?_ascii c.toNat (ascii_of_toUpper small h) n small
    rw [Char.ofNat_toNat] at table
    exact table.mpr h

private theorem fixed_two (letters : Case) (n : Nat) :
    fixed letters 2 n = [digit letters (n / 16 % 16), digit letters (n % 16)] := rfl

/-- Digits are no white space, and neither signs nor colons. -/
theorem apart_of_value? {c : Char} {n : Nat} (h : value? c = some n) :
    Visible.isBlank c = false ∧ c ≠ '+' ∧ c ≠ ':' := by
  have table : ∀ code < 128, value? (Char.ofNat code) ≠ none →
      Visible.isBlank (Char.ofNat code) = false ∧ Char.ofNat code ≠ '+' ∧
        Char.ofNat code ≠ ':' := by
    decide +kernel
  have digit := table c.toNat (ascii_of_value? h).1
  rw [Char.ofNat_toNat] at digit
  exact digit (by rw [h]; simp)

end Text.Hex

namespace Address

open Text (Hex.value? Visible.isBlank)

/-! ### White space -/

/-- A text is trimmed by taking white space off its ends. -/
theorem exists_eq_trim (text : List Char) : ∃ before after,
    text = before ++ trim text ++ after ∧
      (∀ c ∈ before, Visible.isBlank c = true) ∧ ∀ c ∈ after, Visible.isBlank c = true := by
  refine ⟨text.takeWhile Visible.isBlank,
    (text.dropWhile Visible.isBlank).rtakeWhile Visible.isBlank, ?_, ?_, ?_⟩
  · show text = _ ++ (text.dropWhile Visible.isBlank).rdropWhile Visible.isBlank ++ _
    rw [List.append_assoc, List.rdropWhile_append_rtakeWhile, List.takeWhile_append_dropWhile]
  · exact fun c there => List.mem_takeWhile_imp there
  · exact fun c there => List.mem_rtakeWhile_imp there

/-- White space at the ends of a text without white space is all that is taken off. -/
theorem trim_append {before text after : List Char}
    (front : ∀ c ∈ before, Visible.isBlank c = true) (back : ∀ c ∈ after, Visible.isBlank c = true)
    (solid : ∀ c ∈ text, Visible.isBlank c = false) : trim (before ++ text ++ after) = text := by
  have keeps (t : List Char) (solid : ∀ c ∈ t, Visible.isBlank c = false) (rest : List Char)
      (ne_nil : t ≠ []) : (t ++ rest).dropWhile Visible.isBlank = t ++ rest := by
    obtain ⟨c, t, rfl⟩ := List.exists_cons_of_ne_nil ne_nil
    rw [List.cons_append, List.dropWhile_cons_of_neg]
    simp [solid c List.mem_cons_self]
  rw [trim, List.append_assoc, List.dropWhile_append_of_pos front]
  by_cases empty : text = []
  · subst empty
    rw [List.nil_append, List.dropWhile_eq_nil_iff.mpr back]
    rfl
  · rw [keeps text solid after empty, List.reverse_append,
      List.dropWhile_append_of_pos (by simpa using back)]
    have turned := keeps text.reverse (by simpa using solid) [] (by simpa using empty)
    rw [List.append_nil] at turned
    rw [turned, List.reverse_reverse]

/-! ### Octets between colons -/

private theorem parts_eq_splitOn (text : List Char) : parts text = text.splitOn ':' := by
  induction text with
  | nil => rfl
  | cons c text ih =>
    rw [List.splitOn_cons_eq_if_modifyHead, parts, ih]
    by_cases colon : c = ':'
    · simp [colon]
    · obtain ⟨part, more, split⟩ := List.exists_cons_of_ne_nil (List.splitOn_ne_nil ':' text)
      simp [colon, split]

private theorem intercalate_parts (text : List Char) : [':'].intercalate (parts text) = text := by
  rw [parts_eq_splitOn]
  exact List.intercalate_splitOn ':'

private theorem parts_intercalate {octets : List (List Char)} (ne_nil : octets ≠ [])
    (clean : ∀ part ∈ octets, ':' ∉ part) : parts ([':'].intercalate octets) = octets := by
  rw [parts_eq_splitOn]
  exact List.splitOn_intercalate ':' clean ne_nil

/-- What is no colon stands in octets with colons between if it stands in one of the octets. -/
theorem mem_intercalate_iff {octets : List (List Char)} {c : Char} (other : c ≠ ':') :
    c ∈ [':'].intercalate octets ↔ ∃ part ∈ octets, c ∈ part := by
  induction octets with
  | nil => simp
  | cons part octets ih =>
    cases octets with
    | nil => simp
    | cons next more =>
      rw [List.intercalate_cons_cons, List.append_assoc, List.mem_append, List.singleton_append,
        List.mem_cons, ih, or_iff_right other]
      simp only [List.exists_mem_cons_iff]

/-- An octet of two characters stands behind three for each octet before it. -/
theorem take_drop_intercalate {octets : List (List Char)}
    (pairs : ∀ part ∈ octets, part.length = 2) {k : Nat} (h : k < octets.length) :
    (([':'].intercalate octets).drop (3 * k)).take 2 = octets[k] := by
  induction octets generalizing k with
  | nil => cases h
  | cons part octets ih =>
    have pair : part.length = 2 := pairs part List.mem_cons_self
    have others : ∀ part ∈ octets, part.length = 2 :=
      fun other listed => pairs other (List.mem_cons_of_mem part listed)
    cases octets with
    | nil =>
      obtain rfl : k = 0 := Nat.lt_one_iff.mp h
      rw [List.intercalate_singleton]
      exact List.take_of_length_le (Nat.le_of_eq pair)
    | cons next more =>
      rw [List.intercalate_cons_cons]
      cases k with
      | zero =>
        rw [List.append_assoc]
        exact List.take_left' pair
      | succ k =>
        have front : (part ++ [':']).length = 3 := by simp [pair]
        have place : 3 * (k + 1) = (part ++ [':']).length + 3 * k := by omega
        rw [place, ← List.drop_drop, List.drop_left, ih others (Nat.lt_of_succ_lt_succ h)]
        rfl

private theorem toUpper_eq_colon {c : Char} : c.toUpper = ':' ↔ c = ':' := by
  by_cases lower : c.isLower = true
  · have capital := Char.isUpper_toUpper_eq_isAlpha c
    constructor
    · intro h
      rw [h] at capital
      simp [Char.isAlpha, lower] at capital
    · rintro rfl
      cases lower
  · rw [Char.toUpper_eq_of_not_isLower lower]

/-- Capital letters stand in the same parts. -/
theorem parts_map_toUpper (text : List Char) :
    parts (text.map Char.toUpper) = (parts text).map (List.map Char.toUpper) := by
  induction text with
  | nil => rfl
  | cons c text ih =>
    rw [List.map_cons, parts, parts, ih]
    by_cases colon : c = ':'
    · rw [if_pos colon, if_pos (toUpper_eq_colon.mpr colon)]
      rfl
    · rw [if_neg colon, if_neg (mt toUpper_eq_colon.mp colon)]
      cases parts text with
      | nil => rfl
      | cons part more => rfl

/-! ### Digits of octets -/

/-- The two digits of an octet, in either letter case. -/
def Shows (part : List Char) (octet : UInt8) : Prop :=
  part.map Char.toUpper = Text.Hex.fixed .upper 2 octet.toNat

private theorem shows_pair {high low : Char} {octet : UInt8} : Shows [high, low] octet ↔
    Text.Hex.value? high = some (octet.toNat / 16) ∧
      Text.Hex.value? low = some (octet.toNat % 16) := by
  have bound : octet.toNat < 256 := octet.toNat_lt
  have top : octet.toNat / 16 < 16 := by omega
  have bottom : octet.toNat % 16 < 16 := by omega
  rw [Shows, Text.Hex.fixed_two, Text.Hex.value?_eq_some_iff, Text.Hex.value?_eq_some_iff,
    Nat.mod_eq_of_lt top]
  simp [top, bottom]

private theorem Shows.exists_eq {part : List Char} {octet : UInt8} (h : Shows part octet) :
    ∃ high low, part = [high, low] := by
  have length := congrArg List.length h
  rw [List.length_map, Text.Hex.fixed_two] at length
  exact List.length_eq_two.mp length

/-- What stands in the digits of an octet. -/
theorem Shows.apart {part : List Char} {octet : UInt8} (h : Shows part octet) {c : Char}
    (there : c ∈ part) : Visible.isBlank c = false ∧ c ≠ '+' ∧ c ≠ ':' := by
  obtain ⟨high, low, rfl⟩ := h.exists_eq
  obtain ⟨top, bottom⟩ := shows_pair.mp h
  rcases List.mem_pair.mp there with rfl | rfl
  · exact Text.Hex.apart_of_value? top
  · exact Text.Hex.apart_of_value? bottom

/-- What is read as an octet: its two digits, or its last one behind a plus sign that stands for a
zero. -/
def Reads (part : List Char) (octet : UInt8) : Prop :=
  Shows part octet ∨ ∃ digit, part = ['+', digit] ∧ Shows ['0', digit] octet

private theorem Reads.apart {part : List Char} {octet : UInt8} (h : Reads part octet) {c : Char}
    (there : c ∈ part) : Visible.isBlank c = false ∧ c ≠ ':' := by
  rcases h with shown | ⟨digit, rfl, shown⟩
  · exact ⟨(shown.apart there).1, (shown.apart there).2.2⟩
  · rcases List.mem_pair.mp there with rfl | rfl
    · decide
    · have last := shown.apart (c := c) (by simp)
      exact ⟨last.1, last.2.2⟩

private theorem octet?_eq_some_iff {part : List Char} {octet : UInt8} :
    octet? part = some octet ↔ Reads part octet := by
  have bound : octet.toNat < 256 := octet.toNat_lt
  constructor
  · intro h
    unfold octet? at h
    split at h
    · next high low =>
      split at h
      · next sign =>
        -- Behind the sign there is room for the lower digit only.
        obtain ⟨n, value, rfl⟩ := Option.map_eq_some_iff.mp h
        have small := (Text.Hex.value?_eq_some_iff.mp value).1
        have whole : (UInt8.ofNat n).toNat = n := Nat.mod_eq_of_lt (by omega)
        refine .inr ⟨low, by rw [sign], shows_pair.mpr ⟨?_, ?_⟩⟩
        · rw [whole, Nat.div_eq_of_lt small]
          rfl
        · rw [whole, Nat.mod_eq_of_lt small]
          exact value
      · obtain ⟨top, first, h⟩ := Option.bind_eq_some_iff.mp h
        obtain ⟨bottom, second, h⟩ := Option.bind_eq_some_iff.mp h
        obtain rfl := Option.some.inj h
        have high_ := (Text.Hex.value?_eq_some_iff.mp first).1
        have low_ := (Text.Hex.value?_eq_some_iff.mp second).1
        have whole : (UInt8.ofNat (16 * top + bottom)).toNat = 16 * top + bottom :=
          Nat.mod_eq_of_lt (by omega)
        have quotient : (16 * top + bottom) / 16 = top := by omega
        have remainder : (16 * top + bottom) % 16 = bottom := by omega
        refine .inl (shows_pair.mpr ?_)
        rw [whole, quotient, remainder]
        exact ⟨first, second⟩
    · cases h
  · rintro (shown | ⟨digit, rfl, shown⟩)
    · obtain ⟨high, low, rfl⟩ := shown.exists_eq
      obtain ⟨first, second⟩ := shows_pair.mp shown
      have unsigned : high ≠ '+' := (Text.Hex.apart_of_value? first).2.1
      have whole : 16 * (octet.toNat / 16) + octet.toNat % 16 = octet.toNat := by omega
      simp only [octet?, unsigned, if_false, first, second, Option.bind_eq_bind, Option.bind_some,
        whole, UInt8.ofNat_toNat, Option.pure_def]
    · obtain ⟨first, second⟩ := shows_pair.mp shown
      have zero : octet.toNat / 16 = 0 := (Option.some.inj first).symm
      have whole : octet.toNat % 16 = octet.toNat := by omega
      simp only [octet?, if_true, second, Option.map_some, whole, UInt8.ofNat_toNat]

/-! ### Six octets -/

private theorem ofOctets?_eq_some_iff {octets : Bytes} {a : Address} :
    ofOctets? octets = some a ↔ octets = a.toBytes := by
  unfold ofOctets?
  constructor
  · intro h
    split at h
    · obtain rfl := Option.some.inj h
      rfl
    · cases h
  · rintro rfl
    rw [dif_pos (by simp [toBytes])]
    rfl

private theorem mapM_octet?_eq_some_iff {octets : List (List Char)} {bytes : Bytes} :
    octets.mapM octet? = some bytes ↔ List.Forall₂ Reads octets bytes := by
  induction octets generalizing bytes with
  | nil => simp [eq_comm]
  | cons part octets ih =>
    rw [List.mapM_cons, List.forall₂_cons_left_iff]
    constructor
    · intro h
      obtain ⟨octet, first, h⟩ := Option.bind_eq_some_iff.mp h
      obtain ⟨others, rest, h⟩ := Option.bind_eq_some_iff.mp h
      exact ⟨octet, others, octet?_eq_some_iff.mp first, ih.mp rest, (Option.some.inj h).symm⟩
    · rintro ⟨octet, others, first, rest, rfl⟩
      simp [octet?_eq_some_iff.mpr first, ih.mpr rest]

private theorem parse?_eq_some_iff {text : String} {a : Address} :
    parse? text = some a ↔ List.Forall₂ Reads (parts (trim text.toList)) a.toBytes.reverse := by
  rw [parse?, ← mapM_octet?_eq_some_iff]
  constructor
  · intro h
    obtain ⟨octets, read, h⟩ := Option.bind_eq_some_iff.mp h
    rw [ofOctets?_eq_some_iff] at h
    rw [read, ← h, List.reverse_reverse]
  · intro read
    rw [read]
    show ofOctets? a.toBytes.reverse.reverse = some a
    rw [List.reverse_reverse, ofOctets?_eq_some_iff]

private theorem parse_eq_ok_iff {text : String} {a : Address} :
    parse text = .ok a ↔ parse? text = some a := by
  unfold parse
  cases parse? text <;> simp

/-! ### Spellings -/

/-- A text is white space and nothing else. -/
def Blank (text : List Char) : Prop := ∀ c ∈ text, Visible.isBlank c = true

/-- A text spells an address: without the white space around it, it is the written form of the
address in either case of the letters. -/
def Spells (text : String) (a : Address) : Prop :=
  ∃ before written after, text.toList = before ++ written ++ after ∧ Blank before ∧ Blank after ∧
    written.map Char.toUpper = a.text.toList

/-- A text that is read as an address: octets with colons between, most significant first, and white
space around them. -/
def Accepts (text : String) (a : Address) : Prop :=
  ∃ before octets after, text.toList = before ++ [':'].intercalate octets ++ after ∧ Blank before ∧
    Blank after ∧ List.Forall₂ Reads octets a.toBytes.reverse

private theorem toList_text (a : Address) : a.text.toList =
    [':'].intercalate (a.toBytes.reverse.map fun octet => Text.Hex.fixed .upper 2 octet.toNat) := by
  have digits : a.toBytes.reverse.map (String.toList ∘ fun octet => Text.Hex.upper 2 octet.toNat) =
      a.toBytes.reverse.map fun octet => Text.Hex.fixed .upper 2 octet.toNat :=
    List.map_congr_left fun octet _ => String.toList_ofList
  rw [text, String.toList_intercalate, List.map_map, digits]
  rfl

private theorem shows_fixed (octet : UInt8) :
    Shows (Text.Hex.fixed .upper 2 octet.toNat) octet := by
  have capital : ∀ n < 16, (Text.Hex.digit .upper n).toUpper = Text.Hex.digit .upper n := by decide
  rw [Shows, Text.Hex.fixed_two, List.map_cons, List.map_cons, List.map_nil,
    capital _ (Nat.mod_lt _ (by decide)), capital _ (Nat.mod_lt _ (by decide))]

private theorem map_toUpper_eq_iff {written : List Char} {a : Address} :
    written.map Char.toUpper = a.text.toList ↔
      List.Forall₂ Shows (parts written) a.toBytes.reverse := by
  have capitals : List.Forall₂ Shows (parts written) a.toBytes.reverse ↔
      (parts written).map (List.map Char.toUpper) =
        a.toBytes.reverse.map fun octet => Text.Hex.fixed .upper 2 octet.toNat := by
    rw [← List.forall₂_eq_eq_eq, List.forall₂_map_left_iff, List.forall₂_map_right_iff]
    rfl
  rw [capitals, ← parts_map_toUpper, toList_text]
  constructor
  · intro same
    rw [same, parts_intercalate]
    · simp [toBytes]
    · intro part listed colon
      obtain ⟨octet, -, rfl⟩ := List.mem_map.mp listed
      exact ((shows_fixed octet).apart colon).2.2 rfl
  · intro same
    rw [← same, intercalate_parts]

private theorem exists_of_mem {R : List Char → UInt8 → Prop} {octets : List (List Char)}
    {bytes : Bytes} (h : List.Forall₂ R octets bytes) {part : List Char} (listed : part ∈ octets) :
    ∃ octet, R part octet := by
  obtain ⟨i, bound, rfl⟩ := List.getElem_of_mem listed
  exact ⟨_, h.get bound (h.length_eq ▸ bound)⟩

/-- Octets that are read stand between the colons. -/
theorem parts_intercalate_of_reads {octets : List (List Char)} {a : Address}
    (h : List.Forall₂ Reads octets a.toBytes.reverse) :
    parts ([':'].intercalate octets) = octets := by
  apply parts_intercalate
  · rintro rfl
    have length := h.length_eq
    simp [toBytes] at length
  · intro part listed colon
    obtain ⟨octet, read⟩ := exists_of_mem h listed
    exact (read.apart colon).2 rfl

/-- A text spells an address if it is the digits of the octets, with colons between and white space
around. -/
theorem spells_iff {text : String} {a : Address} : Spells text a ↔
    ∃ before octets after, text.toList = before ++ [':'].intercalate octets ++ after ∧
      Blank before ∧ Blank after ∧ List.Forall₂ Shows octets a.toBytes.reverse := by
  constructor
  · rintro ⟨before, written, after, eq, front, back, shown⟩
    refine ⟨before, parts written, after, ?_, front, back, map_toUpper_eq_iff.mp shown⟩
    rw [intercalate_parts, eq]
  · rintro ⟨before, octets, after, eq, front, back, shown⟩
    refine ⟨before, _, after, eq, front, back, map_toUpper_eq_iff.mpr ?_⟩
    rwa [parts_intercalate_of_reads (shown.imp fun _ _ => .inl)]

private theorem Spells.accepts {text : String} {a : Address} (h : Spells text a) :
    Accepts text a := by
  obtain ⟨before, octets, after, eq, front, back, shown⟩ := spells_iff.mp h
  exact ⟨before, octets, after, eq, front, back, shown.imp fun _ _ => .inl⟩

private theorem Spells.plus_not_mem {text : String} {a : Address} (h : Spells text a) :
    '+' ∉ text.toList := by
  obtain ⟨before, octets, after, eq, front, back, shown⟩ := spells_iff.mp h
  have visible : Visible.isBlank '+' = false := by decide
  intro plus
  rw [eq, List.mem_append, List.mem_append] at plus
  rcases plus with (there | there) | there
  · rw [front _ there] at visible
    cases visible
  · obtain ⟨part, listed, there⟩ := (mem_intercalate_iff (by decide)).mp there
    obtain ⟨octet, shown⟩ := exists_of_mem shown listed
    exact (shown.apart there).2.1 rfl
  · rw [back _ there] at visible
    cases visible

/-- What is accepted without a plus sign spells the address. -/
theorem Accepts.spells {text : String} {a : Address} (h : Accepts text a)
    (unsigned : '+' ∉ text.toList) : Spells text a := by
  obtain ⟨before, octets, after, eq, front, back, read⟩ := h
  have clean : ∀ part ∈ octets, '+' ∉ part := by
    intro part listed plus
    apply unsigned
    rw [eq, List.mem_append, List.mem_append]
    exact .inl (.inr ((mem_intercalate_iff (by decide)).mpr ⟨part, listed, plus⟩))
  refine spells_iff.mpr ⟨before, octets, after, eq, front, back, ?_⟩
  rw [List.forall₂_iff_get] at read ⊢
  refine ⟨read.1, fun i bound bound' => ?_⟩
  rcases read.2 i bound bound' with shown | ⟨digit, signed, -⟩
  · exact shown
  · exact absurd (signed ▸ List.mem_cons_self) (clean _ (List.get_mem octets ⟨i, bound⟩))

/-- A text is read as the address that it is accepted for, and as no other. -/
theorem parse_eq_ok_iff_accepts {text : String} {a : Address} :
    parse text = .ok a ↔ Accepts text a := by
  rw [parse_eq_ok_iff, parse?_eq_some_iff]
  constructor
  · intro read
    obtain ⟨before, after, eq, front, back⟩ := exists_eq_trim text.toList
    refine ⟨before, parts (trim text.toList), after, ?_, front, back, read⟩
    rw [intercalate_parts]
    exact eq
  · rintro ⟨before, octets, after, eq, front, back, read⟩
    -- Nothing that is read is white space, so trimming stops at the octets.
    have solid : ∀ c ∈ [':'].intercalate octets, Visible.isBlank c = false := by
      intro c there
      by_cases colon : c = ':'
      · subst colon
        decide
      · obtain ⟨part, listed, there⟩ := (mem_intercalate_iff colon).mp there
        obtain ⟨octet, read⟩ := exists_of_mem read listed
        exact (read.apart there).1
    rwa [eq, trim_append front back solid, parts_intercalate_of_reads read]

/-! ### What is read -/

/-- A text is taken for what it spells only: it is read as an address that it spells, or refused
with the text as it was given. -/
def Faithful (text : String) : Prop :=
  (∀ a, parse text = .ok a → Spells text a) ∧
    ((∀ a, ¬ Spells text a) → parse text = .error ⟨text⟩)

/-- What is read is octets between colons, most significant first, with white space around. It is
faithful to the text unless a plus sign is read. -/
theorem parse_accepts (text : String) : (∀ a, parse text = .ok a ↔ Accepts text a) ∧
    (Faithful text ↔ ∀ a, parse text = .ok a → '+' ∉ text.toList) := by
  refine ⟨fun a => parse_eq_ok_iff_accepts, ?_⟩
  constructor
  · intro faithful a read
    exact (faithful.1 a read).plus_not_mem
  · intro unsigned
    have spelt (a : Address) (read : parse text = .ok a) : Spells text a :=
      (parse_eq_ok_iff_accepts.mp read).spells (unsigned a read)
    refine ⟨spelt, fun unspelt => ?_⟩
    cases read : parse? text with
    | some a => exact absurd (spelt a (parse_eq_ok_iff.mpr read)) (unspelt a)
    | none => rw [parse, read]

/-- The last octet is read although a plus sign is no digit. -/
theorem not_faithful : ¬ Faithful "00:11:22:33:44:+5" := by
  intro faithful
  have read : parse "00:11:22:33:44:+5" = .ok ⟨#v[5, 0x44, 0x33, 0x22, 0x11, 0]⟩ := by decide
  have plus : '+' ∈ "00:11:22:33:44:+5".toList := by decide
  exact (faithful.1 _ read).plus_not_mem plus

/-- Each stored octet is shown by two digits of the written form, the one that is stored last by the
first two. -/
theorem digits_of_capitals {written : List Char} {a : Address}
    (capitals : written.map Char.toUpper = a.text.toList) {i : Nat} (h : i < 6) :
    ((written.drop (3 * (5 - i))).take 2).map Text.Hex.value? =
      [some (a.octets[i].toNat / 16), some (a.octets[i].toNat % 16)] := by
  have shown := map_toUpper_eq_iff.mp capitals
  have six : a.toBytes.length = 6 := by simp [toBytes]
  have bound : 5 - i < (parts written).length := by
    rw [shown.length_eq, List.length_reverse]
    omega
  have pairs : ∀ part ∈ parts written, part.length = 2 := by
    intro part listed
    obtain ⟨octet, digits⟩ := exists_of_mem shown listed
    obtain ⟨high, low, rfl⟩ := digits.exists_eq
    rfl
  have place := take_drop_intercalate pairs bound
  rw [intercalate_parts] at place
  have octet : a.toBytes.reverse.get ⟨5 - i, shown.length_eq ▸ bound⟩ = a.octets[i] := by
    have turned : a.toBytes.length - 1 - (5 - i) = i := by omega
    rw [List.get_eq_getElem, List.getElem_reverse]
    simp only [turned]
    exact Vector.getElem_toList _
  have digits := shown.get bound (shown.length_eq ▸ bound)
  rw [octet, List.get_eq_getElem] at digits
  obtain ⟨high, low, pair⟩ := digits.exists_eq
  rw [pair] at digits
  obtain ⟨first, second⟩ := shows_pair.mp digits
  rw [place, pair, List.map_cons, List.map_cons, List.map_nil, first, second]

/-- An address is read from its written form, in whichever case the letters stand and whatever white
space is around. What is written first becomes the octet that is stored last. -/
theorem parse_spelt (a : Address) {before written after : String} (front : Blank before.toList)
    (back : Blank after.toList) (spelt : written.toUpper = a.text) :
    parse (before ++ written ++ after) = .ok a ∧
      ∀ i (h : i < 6), ((written.toList.drop (3 * (5 - i))).take 2).map Text.Hex.value? =
        [some (a.octets[i].toNat / 16), some (a.octets[i].toNat % 16)] := by
  have capitals : written.toList.map Char.toUpper = a.text.toList := by
    rw [← spelt, String.toUpper, String.toList_map]
  have spells : Spells (before ++ written ++ after) a :=
    ⟨before.toList, written.toList, after.toList, by simp, front, back, capitals⟩
  constructor
  · exact parse_eq_ok_iff_accepts.mpr spells.accepts
  · intro i h
    exact digits_of_capitals capitals h

/-- An address in either case of letters is read with white space around it. -/
theorem parse_spelt_padded :
    Blank "\t".toList ∧ Blank "\u00a0\n".toList ∧
      "00:1a:7D:da:71:13".toUpper = text ⟨#v[0x13, 0x71, 0xDA, 0x7D, 0x1A, 0]⟩ ∧
      parse "\t00:1a:7D:da:71:13\u00a0\n" = .ok ⟨#v[0x13, 0x71, 0xDA, 0x7D, 0x1A, 0]⟩ := by
  have front : Blank "\t".toList := by
    intro c there
    obtain rfl : c = '\t' := by simpa using there
    decide
  have back : Blank "\u00a0\n".toList := by
    intro c there
    have either : c = '\u00a0' ∨ c = '\n' := by simpa using there
    rcases either with rfl | rfl <;> decide
  have spelt : "00:1a:7D:da:71:13".toUpper = text ⟨#v[0x13, 0x71, 0xDA, 0x7D, 0x1A, 0]⟩ := by
    apply String.toList_injective
    rw [String.toUpper, String.toList_map]
    decide +kernel
  exact ⟨front, back, spelt, (parse_spelt _ front back spelt).1⟩

end Address

end A2dpSink
