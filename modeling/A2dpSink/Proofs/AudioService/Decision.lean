import A2dpSink.AudioService
import A2dpSink.Proofs.Sdp.Record.Views

/-!
# What makes a service

The role of a service, and everything else that is read from its record for a connection, are told
here by what stands in the attributes: which classes and profiles they list, and what the first
entries of the protocol stack have as parameters. Nothing of it goes through the views that records
are read with. `AudioService.decided` says that this is what is read, from any attributes.
-/

namespace A2dpSink

namespace Sdp.Attributes

variable (a : Attributes)

/-! ### What attributes say -/

/-- The class list, of either kind, holds a class in one of its widths. -/
def HasClass (u : Uuid) : Prop :=
  ∃ kind ms, a.get? .classIds = some (.list kind ms) ∧ ∃ v, .uuid v ∈ ms ∧ v ≈ u

/-- The profile list, of either kind, holds an entry of a profile. -/
def HasProfile (u : Uuid) : Prop :=
  ∃ kind ms, a.get? .profiles = some (.list kind ms) ∧
    ∃ e ∈ ms, ∃ entry, e.IsProfile entry ∧ entry.profile ≈ u

/-- The protocol stack: a sequence of entries, or the first of several alternatives. -/
inductive HasStack : List Element → Prop
  | only {entries : List Element} (h : a.get? .protocols = some (.sequence entries)) :
    HasStack entries
  | first {kind : ListKind} {entries others : List Element}
    (h : a.get? .protocols = some (.alternative (.list kind entries :: others))) : HasStack entries

/-- An entry is the first one of a protocol in the stack. What is no entry does not count. -/
def IsFirst (u : Uuid) (entry : ProtocolEntry) : Prop :=
  ∃ before e after, a.HasStack (before ++ e :: after) ∧ e.IsProtocol entry ∧ entry.protocol ≈ u ∧
    ∀ e' ∈ before, ∀ other, e'.IsProtocol other → ¬ other.protocol ≈ u

/-- The first entry of a protocol has a number from 1 to 65535 as its first parameter. -/
def Reaches (u : Uuid) (n : Nat) : Prop :=
  ∃ entry, a.IsFirst u entry ∧
    ∃ first others, entry.parameters = first :: others ∧ first.Tells n ∧ 1 ≤ n ∧ n ≤ 65535

/-- The audio profile, a channel and a transport version are there. -/
structure Resolves (psm version : Nat) : Prop where
  profile : a.HasProfile ServiceClass.advancedAudio
  channel : a.Reaches ServiceClass.l2cap psm
  transport : a.Reaches ServiceClass.avdtp version

/-- The features are given by a number of 16 bits. -/
def HasMask (n : Nat) : Prop :=
  ∃ value, a.get? .supportedFeatures = some value ∧ value.Tells n ∧ n ≤ 65535

end Sdp.Attributes

namespace Sdp.Record

variable {a : Attributes} {u : Uuid}

/-! ### What records find -/

/-- A record has the classes that its class list holds. -/
theorem hasClass_ofAttributes : (ofAttributes a).hasClass u = true ↔ a.HasClass u := by
  rw [hasClass, List.any_eq_true]
  constructor
  · rintro ⟨v, there, same⟩
    obtain ⟨kind, ms, listed, e, there, read⟩ := mem_listOf.mp there
    obtain rfl := Element.toUuid?_eq_some_iff.mp read
    exact ⟨kind, ms, listed, v, there, of_decide_eq_true same⟩
  · rintro ⟨kind, ms, listed, v, there, same⟩
    exact ⟨v, mem_listOf.mpr ⟨kind, ms, listed, .uuid v, there, rfl⟩, decide_eq_true same⟩

/-- A record has the profiles that its profile list holds. -/
theorem exists_profile?_ofAttributes :
    (∃ entry, (ofAttributes a).profile? u = some entry) ↔ a.HasProfile u := by
  rw [← Option.isSome_iff_exists, profile?, List.find?_isSome]
  constructor
  · rintro ⟨entry, there, same⟩
    obtain ⟨kind, ms, listed, e, there, read⟩ := mem_listOf.mp there
    exact ⟨kind, ms, listed, e, there, entry, ProfileEntry.ofElement?_eq_some_iff.mp read,
      of_decide_eq_true same⟩
  · rintro ⟨kind, ms, listed, e, there, entry, read, same⟩
    refine ⟨entry, mem_listOf.mpr ⟨kind, ms, listed, e, there, ?_⟩, decide_eq_true same⟩
    exact ProfileEntry.ofElement?_eq_some_iff.mpr read

/-- The protocols of a record are the entries of the stack that parse, if there is a stack. -/
theorem protocols_ofAttributes_of_hasStack {entries : List Element} (h : a.HasStack entries) :
    (ofAttributes a).protocols = entries.filterMap ProtocolEntry.ofElement? := by
  show stackOf (a.get? .protocols) = _
  cases h with
  | only h => rw [h]; rfl
  | first h => rw [h]; rfl

private theorem exists_hasStack_of_mem_protocols {entry : ProtocolEntry}
    (h : entry ∈ (ofAttributes a).protocols) : ∃ entries, a.HasStack entries := by
  change entry ∈ stackOf (a.get? .protocols) at h
  unfold stackOf at h
  split at h
  · next entries listed => exact ⟨entries, .only listed⟩
  · next choices listed =>
    split at h
    · next entries first =>
      obtain ⟨choice, head, members⟩ := Option.bind_eq_some_iff.mp first
      obtain ⟨kind, rfl⟩ := Element.members?_eq_some_iff.mp members
      obtain ⟨others, rfl⟩ := List.head?_eq_some_iff.mp head
      exact ⟨entries, .first listed⟩
    · cases h
  · cases h

/-- A record has the first entry of a protocol in its stack. -/
theorem protocol?_ofAttributes_eq_some_iff {entry : ProtocolEntry} :
    (ofAttributes a).protocol? u = some entry ↔ a.IsFirst u entry := by
  rw [protocol?]
  constructor
  · intro found
    obtain ⟨entries, stack⟩ := exists_hasStack_of_mem_protocols (List.mem_of_find?_eq_some found)
    rw [protocols_ofAttributes_of_hasStack stack] at found
    obtain ⟨before, e, after, rfl, read, same, none⟩ := find?_filterMap_eq_some_iff.mp found
    refine ⟨before, e, after, stack, ProtocolEntry.ofElement?_eq_some_iff.mp read,
      of_decide_eq_true same, ?_⟩
    intro e' there other read'
    exact of_decide_eq_false (none e' there other (ProtocolEntry.ofElement?_eq_some_iff.mpr read'))
  · rintro ⟨before, e, after, stack, read, same, none⟩
    rw [protocols_ofAttributes_of_hasStack stack]
    refine find?_filterMap_eq_some_iff.mpr ⟨before, e, after, rfl,
      ProtocolEntry.ofElement?_eq_some_iff.mpr read, decide_eq_true same, ?_⟩
    intro e' there other read'
    exact decide_eq_false (none e' there other (ProtocolEntry.ofElement?_eq_some_iff.mp read'))

end Sdp.Record

namespace AudioService

open Sdp (Attributes Record)

variable {a : Attributes}

private theorem parameter?_ofAttributes_eq_some_iff {u : Uuid} {n : BitVec 16} :
    parameter? (.ofAttributes a) u = some n ↔ a.Reaches u n.toNat := by
  have leading (entry : Sdp.ProtocolEntry) (n : BitVec 16) : entry.leading? = some n ↔
      ∃ first others, entry.parameters = first :: others ∧ first.Tells n.toNat := by
    rw [Sdp.ProtocolEntry.leading?, Option.bind_eq_some_iff]
    constructor
    · rintro ⟨first, head, told⟩
      obtain ⟨others, eq⟩ := List.head?_eq_some_iff.mp head
      exact ⟨first, others, eq, Sdp.Element.toU16?_eq_some_iff.mp told⟩
    · rintro ⟨first, others, eq, told⟩
      exact ⟨first, List.head?_eq_some_iff.mpr ⟨others, eq⟩,
        Sdp.Element.toU16?_eq_some_iff.mpr told⟩
  have positive (n : BitVec 16) : n ≠ 0 ↔ 1 ≤ n.toNat := by
    rw [ne_eq, ← BitVec.toNat_inj, Nat.one_le_iff_ne_zero]
    rfl
  unfold parameter?
  constructor
  · intro h
    split at h
    · next m found =>
      split at h
      · cases h
      · next other =>
        obtain rfl : m = n := Option.some.inj h
        obtain ⟨entry, found, told⟩ := Option.bind_eq_some_iff.mp found
        obtain ⟨first, others, eq, told⟩ := (leading entry m).mp told
        exact ⟨entry, Record.protocol?_ofAttributes_eq_some_iff.mp found, first, others, eq, told,
          (positive m).mp other, Nat.le_of_lt_succ m.isLt⟩
    · cases h
  · rintro ⟨entry, found, first, others, eq, told, low, -⟩
    have told := (leading entry n).mpr ⟨first, others, eq, told⟩
    rw [Record.protocol?_ofAttributes_eq_some_iff.mpr found, Option.bind_some, told]
    exact if_neg ((positive n).mpr low)

/-- A number of 16 bits is reached as the word it is. -/
theorem exists_parameter?_of_reaches {u : Uuid} {n : Nat} (h : a.Reaches u n) :
    ∃ v, parameter? (.ofAttributes a) u = some v ∧ v.toNat = n := by
  have small : n < 2 ^ 16 := by
    obtain ⟨-, -, -, -, -, -, -, high⟩ := h
    omega
  have word : (BitVec.ofNat 16 n).toNat = n := Nat.mod_eq_of_lt small
  refine ⟨BitVec.ofNat 16 n, parameter?_ofAttributes_eq_some_iff.mpr ?_, word⟩
  rwa [word]

/-- The features are those of the mask that the attributes give. -/
theorem featuresOf_ofAttributes (role : Role) {n : Nat} (h : a.HasMask n) :
    featuresOf (.ofAttributes a) role =
      if role = .source then BitVec.ofNat 8 n <<< 4 else BitVec.ofNat 8 n := by
  obtain ⟨value, there, told, small⟩ := h
  have word : (BitVec.ofNat 16 n).toNat = n := Nat.mod_eq_of_lt (Nat.lt_succ_of_le small)
  have read : value.toU16? = some (BitVec.ofNat 16 n) := by
    rw [Sdp.Element.toU16?_eq_some_iff, word]
    exact told
  have low : (BitVec.ofNat 16 n).setWidth 8 = BitVec.ofNat 8 n :=
    BitVec.setWidth_ofNat_of_le (by decide) n
  have found : ((Record.ofAttributes a).attribute? .supportedFeatures).bind (·.toU16?) =
      some (BitVec.ofNat 16 n) := by
    show (a.get? .supportedFeatures).bind (·.toU16?) = _
    rw [there, Option.bind_some, read]
  simp only [featuresOf, found, low]

private theorem featuresOf_ofAttributes_of_none (role : Role) (h : ∀ n, ¬ a.HasMask n) :
    featuresOf (.ofAttributes a) role = 0 := by
  have unread : ((Record.ofAttributes a).attribute? .supportedFeatures).bind (·.toU16?) = none := by
    rw [Option.bind_eq_none_iff]
    intro value there
    apply Option.eq_none_iff_forall_ne_some.mpr
    intro n read
    apply h n.toNat
    exact ⟨value, there, Sdp.Element.toU16?_eq_some_iff.mp read, Nat.le_of_lt_succ n.isLt⟩
  simp only [featuresOf, unread]

private theorem roleOf_eq_sink_iff :
    roleOf (.ofAttributes a) = .sink ↔ a.HasClass ServiceClass.audioSink := by
  rw [← Record.hasClass_ofAttributes, roleOf]
  split
  · next sink => simp [sink]
  · next other => split <;> simp [other]

private theorem roleOf_eq_source_iff :
    roleOf (.ofAttributes a) = .source ↔
      a.HasClass ServiceClass.audioSource ∧ ¬ a.HasClass ServiceClass.audioSink := by
  rw [← Record.hasClass_ofAttributes, ← Record.hasClass_ofAttributes, roleOf]
  split
  · next sink => simp [sink]
  · next other =>
    split
    · next source => simp [other, source]
    · next neither => simp [neither]

private theorem roleOf_eq_neither_iff (r : Record) :
    roleOf r = .neither ↔ roleOf r ≠ .sink ∧ roleOf r ≠ .source := by
  unfold roleOf
  split
  · simp
  · split <;> simp

/-! ### What is read -/

/-- What is read from attributes that resolve. -/
theorem exists_ofRecord_of_resolves {psm version : Nat} (h : a.Resolves psm version) :
    ∃ p v profile, p.toNat = psm ∧ v.toNat = version ∧
      ofRecord (.ofAttributes a) =
        { role := roleOf (.ofAttributes a)
          psm := p
          transportVersion := .ofWord v
          profileVersion := profile
          features := featuresOf (.ofAttributes a) (roleOf (.ofAttributes a)) } := by
  obtain ⟨entry, profile⟩ := Record.exists_profile?_ofAttributes.mpr h.profile
  obtain ⟨p, channel, rfl⟩ := exists_parameter?_of_reaches h.channel
  obtain ⟨v, transport, rfl⟩ := exists_parameter?_of_reaches h.transport
  refine ⟨p, v, .ofWord entry.version, rfl, rfl, ?_⟩
  simp only [ofRecord, read, profile, channel, transport]

/-- From attributes that do not resolve nothing is read but a profile version. -/
theorem exists_ofRecord_of_not_resolves (h : ∀ psm version, ¬ a.Resolves psm version) :
    ∃ profile, ofRecord (.ofAttributes a) = { role := .neither, profileVersion := profile } := by
  unfold ofRecord read
  split
  · exact ⟨{}, rfl⟩
  · next entry profile =>
    simp only
    split
    · exact ⟨_, rfl⟩
    · next p channel =>
      split
      · exact ⟨_, rfl⟩
      · next v transport =>
        refine absurd ⟨?_, ?_, ?_⟩ (h p.toNat v.toNat)
        · exact Record.exists_profile?_ofAttributes.mp ⟨entry, profile⟩
        · exact parameter?_ofAttributes_eq_some_iff.mp channel
        · exact parameter?_ofAttributes_eq_some_iff.mp transport

/-- What a service is, told by the attributes of its record. -/
structure Decided (a : Attributes) (s : AudioService) : Prop where
  sink : s.role = .sink ↔
    a.HasClass ServiceClass.audioSink ∧ ∃ psm version, a.Resolves psm version
  source : s.role = .source ↔
    (a.HasClass ServiceClass.audioSource ∧ ¬ a.HasClass ServiceClass.audioSink) ∧
      ∃ psm version, a.Resolves psm version
  neither : s.role = .neither ↔ s.role ≠ .sink ∧ s.role ≠ .source
  reached : s.role = .sink ∨ s.role = .source →
    (s.psm ≠ 0 ∧ s.transportVersion ≠ {}) ∧ a.Resolves s.psm.toNat s.transportVersion.toWord.toNat
  resolved : ∀ psm version, a.Resolves psm version →
    s.psm.toNat = psm ∧ s.transportVersion.toWord.toNat = version
  unresolved : (∀ psm version, ¬ a.Resolves psm version) →
    s.psm = 0 ∧ s.transportVersion = {} ∧ s.features = 0
  masked : ∀ psm version n, a.Resolves psm version → a.HasMask n →
    s.features = if s.role = .source then BitVec.ofNat 8 n <<< 4 else BitVec.ofNat 8 n
  unmasked : ∀ psm version, a.Resolves psm version → (∀ n, ¬ a.HasMask n) → s.features = 0

private theorem ne_zero_of_reaches {u : Uuid} {v : BitVec 16} (h : a.Reaches u v.toNat) :
    v ≠ 0 := by
  obtain ⟨-, -, -, -, -, -, low, -⟩ := h
  rintro rfl
  cases low

private theorem decided_of_resolves {psm version : Nat} (h : a.Resolves psm version) :
    Decided a (ofRecord (.ofAttributes a)) := by
  obtain ⟨p, v, profile, rfl, rfl, read⟩ := exists_ofRecord_of_resolves h
  have usable : ∃ psm version, a.Resolves psm version := ⟨_, _, h⟩
  have channel : p ≠ 0 := ne_zero_of_reaches h.channel
  have transport : Version.ofWord v ≠ {} :=
    Version.ofWord_ne_blank (ne_zero_of_reaches h.transport)
  rw [read]
  constructor
  case sink => exact roleOf_eq_sink_iff.trans (and_iff_left usable).symm
  case source => exact roleOf_eq_source_iff.trans (and_iff_left usable).symm
  case neither => exact roleOf_eq_neither_iff _
  case reached =>
    intro _
    refine ⟨⟨channel, transport⟩, ?_⟩
    rw [Version.toWord_ofWord]
    exact h
  case resolved =>
    intro psm version other
    obtain ⟨p', v', profile', rfl, rfl, read'⟩ := exists_ofRecord_of_resolves other
    rw [← read, read', Version.toWord_ofWord]
    exact ⟨rfl, rfl⟩
  case unresolved => exact fun never => absurd h (never _ _)
  case masked => exact fun _ _ _ _ mask => featuresOf_ofAttributes _ mask
  case unmasked => exact fun _ _ _ unmasked => featuresOf_ofAttributes_of_none _ unmasked

private theorem decided_of_not_resolves (h : ∀ psm version, ¬ a.Resolves psm version) :
    Decided a (ofRecord (.ofAttributes a)) := by
  obtain ⟨profile, read⟩ := exists_ofRecord_of_not_resolves h
  have unusable : ¬ ∃ psm version, a.Resolves psm version := by
    rintro ⟨psm, version, resolves⟩
    exact h psm version resolves
  rw [read]
  constructor
  case sink => simp [unusable]
  case source => simp [unusable]
  case neither => simp
  case reached => simp
  case resolved => exact fun psm version resolves => absurd resolves (h psm version)
  case unresolved => exact fun _ => ⟨rfl, rfl, rfl⟩
  case masked => exact fun psm version _ resolves => absurd resolves (h psm version)
  case unmasked => exact fun psm version resolves => absurd resolves (h psm version)

/-- From any attributes the service is read that they tell. -/
theorem decided (a : Attributes) : Decided a (ofRecord (.ofAttributes a)) := by
  by_cases usable : ∃ psm version, a.Resolves psm version
  · obtain ⟨psm, version, resolves⟩ := usable
    exact decided_of_resolves resolves
  · apply decided_of_not_resolves
    intro psm version resolves
    exact usable ⟨psm, version, resolves⟩

end AudioService

end A2dpSink
