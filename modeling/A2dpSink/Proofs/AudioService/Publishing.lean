import A2dpSink.Proofs.AudioService.Decision
import A2dpSink.Proofs.Sdp.Record.AttributeLists
import A2dpSink.Proofs.Uuid
import A2dpSink.Sdp.AudioRecord

/-!
# Services read from published records

An audio record is written as an attribute list, sent in its encoding, decoded into pairs and read
as a service. On the way nothing is lost: `Sdp.AudioRecord.attributes` are the pairs the list is
written for, they come back in whatever width the sizes are written (`readBack_toElement`), and what
a record holds is looked up in them. `AudioService.Published` says what service a record tells, and
`readBack_published` that this is the service which is read from it.
-/

namespace A2dpSink

private theorem Sdp.Attributes.get?_append (a b : Attributes) (id : AttributeId) :
    get? (a ++ b) id = (b.get? id).or (a.get? id) := by
  induction b using List.reverseRecOn with
  | nil => simp [get?]
  | append_singleton b p ih =>
    rw [← List.append_assoc, get?_concat, get?_concat, ih]
    split <;> rfl

/-- A sequence takes at most five bytes more than its members. -/
theorem Sdp.Element.encodedLen_sequence_le (ms : List Element) :
    (sequence ms).encodedLen ≤ 5 + (ms.map encodedLen).sum := by
  have field := sizeClassOf_cases (sequence ms).dataLen
  rw [← dataLen_list .sequence ms]
  show 1 + sizeFieldLen (sequence ms).dataLen + (sequence ms).dataLen ≤ 5 + (sequence ms).dataLen
  omega

namespace Sdp.AudioRecord

variable (r : AudioRecord)

/-! ### The attributes of a record -/

/-- The attribute that holds a list of descriptors; none if there are no descriptors. -/
def listed (id : AttributeId) (descriptors : List Element) : Attributes :=
  if descriptors.isEmpty then [] else [(id, .sequence descriptors)]

/-- The attributes that the attribute list of a record is written for. -/
def attributes : Attributes :=
  [(.recordHandle, .u32 r.handle),
    (.classIds, .sequence (r.classes.map fun c => .uuid (.short c)))] ++
  listed .protocols
    (descriptor ServiceClass.l2cap r.psm ++ descriptor ServiceClass.avdtp r.transportVersion) ++
  listed .profiles (descriptor ServiceClass.advancedAudio r.profileVersion) ++
  (r.features.map fun mask => (.supportedFeatures, .u16 mask)).toList

private theorem members_listed (id : AttributeId) (descriptors : List Element) :
    (listed id descriptors).members = listAttribute id descriptors := by
  unfold listed listAttribute
  split <;> rfl

private theorem toElement_attributes : r.attributes.toElement = r.toElement := by
  have append (a b : Attributes) : (a ++ b).members = a.members ++ b.members :=
    List.flatMap_append
  rw [Attributes.toElement, attributes, append, append, append, members_listed, members_listed,
    toElement]
  cases r.features <;> rfl

/-! ### What is read back -/

private theorem depth_descriptor (u : Uuid) (parameter : Option (BitVec 16)) :
    ∀ e ∈ descriptor u parameter, e.depth ≤ 1 := by
  cases parameter with
  | none => simp [descriptor]
  | some value => simp [descriptor, Element.depth, Element.depthAll]

private theorem depth_listed {id : AttributeId} {descriptors : List Element}
    (shallow : ∀ e ∈ descriptors, e.depth ≤ 1) : ∀ p ∈ listed id descriptors, p.2.depth ≤ 2 := by
  unfold listed
  split
  · simp
  · intro p there
    rw [List.mem_singleton.mp there]
    exact Element.depth_list_le_iff.mpr shallow

private theorem depth_attributes : ∀ p ∈ r.attributes, p.2.depth ≤ 2 := by
  have classes : (Element.sequence (r.classes.map fun c => .uuid (.short c))).depth ≤ 1 := by
    apply Element.depth_list_le_iff.mpr
    intro e there
    obtain ⟨c, -, rfl⟩ := List.mem_map.mp there
    exact Nat.le_refl 0
  have protocols : ∀ e ∈ descriptor ServiceClass.l2cap r.psm ++
      descriptor ServiceClass.avdtp r.transportVersion, e.depth ≤ 1 :=
    List.forall_mem_append.mpr ⟨depth_descriptor _ _, depth_descriptor _ _⟩
  simp only [attributes, List.forall_mem_append, List.forall_mem_cons]
  refine ⟨⟨⟨⟨Nat.zero_le _, Nat.le_succ_of_le classes, by simp⟩, depth_listed protocols⟩,
    depth_listed (depth_descriptor _ _)⟩, ?_⟩
  cases r.features <;> simp [Element.depth]

/-- A record whose encoding has less than 2^32 bytes is read back with all its attributes. -/
theorem readBack_toElement (short : r.toElement.encode.length < 2 ^ 32) :
    Record.readBack r.toElement = .ok (.ofAttributes r.attributes) := by
  have lists : Attributes.lists [r.attributes] = .sequence [r.toElement] := by
    rw [Attributes.lists, List.map_singleton, toElement_attributes]
  have fits : (Attributes.lists [r.attributes]).fits = true := by
    apply Element.fits_of_dataLen_le
    rw [Element.dataLen_list, List.map_singleton, List.map_singleton, List.sum_singleton,
      toElement_attributes, ← Element.length_encode, Element.sizeLimit]
    omega
  have shallow : (Attributes.lists [r.attributes]).depth ≤ maxNesting := by
    apply Attributes.depth_lists_le
    intro a there p paired
    obtain rfl := List.mem_singleton.mp there
    exact Nat.le_trans (r.depth_attributes p paired) (by decide)
  have read := Record.parseLists_lists_append fits shallow []
  rw [List.append_nil, lists] at read
  rw [Record.readBack, read]
  rfl

/-! ### The size of a record -/

private theorem sum_descriptor_le (c : BitVec 16) (parameter : Option (BitVec 16)) :
    ((descriptor (.short c) parameter).map Element.encodedLen).sum ≤ 8 := by
  cases parameter with
  | none => exact Nat.zero_le 8
  | some value => exact Nat.le_refl 8

private theorem sum_listAttribute_le (id : AttributeId) (descriptors : List Element) :
    ((listAttribute id descriptors).map Element.encodedLen).sum ≤
      8 + (descriptors.map Element.encodedLen).sum := by
  unfold listAttribute
  split
  · exact Nat.zero_le _
  · have value := Element.encodedLen_sequence_le descriptors
    have number : (Element.u16 id).encodedLen = 3 := rfl
    simp only [List.map_cons, List.map_nil, List.sum_cons, List.sum_nil, number]
    omega

/-- A record takes three bytes for each class, and not much more. -/
theorem length_encode_le : r.toElement.encode.length ≤ 67 + 3 * r.classes.length := by
  have each : ((r.classes.map fun c => Element.uuid (.short c)).map Element.encodedLen).sum =
      3 * r.classes.length := by
    rw [List.map_map]
    show (r.classes.map fun _ => 3).sum = _
    rw [List.map_const', List.sum_replicate_nat, Nat.mul_comm]
  have classes := Element.encodedLen_sequence_le (r.classes.map fun c => .uuid (.short c))
  have protocols := sum_listAttribute_le .protocols
    (descriptor ServiceClass.l2cap r.psm ++ descriptor ServiceClass.avdtp r.transportVersion)
  have profiles := sum_listAttribute_le .profiles
    (descriptor ServiceClass.advancedAudio r.profileVersion)
  have channel := sum_descriptor_le 0x0100 r.psm
  have transport := sum_descriptor_le 0x0019 r.transportVersion
  have profile := sum_descriptor_le 0x110D r.profileVersion
  have word (n : BitVec 16) : (Element.u16 n).encodedLen = 3 := rfl
  have handle : (Element.u32 r.handle).encodedLen = 5 := rfl
  rw [List.map_append, List.sum_append] at protocols
  rw [Element.length_encode, toElement]
  refine Nat.le_trans (Element.encodedLen_sequence_le _) ?_
  simp only [List.map_append, List.sum_append, List.map_cons, List.map_nil, List.sum_cons,
    List.sum_nil, word, handle]
  rw [ServiceClass.l2cap, ServiceClass.avdtp] at protocols ⊢
  rw [ServiceClass.advancedAudio] at profiles ⊢
  cases r.features with
  | none =>
    rw [List.map_nil, List.sum_nil]
    omega
  | some mask =>
    simp only [List.map_cons, List.map_nil, List.sum_cons, List.sum_nil, word]
    omega

/-! ### What is found in them -/

private theorem get?_listed (key id : AttributeId) (descriptors : List Element) :
    (listed key descriptors).get? id =
      if key = id ∧ descriptors ≠ [] then some (.sequence descriptors) else none := by
  unfold listed
  cases descriptors <;> simp [Attributes.get?]

private theorem get?_features (id : AttributeId) :
    Attributes.get?
        (r.features.map fun mask => (AttributeId.supportedFeatures, .u16 mask)).toList id =
      if AttributeId.supportedFeatures = id then r.features.map .u16 else none := by
  cases r.features <;> simp [Attributes.get?]

/-- The value of an attribute is the one that is written with its number. -/
theorem get?_attributes (id : AttributeId) : r.attributes.get? id =
    (if AttributeId.supportedFeatures = id then r.features.map .u16 else none).or
      (((listed .profiles (descriptor ServiceClass.advancedAudio r.profileVersion)).get? id).or
        (((listed .protocols (descriptor ServiceClass.l2cap r.psm ++
          descriptor ServiceClass.avdtp r.transportVersion)).get? id).or
          (if AttributeId.classIds = id then
            some (.sequence (r.classes.map fun c => .uuid (.short c)))
          else if AttributeId.recordHandle = id then some (.u32 r.handle) else none))) := by
  rw [attributes, Attributes.get?_append, Attributes.get?_append, Attributes.get?_append,
    get?_features]
  rfl

private theorem classes_ofAttributes :
    (Record.ofAttributes r.attributes).classes = r.classes.map .short := by
  have value : r.attributes.get? .classIds =
      some (.sequence (r.classes.map fun c => .uuid (.short c))) := by
    rw [get?_attributes, get?_listed, get?_listed]
    rfl
  show Record.listOf Element.toUuid? (r.attributes.get? .classIds) = _
  rw [value]
  show (r.classes.map fun c => Element.uuid (.short c)).filterMap Element.toUuid? = _
  rw [List.filterMap_map]
  show r.classes.filterMap (some ∘ Uuid.short) = _
  rw [List.filterMap_eq_map]

private theorem protocols_ofAttributes : (Record.ofAttributes r.attributes).protocols =
    (r.psm.map fun psm => ⟨ServiceClass.l2cap, [.u16 psm]⟩).toList ++
      (r.transportVersion.map fun version => ⟨ServiceClass.avdtp, [.u16 version]⟩).toList := by
  have value : r.attributes.get? .protocols =
      (listed .protocols (descriptor ServiceClass.l2cap r.psm ++
        descriptor ServiceClass.avdtp r.transportVersion)).get? .protocols := by
    rw [get?_attributes, get?_listed .profiles]
    exact Option.or_none
  show Record.stackOf (r.attributes.get? .protocols) = _
  rw [value]
  cases r.psm <;> cases r.transportVersion <;> rfl

private theorem profiles_ofAttributes : (Record.ofAttributes r.attributes).profiles =
    (r.profileVersion.map fun version => ⟨ServiceClass.advancedAudio, version⟩).toList := by
  have value : r.attributes.get? .profiles =
      (listed .profiles (descriptor ServiceClass.advancedAudio r.profileVersion)).get?
        .profiles := by
    rw [get?_attributes, get?_listed .protocols]
    exact Option.or_none
  show Record.listOf ProfileEntry.ofElement? (r.attributes.get? .profiles) = _
  rw [value]
  cases r.profileVersion with
  | none => rfl
  | some version =>
    have entry : ProfileEntry.ofElement?
        (.sequence [.uuid ServiceClass.advancedAudio, .u16 version]) =
          some ⟨ServiceClass.advancedAudio, version⟩ :=
      ProfileEntry.ofElement?_eq_some_iff.mpr
        ⟨.sequence, .u16 version, [], rfl, .unsigned (w := .w16) (by decide) version⟩
    show [_].filterMap ProfileEntry.ofElement? = _
    rw [List.filterMap_cons_some entry]
    rfl

private theorem attribute?_supportedFeatures :
    (Record.ofAttributes r.attributes).attribute? .supportedFeatures = r.features.map .u16 := by
  show r.attributes.get? .supportedFeatures = _
  rw [get?_attributes, get?_listed, get?_listed]
  exact Option.or_none

/-! ### What a record tells -/

/-- The role that the classes of a record tell; a sink takes precedence. -/
def role : Role :=
  if 0x110B ∈ r.classes then .sink else if 0x110A ∈ r.classes then .source else .neither

/-- The features that the mask of a record tells: its low byte, which a source has shifted by four
bits. -/
def maskBits : Nat :=
  match r.features with
  | some mask => if r.role = .source then 16 * mask.toNat % 256 else mask.toNat % 256
  | none => 0

end Sdp.AudioRecord

namespace AudioService

open Sdp

variable (r : AudioRecord)

/-- The parameter of a protocol is the number its entry is written with, unless that is zero. -/
theorem parameter?_of_protocol? {record : Record} {u : Uuid} {value : Option (BitVec 16)}
    (first : record.protocol? u = value.map fun n => ⟨u, [.u16 n]⟩) :
    parameter? record u = value.filter (· ≠ 0) := by
  rw [parameter?, first]
  cases value with
  | none => rfl
  | some n =>
    have read : ProtocolEntry.leading? ⟨u, [.u16 n]⟩ = some n :=
      Element.toU16?_eq_some_iff.mpr (.unsigned (w := .w16) (by decide) n)
    simp only [Option.map_some, Option.bind_some, read, Option.filter]
    by_cases zero : n = 0 <;> simp [zero]

private theorem parameter?_l2cap : parameter? (.ofAttributes r.attributes) ServiceClass.l2cap =
    r.psm.filter (· ≠ 0) := by
  apply parameter?_of_protocol?
  rw [Record.protocol?, AudioRecord.protocols_ofAttributes]
  cases r.psm <;> cases r.transportVersion <;> rfl

private theorem parameter?_avdtp : parameter? (.ofAttributes r.attributes) ServiceClass.avdtp =
    r.transportVersion.filter (· ≠ 0) := by
  apply parameter?_of_protocol?
  rw [Record.protocol?, AudioRecord.protocols_ofAttributes]
  cases r.psm <;> cases r.transportVersion <;> rfl

private theorem hasClass_short (n : BitVec 16) :
    (Record.ofAttributes r.attributes).hasClass (.short n) = decide (n ∈ r.classes) := by
  rw [Record.hasClass, AudioRecord.classes_ofAttributes, List.any_map, Bool.eq_iff_iff]
  simp only [List.any_eq_true, Function.comp_apply, decide_eq_true_eq, Uuid.short_equiv_iff,
    exists_eq_right]

private theorem profile?_advancedAudio :
    (Record.ofAttributes r.attributes).profile? ServiceClass.advancedAudio =
      r.profileVersion.map (⟨ServiceClass.advancedAudio, ·⟩) := by
  rw [Record.profile?, AudioRecord.profiles_ofAttributes]
  cases r.profileVersion <;> rfl

private theorem roleOf_attributes : roleOf (.ofAttributes r.attributes) = r.role := by
  rw [roleOf, ServiceClass.audioSink, ServiceClass.audioSource, hasClass_short, hasClass_short,
    AudioRecord.role]
  simp only [decide_eq_true_eq]

private theorem toNat_featuresOf :
    (featuresOf (.ofAttributes r.attributes) r.role).toNat = r.maskBits := by
  rw [featuresOf, AudioRecord.attribute?_supportedFeatures, AudioRecord.maskBits]
  cases r.features with
  | none => rfl
  | some mask =>
    have read : (Element.u16 mask).toU16? = some mask :=
      Element.toU16?_eq_some_iff.mpr (.unsigned (w := .w16) (by decide) mask)
    simp only [Option.map_some, Option.bind_some, read]
    split
    · rw [BitVec.toNat_shiftLeft, BitVec.toNat_setWidth, Nat.shiftLeft_eq]
      omega
    · exact BitVec.toNat_setWidth 8 mask

/-- The service that is read from a published record with a profile. -/
theorem ofRecord_attributes {profile : BitVec 16} (given : r.profileVersion = some profile) :
    ofRecord (.ofAttributes r.attributes) =
      match r.psm.filter (· ≠ 0), r.transportVersion.filter (· ≠ 0) with
      | some psm, some version =>
        { role := r.role
          psm
          transportVersion := .ofWord version
          profileVersion := .ofWord profile
          features := featuresOf (.ofAttributes r.attributes) r.role }
      | _, _ => { role := .neither, profileVersion := .ofWord profile } := by
  simp only [ofRecord, read, profile?_advancedAudio, given, Option.map_some, parameter?_l2cap,
    parameter?_avdtp, roleOf_attributes]
  cases r.psm.filter (· ≠ 0) with
  | none => rfl
  | some psm => cases r.transportVersion.filter (· ≠ 0) <;> rfl

/-- A service is the one a record with the usual profile tells: a channel and a transport version
that are not zero make it usable. -/
structure Published (r : AudioRecord) (s : AudioService) : Prop where
  profile : s.profileVersion = ⟨1, 3⟩
  usable : ∀ psm version, r.psm = some psm → r.transportVersion = some version → psm ≠ 0 →
    version ≠ 0 → s.psm = psm ∧ s.transportVersion = .ofWord version ∧ s.role = r.role ∧
      s.features.toNat = r.maskBits
  unusable : (∀ psm version, r.psm = some psm → r.transportVersion = some version → psm = 0 ∨
    version = 0) → s.role = .neither ∧ s.psm = 0 ∧ s.transportVersion = {} ∧ s.features = 0

private theorem published_ofRecord (given : r.profileVersion = some 0x0103) :
    Published r (ofRecord (.ofAttributes r.attributes)) := by
  have eq := ofRecord_attributes r given
  constructor
  case profile =>
    rw [eq]
    split <;> rfl
  case usable =>
    intro psm version channel transport reachable versioned
    have channel : r.psm.filter (· ≠ 0) = some psm :=
      Option.filter_eq_some_iff.mpr ⟨channel, decide_eq_true reachable⟩
    have transport : r.transportVersion.filter (· ≠ 0) = some version :=
      Option.filter_eq_some_iff.mpr ⟨transport, decide_eq_true versioned⟩
    rw [eq, channel, transport]
    exact ⟨rfl, rfl, rfl, toNat_featuresOf r⟩
  case unusable =>
    intro zero
    rw [eq]
    split
    · next psm version channel transport =>
      obtain ⟨channel, reachable⟩ := Option.filter_eq_some_iff.mp channel
      obtain ⟨transport, versioned⟩ := Option.filter_eq_some_iff.mp transport
      rcases zero psm version channel transport with unset | unset
      · exact absurd unset (of_decide_eq_true reachable)
      · exact absurd unset (of_decide_eq_true versioned)
    · exact ⟨rfl, rfl, rfl, rfl⟩

/-- A record that is published and read back tells the service it was built for, whatever it lists
and however wide the sizes in its encoding are. -/
theorem readBack_published (classes : List (BitVec 16)) (psm version mask : Option (BitVec 16))
    (short : (AudioRecord.toElement
      { classes, psm, transportVersion := version, features := mask }).encode.length < 2 ^ 32) :
    ∃ record, Record.readBack (AudioRecord.toElement
        { classes, psm, transportVersion := version, features := mask }) = .ok record ∧
      Published { classes, psm, transportVersion := version, features := mask }
        (ofRecord record) := by
  refine ⟨_, AudioRecord.readBack_toElement _ short, ?_⟩
  exact published_ofRecord _ rfl

/-- The size of the class list of this record takes four bytes. -/
theorem readBack_published_wide :
    let classes := List.replicate 22000 0x1203 ++ [0x110A]
    let source : AudioRecord :=
      { classes, psm := some 25, transportVersion := some 0x0103, features := some 0x0305 }
    source.toElement.encode.length < 2 ^ 32 ∧
      ∃ record, Record.readBack source.toElement = .ok record ∧
        Published source (ofRecord record) := by
  intro classes source
  have number : source.classes.length = 22001 := by
    show (List.replicate 22000 (0x1203 : BitVec 16) ++ [0x110A]).length = 22001
    rw [List.length_append, List.length_replicate]
    rfl
  have short : source.toElement.encode.length < 2 ^ 32 := by
    have bound := source.length_encode_le
    omega
  exact ⟨short, readBack_published classes _ _ _ short⟩

end AudioService

end A2dpSink
