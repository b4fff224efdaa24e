import A2dpSink.AudioService
import A2dpSink.Proofs.Sdp.Nesting

/-!
# What a peer sends is handled

The readers of records and audio services are written here with every operation that could end the
program: members are picked by their place, numbers are put into narrower words, words are shifted.
None of these passes its bound, and what comes out is what `Record.parseLists` and
`AudioService.ofRecord` give. With the readers of elements, fragments and error codes this covers
every byte that a peer sends in an answer (`Checked.within_bounds`).
-/

namespace A2dpSink.Sdp

/-! ### Answers -/

private theorem ErrorCode.within_decode (parameter : Bytes) :
    Within (fun _ => True) (ErrorCode.decode parameter) := by
  apply (Read.within_guardedWord 2 parameter).bind
  intro p _
  cases known : ErrorCode.ofCode? p.1.toNat with
  | none => simp [known, Within]
  | some code => simp [known, Within]

private theorem within_decodeContinuation (bytes : Bytes) :
    Within (fun _ => True) (decodeContinuation bytes) := by
  apply (Read.within_guardedWord 1 bytes).bind
  rintro ⟨n, rest⟩ _
  show Within _ (if maxContinuation < n.toNat then _ else _)
  split
  · rfl
  · apply (Read.within_ensure n.toNat rest).bind
    intro _ there
    apply (Read.within_take there).map
    intro _ _
    trivial

private theorem Fragment.within_decode (parameter : Bytes) :
    Within (fun _ => True) (Fragment.decode parameter) := by
  apply (Read.within_guardedWord 2 parameter).bind
  rintro ⟨n, rest⟩ _
  apply (Read.within_ensure n.toNat rest).bind
  intro _ there
  apply (Read.within_take there).bind
  rintro ⟨data, rest⟩ _
  apply (within_decodeContinuation rest).map
  intro _ _
  trivial

namespace Checked

/-! ### Places and widths -/

section

variable {α : Type}

/-- The member at a place. -/
def index (l : List α) (i : Nat) : Except Fault α :=
  match l[i]? with
  | some a => .ok a
  | none => .error .overrun

/-- The members from a place on. -/
def startingAt (i : Nat) (l : List α) : Except Fault (List α) :=
  if i ≤ l.length then .ok (l.drop i) else .error .overrun

/-- The whole parts of `n` members each; what is left at the end is dropped. -/
def chunks (n : Nat) (l : List α) : List (List α) :=
  (List.range (l.length / n)).map fun i => (l.drop (i * n)).take n

/-- A value, or a refusal if there is none. -/
def granted : Option α → Except Fault α
  | some a => .ok a
  | none => .error .malformed

end

/-- A number as a word of `w` bits. -/
def narrow (w n : Nat) : Except Fault (BitVec w) :=
  if n < 2 ^ w then .ok (BitVec.ofNat w n) else .error .overrun

/-- A number as a word of `w` bits, unless it is too large. -/
def tryNarrow (w n : Nat) : Except Fault (Option (BitVec w)) :=
  if n < 2 ^ w then (narrow w n).map some else .ok none

/-! ### Records -/

/-- The attribute that two members give, a number and a value. -/
def attributeOf (members : List Element) : Except Fault (AttributeId × Element) := do
  match ← index members 0 with
  | .unsigned .w16 id => return (id, ← index members 1)
  | _ => .error .malformed

/-- The attributes of a flat list of alternating numbers and values. -/
def attributes (members : List Element) : Except Fault Attributes :=
  if members.length % 2 ≠ 0 then .error .malformed
  else (chunks 2 members).mapM attributeOf

/-- The value of an unsigned integer, if 16 bits hold it. -/
def u16 (e : Element) : Except Fault (Option (BitVec 16)) :=
  match e.toNat? with
  | some n => tryNarrow 16 n
  | none => .ok none

/-- Reads an entry of the protocol stack. -/
def protocol (e : Element) : Except Fault (Option ProtocolEntry) :=
  match e.members? with
  | none => .ok none
  | some members =>
    if members.length = 0 then .ok none
    else do
      let first ← index members 0
      let parameters ← startingAt 1 members
      return first.toUuid?.map (⟨·, parameters⟩)

/-- Reads a profile. -/
def profile (e : Element) : Except Fault (Option ProfileEntry) :=
  match e.members? with
  | none => .ok none
  | some members =>
    if members.length < 2 then .ok none
    else do
      let first ← index members 0
      let second ← index members 1
      match first.toUuid? with
      | none => return none
      | some profile => return (← u16 second).map (⟨profile, ·⟩)

/-- The protocol stack of an attribute. -/
def stack : Option Element → Except Fault (List ProtocolEntry)
  | some (.list .sequence entries) => do return (← entries.mapM protocol).reduceOption
  | some (.list .alternative choices) =>
    if choices.length = 0 then .ok []
    else do
      match (← index choices 0).members? with
      | none => return []
      | some entries => return (← entries.mapM protocol).reduceOption
  | _ => .ok []

/-- The profiles of an attribute. -/
def profiles (value : Option Element) : Except Fault (List ProfileEntry) :=
  match value.bind (·.members?) with
  | none => .ok []
  | some members => do return (← members.mapM profile).reduceOption

/-- The handle of an attribute. -/
def handle (value : Option Element) : Except Fault (Option (BitVec 32)) :=
  match value.bind (·.toNat?) with
  | none => .ok none
  | some n => tryNarrow 32 n

/-- The record with the given attributes. -/
def record (a : Attributes) : Except Fault Record := do
  return {
    handle := ← handle (a.get? .recordHandle)
    classes := Record.listOf Element.toUuid? (a.get? .classIds)
    protocols := ← stack (a.get? .protocols)
    profiles := ← profiles (a.get? .profiles)
    attributes := a }

/-- The record an attribute list stands for. -/
def recordOf : Element → Except Fault Record
  | .list .sequence members => do record (← attributes members)
  | _ => .error .malformed

/-- The records that an element lists. -/
def records : Element → Except Fault (List Record)
  | .list .sequence lists => lists.mapM recordOf
  | _ => .error .malformed

/-- Reads the complete attribute lists of an answer. -/
def parseLists (bytes : Bytes) : Except Fault (List Record) := do
  let (lists, _) ← decode 33 0 bytes
  records lists

/-! ### Audio services -/

/-- The 128-bit value a UUID stands for. -/
def expand : Uuid → Except Fault (BitVec 128)
  | .short n => do return (← shiftLeft (n.setWidth 128) Uuid.shift) ||| Uuid.base
  | .medium n => do return (← shiftLeft (n.setWidth 128) Uuid.shift) ||| Uuid.base
  | .full n => .ok n

/-- Whether two UUIDs stand for the same value. -/
def agree (a b : Uuid) : Except Fault Bool := do
  return (← expand a) == (← expand b)

/-- The version in the two bytes of a word. -/
def version (w : BitVec 16) : Except Fault Version := do
  return ⟨(← shiftRight w 8).setWidth 8, (w &&& 0x00FF#16).setWidth 8⟩

/-- The first parameter of a protocol of the record, if it is a nonzero number of 16 bits. -/
def parameter (r : Record) (u : Uuid) : Except Fault (Option (BitVec 16)) := do
  match ← r.protocols.findM? fun p => agree p.protocol u with
  | none => return none
  | some entry =>
    if entry.parameters.length = 0 then return none
    else return (← u16 (← index entry.parameters 0)).filter (· ≠ 0)

/-- The role a record's classes give. -/
def role (r : Record) : Except Fault Role := do
  if ← r.classes.anyM fun c => agree c ServiceClass.audioSink then return .sink
  else if ← r.classes.anyM fun c => agree c ServiceClass.audioSource then return .source
  else return .neither

/-- The features a record gives to a service of the given role. -/
def features (r : Record) (role : Role) : Except Fault Features :=
  match r.attribute? .supportedFeatures with
  | none => .ok 0
  | some value => do
    match ← u16 value with
    | none => return 0
    | some raw => if role = .source then shiftLeft (raw.setWidth 8) 4 else return raw.setWidth 8

/-- The audio service of a record. -/
def service (r : Record) : Except Fault AudioService := do
  match ← r.profiles.findM? fun p => agree p.profile ServiceClass.advancedAudio with
  | none => return { role := .neither }
  | some profile =>
    let partly : AudioService :=
      { role := .neither, profileVersion := ← version profile.version }
    match ← parameter r ServiceClass.l2cap with
    | none => return partly
    | some psm =>
      match ← parameter r ServiceClass.avdtp with
      | none => return partly
      | some transport =>
        let role ← role r
        return { partly with
          role, psm, transportVersion := ← version transport, features := ← features r role }

/-! ### No bound is passed -/

private theorem tryNarrow_eq (w n : Nat) :
    tryNarrow w n = .ok (if n < 2 ^ w then some (BitVec.ofNat w n) else none) := by
  unfold tryNarrow narrow
  split <;> rfl

private theorem u16_eq (e : Element) : u16 e = .ok e.toU16? := by
  unfold u16 Element.toU16?
  cases e.toNat? with
  | none => rfl
  | some n => exact tryNarrow_eq 16 n

private theorem protocol_eq (e : Element) : protocol e = .ok (ProtocolEntry.ofElement? e) := by
  unfold protocol ProtocolEntry.ofElement?
  cases e.members? with
  | none => rfl
  | some members => cases members <;> rfl

private theorem profile_eq (e : Element) : profile e = .ok (ProfileEntry.ofElement? e) := by
  unfold profile ProfileEntry.ofElement?
  cases e.members? with
  | none => rfl
  | some members =>
    match members with
    | [] => rfl
    | [_] => rfl
    | first :: second :: rest =>
      have long : ¬ (first :: second :: rest).length < 2 := by simp
      simp only [if_neg long]
      cases kind : first.toUuid? with
      | none => simp [index, kind, bind, Except.bind, pure, Except.pure]
      | some uuid => simp [index, kind, u16_eq, bind, Except.bind, pure, Except.pure]

private theorem mapM_reduceOption {α : Type} {checked : Element → Except Fault (Option α)}
    {parse : Element → Option α} (same : ∀ e, checked e = .ok (parse e)) (entries : List Element) :
    (do return (← entries.mapM checked).reduceOption : Except Fault (List α)) =
      .ok (entries.filterMap parse) := by
  have all : entries.mapM checked = pure (entries.map parse) := by
    rw [← List.mapM_pure]
    exact congrArg (fun f => entries.mapM f) (funext same)
  rw [all]
  show Except.ok (entries.map parse).reduceOption = _
  rw [List.reduceOption, List.filterMap_map]
  rfl

private theorem stack_eq (value : Option Element) : stack value = .ok (Record.stackOf value) := by
  cases value with
  | none => rfl
  | some e =>
    cases e with
    | list kind entries =>
      cases kind with
      | sequence => exact mapM_reduceOption protocol_eq entries
      | alternative =>
        cases entries with
        | nil => rfl
        | cons first others =>
          have there : index (first :: others) 0 = .ok first := rfl
          simp only [stack, Record.stackOf, List.length_cons, Nat.succ_ne_zero, if_false, there,
            List.head?_cons, Option.bind_some]
          cases members : first.members? with
          | none => simp [members, bind, Except.bind, pure, Except.pure]
          | some entries =>
            simpa [members, bind, Except.bind] using mapM_reduceOption protocol_eq entries
    | _ => rfl

private theorem profiles_eq (value : Option Element) :
    profiles value = .ok (Record.listOf ProfileEntry.ofElement? value) := by
  unfold profiles Record.listOf
  cases value.bind (·.members?) with
  | none => rfl
  | some members => exact mapM_reduceOption profile_eq members

private theorem handle_eq (value : Option Element) :
    handle value = .ok (value.bind Record.handleOf?) := by
  unfold handle
  cases value with
  | none => rfl
  | some e =>
    rw [Option.bind_some, Option.bind_some, Record.handleOf?]
    cases e.toNat? with
    | none => rfl
    | some n => exact tryNarrow_eq 32 n

/-- A record is taken apart without passing a bound, whatever its attributes are. -/
theorem record_eq (a : Attributes) : record a = .ok (Record.ofAttributes a) := by
  unfold record
  rw [handle_eq, stack_eq, profiles_eq]
  rfl

/-! ### Attribute lists -/

private theorem chunks_cons (a b : Element) (rest : List Element) :
    chunks 2 (a :: b :: rest) = [a, b] :: chunks 2 rest := by
  have half : (a :: b :: rest).length / 2 = rest.length / 2 + 1 := by
    simp only [List.length_cons]
    omega
  rw [chunks, half, List.range_succ_eq_map, List.map_cons, List.map_map]
  congr 1
  apply List.map_congr_left
  intro i _
  have place : (i + 1) * 2 = i * 2 + 2 := by omega
  simp [place]

private theorem attributeOf_of_ne {a b : Element} (h : ∀ id, a ≠ .unsigned .w16 id) :
    attributeOf [a, b] = .error .malformed := by
  show (match a with | .unsigned .w16 id => _ | _ => Except.error Fault.malformed) = _
  split
  · next id => exact absurd rfl (h id)
  · rfl

private theorem mapM_attributeOf (found : Attributes) (members : List Element)
    (even : members.length % 2 = 0) :
    ((chunks 2 members).mapM attributeOf).map (found.reverse ++ ·) =
      granted (Attributes.ofElementsOnto found members) := by
  fun_induction Attributes.ofElementsOnto found members with
  | case1 found => simp [chunks, granted, Except.map, pure, Except.pure]
  | case2 found id value rest ih =>
    have rest_even : rest.length % 2 = 0 := by
      simp only [List.length_cons] at even
      omega
    have first : attributeOf [.unsigned .w16 id, value] = .ok (id, value) := rfl
    rw [← ih rest_even, chunks_cons, List.mapM_cons, first]
    cases read : (chunks 2 rest).mapM attributeOf <;>
      simp [bind, Except.bind, pure, Except.pure, Except.map]
  | case3 members found nonempty other =>
    match members with
    | [] => exact absurd rfl nonempty
    | [_] => simp at even
    | a :: b :: rest =>
      have refused := attributeOf_of_ne (a := a) (b := b) fun id same =>
        other id b rest (same ▸ rfl)
      rw [chunks_cons, List.mapM_cons, refused]
      rfl

private theorem ofElementsOnto_odd (found : Attributes) (members : List Element)
    (odd : members.length % 2 ≠ 0) : Attributes.ofElementsOnto found members = none := by
  fun_induction Attributes.ofElementsOnto found members with
  | case1 found => simp at odd
  | case2 found id value rest ih =>
    apply ih
    simp only [List.length_cons] at odd
    omega
  | case3 => rfl

private theorem attributes_eq (members : List Element) :
    attributes members = granted (Attributes.ofElements? members) := by
  unfold attributes Attributes.ofElements?
  split
  · next odd => rw [ofElementsOnto_odd [] members odd]; rfl
  · next even =>
    rw [← mapM_attributeOf [] members (by omega)]
    cases (chunks 2 members).mapM attributeOf <;> rfl

private theorem recordOf_eq (e : Element) : recordOf e = granted (Record.ofElement? e) := by
  cases e with
  | list kind members =>
    cases kind with
    | alternative => rfl
    | sequence =>
      show (attributes members).bind record =
        granted ((Attributes.ofElements? members).map Record.ofAttributes)
      rw [attributes_eq]
      cases Attributes.ofElements? members with
      | none => rfl
      | some a => exact record_eq a
  | _ => rfl

private theorem mapM_recordOf (lists : List Element) :
    lists.mapM recordOf = granted (lists.mapM Record.ofElement?) := by
  induction lists with
  | nil => rfl
  | cons first others ih =>
    rw [List.mapM_cons, List.mapM_cons, recordOf_eq, ih]
    cases Record.ofElement? first with
    | none => rfl
    | some r => cases others.mapM Record.ofElement? <;> rfl

/-- The records that an element lists are found without passing a bound, or refused. -/
theorem within_records (e : Element) : Within (fun _ => True) (records e) := by
  unfold records
  split
  · next lists =>
    rw [mapM_recordOf]
    cases lists.mapM Record.ofElement? <;> simp [granted, Within]
  · rfl

/-- Attribute lists are read without passing a bound. -/
theorem parseLists_eq : parseLists = Record.parseLists := by
  funext bytes
  show (decode 33 0 bytes).bind (fun p => records p.1) = _
  rw [decode_eq, Record.parseLists]
  cases Element.decode bytes with
  | error fault => rfl
  | ok p =>
    obtain ⟨e, rest⟩ := p
    cases e with
    | list kind lists =>
      cases kind with
      | alternative => rfl
      | sequence =>
        show lists.mapM recordOf = _
        rw [mapM_recordOf]
        dsimp only
        cases lists.mapM Record.ofElement? <;> rfl
    | _ => rfl

/-! ### Audio services -/

private theorem expand_eq (u : Uuid) : expand u = .ok u.expand := by
  cases u <;> rfl

private theorem agree_eq (a b : Uuid) : agree a b = pure (decide (a ≈ b)) := by
  unfold agree
  rw [expand_eq, expand_eq]
  rfl

private theorem version_eq (w : BitVec 16) : version w = .ok (Version.ofWord w) := by
  have high : (w >>> 8).setWidth 8 = w.extractLsb' 8 8 := rfl
  have low : (w &&& 0x00FF#16).setWidth 8 = w.extractLsb' 0 8 := by
    rw [BitVec.setWidth_and]
    show w.setWidth 8 &&& BitVec.allOnes 8 = _
    rw [BitVec.and_allOnes]
    rfl
  show Except.ok (Version.mk ((w >>> 8).setWidth 8) ((w &&& 0x00FF#16).setWidth 8)) = _
  rw [high, low]
  rfl

private theorem parameter_eq (r : Record) (u : Uuid) :
    parameter r u = .ok (AudioService.parameter? r u) := by
  unfold parameter AudioService.parameter? Record.protocol?
  simp only [agree_eq, List.findM?_pure, pure_bind]
  cases r.protocols.find? fun p => decide (p.protocol ≈ u) with
  | none => rfl
  | some entry =>
    obtain ⟨protocol, parameters⟩ := entry
    cases parameters with
    | nil => rfl
    | cons first others =>
      have leading : (ProtocolEntry.mk protocol (first :: others)).leading? = first.toU16? := rfl
      show (u16 first).bind (fun n => .ok (n.filter (· ≠ 0))) = _
      rw [u16_eq, Option.bind_some, leading]
      cases first.toU16? with
      | none => rfl
      | some n =>
        show Except.ok ((some n).filter (· ≠ 0)) = _
        rw [Option.filter_some]
        by_cases zero : n = 0 <;> simp [zero]

private theorem role_eq (r : Record) : role r = .ok (AudioService.roleOf r) := by
  unfold role AudioService.roleOf Record.hasClass
  simp only [agree_eq, List.anyM_pure, pure_bind]
  split
  · rfl
  · split <;> rfl

private theorem features_eq (r : Record) (role : Role) :
    features r role = .ok (AudioService.featuresOf r role) := by
  unfold features AudioService.featuresOf
  cases r.attribute? .supportedFeatures with
  | none => rfl
  | some value =>
    show ((u16 value).bind _) = Except.ok (match value.toU16? with | none => _ | some raw => _)
    rw [u16_eq]
    cases value.toU16? with
    | none => rfl
    | some raw =>
      show (if role = .source then shiftLeft (raw.setWidth 8) 4 else .ok (raw.setWidth 8)) =
        Except.ok (if role = .source then raw.setWidth 8 <<< 4 else raw.setWidth 8)
      split <;> rfl

private theorem service_eq (r : Record) : service r = .ok (AudioService.ofRecord r) := by
  unfold service AudioService.ofRecord AudioService.read Record.profile?
  simp only [agree_eq, List.findM?_pure, version_eq, parameter_eq, role_eq, features_eq, pure_bind]
  cases r.profiles.find? fun p => decide (p.profile ≈ ServiceClass.advancedAudio) with
  | none => rfl
  | some profile =>
    cases AudioService.parameter? r ServiceClass.l2cap with
    | none => rfl
    | some psm =>
      cases AudioService.parameter? r ServiceClass.avdtp <;> rfl

/-- No byte string makes a reader of answers pass a bound, with room for 33 calls for the contents
of lists one inside the other, and neither do any attributes or any record. What comes out is what
the readers without bounds give. -/
theorem within_bounds (bytes : Bytes) :
    (decode 33 0 bytes = Element.decode bytes ∧ decode 33 0 bytes ≠ .error .overrun) ∧
      Fragment.decode bytes ≠ .error .overrun ∧
      ErrorCode.decode bytes ≠ .error .overrun ∧
      (parseLists bytes = Record.parseLists bytes ∧ parseLists bytes ≠ .error .overrun) ∧
      (∀ a, record a = .ok (Record.ofAttributes a)) ∧
      ∀ r, service r = .ok (AudioService.ofRecord r) := by
  have element : decode 33 0 bytes ≠ .error .overrun := by
    rw [decode_eq]
    exact (Element.consumes_decodeAt maxNesting bytes).ne_overrun
  have lists : parseLists bytes ≠ .error .overrun := by
    apply Within.ne_overrun (P := fun _ => True)
    show Within _ ((decode 33 0 bytes).bind fun p => records p.1)
    rw [decode_eq]
    apply (Element.consumes_decodeAt maxNesting bytes).bind
    intro p _
    exact within_records p.1
  have fragment := (Fragment.within_decode bytes).ne_overrun
  have code := (ErrorCode.within_decode bytes).ne_overrun
  exact ⟨⟨congrFun decode_eq bytes, element⟩, fragment, code, ⟨congrFun parseLists_eq bytes, lists⟩,
    record_eq, service_eq⟩

end Checked

end A2dpSink.Sdp
