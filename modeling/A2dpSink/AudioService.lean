import A2dpSink.Log
import A2dpSink.Sdp.Record

/-!
# Audio services

What a service record says about audio: whether the service is a source or a sink, where its
transport connection is opened, and what it supports. A record gives a usable service only if it
names the audio profile, an L2CAP channel and a transport version; `AudioService.read` says which
of these is missing first.
-/

namespace A2dpSink

/-- The number a channel to a service is opened on. -/
abbrev Psm := BitVec 16

/-- The part a service plays. -/
inductive Role where
  /-- Not known yet. -/
  | unknown
  | source
  | sink
  /-- Known not to be usable for audio. -/
  | neither
  deriving DecidableEq, Repr, Inhabited

/-- The name of a role. -/
def Role.name : Role → String
  | unknown => "Unknown"
  | source => "Source"
  | sink => "Sink"
  | neither => "Neither"

/-- A version of a protocol or profile. -/
structure Version where
  major : BitVec 8 := 0
  minor : BitVec 8 := 0
  deriving DecidableEq, Repr, Inhabited

namespace Version

/-- The version whose major number is the high byte of a word and whose minor number the low one. -/
def ofWord (w : BitVec 16) : Version := ⟨w.extractLsb' 8 8, w.extractLsb' 0 8⟩

/-- The word a version is sent as. -/
def toWord (v : Version) : BitVec 16 := v.major ++ v.minor

/-- A version taken from a word is written as that word. -/
theorem toWord_ofWord (w : BitVec 16) : (ofWord w).toWord = w := by
  calc (ofWord w).toWord
      = w.extractLsb' 0 16 := BitVec.extractLsb'_append_extractLsb'_eq_extractLsb' rfl
    _ = w := BitVec.extractLsb'_eq_self

/-- Only the word zero stands for version 0.0. -/
theorem ofWord_ne_blank {w : BitVec 16} (h : w ≠ 0) : ofWord w ≠ {} := by
  intro blank
  have word := congrArg toWord blank
  rw [toWord_ofWord] at word
  exact h word

/-- The two numbers with a point between. -/
def text (v : Version) : String := s!"{v.major.toNat}.{v.minor.toNat}"

end Version

/-- The features of an audio service, one bit each; sinks use the low four and sources the others. -/
abbrev Features := BitVec 8

namespace Features

/-- The names of the features, lowest bit first. -/
def allNames : List String :=
  ["Headphone", "Speaker", "Recorder", "Amplifier", "Player", "Microphone", "Tuner", "Mixer"]

/-- The names of the features that are set, lowest bit first. -/
def names (f : Features) : List String :=
  allNames.zipIdx.filterMap fun (name, i) => if f.getLsbD i then some name else none

/-- The binary digits of a number, without leading zeros. -/
def binary (n : Nat) : String := String.ofList (Nat.toDigits 2 n)

/-- The features as they are shown in reports: the bits, and the names of those set. -/
def describe (f : Features) : String :=
  "BitFlags<AudioFeature>(0b" ++ binary f.toNat ++
    (if f = 0 then "" else ", " ++ " | ".intercalate f.names) ++ ")"

end Features

/-- What is known about the audio service of a device. -/
structure AudioService where
  role : Role := .unknown
  psm : Psm := 0
  transportVersion : Version := {}
  profileVersion : Version := {}
  features : Features := 0
  deriving DecidableEq, Repr, Inhabited

namespace AudioService

/-- What keeps a record from describing a usable service. -/
inductive Shortfall where
  /-- The audio profile is not among the profiles. -/
  | noProfile
  /-- There is no L2CAP entry with a channel number. -/
  | noChannel
  /-- There is no transport entry with a version. -/
  | noTransport
  deriving DecidableEq, Repr

/-- The line that reports a shortfall of a record. -/
def Shortfall.line (s : Shortfall) (r : Sdp.Record) : Log.Line :=
  let text (what : String) := s!"record {r.handleText} has no {what} descriptor"
  match s with
  | noProfile => .sdp .warn (text "A2DP profile")
  | noChannel => .sdp .debug (text "usable L2CAP")
  | noTransport => .sdp .debug (text "usable AVDTP")

/-- The first parameter of a protocol of the record, if it is a nonzero number of 16 bits. -/
def parameter? (r : Sdp.Record) (protocol : Uuid) : Option (BitVec 16) :=
  match (r.protocol? protocol).bind (·.leading?) with
  | some n => if n = 0 then none else some n
  | none => none

/-- The role a record's classes give; a sink takes precedence. -/
def roleOf (r : Sdp.Record) : Role :=
  if r.hasClass ServiceClass.audioSink then .sink
  else if r.hasClass ServiceClass.audioSource then .source
  else .neither

/-- The features a record gives to a service of the given role. Only the low byte of the attribute
counts, and for a source it stands in the upper half. -/
def featuresOf (r : Sdp.Record) (role : Role) : Features :=
  match (r.attribute? .supportedFeatures).bind (·.toU16?) with
  | none => 0
  | some raw =>
    let low : Features := raw.setWidth 8
    if role = .source then low <<< 4 else low

/-- Reads the audio service of a record, and what the record lacks. -/
def read (r : Sdp.Record) : AudioService × Option Shortfall :=
  match r.profile? ServiceClass.advancedAudio with
  | none => ({ role := .neither }, some .noProfile)
  | some profile =>
    let partly : AudioService :=
      { role := .neither, profileVersion := .ofWord profile.version }
    match parameter? r ServiceClass.l2cap with
    | none => (partly, some .noChannel)
    | some psm =>
      match parameter? r ServiceClass.avdtp with
      | none => (partly, some .noTransport)
      | some version =>
        let role := roleOf r
        ({ partly with
            role, psm, transportVersion := .ofWord version, features := featuresOf r role }, none)

/-- The audio service of a record. -/
def ofRecord (r : Sdp.Record) : AudioService := (read r).1

/-- What is reported while the audio service of a record is read. -/
def remarks (r : Sdp.Record) : List Log.Line :=
  match (read r).2 with
  | some s => [s.line r]
  | none => []

end AudioService

end A2dpSink
