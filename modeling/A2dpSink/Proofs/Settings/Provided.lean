import A2dpSink.Settings.Read
import A2dpSink.Proofs.Sink.Calls

/-!
# What settings ask for and what can be provided

A span of time is a 64-bit number of seconds and a number of nanoseconds below one second. Multiplying
one carries from the nanoseconds into the seconds, and the seconds may overflow twice: in their own
product and when the carry is added (`Span.times`). There is a product exactly if it fits a span
(`Span.isSome_times_iff`), and then it is exact (`Span.total_times`).

From this follows for which settings a discovery session, an attachment and an assignment can be made
at all, whatever the device and its surroundings (`provided_iff`). Reading settings does not check
this.
-/

namespace A2dpSink

/-! ### Spans of time -/

/-- A span of time. -/
structure Span where
  seconds : BitVec 64
  /-- The nanoseconds beyond the whole seconds. -/
  nanos : BitVec 32
  nanos_lt : nanos.toNat < 10 ^ 9

namespace Span

variable {d e : Span} {n : BitVec 32}

/-- The length of a span in nanoseconds. -/
def total (d : Span) : Nat := d.seconds.toNat * 10 ^ 9 + d.nanos.toNat

/-- The nanoseconds of so many milliseconds, beyond whole seconds. -/
def rest (millis : BitVec 64) : BitVec 32 := (millis % 1000#64).setWidth 32 * 1000000#32

private theorem toNat_rest (millis : BitVec 64) :
    (rest millis).toNat = millis.toNat % 1000 * 1000000 := by
  have less : millis.toNat % 1000 < 1000 := Nat.mod_lt _ (by decide)
  have width : ((millis % 1000#64).setWidth 32).toNat = millis.toNat % 1000 := by
    rw [BitVec.toNat_setWidth, BitVec.toNat_umod]
    exact Nat.mod_eq_of_lt (less.trans (by decide))
  have factor : (1000000#32).toNat = 1000000 := rfl
  rw [rest, BitVec.toNat_mul, width, factor, Nat.mod_eq_of_lt]
  omega

/-- The span of so many milliseconds. -/
def ofMillis (millis : BitVec 64) : Span where
  seconds := millis / 1000#64
  nanos := rest millis
  nanos_lt := by
    have less : millis.toNat % 1000 < 1000 := Nat.mod_lt _ (by decide)
    rw [toNat_rest]
    omega

private theorem total_ofMillis (millis : BitVec 64) :
    (ofMillis millis).total = millis.toNat * 10 ^ 6 := by
  simp only [total, ofMillis, toNat_rest, BitVec.toNat_udiv, BitVec.toNat_ofNat, Nat.reducePow,
    Nat.reduceMod]
  omega

/-- What becomes of the nanoseconds of a span that is taken `n` times. -/
def spread (d : Span) (n : BitVec 32) : BitVec 64 := d.nanos.setWidth 64 * n.setWidth 64

/-- Less than a second, taken less than `2 ^ 32` times, needs no more than 64 bits. -/
theorem toNat_spread (d : Span) (n : BitVec 32) : (d.spread n).toNat = d.nanos.toNat * n.toNat := by
  have less : d.nanos.toNat * n.toNat < 2 ^ 64 := calc
    d.nanos.toNat * n.toNat ≤ 10 ^ 9 * 2 ^ 32 := Nat.mul_le_mul d.nanos_lt.le n.isLt.le
    _ < 2 ^ 64 := by decide
  have nanos : d.nanos.toNat < 2 ^ 64 := d.nanos.isLt.trans (by decide)
  have times : n.toNat < 2 ^ 64 := n.isLt.trans (by decide)
  simp only [spread, BitVec.toNat_mul, BitVec.toNat_setWidth]
  rw [Nat.mod_eq_of_lt nanos, Nat.mod_eq_of_lt times, Nat.mod_eq_of_lt less]

private theorem toNat_factor (n : BitVec 32) : (n.setWidth 64).toNat = n.toNat := by
  rw [BitVec.toNat_setWidth]
  omega

private theorem total_mul (d : Span) (n : BitVec 32) :
    d.total * n.toNat = d.seconds.toNat * n.toNat * 10 ^ 9 + (d.spread n).toNat := by
  rw [total, toNat_spread]
  ring

private theorem toNat_carry (nanos : BitVec 64) :
    (nanos / 1000000000#64).toNat = nanos.toNat / 10 ^ 9 := by
  simp only [BitVec.toNat_udiv, BitVec.toNat_ofNat, Nat.reducePow, Nat.reduceMod]

private theorem toNat_below_second (nanos : BitVec 64) :
    ((nanos % 1000000000#64).setWidth 32).toNat = nanos.toNat % 10 ^ 9 := by
  simp only [BitVec.toNat_setWidth, BitVec.toNat_umod, BitVec.toNat_ofNat, Nat.reducePow,
    Nat.reduceMod]
  omega

/-- A span taken `n` times, if the seconds do not overflow. -/
def times (d : Span) (n : BitVec 32) : Option Span :=
  let nanos := d.spread n
  let whole := d.seconds * n.setWidth 64
  let carry := nanos / 1000000000#64
  if d.seconds.umulOverflow (n.setWidth 64) || whole.uaddOverflow carry then none
  else some
    { seconds := whole + carry
      nanos := (nanos % 1000000000#64).setWidth 32
      nanos_lt := by
        rw [toNat_below_second]
        omega }

/-- There is a product exactly if its seconds are a 64-bit number. -/
theorem isSome_times_iff : (d.times n).isSome ↔ d.total * n.toNat < 2 ^ 64 * 10 ^ 9 := by
  rw [total_mul]
  simp only [times, BitVec.umulOverflow, BitVec.uaddOverflow, BitVec.toNat_mul, toNat_factor,
    toNat_carry, Bool.or_eq_true, decide_eq_true_eq, Option.isSome_ite', not_or]
  omega

private theorem total_times (h : d.times n = some e) : e.total = d.total * n.toNat := by
  have fits : d.total * n.toNat < 2 ^ 64 * 10 ^ 9 := isSome_times_iff.mp (h ▸ Option.isSome_some)
  rw [total_mul] at fits ⊢
  have whole : (d.seconds * n.setWidth 64).toNat = d.seconds.toNat * n.toNat := by
    rw [BitVec.toNat_mul, toNat_factor, Nat.mod_eq_of_lt (by omega)]
  simp only [times] at h
  split at h
  · cases h
  · obtain rfl := Option.some.inj h
    -- What the carry takes from the nanoseconds it brings to the seconds.
    simp only [total, BitVec.toNat_add, whole, toNat_carry, toNat_below_second]
    omega

end Span

/-! ### Settings -/

namespace Settings

variable {s : Settings}

/-- How long a discovery query is asked to take at most, in milliseconds. -/
def discoverySpan (s : Settings) : Nat :=
  s.communicationTimeout.toNat * s.discoveryTimeoutFactor.toNat

private theorem total_times_discovery {d : Span}
    (h : (Span.ofMillis s.communicationTimeout).times s.discoveryTimeoutFactor = some d) :
    d.total = s.discoverySpan * 10 ^ 6 := by
  rw [Span.total_times h, Span.total_ofMillis, discoverySpan]
  ring

private theorem isSome_times_discovery_iff :
    ((Span.ofMillis s.communicationTimeout).times s.discoveryTimeoutFactor).isSome ↔
      s.discoverySpan < spanLimit := by
  have length : s.communicationTimeout.toNat * 10 ^ 6 * s.discoveryTimeoutFactor.toNat =
      s.discoverySpan * 10 ^ 6 := by
    rw [discoverySpan]
    ring
  have limit : spanLimit = 2 ^ 64 * 1000 := rfl
  rw [Span.isSome_times_iff, Span.total_ofMillis, length, limit]
  omega

private theorem discoveryTimeout_of_lt (fits : s.discoverySpan < spanLimit) :
    s.discoveryTimeout = .ok s.discoverySpan := if_pos fits

private theorem discoveryTimeout_of_le (exceeds : spanLimit ≤ s.discoverySpan) :
    s.discoveryTimeout = .error .span := if_neg exceeds.not_gt

private theorem exists_queueLength_iff :
    (∃ length, s.queueLength = .ok length) ↔ s.queueDepth.toNat ≤ queueLimit := by
  have least : 1 ≤ queueLimit := by decide
  simp only [queueLength]
  split <;> simp <;> omega

/-- What settings ask for can be provided, whatever the device, its surroundings and the sink. -/
structure Provided (s : Settings) : Prop where
  /-- The time a discovery query may take is the product that was asked for. -/
  timeout : ∃ d, (Span.ofMillis s.communicationTimeout).times s.discoveryTimeoutFactor = some d ∧
    d.total = s.discoverySpan * 10 ^ 6 ∧ s.discoveryTimeout = .ok s.discoverySpan
  discovery : ∀ remote, ∃ d, Discovery.create s remote = .ok d
  attachment : ∀ remote registration surroundings,
    ∃ made, Attachment.create s remote registration surroundings = .ok made
  assign : ∀ sink : Sink, sink.controller.settings = s → ∀ lookup text admission,
    ∃ attempt, sink.assign lookup text admission = .ok attempt
  queue : ∃ length, s.queueLength = .ok length

/-- Settings ask for a time that does not fit a span, and nothing that depends on it can be made. -/
structure OutOfTime (s : Settings) : Prop where
  timeout : (Span.ofMillis s.communicationTimeout).times s.discoveryTimeoutFactor = none ∧
    s.discoveryTimeout = .error .span
  discovery : ∀ remote, Discovery.create s remote = .error .span
  attachment : ∀ remote registration surroundings,
    Attachment.create s remote registration surroundings = .error .span
  /-- A device that is found and could be assigned is not. -/
  assign : ∀ sink : Sink, sink.controller.settings = s → sink.assigned = none →
    ∀ lookup text admission a place d, Sink.address text = .ok a → lookup a = some place →
      sink.controller.devices[place]? = some d → sink.assign lookup text admission = .error .span

private theorem provided_of_lt (fits : s.discoverySpan < spanLimit)
    (counted : s.queueDepth.toNat ≤ queueLimit) : s.Provided := by
  have timeout := discoveryTimeout_of_lt fits
  obtain ⟨d, product⟩ := Option.isSome_iff_exists.mp (isSome_times_discovery_iff.mpr fits)
  refine ⟨⟨d, product, total_times_discovery product, timeout⟩, fun remote => ?_,
    fun remote registration surroundings => ?_, ?_, exists_queueLength_iff.mpr counted⟩
  · rw [Discovery.create, timeout]
    exact ⟨_, rfl⟩
  · rw [Attachment.create, Discovery.create, timeout]
    exact ⟨_, rfl⟩
  · rintro sink rfl lookup text admission
    exact Sink.exists_call timeout admission (.assign lookup text)

private theorem outOfTime_of_le (exceeds : spanLimit ≤ s.discoverySpan) : s.OutOfTime := by
  have timeout := discoveryTimeout_of_le exceeds
  have product : (Span.ofMillis s.communicationTimeout).times s.discoveryTimeoutFactor = none := by
    rw [← Option.not_isSome_iff_eq_none, isSome_times_discovery_iff]
    exact exceeds.not_gt
  refine ⟨⟨product, timeout⟩, fun remote => ?_, fun remote registration surroundings => ?_, ?_⟩
  · rw [Discovery.create, timeout]
    rfl
  · rw [Attachment.create, Discovery.create, timeout]
    rfl
  · rintro sink rfl free lookup text admission a place d parsed found there
    simp only [Sink.assign, parsed, free, found, Option.bind_some, there, Option.map_some,
      Controller.attach, Attachment.create, Discovery.create, timeout, Except.map]

/-- What settings ask for can be provided if and only if the seconds of the longest query are a 64-bit
number and the places of the queue can be counted. If the seconds are not, nothing can be made. -/
theorem provided_iff (s : Settings) :
    (s.Provided ↔ s.communicationTimeout.toNat * s.discoveryTimeoutFactor.toNat < 2 ^ 64 * 1000 ∧
      s.queueDepth.toNat ≤ queueLimit) ∧
    (s.OutOfTime ↔ 2 ^ 64 * 1000 ≤
      s.communicationTimeout.toNat * s.discoveryTimeoutFactor.toNat) := by
  refine ⟨⟨fun provided => ?_, fun ⟨fits, counted⟩ => provided_of_lt fits counted⟩,
    fun out => ?_, outOfTime_of_le⟩
  · obtain ⟨d, product, -, -⟩ := provided.timeout
    exact ⟨isSome_times_discovery_iff.mp (product ▸ Option.isSome_some),
      exists_queueLength_iff.mp provided.queue⟩
  · by_contra fits
    have timeout := out.timeout.2
    rw [discoveryTimeout_of_lt (not_le.mp fits)] at timeout
    cases timeout

/-- Settings that can be read and ask for a time that does not fit. -/
theorem not_always_provided :
    ∃ s, ofJson
        "\x7b\"communicationTimeout\":5000000000000,\"discoveryTimeoutFactor\":4000000000\x7d" =
        .ok s ∧ s.OutOfTime ∧ ¬ s.Provided := by
  let s : Settings := { communicationTimeout := 5000000000000, discoveryTimeoutFactor := 4000000000 }
  have out : s.OutOfTime := outOfTime_of_le (by decide)
  refine ⟨s, by decide +kernel, out, fun provided => ?_⟩
  obtain ⟨d, product, -, -⟩ := provided.timeout
  rw [out.timeout.1] at product
  cases product

end Settings

end A2dpSink
