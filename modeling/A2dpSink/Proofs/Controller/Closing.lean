import A2dpSink.Proofs.Controller.Runs

/-!
# Close is final

Once an attachment has been closed, no device is observed on its behalf, nothing is known and no
link is there. Whatever was still in the queue or under way by then, and whatever happens later,
leaves all this as it is and opens no link (`close_is_final`).
-/

namespace A2dpSink

namespace Attachment

private theorem mem_attempts {actions : List Action} {psm : Psm}
    (connects : Action.effect (.connect psm) ∈ actions) : psm ∈ attempts actions :=
  List.mem_filterMap.mpr ⟨_, connects, rfl⟩

end Attachment

namespace Controller

open Attachment (Action)

variable {c c' : Controller} {actions : Actions} {n : Nat} {a : Attachment}

/-- The attachment `n` was left as `a`, and has been so ever since. No device is observed on its
behalf, and no turn makes it open a link. -/
structure Finished (c : Controller) (n : Nat) (a : Attachment) : Prop where
  unobserved : ∀ d ∈ c.devices, d.observer ≠ some (.attachment n)
  same : ∃ b, c.attachment? n = some b ∧ b.Cleared ∧ a.Same b
  quiet : ∀ t psm, (n, Action.effect (.connect psm)) ∉ (c.turn t).2

-- The attachment `n` is shut, and nothing has changed since it was left as `a`.
private def ShutAs (c : Controller) (n : Nat) (a : Attachment) : Prop :=
  ∃ place b, c.attachments[n]? = some (place, b) ∧ b.Shut ∧ a.Same b

private theorem ShutAs.turned (h : c.ShutAs n a) (coherent : c.Coherent)
    (turned : c.Turned c' actions) :
    c'.ShutAs n a ∧ ∀ psm, (n, Action.effect (.connect psm)) ∉ actions := by
  obtain ⟨place, b, there, shut, same⟩ := h
  have less := (List.getElem?_eq_some_iff.mp there).1
  -- What is done while another attachment is made bears another number.
  have other : ∀ {actions : Actions}, c.Making actions →
      ∀ psm, (n, Action.effect (.connect psm)) ∉ actions :=
    fun making psm mem => Nat.ne_of_lt less (making _ _ mem).1
  cases turned with
  | refused making => exact ⟨⟨place, b, there, shut, same⟩, other making⟩
  | attached _ _ _ making =>
    refine ⟨⟨place, b, ?_, shut, same⟩, other making⟩
    exact (List.getElem?_append_left less).trans there
  | altered => exact ⟨⟨place, b, there, shut, same⟩, fun _ => List.not_mem_nil⟩
  | @stepped m place' b' devices s e listed =>
    by_cases own : n = m
    · subst own
      rw [there, Option.some.injEq, Prod.mk.injEq] at listed
      obtain ⟨rfl, rfl⟩ := listed
      have sound := (coherent.reached _ (List.mem_of_getElem? there)).sound
      obtain ⟨same', quiet, shut'⟩ := shut.step sound s e
      refine ⟨⟨place, _, List.getElem?_set_self less, shut', same.trans same'⟩, ?_⟩
      intro psm mem
      obtain ⟨x, mem, rfl⟩ : ∃ x ∈ (b.step s e).actions, x = .effect (.connect psm) := by
        simpa using mem
      have attempted := Attachment.mem_attempts mem
      rw [quiet] at attempted
      cases attempted
    · refine ⟨⟨place, b, ?_, shut, same⟩, ?_⟩
      · exact (List.getElem?_set_ne (Ne.symm own)).trans there
      · intro psm mem
        obtain ⟨x, -, eq⟩ := List.mem_map.mp mem
        exact own (congrArg Prod.fst eq).symm

private theorem ShutAs.run (h : c.ShutAs n a) (coherent : c.Coherent) (script : List Turn) :
    (c.run script).ShutAs n a := by
  induction script generalizing c with
  | nil => exact h
  | cons t script ih =>
    exact ih (h.turned coherent (Controller.turned coherent.reached t)).1 (coherent.turn t)

private theorem ShutAs.finished (h : c.ShutAs n a) (coherent : c.Coherent) : c.Finished n a := by
  constructor
  · intro d there observed
    obtain ⟨place, b, listed, shut, -⟩ := h
    obtain ⟨place', at'⟩ := List.getElem?_of_mem there
    obtain ⟨b', listed', observing⟩ := coherent.observed place' d n at' observed
    rw [listed, Option.some.injEq, Prod.mk.injEq] at listed'
    rw [← listed'.2, shut.observing] at observing
    cases observing
  · obtain ⟨place, b, listed, shut, same⟩ := h
    exact ⟨b, by rw [attachment?, listed]; rfl, shut.cleared, same⟩
  · intro t
    exact (h.turned coherent (Controller.turned coherent.reached t)).2

-- When an attachment says that it is closed, it is shut.
private theorem shutAs_of_returned {m : Nat} (coherent : c.Coherent) (turned : c.Turned c' actions)
    (returned : (n, Action.reply m .closed) ∈ actions) :
    ∃ a, c'.attachment? n = some a ∧ c'.ShutAs n a := by
  cases turned with
  | refused making => exact absurd rfl ((making _ _ returned).2 m .closed)
  | attached _ _ _ making => exact absurd rfl ((making _ _ returned).2 m .closed)
  | altered => cases returned
  | @stepped n' place a devices s e there =>
    obtain ⟨x, replies, same⟩ := List.mem_map.mp returned
    obtain ⟨rfl, rfl⟩ := Prod.mk.inj same
    have reached := coherent.reached _ (List.mem_of_getElem? there)
    have shut := reached.closable.shut reached.sound replies
    have less := (List.getElem?_eq_some_iff.mp there).1
    have listed := List.getElem?_set_self (a := (place, (a.step s e).attachment)) less
    exact ⟨_, by rw [attachment?, listed]; rfl, place, _, listed, shut, .refl _⟩

/-- Close is final. Take any run of a controller and a turn of it by which an attachment says that
it is closed. However the run goes on, at any later time no device is observed on behalf of the
attachment, nothing is known, both links are closed and the status says so. Nothing of this has
changed since that turn, and no link is opened any more. -/
theorem close_is_final (fresh : c.Fresh) (script : List Turn) (t : Turn) {m : Nat}
    (returned : (n, Action.reply m .closed) ∈ ((c.run script).turn t).2) :
    ∃ a, ((c.run script).turn t).1.attachment? n = some a ∧
      ∀ later, (((c.run script).turn t).1.run later).Finished n a := by
  have coherent := fresh.coherent.run script
  obtain ⟨a, left, shut⟩ := shutAs_of_returned coherent (turned coherent.reached t) returned
  refine ⟨a, left, fun later => ?_⟩
  have coherent' := coherent.turn t
  exact (shut.run coherent' later).finished (coherent'.run later)

/-- A device that is there, and no attachment. -/
def oneDevice : Controller where
  settings := {}
  devices := [{ localAddress := .zero, remoteAddress := .zero, flags := { connected := true } }]

private theorem oneDevice_fresh : oneDevice.Fresh where
  attachments := rfl
  unobserved := by simp [oneDevice]

/-- A round of discovery waits for its answer, and an update waits in the queue. -/
def underway : List Turn :=
  [.attach 0 (.ok ()), .event 0 (.ok ()) (.start 0),
    .event 0 (.ok ()) (.resume 0 (.opened (.opened 1))), .event 0 (.ok ()) (.startRound 0),
    .event 0 (.ok ()) .notify]

/-- The owner closes the attachment. -/
def closes : Turn := .event 0 (.ok ()) (.close (.ok ()))

/-- The answer arrives, and the update starts. -/
def afterwards : List Turn :=
  [.event 0 (.ok ()) (.resumeRound 0 (.answered (some (.ok [Attachment.speaker])))),
    .event 0 (.ok ()) (.start 1)]

/-- Closing is final with a round and an update under way. -/
theorem close_is_final_underway :
    oneDevice.Fresh ∧ (0, Action.reply 2 .closed) ∈ ((oneDevice.run underway).turn closes).2 ∧
      ((((oneDevice.run underway).turn closes).1.attachment? 0).map fun a =>
        (a.tasks.length, a.discovery.rounds.length)) = some (1, 1) ∧
      ∃ a, ((oneDevice.run underway).turn closes).1.attachment? 0 = some a ∧
        (((oneDevice.run underway).turn closes).1.run afterwards).Finished 0 a := by
  have returned : (0, Action.reply 2 .closed) ∈ ((oneDevice.run underway).turn closes).2 :=
    .tail _ (.head _)
  obtain ⟨a, left, finished⟩ := close_is_final oneDevice_fresh underway closes returned
  exact ⟨oneDevice_fresh, returned, rfl, a, left, finished afterwards⟩

end Controller

end A2dpSink
