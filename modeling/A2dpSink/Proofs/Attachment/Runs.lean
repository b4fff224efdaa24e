import A2dpSink.Proofs.Attachment.Steps

/-!
# Runs

A run is a list of events with what the attachment finds around it at each of them. Every run leaves
an attachment sound (`Sound.run`).
-/

namespace A2dpSink.Attachment

variable {a : Attachment}

/-- Events, each with what the attachment finds around it. -/
abbrev Script := List (Surroundings × Event)

/-- What is left of an attachment after some events. -/
def run (a : Attachment) : Script → Attachment
  | [] => a
  | (s, e) :: rest => (a.step s e).attachment.run rest

/-- Without events nothing happens. -/
@[simp] theorem run_nil (a : Attachment) : a.run [] = a := rfl

/-- A run starts with the step of its first event. -/
@[simp] theorem run_cons (a : Attachment) (s : Surroundings) (e : Event) (rest : Script) :
    a.run ((s, e) :: rest) = (a.step s e).attachment.run rest := rfl

/-- A run in two parts goes on with the second where the first has left off. -/
theorem run_append (a : Attachment) (first second : Script) :
    a.run (first ++ second) = (a.run first).run second := by
  induction first generalizing a with
  | nil => rfl
  | cons turn first ih => exact ih _

/-- Something happens at some turn of a run. -/
def Sometime (a : Attachment) (script : Script) (P : Attachment → Surroundings → Event → Prop) :
    Prop :=
  ∃ before s e after, script = before ++ (s, e) :: after ∧ P (a.run before) s e

/-- Nothing happens in an empty run. -/
theorem not_sometime_nil {a : Attachment} {P : Attachment → Surroundings → Event → Prop} :
    ¬ a.Sometime [] P := by
  rintro ⟨before, s, e, after, eq, -⟩
  simp at eq

/-- What happens in a run happens in its first step or later. -/
theorem sometime_cons {a : Attachment} {script : Script} {s : Surroundings} {e : Event}
    {P : Attachment → Surroundings → Event → Prop} :
    a.Sometime ((s, e) :: script) P ↔ P a s e ∨ (a.step s e).attachment.Sometime script P := by
  constructor
  · rintro ⟨before, s', e', after, eq, holds⟩
    cases before with
    | nil =>
      cases eq
      exact .inl holds
    | cons turn before =>
      obtain ⟨rfl, rfl⟩ := List.cons.inj eq
      exact .inr ⟨before, s', e', after, rfl, holds⟩
  · rintro (holds | ⟨before, s', e', after, rfl, holds⟩)
    · exact ⟨[], s, e, script, rfl, holds⟩
    · exact ⟨(s, e) :: before, s', e', after, rfl, holds⟩

/-- What happens in a run happens in its last step or before. -/
theorem sometime_append {a : Attachment} {script : Script} {s : Surroundings} {e : Event}
    {P : Attachment → Surroundings → Event → Prop} :
    a.Sometime (script ++ [(s, e)]) P ↔ a.Sometime script P ∨ P (a.run script) s e := by
  constructor
  · rintro ⟨before, s', e', after, eq, holds⟩
    rcases List.eq_nil_or_concat' after with rfl | ⟨later, turn, rfl⟩
    · obtain ⟨rfl, same⟩ := List.append_inj' eq rfl
      cases same
      exact .inr holds
    · have front : script ++ [(s, e)] = (before ++ (s', e') :: later) ++ [turn] := by
        simpa using eq
      obtain ⟨rfl, -⟩ := List.append_inj' front rfl
      exact .inl ⟨before, s', e', later, rfl, holds⟩
  · rintro (⟨before, s', e', after, rfl, holds⟩ | holds)
    · exact ⟨before, s', e', after ++ [(s, e)], by simp, holds⟩
    · exact ⟨script, s, e, [], rfl, holds⟩

/-- What happens in a run of one event happens in its step. -/
theorem sometime_singleton {a : Attachment} {s : Surroundings} {e : Event}
    {P : Attachment → Surroundings → Event → Prop} : a.Sometime [(s, e)] P ↔ P a s e := by
  have last : a.Sometime ([] ++ [(s, e)]) P ↔ a.Sometime [] P ∨ P a s e := sometime_append
  exact last.trans (or_iff_right not_sometime_nil)

/-- What has happened in a run has happened when the run goes on. -/
theorem Sometime.append {a : Attachment} {script : Script}
    {P : Attachment → Surroundings → Event → Prop} (h : a.Sometime script P) (more : Script) :
    a.Sometime (script ++ more) P := by
  obtain ⟨before, s, e, after, rfl, holds⟩ := h
  exact ⟨before, s, e, after ++ more, by simp, holds⟩

/-- An attachment that was created, and whose observer is installed. -/
def Begun (a : Attachment) : Prop :=
  ∃ settings remote s actions, create settings remote (.ok ()) s = .ok (.ok a, actions)

/-- Whoever attaches to a device has it looked at first. -/
theorem create_eq_ok {settings : Settings} {remote : Address} {s : Surroundings}
    {actions : List Action}
    (h : create settings remote (.ok ()) s = .ok (.ok a, actions)) :
    ∃ limit,
      let blank : Attachment :=
        { remote
          discovery := { remote, queryLimit := limit }
          transport := (Transport.create remote).1 }
      a = blank.run [(s, .notify)] ∧
        actions = (Transport.create remote).2.map .effect ++ (blank.notify s).actions := by
  simp only [create] at h
  cases session : Discovery.create settings remote with
  | error e => simp [session, Except.map] at h
  | ok d =>
    obtain ⟨limit, rfl⟩ := Discovery.create_eq_ok session
    simp only [session, Except.map, Except.ok.injEq, Prod.mk.injEq] at h
    exact ⟨limit, h.1.symm, h.2.symm⟩

/-- An attachment begins with a notification, and with nothing else. -/
theorem Begun.eq (h : a.Begun) : ∃ remote limit transport s,
    a = Attachment.run { remote, discovery := { remote, queryLimit := limit }, transport }
      [(s, .notify)] := by
  obtain ⟨settings, remote, s, actions, created⟩ := h
  obtain ⟨limit, eq, -⟩ := create_eq_ok created
  exact ⟨remote, limit, _, s, eq⟩

/-- A run leaves an attachment sound. -/
theorem Sound.run (h : a.Sound) (script : Script) : (a.run script).Sound := by
  induction script generalizing a with
  | nil => exact h
  | cons turn script ih => exact ih (h.step turn.1 turn.2)

/-- An attachment begins sound. -/
theorem Begun.sound (h : a.Begun) : a.Sound := by
  obtain ⟨remote, limit, transport, s, rfl⟩ := h.eq
  exact (Sound.blank remote limit transport).run _

/-- An attachment at some time of its life. -/
def Reached (a : Attachment) : Prop := ∃ a₀ : Attachment, ∃ script, a₀.Begun ∧ a = a₀.run script

/-- The beginning is a time of its life. -/
theorem Begun.reached (h : a.Begun) : a.Reached := ⟨a, [], h, rfl⟩

/-- The life of an attachment goes on with every step. -/
theorem Reached.step (h : a.Reached) (s : Surroundings) (e : Event) :
    (a.step s e).attachment.Reached := by
  obtain ⟨a₀, script, begun, rfl⟩ := h
  refine ⟨a₀, script ++ [(s, e)], begun, ?_⟩
  rw [run_append]
  rfl

/-- An attachment is sound at any time of its life. -/
theorem Reached.sound (h : a.Reached) : a.Sound := by
  obtain ⟨a₀, script, begun, rfl⟩ := h
  exact begun.sound.run script

/-! ### A device to look at -/

/-- The device is there, and there is room for jobs. -/
def present : Surroundings := ⟨{ connected := true }, .ok ()⟩

/-- The device is gone, and there is room for jobs. -/
def absent : Surroundings := ⟨{ connected := false }, .ok ()⟩

/-- The record of a sink on channel 25. -/
def speaker : Sdp.Record where
  handle := none
  classes := [ServiceClass.audioSink]
  protocols := [⟨ServiceClass.l2cap, [.u16 25]⟩, ⟨ServiceClass.avdtp, [.u16 0x0103]⟩]
  profiles := [⟨ServiceClass.advancedAudio, 0x0103⟩]
  attributes := []

/-- An attachment to a device that is there, before the first job starts. -/
def attached : Attachment :=
  run { remote := ⟨#v[0, 0, 0, 0, 0, 0]⟩
        discovery := { remote := ⟨#v[0, 0, 0, 0, 0, 0]⟩, queryLimit := 10000 }
        transport := (Transport.create ⟨#v[0, 0, 0, 0, 0, 0]⟩).1 } [(present, .notify)]

/-- Attaching to the device comes to this whenever there is room for its first job. -/
theorem attached_created {s : Surroundings} (room : s.admission = .ok ()) :
    ∃ first, create {} attached.remote (.ok ()) s = .ok (.ok attached, first) := by
  obtain ⟨flags, admission⟩ := s
  subst room
  exact ⟨_, rfl⟩

/-- The attachment to the device is one that was created. -/
theorem attached_begun : attached.Begun := by
  obtain ⟨first, created⟩ := attached_created (s := present) rfl
  exact ⟨_, _, _, first, created⟩

/-- A round finds a speaker, and the report closes the discovery link. -/
def finding : Script :=
  [(present, .start 0), (present, .resume 0 (.opened (.opened 1))), (present, .startRound 0),
    (present, .resumeRound 0 (.answered (some (.ok [speaker])))), (present, .start 1)]

end A2dpSink.Attachment
