import A2dpSink.Attachment
import A2dpSink.Proofs.Discovery.Outcomes

/-!
# The tasks of an attachment

Tasks are looked up by their number. A change of one task leaves the others alone, and what the
discovery session does shows among the tasks only when it hands over services.
-/

namespace A2dpSink.Attachment

variable (a : Attachment) (n : Nat) (stage : Option Stage) (errand : Errand) (place : Stage)

/-! ### Fields -/

/-- Moving a task leaves the session alone. -/
@[simp] theorem discovery_setTask : (a.setTask n stage).discovery = a.discovery := rfl

/-- Moving a task leaves the transport link alone. -/
@[simp] theorem transport_setTask : (a.setTask n stage).transport = a.transport := rfl

/-- Moving a task leaves the service alone. -/
@[simp] theorem service_setTask : (a.setTask n stage).service = a.service := rfl

/-- Moving a task does not close the attachment. -/
@[simp] theorem closed_setTask : (a.setTask n stage).closed = a.closed := rfl

/-- Moving a task leaves the owner alone. -/
@[simp] theorem owned_setTask : (a.setTask n stage).owned = a.owned := rfl

/-- Moving a task leaves the lock alone. -/
@[simp] theorem lock_setTask : (a.setTask n stage).lock = a.lock := rfl

/-- Moving a task uses up no number. -/
@[simp] theorem nextTask_setTask : (a.setTask n stage).nextTask = a.nextTask := rfl

/-- A new task leaves the session alone. -/
@[simp] theorem discovery_addTask : (a.addTask errand place).discovery = a.discovery := rfl

/-- A new task leaves the transport link alone. -/
@[simp] theorem transport_addTask : (a.addTask errand place).transport = a.transport := rfl

/-- A new task leaves the service alone. -/
@[simp] theorem service_addTask : (a.addTask errand place).service = a.service := rfl

/-- A new task does not close the attachment. -/
@[simp] theorem closed_addTask : (a.addTask errand place).closed = a.closed := rfl

/-- A new task leaves the owner alone. -/
@[simp] theorem owned_addTask : (a.addTask errand place).owned = a.owned := rfl

/-- A new task leaves the lock alone. -/
@[simp] theorem lock_addTask : (a.addTask errand place).lock = a.lock := rfl

/-- A new task uses up one number. -/
@[simp] theorem nextTask_addTask : (a.addTask errand place).nextTask = a.nextTask + 1 := rfl

variable {a n}

/-! ### Looking up -/

/-- A task is found under its number. -/
theorem number_of_task? {t : Task} (h : a.task? n = some t) : t.number = n := by
  simpa using List.find?_some h

/-- A task that goes to a place is found there. -/
theorem task?_setTask_some (s : Stage) :
    (a.setTask n (some s)).task? n = (a.task? n).map fun t => { t with stage := s } := by
  simp only [task?, setTask]
  induction a.tasks with
  | nil => rfl
  | cons t tasks ih =>
    by_cases own : t.number = n
    · simp [own]
    · rw [List.map_cons, if_neg own, List.find?_cons_of_neg (by simpa using own), ih,
        List.find?_cons_of_neg (by simpa using own)]

/-- A task that goes to a place keeps its number and its errand. -/
theorem task?_setTask_self {t : Task} (h : a.task? n = some t) (s : Stage) :
    (a.setTask n (some s)).task? n = some { t with stage := s } := by
  rw [task?_setTask_some, h]
  rfl

/-- A task that is over is not found any more. -/
theorem task?_setTask_none : (a.setTask n none).task? n = none := by
  simp only [task?, setTask, List.find?_eq_none]
  intro t there
  simpa using (List.mem_filter.mp there).2

/-- Moving a task leaves the others alone. -/
theorem task?_setTask_of_ne {m : Nat} (h : m ≠ n) : (a.setTask n stage).task? m = a.task? m := by
  simp only [task?, setTask]
  cases stage with
  | none =>
    simp only
    induction a.tasks with
    | nil => rfl
    | cons t tasks ih =>
      by_cases own : t.number = n
      · have other : t.number ≠ m := by
          rw [own]
          exact Ne.symm h
        rw [List.filter_cons_of_neg (by simpa using own), ih,
          List.find?_cons_of_neg (by simpa using other)]
      · rw [List.filter_cons_of_pos (by simpa using own), List.find?_cons, List.find?_cons, ih]
  | some s =>
    simp only
    induction a.tasks with
    | nil => rfl
    | cons t tasks ih =>
      by_cases own : t.number = n
      · have other : t.number ≠ m := by
          rw [own]
          exact Ne.symm h
        rw [List.map_cons, if_pos own, List.find?_cons_of_neg (by simpa using other), ih,
          List.find?_cons_of_neg (by simpa using other)]
      · rw [List.map_cons, if_neg own, List.find?_cons, List.find?_cons, ih]

/-- A new task leaves the others alone. -/
theorem task?_addTask_of_ne {m : Nat} (h : m ≠ a.nextTask) :
    (a.addTask errand place).task? m = a.task? m := by
  have other : a.nextTask ≠ m := Ne.symm h
  simp [task?, addTask, List.find?_append, other]

/-- A new task is found under its number if that was free. -/
theorem task?_addTask_self (fresh : a.task? a.nextTask = none) :
    (a.addTask errand place).task? a.nextTask = some ⟨a.nextTask, errand, place⟩ := by
  rw [task?] at fresh
  simp [task?, addTask, List.find?_append, fresh]

/-- Behind a new task there are the old ones and the new one. -/
theorem task?_of_addTask {m : Nat} {u : Task} (h : (a.addTask errand place).task? m = some u) :
    a.task? m = some u ∨ m = a.nextTask ∧ u = ⟨a.nextTask, errand, place⟩ := by
  simp only [task?, addTask, List.find?_append, Option.or_eq_some_iff] at h
  rcases h with old | ⟨-, new⟩
  · exact .inl old
  · rw [List.find?_singleton] at new
    split at new
    · next own =>
      rw [Option.some.injEq] at new
      exact .inr ⟨(by simpa using own : a.nextTask = m).symm, new.symm⟩
    · cases new

/-- Which tasks are found depends on the list of tasks only. -/
theorem task?_eq_of_tasks {b : Attachment} (h : b.tasks = a.tasks) (n : Nat) :
    b.task? n = a.task? n := by
  rw [task?, task?, h]

/-! ### What the discovery session does -/

/-- New tasks take care of services that were handed over. -/
def addReports (a : Attachment) (found : List (List AudioService)) : Attachment :=
  found.foldl (fun a services => a.addTask (.report services) .queued) a

/-- Reports do not close the attachment. -/
@[simp] theorem closed_addReports (a : Attachment) (found : List (List AudioService)) :
    (a.addReports found).closed = a.closed := by
  induction found generalizing a with
  | nil => rfl
  | cons services found ih => exact ih _

/-- Reports leave the owner alone. -/
@[simp] theorem owned_addReports (a : Attachment) (found : List (List AudioService)) :
    (a.addReports found).owned = a.owned := by
  induction found generalizing a with
  | nil => rfl
  | cons services found ih => exact ih _

/-- Reports leave the observer alone. -/
@[simp] theorem observing_addReports (a : Attachment) (found : List (List AudioService)) :
    (a.addReports found).observing = a.observing := by
  induction found generalizing a with
  | nil => rfl
  | cons services found ih => exact ih _

/-- Reports leave the session alone. -/
@[simp] theorem discovery_addReports (a : Attachment) (found : List (List AudioService)) :
    (a.addReports found).discovery = a.discovery := by
  induction found generalizing a with
  | nil => rfl
  | cons services found ih => exact ih _

/-- Each report uses up one number. -/
@[simp] theorem nextTask_addReports (a : Attachment) (found : List (List AudioService)) :
    (a.addReports found).nextTask = a.nextTask + found.length := by
  induction found generalizing a with
  | nil => rfl
  | cons services found ih =>
    rw [List.length_cons, ← Nat.add_assoc, Nat.add_right_comm]
    exact ih _

private theorem task?_addReports_of_lt {a : Attachment} {m : Nat} (h : m < a.nextTask)
    (found : List (List AudioService)) : (a.addReports found).task? m = a.task? m := by
  induction found generalizing a with
  | nil => rfl
  | cons services found ih =>
    exact (ih (Nat.lt_succ_of_lt h)).trans
      (task?_addTask_of_ne (.report services) .queued (Nat.ne_of_lt h))

/-- Reports leave the service alone until they are heeded. -/
@[simp] theorem service_addReports (a : Attachment) (found : List (List AudioService)) :
    (a.addReports found).service = a.service := by
  induction found generalizing a with
  | nil => rfl
  | cons services found ih => exact ih _

/-- Reports leave the transport link alone until they are heeded. -/
@[simp] theorem transport_addReports (a : Attachment) (found : List (List AudioService)) :
    (a.addReports found).transport = a.transport := by
  induction found generalizing a with
  | nil => rfl
  | cons services found ih => exact ih _

private theorem attachment_translate (a : Attachment) (actions : List Discovery.Action) :
    (a.translate actions).attachment = a.addReports (Discovery.deliveries actions) := by
  induction actions generalizing a with
  | nil => rfl
  | cons action actions ih =>
    cases action with
    | effect e => exact ih a
    | schedule n => exact ih a
    | wake p => cases p <;> exact ih a
    | deliver services => exact ih _

/-- What the session does to the world, the attachment does. -/
@[simp] theorem effect_mem_translate {a : Attachment} {e : Effect}
    {actions : List Discovery.Action} :
    .effect e ∈ (a.translate actions).actions ↔ .effect e ∈ actions := by
  induction actions generalizing a with
  | nil => simp [translate]
  | cons action actions ih =>
    cases action with
    | wake p => cases p <;> simp [translate, Outcome.after, ih]
    | _ => simp [translate, Outcome.after, ih]

/-- What the session does changes the session, and adds a task for each delivery. -/
theorem attachment_absorb (a : Attachment) (o : Discovery.Outcome) :
    (a.absorb o).attachment =
      { a with discovery := o.session }.addReports (Discovery.deliveries o.actions) :=
  attachment_translate _ _

/-- A task is as it was when the session has made a step. -/
theorem task?_absorb_of_lt {a : Attachment} {m : Nat} (h : m < a.nextTask)
    (o : Discovery.Outcome) : (a.absorb o).attachment.task? m = a.task? m := by
  rw [attachment_absorb]
  exact task?_addReports_of_lt (a := { a with discovery := o.session }) h _

/-- Without a delivery only the session changes. -/
theorem attachment_absorb_of_quiet {o : Discovery.Outcome}
    (h : Discovery.deliveries o.actions = []) :
    (a.absorb o).attachment = { a with discovery := o.session } := by
  rw [attachment_absorb, h]
  rfl

/-- What was done before does not change the attachment. -/
@[simp] theorem attachment_after (o : Outcome) (actions : List Action) :
    (o.after actions).attachment = o.attachment := rfl

/-- What was done before comes first. -/
@[simp] theorem actions_after (o : Outcome) (actions : List Action) :
    (o.after actions).actions = actions ++ o.actions := rfl

end A2dpSink.Attachment
