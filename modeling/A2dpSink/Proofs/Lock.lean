import A2dpSink.Lock
import Mathlib

/-!
# Locks are fair

The parties of a lock, its holder in front, make up one queue: a request goes to its end and a
release takes away its head.
-/

namespace A2dpSink.Lock

variable {α : Type} {l : Lock α} {a : α}

/-- Whoever holds the lock or waits for it, in the order of the requests. -/
def parties (l : Lock α) : List α := l.holder.toList ++ l.waiting

/-- Nobody waits for a free lock, and nobody asks twice. -/
structure Sound (l : Lock α) : Prop where
  waiting_eq_nil : l.holder = none → l.waiting = []
  nodup : l.parties.Nodup

/-- A lock is free when nobody holds it. -/
theorem isFree_iff : l.isFree = true ↔ l.holder = none := by
  simp [isFree]

/-- A lock is taken when somebody holds it. -/
theorem isFree_eq_false_iff : l.isFree = false ↔ ∃ a, l.holder = some a := by
  simp [isFree, Option.isSome_iff_exists]

/-- Nobody waits for a free lock. -/
theorem Sound.eq_of_isFree (h : l.Sound) (free : l.isFree = true) : l = {} := by
  have nobody := isFree_iff.mp free
  have nothing := h.waiting_eq_nil nobody
  cases l
  simp_all

/-- Asking for a lock that is taken leaves it with its holder. -/
theorem holder_request_of_taken (h : l.isFree = false) : (l.request a).holder = l.holder := by
  obtain ⟨b, holder⟩ := isFree_eq_false_iff.mp h
  simp [request, holder]

/-- Whoever asks for the lock comes last. -/
theorem Sound.parties_request (h : l.Sound) (a : α) : (l.request a).parties = l.parties ++ [a] := by
  cases holder : l.holder with
  | none => simp [parties, request, holder, h.waiting_eq_nil holder]
  | some b => simp [parties, request, holder]

/-- When the lock is given up, those who wait are left. -/
theorem parties_release (l : Lock α) : l.release.parties = l.waiting := by
  cases waiting : l.waiting <;> simp [parties, release, waiting]

/-- Whoever holds the lock comes first. -/
theorem parties_eq_cons (h : l.holder = some a) : l.parties = a :: l.waiting := by
  simp [parties, h]

/-- A lock is sound when somebody new asks for it. -/
theorem Sound.request (h : l.Sound) (new : a ∉ l.parties) : (l.request a).Sound := by
  constructor
  · intro free
    cases holder : l.holder <;> simp [Lock.request, holder] at free
  · rw [h.parties_request, ← List.concat_eq_append]
    exact List.Nodup.concat new h.nodup

/-- A lock is sound when it is given up. -/
theorem Sound.release (h : l.Sound) : l.release.Sound := by
  constructor
  · intro free
    simp only [holder_release, List.head?_eq_none_iff] at free
    simp [free]
  · rw [parties_release]
    exact List.Nodup.of_append_right h.nodup

/-- A holder does not wait for the lock. -/
theorem Sound.not_mem_waiting (h : l.Sound) (holder : l.holder = some a) : a ∉ l.waiting := by
  have nodup := h.nodup
  rw [parties_eq_cons holder] at nodup
  exact (List.nodup_cons.mp nodup).1

/-- Whoever holds the lock is one of its parties. -/
theorem mem_parties_of_holder (h : l.holder = some a) : a ∈ l.parties := by
  rw [parties_eq_cons h]
  exact List.mem_cons_self

end A2dpSink.Lock
