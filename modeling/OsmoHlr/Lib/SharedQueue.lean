import Mathlib.Data.List.Perm.Basic
import Mathlib.Data.List.Nodup
import Mathlib.Tactic.Common

/-!
# Queues of several keys in one list

One list in which records of several keys wait.  Records leave it together with all
others of their key, or pass by when none of their key waits, so that for each key alone
it is first in, first out.

* `Flow` — what arrives and what is served between two states of the list, with a rule
  for each way to arrive and to be served, and `Flow.trans`.
* `Flow.served_prefix`, `Flow.perm` — what a flow says about order and about number.
-/

namespace SharedQueue

variable {α κ : Type} [DecidableEq κ] (key : α → κ)

/-- The records of one key. -/
def only (k : κ) (l : List α) : List α := l.filter fun x => key x = k

/-- All others. -/
def others (k : κ) (l : List α) : List α := l.filter fun x => key x ≠ k

/-- The list goes from `waiting` to `waiting'` while some arrive and some are served, and for each
key those that arrived first are served first. -/
def Flow (waiting arrived served waiting' : List α) : Prop :=
  ∀ k, only key k waiting ++ only key k arrived = only key k served ++ only key k waiting'

variable {key} {k : κ} {l l' : List α} {x : α}

@[simp] theorem only_nil (k : κ) : only key k [] = [] := rfl

@[simp] theorem only_append (k : κ) (l l' : List α) :
    only key k (l ++ l') = only key k l ++ only key k l' := List.filter_append l l'

theorem mem_only : x ∈ only key k l ↔ x ∈ l ∧ key x = k := by simp [only]

theorem mem_others : x ∈ others key k l ↔ x ∈ l ∧ key x ≠ k := by simp [others]

theorem only_eq_nil_iff : only key k l = [] ↔ ∀ x ∈ l, key x ≠ k := by
  simp [only, List.filter_eq_nil_iff]

theorem only_only_self (k : κ) (l : List α) : only key k (only key k l) = only key k l := by
  simp [only]

theorem only_only_of_ne {k k' : κ} (h : k' ≠ k) (l : List α) :
    only key k' (only key k l) = [] := by
  rw [only_eq_nil_iff]
  intro x hx hk
  exact h (hk.symm.trans (mem_only.1 hx).2)

theorem only_others_self (k : κ) (l : List α) : only key k (others key k l) = [] := by
  rw [only_eq_nil_iff]
  exact fun x hx => (mem_others.1 hx).2

theorem only_others_of_ne {k k' : κ} (h : k' ≠ k) (l : List α) :
    only key k' (others key k l) = only key k' l := by
  rw [only, others, List.filter_filter]
  refine List.filter_congr fun x _ => ?_
  by_cases hk : key x = k'
  · simp [hk, h]
  · simp [hk]

theorem only_singleton_of_ne (h : key x ≠ k) : only key k [x] = [] := by simp [only, h]

/-! ## Rules -/

namespace Flow

variable {w w' w'' a a' s s' : List α}

theorem refl (w : List α) : Flow key w [] [] w := fun k => by simp

/-- One flow after the other. -/
theorem trans (h : Flow key w a s w') (h' : Flow key w' a' s' w'') :
    Flow key w (a ++ a') (s ++ s') w'' := by
  intro k
  calc only key k w ++ only key k (a ++ a')
      = (only key k w ++ only key k a) ++ only key k a' := by simp
    _ = only key k s ++ (only key k w' ++ only key k a') := by rw [h k, List.append_assoc]
    _ = only key k (s ++ s') ++ only key k w'' := by simp [h' k]

/-- One more record waits. -/
theorem defer (w : List α) (x : α) : Flow key w [x] [] (w ++ [x]) := fun k => by simp

/-- All records of one key are served. -/
theorem serve (w : List α) (k : κ) : Flow key w [] (only key k w) (others key k w) := by
  intro k'
  by_cases h : k' = k
  · subst h
    simp [only_only_self, only_others_self]
  · simp [only_only_of_ne h, only_others_of_ne h]

/-- A record passes by if none of its key waits. -/
theorem pass (h : only key (key x) w = []) : Flow key w [x] [x] w := by
  intro k
  by_cases hk : key x = k
  · subst hk
    simp [h]
  · simp [only_singleton_of_ne hk]

/-! ## What it says about runs that begin with nothing waiting -/

/-- For each key, those that arrived first are served. -/
theorem served_prefix (h : Flow key [] a s w) (k : κ) : only key k s <+: only key k a :=
  ⟨only key k w, by simpa using (h k).symm⟩

/-- What has arrived is served or waits, each of it once. -/
theorem perm [DecidableEq α] (h : Flow key [] a s w) : a.Perm (s ++ w) := by
  rw [List.perm_iff_count]
  intro x
  have hcount : ∀ l : List α, l.count x = (only key (key x) l).count x := by
    intro l
    rw [only, List.count_filter (by simp)]
  have hx : only key (key x) a = only key (key x) s ++ only key (key x) w := by
    simpa using h (key x)
  rw [hcount a, hx, List.count_append, List.count_append, ← hcount s, ← hcount w]

end Flow

end SharedQueue
