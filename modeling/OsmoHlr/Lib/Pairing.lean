import Mathlib.Tactic.Common

/-!
# What is opened is closed once

Something is opened and closed, any number of times, until it is ended for good.
`run` goes through such a history and fails where the order is broken;
`settled_of_run` is what it means for an opening that it does not: it is closed
exactly once before the next opening, or it is not and the end comes.  Closing
something that has never been opened is let pass.
-/

namespace Pairing

/-- What happens. -/
inductive Kind where
  | opens
  | closes
  | ends
  deriving DecidableEq

/-- How things stand. -/
inductive Phase where
  | fresh
  | opened
  | closed
  | ended
  deriving DecidableEq

/-- One more thing that happens, if it may. -/
def Phase.next : Phase → Kind → Option Phase
  | .fresh, .opens => some .opened
  | .fresh, .closes => some .fresh
  | .fresh, .ends => some .ended
  | .opened, .opens => none
  | .opened, .closes => some .closed
  | .opened, .ends => some .ended
  | .closed, .opens => some .opened
  | .closed, .closes => none
  | .closed, .ends => some .ended
  | .ended, _ => none

/-- All that happens, from some phase on. -/
def runFrom : Phase → List Kind → Option Phase
  | p, [] => some p
  | p, k :: ks => (p.next k).bind fun p => runFrom p ks

/-- All that happens, from the beginning. -/
def run (ks : List Kind) : Option Phase := runFrom .fresh ks

theorem runFrom_cons (p : Phase) (k : Kind) (ks : List Kind) :
    runFrom p (k :: ks) = (p.next k).bind fun p => runFrom p ks := rfl

theorem runFrom_append (p : Phase) (ks js : List Kind) :
    runFrom p (ks ++ js) = (runFrom p ks).bind fun p => runFrom p js := by
  induction ks generalizing p with
  | nil => rfl
  | cons k ks ih =>
      rw [List.cons_append, runFrom_cons, runFrom_cons]
      cases p.next k with
      | none => rfl
      | some p => exact ih p

/-- More happens after a run. -/
theorem run_append {ks : List Kind} {p : Phase} (h : run ks = some p) (js : List Kind) :
    run (ks ++ js) = runFrom p js := by
  rw [run, runFrom_append]
  exact congrArg (fun q : Option Phase => q.bind fun p => runFrom p js) h

/-- What happens up to the next opening. -/
def untilOpens (ks : List Kind) : List Kind := ks.takeWhile fun k => k ≠ .opens

/-- Closed exactly once before the next opening, or ended without that. -/
def Settled (ks : List Kind) : Prop :=
  (untilOpens ks).count .closes = 1 ∨
    (untilOpens ks).count .closes = 0 ∧ .ends ∈ untilOpens ks

/-- Nothing happens after the end. -/
theorem eq_nil_of_ended {ks : List Kind} {p : Phase} (h : runFrom .ended ks = some p) :
    ks = [] := by
  cases ks with
  | nil => rfl
  | cons k ks => cases h

/-- What is closed is not closed again before it is opened. -/
theorem count_of_closed {ks : List Kind} {p : Phase} (h : runFrom .closed ks = some p) :
    (untilOpens ks).count .closes = 0 := by
  cases ks with
  | nil => rfl
  | cons k ks =>
      cases k with
      | opens => rfl
      | closes => cases h
      | ends =>
          rw [eq_nil_of_ended h]
          rfl

/-- **An opening is settled, or it is still open and nothing has happened since.** -/
theorem settled_of_opened {ks : List Kind} {p : Phase} (h : runFrom .opened ks = some p) :
    Settled ks ∨ p = .opened ∧ ks = [] := by
  cases ks with
  | nil =>
      cases h
      exact Or.inr ⟨rfl, rfl⟩
  | cons k ks =>
      cases k with
      | opens => cases h
      | closes =>
          have hcount : (untilOpens (.closes :: ks)).count .closes =
              (untilOpens ks).count .closes + 1 := List.count_cons_self
          exact Or.inl (Or.inl (by rw [hcount, count_of_closed h]))
      | ends =>
          rw [eq_nil_of_ended h]
          exact Or.inl (Or.inr ⟨rfl, List.mem_cons_self⟩)

/-- The same, somewhere in a history. -/
theorem settled_of_run {pre post : List Kind} {p : Phase}
    (h : run (pre ++ .opens :: post) = some p) : Settled post ∨ p = .opened ∧ post = [] := by
  rw [run, runFrom_append] at h
  obtain ⟨q, -, hq⟩ := Option.bind_eq_some_iff.1 h
  obtain ⟨q', hnext, hpost⟩ := Option.bind_eq_some_iff.1 hq
  have hopened : q' = .opened := by
    cases q with
    | fresh => exact (Option.some.inj hnext).symm
    | opened => cases hnext
    | closed => exact (Option.some.inj hnext).symm
    | ended => cases hnext
  exact settled_of_opened (hopened ▸ hpost)

end Pairing
