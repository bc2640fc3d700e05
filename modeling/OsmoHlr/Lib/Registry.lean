import OsmoHlr.Lib.Machine

/-!
# Names that are granted first come, first served

A registry says who owns a name.  A claim is granted for a name that nobody else
owns, and changes nothing otherwise; an owner who leaves gives up all its names.

* `granted_iff_claim` — a claim is granted exactly if the name is owned afterwards.
* `keeps_claim`, `keeps_release` — nobody loses a name but by leaving.
* `machine` — claims, leaves and lookups one after the other, each with its answer.
* `keeps_run` — a name is kept until its owner leaves.
-/

/-- For every name, who owns it. -/
abbrev Registry (κ ω : Type) := κ → Option ω

namespace Registry

variable {κ ω : Type}

/-- `o` may have the name `k`. -/
def Granted (reg : Registry κ ω) (k : κ) (o : ω) : Prop := reg k = none ∨ reg k = some o

instance [DecidableEq ω] (reg : Registry κ ω) (k : κ) (o : ω) : Decidable (reg.Granted k o) :=
  inferInstanceAs (Decidable (reg k = none ∨ reg k = some o))

/-- `o` claims the name `k`. -/
def claim [DecidableEq κ] (reg : Registry κ ω) (k : κ) (o : ω) : Registry κ ω := fun k' =>
  if k' = k ∧ reg k = none then some o else reg k'

/-- `o` leaves. -/
def release [DecidableEq ω] (reg : Registry κ ω) (o : ω) : Registry κ ω := fun k =>
  if reg k = some o then none else reg k

/-- What `o` owns before, `o` owns after. -/
def Keeps (o : ω) (reg reg' : Registry κ ω) : Prop := ∀ k, reg k = some o → reg' k = some o

theorem Keeps.refl (o : ω) (reg : Registry κ ω) : Keeps o reg reg := fun _ h => h

theorem Keeps.trans {o : ω} {r₁ r₂ r₃ : Registry κ ω} (h : Keeps o r₁ r₂) (h' : Keeps o r₂ r₃) :
    Keeps o r₁ r₃ := fun k hk => h' k (h k hk)

section Claim

variable [DecidableEq κ] {reg : Registry κ ω} {k k' : κ} {o o' : ω}

theorem claim_of_eq_none (h : reg k = none) : reg.claim k o k = some o := if_pos ⟨rfl, h⟩

theorem claim_of_ne_none (h : reg k ≠ none) : reg.claim k o = reg := by
  funext k'
  exact if_neg fun hk => h hk.2

theorem claim_other (h : k' ≠ k) : reg.claim k o k' = reg k' := if_neg fun hk => h hk.1

/-- **A claim is granted exactly if the name is owned afterwards.** -/
theorem granted_iff_claim : reg.Granted k o ↔ reg.claim k o k = some o := by
  cases hk : reg k with
  | none => simp [Granted, hk, claim_of_eq_none hk]
  | some x =>
      have hne : reg k ≠ none := by simp [hk]
      simp [Granted, hk, claim_of_ne_none hne]

/-- What is owned after a claim was owned before, or is what was claimed. -/
theorem of_claim_eq_some (h : reg.claim k o k' = some o') :
    reg k' = some o' ∨ k' = k ∧ o' = o ∧ reg k = none := by
  unfold claim at h
  split at h
  next hk => exact Or.inr ⟨hk.1, (Option.some.inj h).symm, hk.2⟩
  next => exact Or.inl h

/-- A claim takes nothing from anybody. -/
theorem keeps_claim : Keeps o' reg (reg.claim k o) := by
  intro k' hk'
  by_cases hk : k' = k ∧ reg k = none
  · rw [hk.1, hk.2] at hk'
    cases hk'
  · exact (if_neg hk).trans hk'

/-- Only the claimant can own more after a claim. -/
theorem claim_eq_some_iff_of_ne (h : o' ≠ o) : reg.claim k o k' = some o' ↔ reg k' = some o' := by
  constructor
  · intro hk'
    rcases of_claim_eq_some hk' with hk' | ⟨-, ho, -⟩
    · exact hk'
    · exact absurd ho h
  · exact keeps_claim k'

end Claim

section Release

variable [DecidableEq ω] {reg : Registry κ ω} {k : κ} {o o' : ω}

theorem release_eq_some_iff : reg.release o k = some o' ↔ reg k = some o' ∧ o' ≠ o := by
  unfold release
  split
  next h => simp [h, eq_comm]
  next h =>
      constructor
      · intro hk
        refine ⟨hk, ?_⟩
        rintro rfl
        exact h hk
      · exact And.left

/-- Nobody else loses a name when somebody leaves. -/
theorem keeps_release (h : o' ≠ o) : Keeps o' reg (reg.release o) :=
  fun _ hk => release_eq_some_iff.2 ⟨hk, h⟩

theorem release_of_ne (h : reg k ≠ some o) : reg.release o k = reg k := if_neg h

end Release

/-! ## A registry at work -/

/-- What a registry is asked to do. -/
inductive Call (κ ω : Type) where
  | claim (k : κ) (o : ω)
  | release (o : ω)
  | owner (k : κ)
  | owns (o : ω)

/-- What it answers. -/
inductive Answer (ω : Type) where
  | granted (b : Prop)
  | owner (o : Option ω)
  | owns (b : Prop)

/-- One call. -/
def call [DecidableEq κ] [DecidableEq ω] (reg : Registry κ ω) :
    Call κ ω → Registry κ ω × List (Answer ω)
  | .claim k o => (reg.claim k o, [.granted (reg.Granted k o)])
  | .release o => (reg.release o, [])
  | .owner k => (reg, [.owner (reg k)])
  | .owns o => (reg, [.owns (∃ k, reg k = some o)])

/-- No call but leaving takes a name from its owner. -/
theorem keeps_call [DecidableEq κ] [DecidableEq ω] {reg : Registry κ ω} {o : ω} {c : Call κ ω}
    (h : c ≠ .release o) : Keeps o reg (reg.call c).1 := by
  cases c with
  | claim k o' => exact keeps_claim
  | release o' =>
      refine keeps_release fun ho => h ?_
      rw [ho]
  | owner k => exact Keeps.refl o reg
  | owns o' => exact Keeps.refl o reg

/-- A registry as a machine. -/
def machine [DecidableEq κ] [DecidableEq ω] : Machine (Registry κ ω) (Call κ ω) (Answer ω) := ⟨call⟩

/-- **A name is kept until its owner leaves.** -/
theorem keeps_run [DecidableEq κ] [DecidableEq ω] {o : ω} {calls : List (Call κ ω)}
    (h : .release o ∉ calls) (reg : Registry κ ω) : Keeps o reg (machine.run reg calls).1 := by
  induction calls generalizing reg with
  | nil => exact Keeps.refl o reg
  | cons c calls ih =>
      obtain ⟨hc, hcalls⟩ := not_or.1 (mt List.mem_cons.2 h)
      rw [Machine.run_cons]
      exact (keeps_call (Ne.symm hc)).trans (ih hcalls _)

end Registry
