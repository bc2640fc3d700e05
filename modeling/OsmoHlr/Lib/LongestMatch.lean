import Mathlib.Data.List.MinMax
import Mathlib.Data.List.Perm.Basic
import Mathlib.Tactic.Common

/-!
# The longest match and the first one

Routes have prefixes, and a text is routed by one of those that match it.  The longest
of them does not depend on the order of the routes; the first of them does.

* `exists_isLongest` — if one matches, then one is the longest.
* `find_congr_iff` — what is made of the first match is what is made of the longest one,
  in whatever order the routes are, exactly if it is the same for all that match.
-/

namespace LongestMatch

variable {ρ α γ : Type} [DecidableEq α] (pfx : ρ → List α) (text : List α)

/-- A route matches a text. -/
def Matches (r : ρ) : Prop := (pfx r).isPrefixOf text = true

instance (r : ρ) : Decidable (Matches pfx text r) :=
  inferInstanceAs (Decidable ((pfx r).isPrefixOf text = true))

/-- The first route that matches. -/
def first (rs : List ρ) : Option ρ := rs.find? fun r => (pfx r).isPrefixOf text

/-- A route that matches, and none that does has a longer prefix. -/
structure IsLongest (rs : List ρ) (r : ρ) : Prop where
  mem : r ∈ rs
  isMatch : Matches pfx text r
  longest : ∀ r' ∈ rs, Matches pfx text r' → (pfx r').length ≤ (pfx r).length

variable {pfx text} {rs rs' : List ρ} {r r' : ρ}

/-- The first match is a route that matches. -/
theorem first_eq_some (h : first pfx text rs = some r) : r ∈ rs ∧ Matches pfx text r :=
  ⟨List.mem_of_find?_eq_some h, List.find?_some (p := fun r => (pfx r).isPrefixOf text) h⟩

/-- **There is none exactly if no route matches.** -/
theorem first_eq_none_iff : first pfx text rs = none ↔ ∀ r ∈ rs, ¬Matches pfx text r := by
  simp [first, Matches]

/-- **If one matches, then one is the longest.** -/
theorem exists_isLongest (hmem : r ∈ rs) (hmatch : Matches pfx text r) :
    ∃ r, IsLongest pfx text rs r := by
  let candidates := rs.filter fun r => Matches pfx text r
  have hcandidate : r ∈ candidates := List.mem_filter.2 ⟨hmem, by simpa using hmatch⟩
  cases hlongest : candidates.argmax fun r => (pfx r).length with
  | none =>
      rw [List.argmax_eq_none.1 hlongest] at hcandidate
      cases hcandidate
  | some longest =>
      obtain ⟨hin, hmatches⟩ := List.mem_filter.1 (List.argmax_mem hlongest)
      refine ⟨longest, hin, by simpa using hmatches, fun r' hr' hmatch' => ?_⟩
      have hcandidate' : r' ∈ candidates := List.mem_filter.2 ⟨hr', by simpa using hmatch'⟩
      exact List.le_of_mem_argmax (f := fun r => (pfx r).length) hcandidate' hlongest

/-- Which route is the longest does not depend on the order. -/
theorem IsLongest.perm (h : IsLongest pfx text rs r) (hperm : rs.Perm rs') :
    IsLongest pfx text rs' r :=
  ⟨hperm.mem_iff.1 h.mem, h.isMatch, fun r' hr' => h.longest r' (hperm.mem_iff.2 hr')⟩

/-- Any route that matches is the first in some order. -/
theorem exists_perm_first (hmem : r ∈ rs) (hmatch : Matches pfx text r) :
    ∃ order, order.Perm rs ∧ first pfx text order = some r := by
  obtain ⟨before, after, rfl⟩ := List.append_of_mem hmem
  refine ⟨r :: (before ++ after), List.perm_middle.symm, ?_⟩
  exact List.find?_cons_of_pos hmatch

/-- **When the first match is as good as the longest one**, in whatever order the routes are: `f` is
the same for all that match. -/
theorem find_congr_iff (f : ρ → γ) :
    (∀ order r, order.Perm rs → IsLongest pfx text rs r →
      (first pfx text order).map f = some (f r)) ↔
      ∀ a ∈ rs, ∀ b ∈ rs, Matches pfx text a → Matches pfx text b → f a = f b := by
  constructor
  · intro h a ha b hb hmatcha hmatchb
    obtain ⟨r, hr⟩ := exists_isLongest ha hmatcha
    have hall : ∀ x ∈ rs, Matches pfx text x → f x = f r := by
      intro x hx hmatch
      obtain ⟨order, hperm, hfirst⟩ := exists_perm_first hx hmatch
      have hmap := h order r hperm hr
      rw [hfirst] at hmap
      exact Option.some.inj hmap
    rw [hall a ha hmatcha, hall b hb hmatchb]
  · intro h order r hperm hr
    cases hfirst : first pfx text order with
    | none => exact absurd hr.isMatch (first_eq_none_iff.1 hfirst r (hperm.mem_iff.2 hr.mem))
    | some x =>
        obtain ⟨hx, hmatch⟩ := first_eq_some hfirst
        exact congrArg some (h x (hperm.mem_iff.1 hx) r hr.mem hmatch hr.isMatch)

end LongestMatch
