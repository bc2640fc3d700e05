import Mathlib.Data.List.Basic
import Mathlib.Tactic.Common

/-!
# Strings as formats

What `printf` makes of a string that is used as the format, without any arguments.  `%%`
prints a percent sign.  Any other conversion wants an argument that is not there, and what
happens then is not defined.

* `printFormat_of_not_mem` — without percent signs, the string itself is printed.
* `prefix_of_printFormat` — the other way round: what is printed is a part of the string
  only if nothing but the last characters of the string are percent signs.
-/

namespace Format

/-- `%` -/
def percent : UInt8 := 37

/-- What is printed of a format without arguments; `none` if that is not defined. -/
def printFormat : List UInt8 → Option (List UInt8)
  | [] => some []
  | [c] => if c = percent then none else some [c]
  | c :: d :: fmt =>
      if c ≠ percent then (printFormat (d :: fmt)).map (c :: ·)
      else if d = percent then (printFormat fmt).map (percent :: ·)
      else none

theorem printFormat_cons {c : UInt8} (h : c ≠ percent) (fmt : List UInt8) :
    printFormat (c :: fmt) = (printFormat fmt).map (c :: ·) := by
  cases fmt with
  | nil => simp [printFormat, h]
  | cons d fmt => rw [printFormat, if_pos h]

theorem printFormat_percent (fmt : List UInt8) :
    printFormat (percent :: percent :: fmt) = (printFormat fmt).map (percent :: ·) := by
  rw [printFormat, if_neg (not_not.2 rfl), if_pos rfl]

/-- A format is printed from its first character on, or is a pair of percent signs and the rest. -/
theorem printFormat_cases {fmt out : List UInt8} (h : printFormat fmt = some out) :
    fmt = [] ∧ out = [] ∨
      (∃ c fmt' out', c ≠ percent ∧ fmt = c :: fmt' ∧ out = c :: out' ∧
        printFormat fmt' = some out') ∨
      ∃ fmt' out', fmt = percent :: percent :: fmt' ∧ out = percent :: out' ∧
        printFormat fmt' = some out' := by
  match fmt with
  | [] => exact Or.inl ⟨rfl, (Option.some.inj h).symm⟩
  | c :: fmt =>
      refine Or.inr ?_
      by_cases hc : c = percent
      · subst hc
        cases fmt with
        | nil =>
            rw [printFormat, if_pos rfl] at h
            cases h
        | cons d fmt =>
            rw [printFormat, if_neg (not_not.2 rfl)] at h
            split at h
            next hd =>
                obtain ⟨out', hout, rfl⟩ := Option.map_eq_some_iff.1 h
                exact Or.inr ⟨fmt, out', by rw [hd], rfl, hout⟩
            next => cases h
      · rw [printFormat_cons hc] at h
        obtain ⟨out', hout, rfl⟩ := Option.map_eq_some_iff.1 h
        exact Or.inl ⟨c, fmt, out', hc, rfl, rfl, hout⟩

/-- **Without percent signs, the string itself is printed.** -/
theorem printFormat_of_not_mem {fmt : List UInt8} (h : percent ∉ fmt) :
    printFormat fmt = some fmt := by
  induction fmt with
  | nil => rfl
  | cons c fmt ih =>
      simp only [List.mem_cons, not_or] at h
      rw [printFormat_cons (Ne.symm h.1), ih h.2]
      rfl

/-- Percent signs at the end are printed by halves. -/
theorem printFormat_append_percent {a : List UInt8} (h : percent ∉ a) (j : Nat) :
    printFormat (a ++ List.replicate (2 * j) percent) = some (a ++ List.replicate j percent) := by
  induction a with
  | nil =>
      rw [List.nil_append, List.nil_append]
      induction j with
      | zero => rfl
      | succ j ih =>
          rw [show 2 * (j + 1) = 2 * j + 1 + 1 from rfl, List.replicate_succ, List.replicate_succ,
            printFormat_percent, ih, List.replicate_succ]
          rfl
  | cons c a ih =>
      simp only [List.mem_cons, not_or] at h
      rw [List.cons_append, printFormat_cons (Ne.symm h.1), ih h.2]
      rfl

/-- What is printed is made of characters of the format. -/
theorem mem_of_mem_printFormat {fmt out : List UInt8} (h : printFormat fmt = some out) :
    ∀ c ∈ out, c ∈ fmt := by
  induction out generalizing fmt with
  | nil => simp
  | cons b out ih =>
      intro c hc
      rcases printFormat_cases h with ⟨-, hnil⟩ | ⟨d, fmt', out', -, rfl, hout, hrest⟩ |
        ⟨fmt', out', rfl, hout, hrest⟩
      · cases hnil
      · obtain ⟨rfl, rfl⟩ := List.cons.inj hout
        rcases List.mem_cons.1 hc with rfl | hc
        · exact List.mem_cons_self
        · exact List.mem_cons_of_mem _ (ih hrest c hc)
      · obtain ⟨rfl, rfl⟩ := List.cons.inj hout
        rcases List.mem_cons.1 hc with rfl | hc
        · exact List.mem_cons_self
        · exact List.mem_cons_of_mem _ (List.mem_cons_of_mem _ (ih hrest c hc))

/-- No more is printed than the format has. -/
theorem length_le_of_printFormat {fmt out : List UInt8} (h : printFormat fmt = some out) :
    out.length ≤ fmt.length := by
  induction out generalizing fmt with
  | nil => exact Nat.zero_le _
  | cons b out ih =>
      rcases printFormat_cases h with ⟨-, hnil⟩ | ⟨d, fmt', out', -, rfl, hout, hrest⟩ |
        ⟨fmt', out', rfl, hout, hrest⟩
      · cases hnil
      · obtain ⟨-, rfl⟩ := List.cons.inj hout
        exact Nat.succ_le_succ (ih hrest)
      · obtain ⟨-, rfl⟩ := List.cons.inj hout
        exact Nat.le_trans (Nat.succ_le_succ (ih hrest)) (Nat.le_succ _)

/-- Behind a percent sign, nothing but percent signs can print what stands there. -/
theorem percents_of_printFormat {fmt out : List UInt8} (h : printFormat fmt = some out) (k : Nat)
    (hpre : out <+: List.replicate (k + 1) percent ++ fmt) :
    ∃ j, fmt = List.replicate (2 * j) percent ∧ out = List.replicate j percent := by
  induction out generalizing fmt k with
  | nil =>
      rcases printFormat_cases h with ⟨rfl, -⟩ | ⟨_, _, _, _, _, hnil, _⟩ | ⟨_, _, _, hnil, _⟩
      · exact ⟨0, rfl, rfl⟩
      · cases hnil
      · cases hnil
  | cons b out ih =>
      rw [List.replicate_succ, List.cons_append, List.cons_prefix_cons] at hpre
      obtain ⟨hb, hpre⟩ := hpre
      rcases printFormat_cases h with ⟨-, hnil⟩ | ⟨d, fmt', out', hd, rfl, hout, -⟩ |
        ⟨fmt', out', rfl, hout, hrest⟩
      · cases hnil
      · exact absurd ((List.cons.inj hout).1.symm.trans hb) hd
      · obtain ⟨-, rfl⟩ := List.cons.inj hout
        have hpre' : out <+: List.replicate (k + 1 + 1) percent ++ fmt' := by
          have hreplicate : List.replicate (k + 1 + 1) percent =
              List.replicate k percent ++ [percent, percent] := List.replicate_add k 2 percent
          rw [hreplicate, List.append_assoc]
          exact hpre
        obtain ⟨j, rfl, rfl⟩ := ih hrest (k + 1) hpre'
        refine ⟨j + 1, ?_, ?_⟩
        · rw [show 2 * (j + 1) = 2 * j + 1 + 1 from rfl, List.replicate_succ, List.replicate_succ]
        · rw [hb, List.replicate_succ]

/-- **What is printed is the start of the format only if percent signs are nowhere but at its
end**, and then only half of them are printed. -/
theorem prefix_of_printFormat {fmt out : List UInt8} (h : printFormat fmt = some out)
    (hpre : out <+: fmt) :
    ∃ a j, percent ∉ a ∧ fmt = a ++ List.replicate (2 * j) percent ∧
      out = a ++ List.replicate j percent := by
  induction out generalizing fmt with
  | nil =>
      rcases printFormat_cases h with ⟨rfl, -⟩ | ⟨_, _, _, _, _, hnil, _⟩ | ⟨_, _, _, hnil, _⟩
      · exact ⟨[], 0, by simp, rfl, rfl⟩
      · cases hnil
      · cases hnil
  | cons b out ih =>
      rcases printFormat_cases h with ⟨-, hnil⟩ | ⟨c, fmt', out', hc, rfl, hout, hrest⟩ |
        ⟨fmt', out', rfl, hout, hrest⟩
      · cases hnil
      · obtain ⟨rfl, rfl⟩ := List.cons.inj hout
        obtain ⟨a, j, ha, rfl, rfl⟩ := ih hrest (List.cons_prefix_cons.1 hpre).2
        refine ⟨b :: a, j, ?_, rfl, rfl⟩
        simpa using ⟨Ne.symm hc, ha⟩
      · obtain ⟨rfl, rfl⟩ := List.cons.inj hout
        obtain ⟨j, rfl, rfl⟩ := percents_of_printFormat hrest 0 (List.cons_prefix_cons.1 hpre).2
        refine ⟨[], j + 1, by simp, ?_, ?_⟩
        · rw [show 2 * (j + 1) = 2 * j + 1 + 1 from rfl, List.replicate_succ, List.replicate_succ]
          rfl
        · rw [List.replicate_succ]
          rfl

end Format
