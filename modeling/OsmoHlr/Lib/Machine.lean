import Mathlib.Data.List.Induction
import Mathlib.Tactic.Common

/-!
# Machines that answer inputs with outputs

A `Machine` takes one input at a time and answers it with any number of outputs.
What holds of a whole run is derived here once from what holds of a step.

* `Machine.run` — a run over a list of inputs, with `run_append`.
* `Machine.run_invariant` — a step keeps it, so a run does.
* `Machine.forall_prefix_iff_guarded` — when something holds all along a run;
  `Machine.forall_prefix_iff_guarded_of` if more has to be known to go on.
* `Machine.Simulates` — the steps of one machine, seen by another: each of them
  is a list of inputs there, with the same outputs; `Simulates.run` carries this
  over to runs.
-/

/-- A deterministic machine with outputs. -/
structure Machine (σ ι ω : Type) where
  /-- One input: the next state, and what is put out. -/
  step : σ → ι → σ × List ω

namespace Machine

variable {σ ι ω τ κ ψ : Type} (m : Machine σ ι ω)

/-- All inputs, one after the other. -/
def run : σ → List ι → σ × List ω
  | s, [] => (s, [])
  | s, i :: is => ((run (m.step s i).1 is).1, (m.step s i).2 ++ (run (m.step s i).1 is).2)

@[simp] theorem run_nil (s : σ) : m.run s [] = (s, []) := rfl

@[simp] theorem run_cons (s : σ) (i : ι) (is : List ι) :
    m.run s (i :: is) =
      ((m.run (m.step s i).1 is).1, (m.step s i).2 ++ (m.run (m.step s i).1 is).2) := rfl

/-- A run is cut anywhere. -/
theorem run_append (s : σ) (is js : List ι) :
    m.run s (is ++ js) =
      ((m.run (m.run s is).1 js).1, (m.run s is).2 ++ (m.run (m.run s is).1 js).2) := by
  induction is generalizing s with
  | nil => rfl
  | cons i is ih =>
      rw [List.cons_append, run_cons, ih, run_cons]
      simp only [List.append_assoc]

theorem run_singleton (s : σ) (i : ι) : m.run s [i] = m.step s i := by
  rw [run_cons, run_nil, List.append_nil]

/-- One more input at the end of a run. -/
theorem run_concat (s : σ) (is : List ι) (i : ι) :
    m.run s (is ++ [i]) =
      ((m.step (m.run s is).1 i).1, (m.run s is).2 ++ (m.step (m.run s is).1 i).2) := by
  rw [run_append, run_singleton]

/-- **What every step keeps, every run keeps.** -/
theorem run_invariant {P : σ → Prop} (h : ∀ s i, P s → P (m.step s i).1) {s : σ} (hs : P s)
    (is : List ι) : P (m.run s is).1 := by
  induction is generalizing s with
  | nil => exact hs
  | cons i is ih => exact ih (h s i hs)

/-- Every input of a run meets a condition, in the state in which it comes. -/
def Guarded (G : σ → ι → Prop) : σ → List ι → Prop
  | _, [] => True
  | s, i :: is => G s i ∧ Guarded G (m.step s i).1 is

instance (G : σ → ι → Prop) [∀ s i, Decidable (G s i)] :
    (s : σ) → (is : List ι) → Decidable (m.Guarded G s is)
  | _, [] => .isTrue trivial
  | s, i :: is =>
      have : Decidable (m.Guarded G (m.step s i).1 is) := instDecidableGuarded G (m.step s i).1 is
      inferInstanceAs (Decidable (G s i ∧ m.Guarded G (m.step s i).1 is))

/-- **What every step under the condition keeps, every run under the condition keeps.** -/
theorem run_invariant_of_guarded {P : σ → Prop} {G : σ → ι → Prop}
    (h : ∀ s i, P s → G s i → P (m.step s i).1) {s : σ} (hs : P s) {is : List ι}
    (hG : m.Guarded G s is) : P (m.run s is).1 := by
  induction is generalizing s with
  | nil => exact hs
  | cons i is ih => exact ih (h s i hs hG.1) hG.2

/-- Conditions that come to the same as long as `P` holds come to the same for a run, where a step
needs to keep `P` only if it meets the condition. -/
theorem guarded_congr {P : σ → Prop} {H : ι → Prop} {G G' : σ → ι → Prop}
    (h : ∀ s i, P s → H i → G s i → P (m.step s i).1)
    (hG : ∀ s i, P s → H i → (G s i ↔ G' s i)) {s : σ} (hs : P s) {is : List ι}
    (hH : ∀ i ∈ is, H i) : m.Guarded G s is ↔ m.Guarded G' s is := by
  induction is generalizing s with
  | nil => exact Iff.rfl
  | cons i is ih =>
      have hi := hH i List.mem_cons_self
      have hrest := fun hg : G s i =>
        ih (h s i hs hi hg) fun j hj => hH j (List.mem_cons_of_mem _ hj)
      calc m.Guarded G s (i :: is)
          ↔ G s i ∧ m.Guarded G' (m.step s i).1 is := and_congr_right hrest
        _ ↔ G' s i ∧ m.Guarded G' (m.step s i).1 is := and_congr_left' (hG s i hs hi)

/-- A condition that keeps `P` implies what it implies as long as `P` holds. -/
theorem guarded_imp {P : σ → Prop} {G G' : σ → ι → Prop}
    (h : ∀ s i, P s → G s i → P (m.step s i).1 ∧ G' s i) {s : σ} (hs : P s) {is : List ι}
    (hG : m.Guarded G s is) : m.Guarded G' s is := by
  induction is generalizing s with
  | nil => trivial
  | cons i is ih =>
      obtain ⟨hnext, hi⟩ := h s i hs hG.1
      exact ⟨hi, ih hnext hG.2⟩

theorem guarded_concat {G : σ → ι → Prop} {s : σ} {is : List ι} {i : ι} :
    m.Guarded G s (is ++ [i]) ↔ m.Guarded G s is ∧ G (m.run s is).1 i := by
  induction is generalizing s with
  | nil => simp [Guarded]
  | cons j is ih =>
      rw [List.cons_append, Guarded, Guarded, ih, run_cons, and_assoc]

/-- **What holds after a step exactly if it meets a condition, holds all along a run exactly if
all its steps do.** -/
theorem forall_prefix_iff_guarded {P : List ι → Prop} {G : σ → ι → Prop} {s : σ} (h0 : P [])
    (hstep : ∀ is i, P is → (P (is ++ [i]) ↔ G (m.run s is).1 i)) (is : List ι) :
    (∀ pre, pre <+: is → P pre) ↔ m.Guarded G s is := by
  induction is using List.reverseRecOn with
  | nil =>
      refine iff_of_true (fun pre hpre => ?_) trivial
      rw [List.prefix_nil.1 hpre]
      exact h0
  | append_singleton is i ih =>
      rw [guarded_concat, ← ih]
      constructor
      · intro h
        have hbefore : ∀ pre, pre <+: is → P pre :=
          fun pre hpre => h pre (hpre.trans (List.prefix_append is [i]))
        exact ⟨hbefore, (hstep is i (hbefore is List.prefix_rfl)).1 (h _ List.prefix_rfl)⟩
      · rintro ⟨hbefore, hG⟩ pre hpre
        rcases List.prefix_concat_iff.1 hpre with rfl | hpre
        · exact (hstep is i (hbefore is List.prefix_rfl)).2 hG
        · exact hbefore pre hpre

/-- **The same for what says too little to go on from**: `Q` holds all along a run exactly if all its
steps meet a condition, where `P` is what is known of runs whose steps do. -/
theorem forall_prefix_iff_guarded_of {P Q : List ι → Prop} {G : σ → ι → Prop} {s : σ} (h0 : P [])
    (hPQ : ∀ is, P is → Q is) (hnext : ∀ is i, P is → G (m.run s is).1 i → P (is ++ [i]))
    (hback : ∀ is i, P is → Q (is ++ [i]) → G (m.run s is).1 i) (is : List ι) :
    (∀ pre, pre <+: is → Q pre) ↔ m.Guarded G s is := by
  have hall := m.forall_prefix_iff_guarded (G := G) (P := fun is => m.Guarded G s is ∧ P is)
    ⟨trivial, h0⟩ (s := s) (fun is i h => ?_) is
  · rw [← hall]
    refine ⟨fun hQ pre hpre => ?_, fun hP pre hpre => hPQ pre (hP pre hpre).2⟩
    induction pre using List.reverseRecOn with
    | nil => exact ⟨trivial, h0⟩
    | append_singleton pre i ih =>
        obtain ⟨hguarded, hP⟩ := ih ((List.prefix_append pre [i]).trans hpre)
        have hG := hback pre i hP (hQ _ hpre)
        exact ⟨m.guarded_concat.2 ⟨hguarded, hG⟩, hnext pre i hP hG⟩
  · exact ⟨fun hboth => (m.guarded_concat.1 hboth.1).2,
      fun hG => ⟨m.guarded_concat.2 ⟨h.1, hG⟩, hnext is i h.2 hG⟩⟩

/-- What holds of a run and its outputs, by adding one input at a time. -/
theorem run_induction {P : List ι → σ → List ω → Prop} {s : σ} (h0 : P [] s [])
    (hstep : ∀ is t out i, P is t out → P (is ++ [i]) (m.step t i).1 (out ++ (m.step t i).2))
    (is : List ι) : P is (m.run s is).1 (m.run s is).2 := by
  induction is using List.reverseRecOn with
  | nil => exact h0
  | append_singleton is i ih =>
      rw [run_concat]
      exact hstep is _ _ i ih

/-! ## Simulation -/

/-- The inputs that a second machine sees of a run. -/
def view (inputs : σ → ι → List κ) : σ → List ι → List κ
  | _, [] => []
  | s, i :: is => inputs s i ++ view inputs (m.step s i).1 is

theorem view_append (inputs : σ → ι → List κ) (s : σ) (is js : List ι) :
    m.view inputs s (is ++ js) =
      m.view inputs s is ++ m.view inputs (m.run s is).1 js := by
  induction is generalizing s with
  | nil => rfl
  | cons i is ih =>
      rw [List.cons_append, view, ih, view, run_cons, List.append_assoc]

theorem view_concat (inputs : σ → ι → List κ) (s : σ) (is : List ι) (i : ι) :
    m.view inputs s (is ++ [i]) = m.view inputs s is ++ inputs (m.run s is).1 i := by
  rw [view_append, view, view, List.append_nil]

/-- What is seen of what is seen. -/
theorem view_map {χ : Type} (inputs : σ → ι → List κ) (f : κ → χ) (s : σ) (is : List ι) :
    m.view (fun s i => (inputs s i).map f) s is = (m.view inputs s is).map f := by
  induction is generalizing s with
  | nil => rfl
  | cons i is ih => rw [view, view, ih, List.map_append]

/-- What is seen of a run is seen at one of its steps. -/
theorem mem_view {inputs : σ → ι → List κ} {s : σ} {is : List ι} {k : κ} :
    k ∈ m.view inputs s is ↔
      ∃ pre i post, is = pre ++ i :: post ∧ k ∈ inputs (m.run s pre).1 i := by
  constructor
  · intro hk
    induction is using List.reverseRecOn with
    | nil => cases hk
    | append_singleton is i ih =>
        rw [view_concat] at hk
        rcases List.mem_append.1 hk with hk | hk
        · obtain ⟨pre, j, post, rfl, hj⟩ := ih hk
          exact ⟨pre, j, post ++ [i], by simp, hj⟩
        · exact ⟨is, i, [], rfl, hk⟩
  · rintro ⟨pre, i, post, rfl, hk⟩
    rw [view_append, view]
    exact List.mem_append_right _ (List.mem_append_left _ hk)

/-- `n` follows `m`: it takes each step of `m` as a list of inputs of its own, and puts out the
same, where `output` and `output'` say what is to be compared. -/
structure Simulates {χ : Type} (n : Machine τ κ ψ) (R : σ → τ → Prop) (inputs : σ → ι → List κ)
    (output : ω → List χ) (output' : ψ → List χ) : Prop where
  state : ∀ s t i, R s t → R (m.step s i).1 (n.run t (inputs s i)).1
  output : ∀ s t i, R s t →
    (m.step s i).2.flatMap output = (n.run t (inputs s i)).2.flatMap output'

/-- **A machine that follows the steps follows the runs.** -/
theorem Simulates.run {χ : Type} {m : Machine σ ι ω} {n : Machine τ κ ψ} {R : σ → τ → Prop}
    {inputs : σ → ι → List κ} {output : ω → List χ} {output' : ψ → List χ}
    (h : m.Simulates n R inputs output output') {s : σ} {t : τ} (hst : R s t) (is : List ι) :
    R (m.run s is).1 (n.run t (m.view inputs s is)).1 ∧
      (m.run s is).2.flatMap output = (n.run t (m.view inputs s is)).2.flatMap output' := by
  induction is generalizing s t with
  | nil => exact ⟨hst, rfl⟩
  | cons i is ih =>
      obtain ⟨hR, hout⟩ := ih (h.state s t i hst)
      rw [view, run_append, run_cons]
      refine ⟨hR, ?_⟩
      rw [List.flatMap_append, h.output s t i hst, hout, List.flatMap_append]

end Machine
