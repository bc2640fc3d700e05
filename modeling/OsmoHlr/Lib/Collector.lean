import Mathlib.Data.List.MinMax
import OsmoHlr.Lib.Machine

/-!
# Collecting answers: the youngest one wins

One question is asked, and answers to it come in at any time, each with an age.
For a while they are only collected; then each one that is younger than all
before it is passed on at once.  Listening ends with a timer, with an answer that
cannot get any younger, or from outside.

The collector keeps every answer; which of them count is `List.argmin`.  The
results are about the outputs of a whole run, over answers and ages of any type:

* `outputs_of_run` — the shape of the outputs: answers that are younger and
  younger, and at most one last word, which says how the best answer was passed
  on (`lastWord_of_isLast`).
* `getLast?_answers` — the last answer passed on is the youngest one received.
* `run_perm` — the order of the answers that are only collected does not matter.
-/

namespace Collector

variable {α β : Type}

/-- Where the collector is. -/
inductive Phase where
  /-- Nothing has been asked. -/
  | idle
  /-- Answers are collected until the timer; `stops` says whether that is the end. -/
  | waiting (stops : Bool)
  /-- Answers are passed on. -/
  | listening
  /-- The question is settled. -/
  | closed
  deriving DecidableEq

/-- The collector: its phase, and the answers it has received. -/
structure State (α : Type) where
  phase : Phase
  received : List α

/-- What happens to the collector. -/
inductive Input (α : Type) where
  /-- The question is asked, to wait at first or not. -/
  | start (wait stops : Bool)
  /-- An answer comes in. -/
  | received (a : α)
  /-- The timer expires. -/
  | timer
  /-- Nobody wants to know any more. -/
  | cancel
  /-- The collector has to make room. -/
  | evict
  deriving DecidableEq

/-- The answer that comes in. -/
def Input.answer : Input α → Option α
  | .received a => some a
  | _ => none

/-- What the collector tells. -/
inductive Output (α : Type) where
  /-- An answer, and there may be younger ones. -/
  | interim (a : α)
  /-- The last word: this answer. -/
  | final (a : α)
  /-- The last word: the answer that was passed on stays the best one. -/
  | ended (a : α)
  /-- The last word: there was no answer. -/
  | nothing
  /-- The last word: it ended before there was an answer. -/
  | abandoned
  deriving DecidableEq

/-- Whether nothing more is said after it. -/
def Output.isLast : Output α → Bool
  | .interim _ => false
  | _ => true

/-- The answer that is passed on. -/
def Output.answer : Output α → Option α
  | .interim a => some a
  | .final a => some a
  | _ => none

/-- The output with ages in place of answers. -/
def Output.map (f : α → β) : Output α → Output β
  | .interim a => .interim (f a)
  | .final a => .final (f a)
  | .ended a => .ended (f a)
  | .nothing => .nothing
  | .abandoned => .abandoned

/-- The start of a run. -/
def init : State α := ⟨.idle, []⟩

section Order

variable [LinearOrder β] (age : α → β)

/-- The best answer so far: the youngest one, and of several the first. -/
def best (c : State α) : Option α := c.received.argmin age

/-- Whether an answer is younger than all before it. -/
def Younger (a : α) (b : Option α) : Prop := ∀ x ∈ b, age a < age x

instance (a : α) : (b : Option α) → Decidable (Younger age a b)
  | none => .isTrue (by simp [Younger])
  | some x => decidable_of_iff (age a < age x) (by simp [Younger])

/-! ## The best answer -/

theorem best_concat (p : Phase) (l : List α) (a : α) :
    best age ⟨p, l ++ [a]⟩ =
      if Younger age a (best age ⟨p, l⟩) then some a else best age ⟨p, l⟩ := by
  rw [best, List.argmin_concat]
  by_cases hy : Younger age a (best age ⟨p, l⟩)
  · rw [if_pos hy]
    cases hb : l.argmin age with
    | none => rfl
    | some x => exact if_pos (hy x hb)
  · rw [if_neg hy]
    cases hb : l.argmin age with
    | none => exact absurd (by simp [Younger, best, hb]) hy
    | some x =>
        have hlt : ¬ age a < age x := fun hlt => hy (by simpa [Younger, best, hb] using hlt)
        exact (if_neg hlt).trans hb.symm

theorem best_phase (c : State α) (p : Phase) : best age { c with phase := p } = best age c := rfl

theorem best_eq_none {c : State α} : best age c = none ↔ c.received = [] := List.argmin_eq_none

/-! ## The shape of the outputs -/

/-- Answers that are younger and younger. -/
def Decreasing (is : List α) : Prop := is.Pairwise fun a b => age b < age a

theorem Decreasing.concat {is : List α} {a : α} (h : Decreasing age is)
    (ha : ∀ x ∈ is.getLast?, age a < age x) :
    Decreasing age (is ++ [a]) ∧ ∀ x ∈ is, age a < age x := by
  have hall : ∀ x ∈ is, age a < age x := by
    induction is using List.reverseRecOn with
    | nil => simp
    | append_singleton is b _ =>
        have hb : age a < age b := ha b (by simp)
        have hpair := (List.pairwise_append.1 h).2.2
        intro x hx
        rcases List.mem_append.1 hx with hx | hx
        · exact hb.trans (hpair x hx b (by simp))
        · rw [List.mem_singleton.1 hx]
          exact hb
  refine ⟨List.pairwise_append.2 ⟨h, List.pairwise_singleton _ _, ?_⟩, hall⟩
  intro x hx y hy
  rw [List.mem_singleton.1 hy]
  exact hall x hx

/-- How a last word goes with the answers `is` that were passed on before it. -/
def LastWord (h : List (Input α)) (c : State α) (is : List α) : Output α → Prop
  | .interim _ => False
  | .final a => best age c = some a ∧ ((∀ x ∈ is, age a < age x) ∨ .evict ∈ h)
  | .ended a => best age c = some a ∧ is.getLast? = some a
  | .nothing => c.received = [] ∧ is = []
  | .abandoned => c.received = [] ∧ is = [] ∧ .evict ∈ h

/-- What has been told after the inputs `h`, in each phase. -/
def Told (h : List (Input α)) (c : State α) (out : List (Output α)) : Prop :=
  match c.phase with
  | .idle => c.received = [] ∧ out = []
  | .waiting _ => out = []
  | .listening => ∃ is, Decreasing age is ∧ best age c = is.getLast? ∧ out = is.map .interim
  | .closed => ∃ is, Decreasing age is ∧
      ((.cancel ∈ h ∧ out = is.map .interim) ∨
        ∃ x, LastWord age h c is x ∧ out = is.map .interim ++ [x])

theorem LastWord.mono {h : List (Input α)} {c : State α} {is : List α} {x : Output α}
    (hx : LastWord age h c is x) (i : Input α) : LastWord age (h ++ [i]) c is x := by
  cases x with
  | interim a => exact hx
  | final a => exact ⟨hx.1, hx.2.imp_right fun hmem => List.mem_append_left _ hmem⟩
  | ended a => exact hx
  | nothing => exact hx
  | abandoned => exact ⟨hx.1, hx.2.1, List.mem_append_left _ hx.2.2⟩

/-- An input that is ignored changes nothing. -/
theorem Told.mono {h : List (Input α)} {c : State α} {out : List (Output α)}
    (ht : Told age h c out) (i : Input α) : Told age (h ++ [i]) c (out ++ []) := by
  rw [List.append_nil]
  unfold Told at *
  cases hp : c.phase with
  | closed =>
      rw [hp] at ht
      obtain ⟨is, hdec, ⟨hcancel, hout⟩ | ⟨x, hx, hout⟩⟩ := ht
      · exact ⟨is, hdec, Or.inl ⟨List.mem_append_left _ hcancel, hout⟩⟩
      · exact ⟨is, hdec, Or.inr ⟨x, hx.mono age i, hout⟩⟩
  | _ =>
      rw [hp] at ht
      exact ht

/-! ## Collectors of the same age -/

/-- The youngest age does not depend on the order of the answers. -/
theorem map_argmin_perm {as bs : List α} (h : as.Perm bs) :
    (as.argmin age).map age = (bs.argmin age).map age := by
  cases ha : as.argmin age with
  | none =>
      have hnil := List.argmin_eq_none.1 ha
      rw [hnil] at h
      rw [← h.nil_eq, List.argmin_nil]
  | some a =>
      cases hb : bs.argmin age with
      | none =>
          rw [List.argmin_eq_none.1 hb] at h
          rw [h.eq_nil] at ha
          cases ha
      | some b =>
          have hab : age a ≤ age b :=
            List.le_of_mem_argmin (h.mem_iff.2 (List.argmin_mem hb)) ha
          have hba : age b ≤ age a :=
            List.le_of_mem_argmin (h.mem_iff.1 (List.argmin_mem ha)) hb
          simp [le_antisymm hab hba]

/-- Two collectors that cannot be told apart by ages. -/
def SameAge (c d : State α) : Prop :=
  c.phase = d.phase ∧ (best age c).map age = (best age d).map age

theorem younger_iff_of_sameAge {c d : State α} (h : SameAge age c d) (a : α) :
    Younger age a (best age c) ↔ Younger age a (best age d) := by
  have hage := h.2
  cases hc : best age c with
  | none =>
      rw [hc] at hage
      rw [Option.map_eq_none_iff.1 hage.symm]
  | some x =>
      rw [hc] at hage
      obtain ⟨y, hy, hxy⟩ := Option.map_eq_some_iff.1 hage.symm
      rw [hy]
      simp [Younger, hxy]

/-- The best answer as the last word. -/
def lastWord (said : α → Output α) (none : Output α) (b : Option α) : Output α :=
  b.elim none said

theorem map_lastWord {c d : State α} (h : SameAge age c d) {said : α → Output α} {none : Output α}
    (said' : β → Output β) (hsaid : ∀ a, (said a).map age = said' (age a)) :
    (lastWord said none (best age c)).map age = (lastWord said none (best age d)).map age := by
  have hage := h.2
  cases hc : best age c with
  | none =>
      rw [hc] at hage
      rw [Option.map_eq_none_iff.1 hage.symm]
  | some x =>
      rw [hc] at hage
      obtain ⟨y, hy, hxy⟩ := Option.map_eq_some_iff.1 hage.symm
      rw [hy]
      simp only [lastWord, Option.elim_some, hsaid, hxy]

end Order

/-! ## The machine -/

section Run

variable [LinearOrder β] [OrderBot β] (age : α → β)

/-- An answer comes in while the collector is open. -/
def receive (c : State α) (a : α) (waiting : Bool) : State α × List (Output α) :=
  let c' := { c with received := c.received ++ [a] }
  if Younger age a (best age c) then
    if age a = ⊥ then ({ c' with phase := .closed }, [.final a])
    else if waiting then (c', [])
    else (c', [.interim a])
  else (c', [])

/-- One input. -/
def step (c : State α) : Input α → State α × List (Output α)
  | .start wait stops =>
      match c.phase with
      | .idle => ({ c with phase := if wait then .waiting stops else .listening }, [])
      | _ => (c, [])
  | .received a =>
      match c.phase with
      | .waiting _ => receive age c a true
      | .listening => receive age c a false
      | _ => (c, [])
  | .timer =>
      match c.phase with
      | .waiting true =>
          ({ c with phase := .closed }, [lastWord .final .nothing (best age c)])
      | .waiting false =>
          ({ c with phase := .listening }, (best age c).toList.map .interim)
      | .listening => ({ c with phase := .closed }, [lastWord .ended .nothing (best age c)])
      | _ => (c, [])
  | .cancel =>
      match c.phase with
      | .waiting _ => ({ c with phase := .closed }, [])
      | .listening => ({ c with phase := .closed }, [])
      | _ => (c, [])
  | .evict =>
      match c.phase with
      | .waiting _ => ({ c with phase := .closed }, [lastWord .final .abandoned (best age c)])
      | .listening => ({ c with phase := .closed }, [lastWord .final .abandoned (best age c)])
      | _ => (c, [])

/-- The collector as a machine. -/
def machine : Machine (State α) (Input α) (Output α) := ⟨step age⟩

/-! ## What a run keeps -/

/-- A settled question stays settled. -/
theorem run_closed (l : List α) (is : List (Input α)) :
    (machine age).run ⟨.closed, l⟩ is = (⟨.closed, l⟩, []) := by
  induction is with
  | nil => rfl
  | cons i is ih =>
      have hstep : (machine age).step ⟨.closed, l⟩ i = (⟨.closed, l⟩, []) := by cases i <;> rfl
      rw [Machine.run_cons, hstep, ih]
      rfl

theorem received_receive (c : State α) (a : α) (w : Bool) :
    (receive age c a w).1.received = c.received ++ [a] := by
  unfold receive
  split
  · split
    · rfl
    · cases w <;> rfl
  · rfl

/-- Whether answers are received. -/
def Phase.isOpen : Phase → Bool
  | .waiting _ => true
  | .listening => true
  | _ => false

/-- An open collector keeps the answer that comes in, and otherwise what it has. -/
theorem received_step (c : State α) (i : Input α)
    (h : c.phase.isOpen = true ∨ i.answer = none) :
    (step age c i).1.received = c.received ++ i.answer.toList := by
  obtain ⟨p, l⟩ := c
  cases i with
  | received a =>
      have hopen : p.isOpen = true := by simpa [Input.answer] using h
      cases p with
      | waiting stops => exact received_receive age _ a true
      | listening => exact received_receive age _ a false
      | idle => cases hopen
      | closed => cases hopen
  | start wait stops => cases p <;> simp [step, Input.answer]
  | timer =>
      cases p with
      | waiting stops => cases stops <;> simp [step, Input.answer]
      | _ => simp [step, Input.answer]
  | cancel => cases p <;> simp [step, Input.answer]
  | evict => cases p <;> simp [step, Input.answer]

/-- Inputs that are no answers leave the answers as they are. -/
theorem received_run {is : List (Input α)} (h : ∀ i ∈ is, i.answer = none) (c : State α) :
    ((machine age).run c is).1.received = c.received := by
  induction is generalizing c with
  | nil => rfl
  | cons i is ih =>
      have hi : i.answer = none := h i (by simp)
      rw [Machine.run_cons, ih fun j hj => h j (by simp [hj])]
      show (step age c i).1.received = c.received
      rw [received_step age c i (Or.inr hi), hi]
      exact List.append_nil _

/-! ## The outputs of a run -/

/-- An answer that comes in while nothing is passed on. -/
theorem told_receive_waiting {h : List (Input α)} {l : List α} {stops : Bool} (a : α) :
    Told age (h ++ [.received a]) (receive age ⟨.waiting stops, l⟩ a true).1
      ([] ++ (receive age ⟨.waiting stops, l⟩ a true).2) := by
  unfold receive
  by_cases hy : Younger age a (best age ⟨.waiting stops, l⟩)
  · by_cases h0 : age a = ⊥
    · rw [if_pos hy, if_pos h0]
      refine ⟨[], List.Pairwise.nil, Or.inr ⟨.final a, ⟨?_, by simp⟩, rfl⟩⟩
      rw [best_phase, best_concat, if_pos hy]
    · rw [if_pos hy, if_neg h0]
      rfl
  · rw [if_neg hy]
    rfl

/-- An answer that comes in while answers are passed on. -/
theorem told_receive_listening {h : List (Input α)} {l is : List α} (a : α)
    (hdec : Decreasing age is) (hbest : best age ⟨.listening, l⟩ = is.getLast?) :
    Told age (h ++ [.received a]) (receive age ⟨.listening, l⟩ a false).1
      (is.map .interim ++ (receive age ⟨.listening, l⟩ a false).2) := by
  unfold receive
  by_cases hy : Younger age a (best age ⟨.listening, l⟩)
  · obtain ⟨hdec', hyounger⟩ := hdec.concat age (hbest ▸ hy)
    by_cases h0 : age a = ⊥
    · rw [if_pos hy, if_pos h0]
      refine ⟨is, hdec, Or.inr ⟨.final a, ⟨?_, Or.inl hyounger⟩, rfl⟩⟩
      rw [best_phase, best_concat, if_pos hy]
    · rw [if_pos hy, if_neg h0, if_neg Bool.false_ne_true]
      refine ⟨is ++ [a], hdec', ?_, by simp⟩
      rw [best_concat, if_pos hy, List.getLast?_concat]
  · rw [if_neg hy]
    refine ⟨is, hdec, ?_, by simp⟩
    rw [best_concat, if_neg hy, hbest]

/-- **One input keeps what has been told in shape.** -/
theorem told_step (h : List (Input α)) (c : State α) (out : List (Output α)) (i : Input α)
    (ht : Told age h c out) : Told age (h ++ [i]) (step age c i).1 (out ++ (step age c i).2) := by
  obtain ⟨phase, l⟩ := c
  cases phase with
  | idle =>
      cases i with
      | start wait stops =>
          obtain ⟨hl, rfl⟩ := ht
          cases wait with
          | true => rfl
          | false =>
              simp only at hl
              subst hl
              exact ⟨[], List.Pairwise.nil, rfl, rfl⟩
      | _ => exact ht.mono age _
  | waiting stops =>
      have hout : out = [] := ht
      subst hout
      cases i with
      | start wait stops => exact ht.mono age _
      | received a => exact told_receive_waiting age a
      | timer =>
          cases stops with
          | true =>
              refine ⟨[], List.Pairwise.nil, Or.inr ⟨_, ?_, rfl⟩⟩
              cases hb : best age ⟨.waiting true, l⟩ with
              | none => exact ⟨(best_eq_none age).1 hb, rfl⟩
              | some b => exact ⟨hb, by simp⟩
          | false =>
              refine ⟨(best age ⟨.waiting false, l⟩).toList, ?_, ?_, rfl⟩
              · cases best age ⟨.waiting false, l⟩ with
                | none => exact List.Pairwise.nil
                | some b => exact List.pairwise_singleton _ _
              · show best age ⟨.waiting false, l⟩ = _
                cases best age ⟨.waiting false, l⟩ <;> rfl
      | cancel => exact ⟨[], List.Pairwise.nil, Or.inl ⟨by simp, rfl⟩⟩
      | evict =>
          refine ⟨[], List.Pairwise.nil, Or.inr ⟨_, ?_, rfl⟩⟩
          cases hb : best age ⟨.waiting stops, l⟩ with
          | none => exact ⟨(best_eq_none age).1 hb, rfl, by simp⟩
          | some b => exact ⟨hb, by simp⟩
  | listening =>
      obtain ⟨is, hdec, hbest, rfl⟩ := ht
      have hnil : best age ⟨.listening, l⟩ = none → is = [] := fun hb =>
        List.getLast?_eq_none_iff.1 (hbest.symm.trans hb)
      cases i with
      | start wait stops => exact ⟨is, hdec, hbest, List.append_nil _⟩
      | received a => exact told_receive_listening age a hdec hbest
      | timer =>
          refine ⟨is, hdec, Or.inr ⟨_, ?_, rfl⟩⟩
          cases hb : best age ⟨.listening, l⟩ with
          | none => exact ⟨(best_eq_none age).1 hb, hnil hb⟩
          | some b => exact ⟨hb, hbest.symm.trans hb⟩
      | cancel => exact ⟨is, hdec, Or.inl ⟨by simp, List.append_nil _⟩⟩
      | evict =>
          refine ⟨is, hdec, Or.inr ⟨_, ?_, rfl⟩⟩
          cases hb : best age ⟨.listening, l⟩ with
          | none => exact ⟨(best_eq_none age).1 hb, hnil hb, by simp⟩
          | some b => exact ⟨hb, by simp⟩
  | closed =>
      cases i <;> exact ht.mono age _

/-- **The outputs of a run.** -/
theorem outputs_of_run (h : List (Input α)) :
    Told age h ((machine age).run init h).1 ((machine age).run init h).2 :=
  (machine age).run_induction ⟨rfl, rfl⟩ (fun h c out i ht => told_step age h c out i ht) h

/-- Younger and younger answers, and at most one last word behind them. -/
theorem exists_interim (h : List (Input α)) : ∃ is, Decreasing age is ∧
    (((machine age).run init h).2 = is.map .interim ∨
      ∃ x, LastWord age h ((machine age).run init h).1 is x ∧
        ((machine age).run init h).2 = is.map .interim ++ [x]) := by
  have ht := outputs_of_run age h
  unfold Told at ht
  split at ht
  · exact ⟨[], List.Pairwise.nil, Or.inl ht.2⟩
  · exact ⟨[], List.Pairwise.nil, Or.inl ht⟩
  · obtain ⟨is, hdec, -, hout⟩ := ht
    exact ⟨is, hdec, Or.inl hout⟩
  · obtain ⟨is, hdec, ⟨-, hout⟩ | hlast⟩ := ht
    · exact ⟨is, hdec, Or.inl hout⟩
    · exact ⟨is, hdec, Or.inr hlast⟩

/-- **A last word comes last**, and says how the answers before it are to be taken. -/
theorem lastWord_of_isLast {h : List (Input α)} {pre post : List (Output α)} {x : Output α}
    (hout : ((machine age).run init h).2 = pre ++ x :: post) (hx : x.isLast = true) :
    post = [] ∧ ∃ is, pre = is.map .interim ∧ Decreasing age is ∧
      LastWord age h ((machine age).run init h).1 is x := by
  have hnot : ∀ is : List α, x ∉ is.map Output.interim := by
    intro is hmem
    obtain ⟨a, -, rfl⟩ := List.mem_map.1 hmem
    cases hx
  obtain ⟨is, hdec, heq | ⟨y, hy, heq⟩⟩ := exists_interim age h
  · refine absurd ?_ (hnot is)
    rw [← heq, hout]
    simp
  · rw [hout] at heq
    rcases List.eq_nil_or_concat post with rfl | ⟨post', z, rfl⟩
    · obtain ⟨hpre, hxy⟩ := List.append_inj' heq rfl
      rw [List.singleton_inj.1 hxy]
      exact ⟨rfl, is, hpre, hdec, hy⟩
    · have hsplit : pre ++ x :: (post' ++ [z]) = (pre ++ x :: post') ++ [z] := by simp
      rw [List.concat_eq_append, hsplit] at heq
      refine absurd ?_ (hnot is)
      rw [← (List.append_inj' heq rfl).1]
      simp

/-- **The last answer that is passed on is the best one**, if the question was not cancelled. -/
theorem getLast?_answers {h : List (Input α)}
    (hclosed : ((machine age).run init h).1.phase = .closed) (hcancel : .cancel ∉ h)
    (hne : ((machine age).run init h).1.received ≠ []) :
    (((machine age).run init h).2.filterMap Output.answer).getLast? =
      best age ((machine age).run init h).1 := by
  have hanswers : ∀ is : List α, (is.map Output.interim).filterMap Output.answer = is := by
    intro is
    rw [List.filterMap_map]
    exact List.filterMap_some
  have ht := outputs_of_run age h
  unfold Told at ht
  rw [hclosed] at ht
  obtain ⟨is, -, ⟨hmem, -⟩ | ⟨x, hx, hout⟩⟩ := ht
  · exact absurd hmem hcancel
  · rw [hout, List.filterMap_append, hanswers]
    cases x with
    | interim a => exact absurd hx id
    | final a => simp [Output.answer, hx.1]
    | ended a => simp [Output.answer, hx.1, hx.2]
    | nothing => exact absurd hx.1 hne
    | abandoned => exact absurd hx.1 hne

/-! ## The order of the answers -/

theorem sameAge_receive {c d : State α} (h : SameAge age c d) (a : α) (w : Bool) :
    SameAge age (receive age c a w).1 (receive age d a w).1 ∧
      (receive age c a w).2 = (receive age d a w).2 := by
  obtain ⟨p, l⟩ := c
  obtain ⟨q, k⟩ := d
  have hp : p = q := h.1
  subst hp
  have hiff := younger_iff_of_sameAge age h a
  have hbest : ∀ r : Phase, (best age ⟨r, l ++ [a]⟩).map age = (best age ⟨r, k ++ [a]⟩).map age := by
    intro r
    have hl : best age ⟨r, l⟩ = best age ⟨p, l⟩ := rfl
    have hk : best age ⟨r, k⟩ = best age ⟨p, k⟩ := rfl
    rw [best_concat, best_concat, hl, hk]
    by_cases hy : Younger age a (best age ⟨p, l⟩)
    · rw [if_pos hy, if_pos (hiff.1 hy)]
    · rw [if_neg hy, if_neg (mt hiff.2 hy)]
      exact h.2
  unfold receive
  by_cases hy : Younger age a (best age ⟨p, l⟩)
  · rw [if_pos hy, if_pos (hiff.1 hy)]
    by_cases h0 : age a = ⊥
    · rw [if_pos h0, if_pos h0]
      exact ⟨⟨rfl, hbest _⟩, rfl⟩
    · rw [if_neg h0, if_neg h0]
      cases w <;> exact ⟨⟨rfl, hbest _⟩, rfl⟩
  · rw [if_neg hy, if_neg (mt hiff.2 hy)]
    exact ⟨⟨rfl, hbest _⟩, rfl⟩

/-- One input does not tell them apart either. -/
theorem sameAge_step {c d : State α} (h : SameAge age c d) (i : Input α) :
    SameAge age (step age c i).1 (step age d i).1 ∧
      (step age c i).2.map (Output.map age) = (step age d i).2.map (Output.map age) := by
  obtain ⟨p, l⟩ := c
  obtain ⟨q, k⟩ := d
  have hp : p = q := h.1
  subst hp
  have hfinal : ∀ none : Output α, (lastWord .final none (best age ⟨p, l⟩)).map age =
      (lastWord .final none (best age ⟨p, k⟩)).map age := fun none =>
    map_lastWord age h .final fun _ => rfl
  have hended : ∀ none : Output α, (lastWord .ended none (best age ⟨p, l⟩)).map age =
      (lastWord .ended none (best age ⟨p, k⟩)).map age := fun none =>
    map_lastWord age h .ended fun _ => rfl
  cases p with
  | idle =>
      cases i with
      | start w s => cases w <;> exact ⟨⟨rfl, h.2⟩, rfl⟩
      | _ => exact ⟨h, rfl⟩
  | waiting stops =>
      cases i with
      | start w s => exact ⟨h, rfl⟩
      | received a =>
          obtain ⟨hsame, hout⟩ := sameAge_receive age h a true
          exact ⟨hsame, congrArg _ hout⟩
      | timer =>
          cases stops with
          | true => exact ⟨⟨rfl, h.2⟩, congrArg (fun x => [x]) (hfinal .nothing)⟩
          | false =>
              refine ⟨⟨rfl, h.2⟩, ?_⟩
              have hage := h.2
              simp only [step]
              cases hb : best age ⟨.waiting false, l⟩ with
              | none =>
                  rw [hb] at hage
                  rw [Option.map_eq_none_iff.1 hage.symm]
              | some x =>
                  rw [hb] at hage
                  obtain ⟨y, hy, hxy⟩ := Option.map_eq_some_iff.1 hage.symm
                  rw [hy]
                  simp [Output.map, hxy]
      | cancel => exact ⟨⟨rfl, h.2⟩, rfl⟩
      | evict => exact ⟨⟨rfl, h.2⟩, congrArg (fun x => [x]) (hfinal .abandoned)⟩
  | listening =>
      cases i with
      | start w s => exact ⟨h, rfl⟩
      | received a =>
          obtain ⟨hsame, hout⟩ := sameAge_receive age h a false
          exact ⟨hsame, congrArg _ hout⟩
      | timer => exact ⟨⟨rfl, h.2⟩, congrArg (fun x => [x]) (hended .nothing)⟩
      | cancel => exact ⟨⟨rfl, h.2⟩, rfl⟩
      | evict => exact ⟨⟨rfl, h.2⟩, congrArg (fun x => [x]) (hfinal .abandoned)⟩
  | closed => cases i <;> exact ⟨h, rfl⟩

theorem sameAge_run {c d : State α} (h : SameAge age c d) (is : List (Input α)) :
    ((machine age).run c is).2.map (Output.map age) =
      ((machine age).run d is).2.map (Output.map age) := by
  induction is generalizing c d with
  | nil => rfl
  | cons i is ih =>
      obtain ⟨hsame, hout⟩ := sameAge_step age h i
      rw [Machine.run_cons, Machine.run_cons, List.map_append, List.map_append]
      exact congrArg₂ _ hout (ih hsame)

/-- Answers that can get better are only collected while waiting. -/
theorem run_waiting {as : List α} (h0 : ∀ a ∈ as, age a ≠ ⊥) (stops : Bool) (l : List α) :
    (machine age).run ⟨.waiting stops, l⟩ (as.map .received) = (⟨.waiting stops, l ++ as⟩, []) := by
  induction as generalizing l with
  | nil => simp
  | cons a as ih =>
      have hstep : (machine age).step ⟨.waiting stops, l⟩ (.received a) =
          (⟨.waiting stops, l ++ [a]⟩, []) := by
        show receive age ⟨.waiting stops, l⟩ a true = _
        simp only [receive, if_neg (h0 a (by simp)), if_true, ite_self]
      rw [List.map_cons, Machine.run_cons, hstep, ih fun x hx => h0 x (by simp [hx])]
      simp

/-- **The order in which answers are collected makes no difference** to the number, the kind and
the ages of what is told. -/
theorem run_perm {as bs : List α} (hperm : as.Perm bs) (h0 : ∀ a ∈ as, age a ≠ ⊥) (stops : Bool)
    (is : List (Input α)) :
    ((machine age).run init (.start true stops :: (as.map .received ++ is))).2.map
        (Output.map age) =
      ((machine age).run init (.start true stops :: (bs.map .received ++ is))).2.map
        (Output.map age) := by
  have hsame : SameAge age ⟨.waiting stops, [] ++ as⟩ ⟨.waiting stops, [] ++ bs⟩ :=
    ⟨rfl, map_argmin_perm age hperm⟩
  have hstart : (machine age).step init (.start true stops) = (⟨.waiting stops, []⟩, []) := rfl
  rw [Machine.run_cons, Machine.run_cons, hstart, Machine.run_append, Machine.run_append,
    run_waiting age h0, run_waiting age fun b hb => h0 b (hperm.mem_iff.2 hb)]
  simpa using sameAge_run age hsame is

end Run

end Collector
