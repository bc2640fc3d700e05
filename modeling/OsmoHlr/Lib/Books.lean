import OsmoHlr.Lib.Machine
import OsmoHlr.Lib.Ownership

/-!
# Objects of a machine

A machine is handed objects, uses them, and holds some of them between two inputs.  Objects are
numbered, and a new one has a number that none had before.

* `Balanced.part` — a part of the holders changes, and the others do not.
* `Books` — what a machine has to do with objects.
* `Books.Settled.concat` — if one more step holds or releases objects, so does the run.
* `Books.Settled.kept_or_released` — no object is used after it was released.
-/

namespace Ownership

variable {ε : Type} {isFree : ε → Bool}

/-! ## Parts -/

section Parts

variable {live held : Nat → Prop} {use : Nat → List ε} {n : Nat}

/-- What is held was live. -/
theorem Balanced.live_of_held (h : Balanced isFree live held use) (hheld : held n) : live n := by
  by_contra hdead
  exact ((h n).2 hdead).1 hheld

/-- Nothing happens. -/
theorem Balanced.refl (isFree : ε → Bool) (live : Nat → Prop) :
    Balanced isFree live live fun _ => [] :=
  .of_kept (fun _ => Iff.rfl) (fun _ => kept_nil) fun _ _ => rfl

/-- One new object is released, and nothing else happens. -/
theorem Balanced.of_released {new : Nat} (hnew : ¬held new) (h : Released isFree (use new))
    (hother : ∀ n, n ≠ new → use n = []) :
    Balanced isFree (fun n => held n ∨ n = new) held use := by
  intro n
  by_cases hn : n = new
  · subst hn
    exact ⟨fun _ => Or.inr ⟨hnew, h⟩, fun hdead => absurd (Or.inr rfl) hdead⟩
  · rw [hother n hn]
    exact ⟨fun hlive => Or.inl ⟨hlive.resolve_right hn, kept_nil⟩,
      fun hdead => ⟨fun hheld => hdead (Or.inl hheld), rfl⟩⟩

/-- **One part of the holders goes from `a` to `b`, and the others hold what they held.** -/
theorem Balanced.part {a b others new : Nat → Prop}
    (h : Balanced isFree (fun n => a n ∨ new n) b use) (hothers : ∀ n, others n → ¬a n ∧ ¬new n) :
    Balanced isFree (fun n => (a n ∨ others n) ∨ new n) (fun n => b n ∨ others n) use := by
  have hgrown := h.grow fun n (hn : others n) hlive =>
    hlive.elim (hothers n hn).1 (hothers n hn).2
  exact hgrown.congr (fun n => or_right_comm) fun _ => Iff.rfl

/-- Nobody else holds what the part holds afterwards. -/
theorem Balanced.disjoint {a b others new : Nat → Prop}
    (h : Balanced isFree (fun n => a n ∨ new n) b use) (hothers : ∀ n, others n → ¬a n ∧ ¬new n) :
    ∀ n, others n → ¬b n :=
  fun n hn hb => (h.live_of_held hb).elim (hothers n hn).1 (hothers n hn).2

end Parts

/-! ## Runs -/

/-- What a machine has to do with objects. -/
structure Books (σ ι ω ε : Type) where
  isFree : ε → Bool
  /-- The objects that an input hands over. -/
  handed : σ → ι → List Nat
  /-- The objects that are held in a state. -/
  held : σ → Nat → Prop
  /-- All numbers so far are below this one. -/
  next : σ → Nat
  /-- What is done with an object. -/
  uses : List ω → Nat → List ε
  uses_nil : ∀ n, uses [] n = []
  uses_append : ∀ out out' n, uses (out ++ out') n = uses out n ++ uses out' n

variable {σ ι ω : Type} (books : Books σ ι ω ε) (m : Machine σ ι ω)

/-- A step holds what it held before and what it is handed, or has released it; but it may lose sight
of what it is handed and is not `new`. -/
structure Books.Settles (new : Nat → Prop) (s : σ) (input : ι) : Prop where
  handed : ∀ n, new n → n ∈ books.handed s input
  fresh : ∀ n ∈ books.handed s input, books.next s ≤ n ∧ n < books.next (m.step s input).1
  next_le : books.next s ≤ books.next (m.step s input).1
  balanced : Balanced books.isFree (fun n => books.held s n ∨ new n)
    (books.held (m.step s input).1) (books.uses (m.step s input).2)

/-- Of the objects in sight, those that are held have been kept, and the others released; nothing is
done with any other. -/
structure Books.Settled (seen : Nat → Prop) (s : σ) (inputs : List ι) : Prop where
  handed : ∀ n, seen n → n ∈ m.view books.handed s inputs
  lt_next : ∀ n ∈ m.view books.handed s inputs, n < books.next (m.run s inputs).1
  balanced : Balanced books.isFree seen (books.held (m.run s inputs).1)
    (books.uses (m.run s inputs).2)

variable {books m} {seen new : Nat → Prop} {s : σ} {inputs : List ι} {input : ι}

theorem Books.settled_nil (h : ∀ n, ¬books.held s n) : books.Settled m (fun _ => False) s [] where
  handed := fun _ hn => hn.elim
  lt_next := fun _ hn => by cases hn
  balanced := by
    refine .of_kept (fun n => iff_of_false (h n) id) (fun n => ?_) fun n _ => books.uses_nil n
    show Kept books.isFree (books.uses [] n)
    rw [books.uses_nil]
    exact kept_nil

/-- **One more step**: what is new in it comes in sight. -/
theorem Books.Settled.concat (h : books.Settled m seen s inputs)
    (hstep : books.Settles m new (m.run s inputs).1 input) :
    books.Settled m (fun n => seen n ∨ new n) s (inputs ++ [input]) where
  handed := by
    intro n hn
    rw [m.view_concat]
    exact List.mem_append.2 (hn.imp (h.handed n) (hstep.handed n))
  lt_next := by
    intro n hn
    rw [m.view_concat] at hn
    rw [m.run_concat]
    rcases List.mem_append.1 hn with hn | hn
    · exact Nat.lt_of_lt_of_le (h.lt_next n hn) hstep.next_le
    · exact (hstep.fresh n hn).2
  balanced := by
    have hnew : ∀ n, new n → ¬seen n := fun n hn hseen =>
      absurd (h.lt_next n (h.handed n hseen)) (Nat.not_lt.2 (hstep.fresh n (hstep.handed n hn)).1)
    have huses : books.uses ((m.run s inputs).2 ++ (m.step (m.run s inputs).1 input).2) =
        fun n => books.uses (m.run s inputs).2 n ++
          books.uses (m.step (m.run s inputs).1 input).2 n :=
      funext fun n => books.uses_append _ _ n
    rw [m.run_concat, huses]
    exact (h.balanced.grow hnew).trans hstep.balanced

/-- Nothing has been done with any object after it was released. -/
theorem Books.Settled.kept_or_released (h : books.Settled m seen s inputs) (n : Nat) :
    Kept books.isFree (books.uses (m.run s inputs).2 n) ∨
      Released books.isFree (books.uses (m.run s inputs).2 n) := by
  by_cases hseen : seen n
  · exact ((h.balanced n).1 hseen).imp And.right And.right
  · refine Or.inl ?_
    rw [h.balanced.quiet hseen]
    exact kept_nil

/-- What is held has been kept. -/
theorem Books.Settled.kept_of_held (h : books.Settled m seen s inputs) {n : Nat}
    (hheld : books.held (m.run s inputs).1 n) :
    Kept books.isFree (books.uses (m.run s inputs).2 n) := by
  rcases (h.balanced n).1 (h.balanced.live_of_held hheld) with ⟨-, hkept⟩ | ⟨hgone, -⟩
  · exact hkept
  · exact absurd hheld hgone

end Ownership
