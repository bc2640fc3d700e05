import Mathlib.Tactic.Common

/-!
# What is freed once

An object is used, one use after the other, and one kind of use frees it.  A use
after that has no meaning.  Functions that are handed an object either leave it to
their caller (`Kept`) or release it (`Released`).

* `released_iff` — an object is released by a last use that frees it.
* `Kept.append`, `Kept.released`, `Released.append_iff` — one function after the
  other.
* `Balanced` — what is done with many objects leaves some of them, and has released
  the others; `Balanced.trans` and `Balanced.grow` are for one step after the other.
-/

namespace Ownership

/-- An object is there until it is freed. -/
inductive Life where
  | live
  | freed
  deriving DecidableEq

variable {ε : Type}

/-- One use. -/
def Life.use (isFree : ε → Bool) : Life → ε → Option Life
  | .live, e => some (if isFree e then .freed else .live)
  | .freed, _ => none

/-- All uses, one after the other; `none` if one comes too late. -/
def lifeAfter (isFree : ε → Bool) : Life → List ε → Option Life
  | life, [] => some life
  | life, e :: uses => (life.use isFree e).bind fun life => lifeAfter isFree life uses

/-- The object is left as it is. -/
def Kept (isFree : ε → Bool) (uses : List ε) : Prop := lifeAfter isFree .live uses = some .live

/-- The object is freed, and not used any more. -/
def Released (isFree : ε → Bool) (uses : List ε) : Prop :=
  lifeAfter isFree .live uses = some .freed

instance (isFree : ε → Bool) (uses : List ε) : Decidable (Kept isFree uses) :=
  inferInstanceAs (Decidable (_ = _))

instance (isFree : ε → Bool) (uses : List ε) : Decidable (Released isFree uses) :=
  inferInstanceAs (Decidable (_ = _))

variable {isFree : ε → Bool} {uses uses' : List ε} {e : ε}

theorem lifeAfter_append (life : Life) :
    lifeAfter isFree life (uses ++ uses') =
      (lifeAfter isFree life uses).bind fun life => lifeAfter isFree life uses' := by
  induction uses generalizing life with
  | nil => rfl
  | cons e uses ih =>
      rw [List.cons_append, lifeAfter, lifeAfter]
      cases life.use isFree e with
      | none => rfl
      | some life => exact ih life

/-- Nothing may happen to what is freed. -/
theorem lifeAfter_freed_iff {life : Life} :
    lifeAfter isFree .freed uses = some life ↔ uses = [] ∧ life = .freed := by
  cases uses with
  | nil => simp [lifeAfter, eq_comm]
  | cons e uses => simp [lifeAfter, Life.use]

theorem kept_nil : Kept isFree [] := rfl

theorem released_nil : ¬Released isFree [] := by
  unfold Released
  simp [lifeAfter]

/-- A use that does not free the object changes nothing. -/
theorem kept_cons (h : isFree e = false) : Kept isFree (e :: uses) ↔ Kept isFree uses := by
  unfold Kept
  simp [lifeAfter, Life.use, h]

theorem released_cons (h : isFree e = false) :
    Released isFree (e :: uses) ↔ Released isFree uses := by
  unfold Released
  simp [lifeAfter, Life.use, h]

/-- A use that frees the object is the last one. -/
theorem released_cons_free (h : isFree e = true) : Released isFree (e :: uses) ↔ uses = [] := by
  unfold Released
  simp only [lifeAfter, Life.use, h, ↓reduceIte, Option.bind_some]
  exact lifeAfter_freed_iff.trans (and_iff_left rfl)

/-- What is kept is not freed. -/
theorem kept_iff : Kept isFree uses ↔ ∀ e ∈ uses, isFree e = false := by
  induction uses with
  | nil => simp [kept_nil]
  | cons e uses ih =>
      cases he : isFree e with
      | false =>
          rw [kept_cons he, ih]
          simp [he]
      | true =>
          refine iff_of_false (fun h => ?_) fun h => ?_
          · unfold Kept at h
            simp only [lifeAfter, Life.use, he, ↓reduceIte, Option.bind_some] at h
            exact Life.noConfusion (lifeAfter_freed_iff.1 h).2
          · exact Bool.noConfusion ((h e List.mem_cons_self).symm.trans he)

/-- **An object is released by a last use that frees it.** -/
theorem released_iff :
    Released isFree uses ↔
      ∃ before last, uses = before ++ [last] ∧ isFree last = true ∧ Kept isFree before := by
  induction uses with
  | nil =>
      refine iff_of_false released_nil ?_
      rintro ⟨before, last, h, -⟩
      simp at h
  | cons e uses ih =>
      cases he : isFree e with
      | true =>
          rw [released_cons_free he]
          constructor
          · rintro rfl
            exact ⟨[], e, rfl, he, kept_nil⟩
          · rintro ⟨before, last, h, -, hkept⟩
            cases before with
            | nil => exact (List.cons.inj h).2
            | cons x before =>
                obtain ⟨rfl, -⟩ := List.cons.inj h
                have hfalse := kept_iff.1 hkept e List.mem_cons_self
                exact Bool.noConfusion (hfalse.symm.trans he)
      | false =>
          rw [released_cons he, ih]
          constructor
          · rintro ⟨before, last, rfl, hlast, hkept⟩
            exact ⟨e :: before, last, rfl, hlast, (kept_cons he).2 hkept⟩
          · rintro ⟨before, last, h, hlast, hkept⟩
            cases before with
            | nil =>
                obtain ⟨rfl, -⟩ := List.cons.inj h
                exact Bool.noConfusion (he.symm.trans hlast)
            | cons x before =>
                obtain ⟨rfl, rfl⟩ := List.cons.inj h
                exact ⟨before, last, rfl, hlast, (kept_cons he).1 hkept⟩

/-- What is kept by one function may be used by the next one. -/
theorem Kept.append (h : Kept isFree uses) : Kept isFree (uses ++ uses') ↔ Kept isFree uses' := by
  unfold Kept at h ⊢
  rw [lifeAfter_append, h, Option.bind_some]

/-- What is kept by one function may be released by the next one. -/
theorem Kept.released (h : Kept isFree uses) :
    Released isFree (uses ++ uses') ↔ Released isFree uses' := by
  unfold Kept at h
  unfold Released
  rw [lifeAfter_append, h, Option.bind_some]

/-- **What is released by one function must not be used by the next one.** -/
theorem Released.append_iff (h : Released isFree uses) :
    Released isFree (uses ++ uses') ↔ uses' = [] := by
  unfold Released at h ⊢
  rw [lifeAfter_append, h, Option.bind_some]
  exact lifeAfter_freed_iff.trans (and_iff_left rfl)

/-- What is released by one function is not kept by the next one. -/
theorem Released.not_kept_append (h : Released isFree uses) : ¬Kept isFree (uses ++ uses') := by
  unfold Released at h
  unfold Kept
  rw [lifeAfter_append, h, Option.bind_some, lifeAfter_freed_iff]
  exact fun hlive => Life.noConfusion hlive.2

/-! ## Many objects -/

/-- An object that is still held has been kept, and any other has been released. -/
def Accounted (isFree : ε → Bool) (held : Prop) (uses : List ε) : Prop :=
  held ∧ Kept isFree uses ∨ ¬held ∧ Released isFree uses

theorem Accounted.append {held held' : Prop} (h : Accounted isFree held uses)
    (hheld : held → Accounted isFree held' uses') (hgone : ¬held → ¬held' ∧ uses' = []) :
    Accounted isFree held' (uses ++ uses') := by
  rcases h with ⟨h, hkept⟩ | ⟨h, hreleased⟩
  · rcases hheld h with ⟨h', hkept'⟩ | ⟨h', hreleased'⟩
    · exact Or.inl ⟨h', hkept.append.2 hkept'⟩
    · exact Or.inr ⟨h', hkept.released.2 hreleased'⟩
  · obtain ⟨h', rfl⟩ := hgone h
    exact Or.inr ⟨h', by rwa [List.append_nil]⟩

variable {κ : Type} {live mid held : κ → Prop} {use use' : κ → List ε}

/-- Of the objects that are live, those that are held at the end have been kept, and all others have
been released; nothing is done with any other object. -/
def Balanced (isFree : ε → Bool) (live held : κ → Prop) (use : κ → List ε) : Prop :=
  ∀ k, (live k → Accounted isFree (held k) (use k)) ∧ (¬live k → ¬held k ∧ use k = [])

/-- Nothing is done with what is not live. -/
theorem Balanced.quiet (h : Balanced isFree live held use) {k : κ} (hk : ¬live k) : use k = [] :=
  ((h k).2 hk).2

/-- What is only kept is held as before. -/
theorem Balanced.of_kept (hheld : ∀ k, held k ↔ live k) (hkept : ∀ k, Kept isFree (use k))
    (hquiet : ∀ k, ¬live k → use k = []) : Balanced isFree live held use :=
  fun k => ⟨fun hlive => Or.inl ⟨(hheld k).2 hlive, hkept k⟩,
    fun hdead => ⟨fun h => hdead ((hheld k).1 h), hquiet k hdead⟩⟩

/-- **One step after the other.** -/
theorem Balanced.trans (h : Balanced isFree live mid use) (h' : Balanced isFree mid held use') :
    Balanced isFree live held fun k => use k ++ use' k := by
  intro k
  refine ⟨fun hlive => ((h k).1 hlive).append (h' k).1 (h' k).2, fun hdead => ?_⟩
  obtain ⟨hmid, huse⟩ := (h k).2 hdead
  obtain ⟨hheld, huse'⟩ := (h' k).2 hmid
  exact ⟨hheld, List.append_eq_nil_iff.2 ⟨huse, huse'⟩⟩

/-- New objects are live and held. -/
theorem Balanced.grow (h : Balanced isFree live held use) {new : κ → Prop}
    (hnew : ∀ k, new k → ¬live k) :
    Balanced isFree (fun k => live k ∨ new k) (fun k => held k ∨ new k) use := by
  intro k
  constructor
  · rintro (hlive | hk)
    · rcases (h k).1 hlive with ⟨hheld, hkept⟩ | ⟨hgone, hreleased⟩
      · exact Or.inl ⟨Or.inl hheld, hkept⟩
      · exact Or.inr ⟨fun hheld => hheld.elim hgone fun hk => hnew k hk hlive, hreleased⟩
    · refine Or.inl ⟨Or.inr hk, ?_⟩
      rw [h.quiet (hnew k hk)]
      exact kept_nil
  · intro hdead
    obtain ⟨hgone, huse⟩ := (h k).2 fun hlive => hdead (Or.inl hlive)
    exact ⟨fun hheld => hheld.elim hgone fun hk => hdead (Or.inr hk), huse⟩

/-- What is live, and what is held, only matters as it is. -/
theorem Balanced.congr (h : Balanced isFree live held use) {live' held' : κ → Prop}
    (hlive : ∀ k, live' k ↔ live k) (hheld : ∀ k, held' k ↔ held k) :
    Balanced isFree live' held' use := by
  intro k
  rw [hlive, hheld]
  exact h k

end Ownership
