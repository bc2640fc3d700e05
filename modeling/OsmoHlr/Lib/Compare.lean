import Mathlib.Data.List.Lex
import Mathlib.Data.Prod.Lex
import Mathlib.Order.WithBot
import OsmoHlr.Lib.Memcmp

/-!
# Three-way comparisons

A comparison function of C returns a negative number, zero or a positive number.  Such functions
are put together from others: one member after the other, a common length and then the lengths, a
null pointer in front of everything.

* `Tells` — a number says how two values of a linear order compare.
* `Tells.andThen`, `Tells.lengths`, `Follows.ofPtr` — each way to put a comparison together is one
  to put the order together.
* `Follows.orderedAt` — a comparison that follows an order is antisymmetric in sign and
  transitive, and 0 exactly for what is equal.
-/

namespace Compare

open Memcmp

variable {α β κ κ' : Type} [LinearOrder κ] [LinearOrder κ']

/-- The number `r` says how `x` compares to `y`. -/
structure Tells (r : Int) (x y : κ) : Prop where
  neg_iff : r < 0 ↔ x < y
  zero_iff : r = 0 ↔ x = y

/-- A comparison compares the keys of its arguments. -/
def Follows (cmp : α → α → Int) (key : α → κ) : Prop := ∀ a b, Tells (cmp a b) (key a) (key b)

/-- What an order is at `a`, `b` and `c`, for arguments that stand for a value. -/
structure OrderedAt (cmp : α → α → Int) (value : α → β) (a b c : α) : Prop where
  zero_iff : cmp a b = 0 ↔ value a = value b
  sign_swap : (cmp b a).sign = -(cmp a b).sign
  trans : cmp a b ≤ 0 → cmp b c ≤ 0 → cmp a c ≤ 0

/-! ## What follows from an order -/

section Tells

variable {r r' : Int} {x y z : κ} {x' y' : κ'}

theorem Tells.nonpos_iff (h : Tells r x y) : r ≤ 0 ↔ x ≤ y := by
  rw [Int.le_iff_lt_or_eq, h.neg_iff, h.zero_iff, le_iff_lt_or_eq]

theorem Tells.pos_iff (h : Tells r x y) : 0 < r ↔ y < x := by
  rw [← not_le, h.nonpos_iff, not_le]

/-- The other way round, the sign is the opposite one. -/
theorem Tells.sign_swap (h : Tells r x y) (h' : Tells r' y x) : r'.sign = -r.sign := by
  rcases lt_trichotomy x y with hlt | heq | hgt
  · rw [Int.sign_eq_neg_one_of_neg (h.neg_iff.2 hlt), Int.sign_eq_one_of_pos (h'.pos_iff.2 hlt)]
    rfl
  · rw [h.zero_iff.2 heq, h'.zero_iff.2 heq.symm]
    rfl
  · rw [Int.sign_eq_one_of_pos (h.pos_iff.2 hgt), Int.sign_eq_neg_one_of_neg (h'.neg_iff.2 hgt)]

theorem Tells.of_lt (h : x < y) (hr : r < 0) : Tells r x y :=
  ⟨iff_of_true hr h, iff_of_false hr.ne h.ne⟩

theorem Tells.of_eq (h : x = y) : Tells 0 x y :=
  ⟨iff_of_false (lt_irrefl 0) h.not_lt, iff_of_true rfl h⟩

theorem Tells.of_gt (h : y < x) (hr : 0 < r) : Tells r x y :=
  ⟨iff_of_false hr.not_gt h.not_gt, iff_of_false hr.ne' h.ne'⟩

/-- What is equal for another comparison decides for itself. -/
theorem Tells.andThen (h : Tells r x y) (h' : x = y → Tells r' x' y') :
    Tells (if r ≠ 0 then r else r') (toLex (x, x')) (toLex (y, y')) := by
  by_cases hr : r = 0
  · have hxy := h.zero_iff.1 hr
    subst hxy
    rw [if_neg (not_not.2 hr)]
    exact ⟨by simp [Prod.Lex.toLex_lt_toLex, (h' rfl).neg_iff], by simp [(h' rfl).zero_iff]⟩
  · rw [if_pos hr]
    have hne : x ≠ y := fun hxy => hr (h.zero_iff.2 hxy)
    exact ⟨by simp [Prod.Lex.toLex_lt_toLex, h.neg_iff, hne], by simp [hr, hne]⟩

/-- A longer key with the same first part. -/
theorem Tells.cons {l l' : List κ} (h : Tells r l l') (x : κ) : Tells r (x :: l) (x :: l') :=
  ⟨by simp [h.neg_iff], by simp [h.zero_iff]⟩

end Tells

/-- **A comparison that follows an order is one.** -/
theorem Follows.orderedAt {cmp : α → α → Int} {key : α → κ} {value : α → β} (h : Follows cmp key)
    {a b : α} (hvalue : key a = key b ↔ value a = value b) (c : α) : OrderedAt cmp value a b c where
  zero_iff := (h a b).zero_iff.trans hvalue
  sign_swap := (h a b).sign_swap (h b a)
  trans hab hbc :=
    (h a c).nonpos_iff.2 (((h a b).nonpos_iff.1 hab).trans ((h b c).nonpos_iff.1 hbc))

/-! ## Pointers -/

/-- `a == b`, `!a` and `!b` in front of a comparison.  What the pointers point to is in `mem`. -/
def ofPtr (cmp : α → α → Int) (mem : Nat → α) (a b : Option Nat) : Int :=
  if a = b then 0
  else
    match a, b with
    | none, _ => -1
    | _, none => 1
    | some p, some q => cmp (mem p) (mem q)

/-- The key of what a pointer points to; a null pointer comes first. -/
def target (key : α → κ) (mem : Nat → α) : Option Nat → WithBot κ
  | none => ⊥
  | some p => (key (mem p) : WithBot κ)

/-- What a pointer points to, if it is not null. -/
def pointee (value : α → β) (mem : Nat → α) (p : Option Nat) : Option β := p.map (value ∘ mem)

omit [LinearOrder κ] in
theorem target_eq_iff {key : α → κ} {value : α → β}
    (h : ∀ x y, key x = key y ↔ value x = value y) {mem : Nat → α} {a b : Option Nat} :
    target key mem a = target key mem b ↔ pointee value mem a = pointee value mem b := by
  match a, b with
  | none, none => exact iff_of_true rfl rfl
  | none, some q => exact iff_of_false WithBot.bot_ne_coe nofun
  | some p, none => exact iff_of_false WithBot.coe_ne_bot nofun
  | some p, some q => exact WithBot.coe_inj.trans ((h _ _).trans Option.some_inj.symm)

theorem Tells.ofPtr {cmp : α → α → Int} {key : α → κ} {mem : Nat → α} {a b : Option Nat}
    (h : a ≠ b → ∀ p q, a = some p → b = some q →
      Tells (cmp (mem p) (mem q)) (key (mem p)) (key (mem q))) :
    Tells (ofPtr cmp mem a b) (target key mem a) (target key mem b) := by
  unfold Compare.ofPtr
  split
  next hab => exact .of_eq (congrArg _ hab)
  next hab =>
      match a, b with
      | none, none => exact absurd rfl hab
      | none, some q => exact .of_lt (WithBot.bot_lt_coe _) (Int.negSucc_lt_zero 0)
      | some p, none => exact .of_gt (WithBot.bot_lt_coe _) Int.zero_lt_one
      | some p, some q =>
          have htells := h hab p q rfl rfl
          exact ⟨htells.neg_iff.trans WithBot.coe_lt_coe.symm,
            htells.zero_iff.trans WithBot.coe_inj.symm⟩

/-- Pointers are compared as what they point to. -/
theorem Follows.ofPtr {cmp : α → α → Int} {key : α → κ} (h : Follows cmp key) (mem : Nat → α) :
    Follows (ofPtr cmp mem) (target key mem) := fun _ _ => .ofPtr fun _ _ _ _ _ => h _ _

/-! ## Bytes -/

/-- Bytes as what they are compared by. -/
def byteKey (bytes : List UInt8) : List Nat := bytes.map UInt8.toNat

theorem byteKey_inj {a b : List UInt8} : byteKey a = byteKey b ↔ a = b :=
  (List.map_injective_iff.2 fun _ _ => UInt8.toNat_inj.1).eq_iff

/-- The first byte that differs decides. -/
theorem Tells.byte {r : Int} {x y : UInt8} {xs ys : List UInt8}
    (h : x = y → Tells r (byteKey xs) (byteKey ys)) :
    Tells (if x < y then -1 else if y < x then 1 else r) (byteKey (x :: xs))
      (byteKey (y :: ys)) := by
  rcases Nat.lt_trichotomy x.toNat y.toNat with hlt | heq | hgt
  · rw [if_pos (UInt8.lt_iff_toNat_lt.2 hlt)]
    exact .of_lt (List.cons_lt_cons_iff.2 (Or.inl hlt)) (by decide)
  · have hxy := UInt8.toNat_inj.1 heq
    subst hxy
    rw [if_neg (UInt8.lt_irrefl x), if_neg (UInt8.lt_irrefl x)]
    exact (h rfl).cons x.toNat
  · have hyx : y < x := UInt8.lt_iff_toNat_lt.2 hgt
    rw [if_neg (UInt8.lt_asymm hyx), if_pos hyx]
    exact .of_gt (List.cons_lt_cons_iff.2 (Or.inl hgt)) (by decide)

/-- Comparing what two blobs both have, and then their lengths, is comparing them. -/
theorem Tells.lengths {r : Int} {a b : List UInt8} (h : Tells r a.length b.length) :
    Tells (if memcmp (min a.length b.length) a b ≠ 0 then memcmp (min a.length b.length) a b else r)
      (byteKey a) (byteKey b) := by
  induction a generalizing b with
  | nil =>
      rw [List.length_nil, Nat.zero_min, memcmp_zero, if_neg (not_not.2 rfl)]
      cases b with
      | nil => exact ⟨h.neg_iff.trans (by simp), h.zero_iff.trans (by simp)⟩
      | cons y ys => exact .of_lt (List.nil_lt_cons _ _) (h.neg_iff.2 (Nat.succ_pos _))
  | cons x xs ih =>
      cases b with
      | nil =>
          rw [List.length_nil, Nat.min_zero, memcmp_zero, if_neg (not_not.2 rfl)]
          exact .of_gt (List.nil_lt_cons _ _) (h.pos_iff.2 (Nat.succ_pos _))
      | cons y ys =>
          have hlen : Tells r xs.length ys.length :=
            ⟨h.neg_iff.trans Nat.succ_lt_succ_iff, h.zero_iff.trans Nat.succ_inj⟩
          have hbyte := Tells.byte (x := x) (y := y) fun _ => ih hlen
          rw [List.length_cons, List.length_cons, Nat.add_min_add_right, memcmp_succ]
          split_ifs at hbyte ⊢ with hlt hgt <;> simp_all

end Compare
