import Mathlib.Tactic.Common

/-!
# `memcmp`

Only the sign of what `memcmp` returns is specified, so the model returns the sign: the
first byte in which the buffers differ decides, and bytes compare as unsigned
numbers.

* `memcmp_eq_zero_iff` — within both buffers, 0 means that the bytes are equal.
-/

namespace Memcmp

/-- `memcmp(a, b, n)`, for buffers of at least `n` bytes. -/
def memcmp : Nat → List UInt8 → List UInt8 → Int
  | n + 1, x :: xs, y :: ys => if x < y then -1 else if y < x then 1 else memcmp n xs ys
  | _, _, _ => 0

@[simp] theorem memcmp_zero (a b : List UInt8) : memcmp 0 a b = 0 := by
  unfold memcmp
  rfl

theorem memcmp_succ (n : Nat) (x y : UInt8) (xs ys : List UInt8) :
    memcmp (n + 1) (x :: xs) (y :: ys) =
      if x < y then -1 else if y < x then 1 else memcmp n xs ys := rfl

theorem memcmp_eq_zero_iff {n : Nat} {a b : List UInt8} (ha : n ≤ a.length) (hb : n ≤ b.length) :
    memcmp n a b = 0 ↔ a.take n = b.take n := by
  induction n generalizing a b with
  | zero => simp
  | succ n ih =>
      match a, b with
      | x :: xs, y :: ys =>
          have hxs : n ≤ xs.length := by simpa using ha
          have hys : n ≤ ys.length := by simpa using hb
          rw [memcmp_succ, List.take_succ_cons, List.take_succ_cons, List.cons.injEq, ← ih hxs hys]
          rcases Nat.lt_trichotomy x.toNat y.toNat with h | h | h
          · have hne : x ≠ y := fun hxy => by rw [hxy] at h; exact Nat.lt_irrefl _ h
            have hlt : x < y := UInt8.lt_iff_toNat_lt.2 h
            simp [hlt, hne]
          · have hxy : x = y := UInt8.toNat_inj.1 h
            subst hxy
            simp [UInt8.lt_irrefl]
          · have hne : x ≠ y := fun hxy => by rw [hxy] at h; exact Nat.lt_irrefl _ h
            have hlt : y < x := UInt8.lt_iff_toNat_lt.2 h
            simp [hlt, hne, UInt8.lt_asymm hlt]

/-- Whole buffers of one length. -/
theorem memcmp_length_eq_zero_iff {a b : List UInt8} (h : a.length = b.length) :
    memcmp b.length a b = 0 ↔ a = b := by
  rw [memcmp_eq_zero_iff (Nat.le_of_eq h.symm) (Nat.le_refl _),
    List.take_of_length_le (Nat.le_of_eq h), List.take_length]

end Memcmp
