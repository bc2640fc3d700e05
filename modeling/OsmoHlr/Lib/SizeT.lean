import Mathlib.Tactic.Common
import Mathlib.Tactic.NormNum

/-!
# `size_t`, `char` and pointers of a 64-bit machine

The C conversions that bounds checks go wrong on.  `size_t` is an unsigned
64-bit number, so that sums and differences wrap modulo `2 ^ 64`; `char` is a
signed byte, so that bytes from `0x80` on become huge when they are converted to
`size_t`.

A pointer into an object is its displacement from the object's first byte.
Adding a `size_t` to it wraps as the machine's addition does: a huge `size_t`
moves the pointer backwards.  No object is larger than `2 ^ 63 - 1` bytes, so a
displacement is the balanced representative of its class, `Int.bmod`.
-/

namespace SizeT

/-- The number of `size_t` values. -/
def modulus : Nat := 2 ^ 64

/-- An object in memory: no object is too large for its pointer differences. -/
structure Object where
  /-- What it holds. -/
  bytes : List UInt8
  /-- `PTRDIFF_MAX` bounds its size. -/
  size_lt : bytes.length < 2 ^ 63

/-- `data_len` of a buffer that is handed over whole. -/
def Object.len (o : Object) : Nat := o.bytes.length

/-- `a - b` on `size_t`. -/
def sub (a b : Nat) : Nat := (a + (modulus - b)) % modulus

/-- `a + b` on `size_t`. -/
def add (a b : Nat) : Nat := (a + b) % modulus

/-- A `char` as an `int`. -/
def charToInt (c : UInt8) : Int := if c.toNat < 128 then c.toNat else c.toNat - 256

/-- A `char` converted to `size_t`: bytes from `0x80` on sign-extend. -/
def ofChar (c : UInt8) : Nat := if c.toNat < 128 then c.toNat else modulus - 256 + c.toNat

/-- A difference of pointers as an `int`. -/
def toInt (n : Nat) : Int := (n : Int).bmod (2 ^ 32)

/-- Pointer `p` moved by the `size_t` `n`. -/
def ptrAdd (p : Int) (n : Nat) : Int := (p + n).bmod modulus

theorem sub_of_le {a b : Nat} (h : b ≤ a) (ha : a < modulus) : sub a b = a - b := by
  unfold sub modulus at *
  omega

/-- A difference below zero wraps to the top of the range. -/
theorem sub_of_lt {a b : Nat} (h : a < b) (hb : b ≤ modulus) : sub a b = modulus - (b - a) := by
  unfold sub modulus at *
  omega

theorem add_of_lt {a b : Nat} (h : a + b < modulus) : add a b = a + b := by
  unfold add
  exact Nat.mod_eq_of_lt h

theorem add_of_wrap {a b : Nat} (h : modulus ≤ a + b) (h2 : a + b < 2 * modulus) :
    add a b = a + b - modulus := by
  unfold add modulus at *
  omega

theorem ofChar_of_lt {c : UInt8} (h : c.toNat < 128) : ofChar c = c.toNat := if_pos h

theorem ofChar_of_ge {c : UInt8} (h : 128 ≤ c.toNat) : ofChar c = modulus - 256 + c.toNat :=
  if_neg (by omega)

theorem charToInt_of_lt {c : UInt8} (h : c.toNat < 128) : charToInt c = c.toNat := if_pos h

/-- As an `int`, a difference is what is left modulo `2 ^ 32`, and negative in the upper half. -/
theorem toInt_cases (n : Nat) :
    n % 2 ^ 32 < 2 ^ 31 ∧ toInt n = (n % 2 ^ 32 : Nat) ∨ 2 ^ 31 ≤ n % 2 ^ 32 ∧ toInt n < 0 := by
  unfold toInt
  rw [Int.bmod_def]
  norm_num
  split <;> omega

/-- A small displacement is what it looks like. -/
theorem ptrAdd_of_lt {p : Int} {n : Nat} (hlo : -2 ^ 63 ≤ p + n) (hhi : p + n < 2 ^ 63) :
    ptrAdd p n = p + n := by
  rw [ptrAdd, Int.bmod_def, modulus]
  norm_num
  split <;> omega

/-- A `size_t` just below the modulus moves a pointer backwards. -/
theorem ptrAdd_of_wrap {p : Int} {n : Nat} (hlo : 2 ^ 63 ≤ p + n) (hhi : p + n < 3 * 2 ^ 63) :
    ptrAdd p n = p + n - 2 ^ 64 := by
  rw [ptrAdd, Int.bmod_def, modulus]
  norm_num
  split <;> omega

end SizeT
