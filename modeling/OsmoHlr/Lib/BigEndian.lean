import Mathlib.Algebra.Group.Nat.Defs
import Mathlib.Tactic.Common

/-!
# Big-endian words

`osmo_store16be`, `osmo_load16be` and their 32-bit and 48-bit siblings: the network order
of the words in a packet.  A load looks at the first bytes of a list and leaves
the rest alone, so that reading at an offset is loading from a `drop`.
-/

namespace BigEndian

/-- The two bytes of a 16-bit word, most significant first. -/
def store16 (x : UInt16) : List UInt8 := [UInt8.ofNat (x.toNat / 256), UInt8.ofNat x.toNat]

/-- The word in the first two bytes. -/
def load16 (b : List UInt8) : UInt16 :=
  UInt16.ofNat (256 * (b.getD 0 0).toNat + (b.getD 1 0).toNat)

/-- The four bytes of a 32-bit word, most significant first. -/
def store32 (x : UInt32) : List UInt8 :=
  [UInt8.ofNat (x.toNat / 256 ^ 3), UInt8.ofNat (x.toNat / 256 ^ 2), UInt8.ofNat (x.toNat / 256),
    UInt8.ofNat x.toNat]

/-- The word in the first four bytes. -/
def load32 (b : List UInt8) : UInt32 :=
  UInt32.ofNat (256 ^ 3 * (b.getD 0 0).toNat + 256 ^ 2 * (b.getD 1 0).toNat +
    256 * (b.getD 2 0).toNat + (b.getD 3 0).toNat)

@[simp] theorem length_store16 (x : UInt16) : (store16 x).length = 2 := rfl

@[simp] theorem length_store32 (x : UInt32) : (store32 x).length = 4 := rfl

/-- A stored word is loaded again, whatever follows it. -/
@[simp] theorem load16_store16_append (x : UInt16) (rest : List UInt8) :
    load16 (store16 x ++ rest) = x := by
  have hx := x.toNat_lt
  apply UInt16.toNat_inj.1
  simp only [load16, store16, List.cons_append, List.getD_cons_zero, List.getD_cons_succ,
    UInt16.toNat_ofNat', UInt8.toNat_ofNat']
  omega

@[simp] theorem load32_store32_append (x : UInt32) (rest : List UInt8) :
    load32 (store32 x ++ rest) = x := by
  have hx := x.toNat_lt
  apply UInt32.toNat_inj.1
  simp only [load32, store32, List.cons_append, List.getD_cons_zero, List.getD_cons_succ,
    UInt32.toNat_ofNat', UInt8.toNat_ofNat']
  omega

/-- A loaded word is stored again as the bytes it was loaded from. -/
theorem store16_load16_append {b : List UInt8} (h : 2 ≤ b.length) :
    store16 (load16 b) ++ b.drop 2 = b := by
  match b, h with
  | x :: y :: rest, _ =>
      have hx := x.toNat_lt
      have hy := y.toNat_lt
      have hload : (load16 (x :: y :: rest)).toNat = 256 * x.toNat + y.toNat := by
        simp only [load16, List.getD_cons_zero, List.getD_cons_succ, UInt16.toNat_ofNat']
        omega
      have hhigh : UInt8.ofNat ((256 * x.toNat + y.toNat) / 256) = x := by
        apply UInt8.toNat_inj.1
        rw [UInt8.toNat_ofNat']
        omega
      have hlow : UInt8.ofNat (256 * x.toNat + y.toNat) = y := by
        apply UInt8.toNat_inj.1
        rw [UInt8.toNat_ofNat']
        omega
      rw [store16, hload, hhigh, hlow]
      rfl

theorem store32_load32_append {b : List UInt8} (h : 4 ≤ b.length) :
    store32 (load32 b) ++ b.drop 4 = b := by
  match b, h with
  | x :: y :: z :: w :: rest, _ =>
      have hx := x.toNat_lt
      have hy := y.toNat_lt
      have hz := z.toNat_lt
      have hw := w.toNat_lt
      have hload : (load32 (x :: y :: z :: w :: rest)).toNat =
          256 ^ 3 * x.toNat + 256 ^ 2 * y.toNat + 256 * z.toNat + w.toNat := by
        simp only [load32, List.getD_cons_zero, List.getD_cons_succ, UInt32.toNat_ofNat']
        omega
      have hbytes : store32 (load32 (x :: y :: z :: w :: rest)) = [x, y, z, w] := by
        rw [store32, hload]
        congr 1
        · apply UInt8.toNat_inj.1
          rw [UInt8.toNat_ofNat']
          omega
        congr 1
        · apply UInt8.toNat_inj.1
          rw [UInt8.toNat_ofNat']
          omega
        congr 1
        · apply UInt8.toNat_inj.1
          rw [UInt8.toNat_ofNat']
          omega
        congr 1
        apply UInt8.toNat_inj.1
        rw [UInt8.toNat_ofNat']
        omega
      rw [hbytes]
      rfl

/-- The lowest 48 bits of a number, most significant byte first. -/
def store48 (x : Nat) : List UInt8 :=
  [UInt8.ofNat (x / 256 ^ 5), UInt8.ofNat (x / 256 ^ 4), UInt8.ofNat (x / 256 ^ 3),
    UInt8.ofNat (x / 256 ^ 2), UInt8.ofNat (x / 256), UInt8.ofNat x]

/-- The number in the first six bytes. -/
def load48 (b : List UInt8) : Nat :=
  256 ^ 5 * (b.getD 0 0).toNat + 256 ^ 4 * (b.getD 1 0).toNat + 256 ^ 3 * (b.getD 2 0).toNat +
    256 ^ 2 * (b.getD 3 0).toNat + 256 * (b.getD 4 0).toNat + (b.getD 5 0).toNat

@[simp] theorem length_store48 (x : Nat) : (store48 x).length = 6 := rfl

theorem load48_store48 {x : Nat} (h : x < 2 ^ 48) : load48 (store48 x) = x := by
  simp only [load48, store48, List.getD_cons_zero, List.getD_cons_succ, UInt8.toNat_ofNat']
  omega

end BigEndian
