import Mathlib.Tactic.Common
import Mathlib.Tactic.NormNum
import Mathlib.Data.Nat.Digits.Lemmas
import Mathlib.Data.List.TakeWhile

/-!
# Decimal text: `%u` and `strtoll`

The two directions of decimal text in C, as functions on bytes.

* `printDec` — what `%u` (and `%" PRIu32 "`) prints.
* `strtoll` — base 10, in the C locale: white space, an optional sign, the
  longest run of digits; the end pointer is left at the start when there is no
  digit, and a value outside the 64-bit range is clamped and flagged `ERANGE`.
* `strtoll_printDec` — what was printed is read back, completely.
* `strtoll_eq_iff` — which text is read to its end as a number from 0 on.
* `digitsValue_take_eq_iff` — cutting the text of a number changes it, unless it is 0.
-/

namespace Decimal

/-! ## Printing -/

/-- The digit character of `d`. -/
def digitChar (d : Nat) : UInt8 := UInt8.ofNat (48 + d)

/-- `%u`. -/
def printDec (n : Nat) : List UInt8 :=
  if n = 0 then [48] else (Nat.digits 10 n).reverse.map digitChar

/-! ## Reading -/

/-- `isspace` in the C locale. -/
def isSpace (c : UInt8) : Bool := c == 32 || (9 ≤ c && c ≤ 13)

/-- `isdigit`. -/
def isDigit (c : UInt8) : Bool := 48 ≤ c && c ≤ 57

/-- The number a run of digit characters denotes. -/
def digitsValue (ds : List UInt8) : Nat := ds.foldl (fun v c => 10 * v + (c.toNat - 48)) 0

/-- What `strtoll` hands back. -/
structure Parsed where
  /-- The return value, clamped to `long long`. -/
  value : Int
  /-- What `*endptr` points at. -/
  endptr : List UInt8
  /-- Whether `errno` was set to `ERANGE`. -/
  erange : Bool
  deriving DecidableEq

/-- The largest `long long`. -/
def llongMax : Int := 2 ^ 63 - 1

/-- The smallest `long long`. -/
def llongMin : Int := -2 ^ 63

/-- An optional sign, and the text behind it. -/
def takeSign : List UInt8 → Bool × List UInt8
  | [] => (false, [])
  | c :: t => if c = 45 then (true, t) else if c = 43 then (false, t) else (false, c :: t)

/-- `strtoll(s, &endptr, 10)`. -/
def strtoll (s : List UInt8) : Parsed :=
  let t := takeSign (s.dropWhile isSpace)
  let ds := t.2.takeWhile isDigit
  if ds = [] then ⟨0, s, false⟩
  else
    let v : Int := if t.1 then -(digitsValue ds : Int) else digitsValue ds
    if llongMax < v then ⟨llongMax, t.2.dropWhile isDigit, true⟩
    else if v < llongMin then ⟨llongMin, t.2.dropWhile isDigit, true⟩
    else ⟨v, t.2.dropWhile isDigit, false⟩

/-! ## What is printed is read back -/

theorem toNat_digitChar {d : Nat} (h : d ≤ 9) : (digitChar d).toNat = 48 + d := by
  rw [digitChar, UInt8.toNat_ofNat']
  omega

theorem isDigit_digitChar {d : Nat} (h : d ≤ 9) : isDigit (digitChar d) = true := by
  have hn := toNat_digitChar h
  simp only [isDigit, Bool.and_eq_true, decide_eq_true_eq, UInt8.le_iff_toNat_le]
  rw [hn]
  exact ⟨by simp, by simp; omega⟩

theorem le_nine_of_mem_digits {n d : Nat} (h : d ∈ Nat.digits 10 n) : d ≤ 9 := by
  have hlt := Nat.digits_lt_base (by norm_num) h
  omega

theorem isDigit_of_mem_printDec {n : Nat} : ∀ c ∈ printDec n, isDigit c = true := by
  intro c hc
  unfold printDec at hc
  by_cases h : n = 0
  · rw [if_pos h, List.mem_singleton] at hc
    subst hc
    decide
  · rw [if_neg h] at hc
    obtain ⟨d, hd, rfl⟩ := List.mem_map.1 hc
    exact isDigit_digitChar (le_nine_of_mem_digits (List.mem_reverse.1 hd))

theorem printDec_ne_nil (n : Nat) : printDec n ≠ [] := by
  unfold printDec
  by_cases h : n = 0
  · simp [h]
  · simpa [h] using Nat.digits_ne_nil_iff_ne_zero.2 h

/-- No NUL, no separator, no sign and no space: every printed character is a digit. -/
theorem ne_of_mem_printDec {n : Nat} {c b : UInt8} (hc : c ∈ printDec n) (hb : isDigit b = false) :
    c ≠ b := by
  rintro rfl
  rw [isDigit_of_mem_printDec c hc] at hb
  exact absurd hb (by decide)

theorem toNat_lt_of_isDigit {c : UInt8} (h : isDigit c = true) : c.toNat < 128 := by
  simp only [isDigit, Bool.and_eq_true, decide_eq_true_eq, UInt8.le_iff_toNat_le] at h
  have h57 : (57 : UInt8).toNat = 57 := rfl
  omega

/-- What is printed starts with a zero only if there is nothing else. -/
theorem printDec_cons {n : Nat} {c : UInt8} {cs : List UInt8} (h : printDec n = c :: cs)
    (hc : c = 48) : cs = [] := by
  unfold printDec at h
  by_cases h0 : n = 0
  · rw [if_pos h0] at h
    exact (List.cons.inj h).2.symm
  · rw [if_neg h0] at h
    have hne : Nat.digits 10 n ≠ [] := Nat.digits_ne_nil_iff_ne_zero.2 h0
    have hhead := congrArg List.head? h
    rw [List.head?_map, List.head?_reverse, List.getLast?_eq_some_getLast hne, Option.map_some,
      List.head?_cons, Option.some.injEq, hc] at hhead
    have hlast := toNat_digitChar (le_nine_of_mem_digits (List.getLast_mem hne))
    rw [hhead] at hlast
    have hzero := Nat.getLast_digit_ne_zero 10 h0
    have h48 : (48 : UInt8).toNat = 48 := rfl
    omega

theorem digitsValue_map_digitChar (l : List Nat) (h : ∀ d ∈ l, d ≤ 9) :
    digitsValue (l.reverse.map digitChar) = Nat.ofDigits 10 l := by
  rw [digitsValue, List.map_reverse, List.foldl_reverse]
  induction l with
  | nil => rfl
  | cons d ds ih =>
      rw [List.map_cons, List.foldr_cons, ih (fun x hx => h x (List.mem_cons_of_mem _ hx)),
        toNat_digitChar (h d (List.mem_cons_self ..)), Nat.ofDigits_cons]
      omega

theorem digitsValue_printDec (n : Nat) : digitsValue (printDec n) = n := by
  unfold printDec
  by_cases h : n = 0
  · subst h
    rfl
  · rw [if_neg h, digitsValue_map_digitChar _ (fun d hd => le_nine_of_mem_digits hd),
      Nat.ofDigits_digits]

theorem takeSign_of_isDigit {c : UInt8} {t : List UInt8} (h : isDigit c = true) :
    takeSign (c :: t) = (false, c :: t) := by
  have h45 : c ≠ 45 := by rintro rfl; exact absurd h (by decide)
  have h43 : c ≠ 43 := by rintro rfl; exact absurd h (by decide)
  rw [takeSign, if_neg h45, if_neg h43]

theorem not_isSpace_of_isDigit {c : UInt8} (h : isDigit c = true) : isSpace c = false := by
  simp only [isDigit, Bool.and_eq_true, decide_eq_true_eq, UInt8.le_iff_toNat_le] at h
  simp only [isSpace, Bool.or_eq_false_iff, Bool.and_eq_false_iff, decide_eq_false_iff_not,
    UInt8.le_iff_toNat_le, beq_eq_false_iff_ne, ne_eq, ← UInt8.toNat_inj]
  simp at h ⊢
  omega

/-- A run of digits that fits a `long long` is read completely. -/
theorem strtoll_of_isDigit {ds : List UInt8} (hne : ds ≠ []) (hd : ∀ c ∈ ds, isDigit c = true)
    (hfit : (digitsValue ds : Int) ≤ llongMax) : strtoll ds = ⟨digitsValue ds, [], false⟩ := by
  obtain ⟨c, t, rfl⟩ := List.exists_cons_of_ne_nil hne
  have hc : isDigit c = true := hd c (List.mem_cons_self ..)
  have hspace : (c :: t).dropWhile isSpace = c :: t := by
    rw [List.dropWhile_cons, not_isSpace_of_isDigit hc]
    rfl
  have htake : (c :: t).takeWhile isDigit = c :: t := List.takeWhile_eq_self_iff.2 hd
  have hdrop : (c :: t).dropWhile isDigit = [] := List.dropWhile_eq_nil_iff.2 hd
  have hlow : ¬ ((digitsValue (c :: t) : Int) < llongMin) := by
    unfold llongMin
    omega
  simp only [strtoll, hspace, takeSign_of_isDigit hc, htake, hdrop, Bool.false_eq_true, if_false]
  rw [if_neg hne, if_neg (by omega), if_neg hlow]

/-- **What `%u` prints, `strtoll` reads back.** -/
theorem strtoll_printDec {n : Nat} (h : (n : Int) ≤ llongMax) :
    strtoll (printDec n) = ⟨n, [], false⟩ := by
  have hfit : (digitsValue (printDec n) : Int) ≤ llongMax := by rwa [digitsValue_printDec]
  rw [strtoll_of_isDigit (printDec_ne_nil n) isDigit_of_mem_printDec hfit, digitsValue_printDec]

/-- A number below a power of ten has at most that many digits. -/
theorem length_printDec_le {n k : Nat} (hk : 0 < k) (h : n < 10 ^ k) : (printDec n).length ≤ k := by
  unfold printDec
  by_cases hn : n = 0
  · rw [if_pos hn]
    exact hk
  · rw [if_neg hn, List.length_map, List.length_reverse]
    exact (Nat.digits_length_le_iff (by norm_num) n).2 h

/-! ## Which text is a number -/

/-- A run of digits, and the number it denotes. -/
def IsNumber (s : List UInt8) (n : Nat) : Prop :=
  s ≠ [] ∧ (∀ c ∈ s, isDigit c = true) ∧ digitsValue s = n

/-- Text that `strtoll` reads to its end as a number from 0 on: a run of digits, which may have
blanks and a sign in front of it, or nothing at all. -/
inductive ReadsAs : List UInt8 → Nat → Prop
  | empty : ReadsAs [] 0
  | plain (blanks ds : List UInt8) (n : Nat) (hblanks : ∀ c ∈ blanks, isSpace c = true)
      (hds : IsNumber ds n) : ReadsAs (blanks ++ ds) n
  | plus (blanks ds : List UInt8) (n : Nat) (hblanks : ∀ c ∈ blanks, isSpace c = true)
      (hds : IsNumber ds n) : ReadsAs (blanks ++ 43 :: ds) n
  | minus (blanks ds : List UInt8) (hblanks : ∀ c ∈ blanks, isSpace c = true)
      (hds : IsNumber ds 0) : ReadsAs (blanks ++ 45 :: ds) 0

theorem IsNumber.unique {s : List UInt8} {m n : Nat} (hm : IsNumber s m) (hn : IsNumber s n) :
    m = n := hm.2.2.symm.trans hn.2.2

/-- Digits behind blanks and a sign are read, as long as they fit a `long long`. -/
theorem strtoll_of_takeSign {blanks rest ds : List UInt8} {negative : Bool} {n : Nat}
    (hblanks : ∀ c ∈ blanks, isSpace c = true) (hrest : rest.dropWhile isSpace = rest)
    (hsign : takeSign rest = (negative, ds)) (hds : IsNumber ds n) (hn : (n : Int) ≤ llongMax) :
    strtoll (blanks ++ rest) = ⟨if negative then -(n : Int) else n, [], false⟩ := by
  obtain ⟨hne, hdigits, hvalue⟩ := hds
  have htake : ds.takeWhile isDigit = ds := List.takeWhile_eq_self_iff.2 hdigits
  have hdrop : ds.dropWhile isDigit = [] := List.dropWhile_eq_nil_iff.2 hdigits
  have hskip : (blanks ++ rest).dropWhile isSpace = rest := by
    rw [List.dropWhile_append_of_pos hblanks, hrest]
  have hhigh : ¬llongMax < if negative then -(n : Int) else n := by
    unfold llongMax at hn ⊢
    split <;> omega
  have hlow : ¬(if negative then -(n : Int) else n) < llongMin := by
    unfold llongMax at hn
    unfold llongMin
    split <;> omega
  simp only [strtoll, hskip, hsign, htake, hdrop, hvalue]
  rw [if_neg hne, if_neg hhigh, if_neg hlow]

/-- A run of digits has no blank in front. -/
theorem IsNumber.dropWhile_isSpace {ds : List UInt8} {n : Nat} (h : IsNumber ds n) :
    ds.dropWhile isSpace = ds ∧ takeSign ds = (false, ds) := by
  obtain ⟨c, t, rfl⟩ := List.exists_cons_of_ne_nil h.1
  have hc : isDigit c = true := h.2.1 c List.mem_cons_self
  refine ⟨?_, takeSign_of_isDigit hc⟩
  rw [List.dropWhile_cons, not_isSpace_of_isDigit hc]
  rfl

/-- The sign of a text, and what is behind it. -/
theorem takeSign_cases (s : List UInt8) :
    s = 45 :: (takeSign s).2 ∧ (takeSign s).1 = true ∨
      s = 43 :: (takeSign s).2 ∧ (takeSign s).1 = false ∨
      s = (takeSign s).2 ∧ (takeSign s).1 = false := by
  cases s with
  | nil => exact Or.inr (Or.inr ⟨rfl, rfl⟩)
  | cons c t =>
      rw [takeSign]
      split
      next h => exact Or.inl ⟨by rw [h], rfl⟩
      next =>
          split
          next h => exact Or.inr (Or.inl ⟨by rw [h], rfl⟩)
          next => exact Or.inr (Or.inr ⟨rfl, rfl⟩)

/-- **Which text is read to its end as a number from 0 on.** -/
theorem strtoll_eq_iff {s : List UInt8} {n : Nat} (hn : (n : Int) ≤ llongMax) :
    strtoll s = ⟨n, [], false⟩ ↔ ReadsAs s n := by
  constructor
  · intro h
    have hsplit := List.takeWhile_append_dropWhile (p := isSpace) (l := s)
    have hblanks : ∀ c ∈ s.takeWhile isSpace, isSpace c = true := fun c hc =>
      List.mem_takeWhile_imp hc
    have hcases := takeSign_cases (s.dropWhile isSpace)
    rw [strtoll] at h
    simp only at h
    generalize takeSign (s.dropWhile isSpace) = t at h hcases
    by_cases hds : t.2.takeWhile isDigit = []
    · -- no digits: the end pointer is left at the start
      rw [if_pos hds] at h
      obtain rfl : s = [] := congrArg Parsed.endptr h
      have hvalue : (0 : Int) = n := congrArg Parsed.value h
      obtain rfl : n = 0 := by omega
      exact .empty
    · rw [if_neg hds] at h
      generalize hv : (if t.1 = true then -(digitsValue (t.2.takeWhile isDigit) : Int)
        else digitsValue (t.2.takeWhile isDigit)) = v at h
      split at h
      · have herange : true = false := congrArg Parsed.erange h
        cases herange
      · split at h
        · have herange : true = false := congrArg Parsed.erange h
          cases herange
        · have hdrop : t.2.dropWhile isDigit = [] := congrArg Parsed.endptr h
          have hdigits : ∀ c ∈ t.2, isDigit c = true := List.dropWhile_eq_nil_iff.1 hdrop
          have htake : t.2.takeWhile isDigit = t.2 := List.takeWhile_eq_self_iff.2 hdigits
          obtain rfl : v = n := congrArg Parsed.value h
          rw [htake] at hds hv
          rw [← hsplit]
          rcases hcases with ⟨hs, hneg⟩ | ⟨hs, hneg⟩ | ⟨hs, hneg⟩
          · rw [hneg, if_pos rfl] at hv
            obtain rfl : n = 0 := by omega
            rw [hs]
            exact .minus _ _ hblanks ⟨hds, hdigits, by omega⟩
          · rw [hneg, if_neg Bool.false_ne_true] at hv
            rw [hs]
            exact .plus _ _ n hblanks ⟨hds, hdigits, by omega⟩
          · rw [hneg, if_neg Bool.false_ne_true] at hv
            rw [hs]
            exact .plain _ _ n hblanks ⟨hds, hdigits, by omega⟩
  · intro h
    cases h with
    | empty => rfl
    | plain blanks ds n hblanks hds =>
        obtain ⟨hskip, hsign⟩ := hds.dropWhile_isSpace
        exact strtoll_of_takeSign hblanks hskip hsign hds hn
    | plus blanks ds n hblanks hds =>
        have hsign : takeSign (43 :: ds) = (false, ds) := rfl
        exact strtoll_of_takeSign hblanks rfl hsign hds hn
    | minus blanks ds hblanks hds =>
        have hsign : takeSign (45 :: ds) = (true, ds) := rfl
        exact strtoll_of_takeSign hblanks rfl hsign hds hn

/-! ## Cutting a number -/

theorem foldl_digits (v : Nat) (ds : List UInt8) :
    ds.foldl (fun v c => 10 * v + (c.toNat - 48)) v = v * 10 ^ ds.length + digitsValue ds := by
  induction ds generalizing v with
  | nil => simp [digitsValue]
  | cons c ds ih =>
      have hhead := ih (c.toNat - 48)
      have hcons : digitsValue (c :: ds) = (c.toNat - 48) * 10 ^ ds.length + digitsValue ds := by
        rw [digitsValue, List.foldl_cons, Nat.mul_zero, Nat.zero_add, hhead]
      rw [List.foldl_cons, ih, hcons, List.length_cons, pow_succ]
      ring

theorem digitsValue_append (a b : List UInt8) :
    digitsValue (a ++ b) = digitsValue a * 10 ^ b.length + digitsValue b := by
  rw [digitsValue, List.foldl_append, foldl_digits, ← digitsValue]

/-- **Cutting the text of a number changes it, unless it is 0.** -/
theorem digitsValue_take_eq_iff {ds : List UInt8} {k : Nat} :
    digitsValue (ds.take k) = digitsValue ds ↔ ds.length ≤ k ∨ digitsValue ds = 0 := by
  by_cases hlen : ds.length ≤ k
  · rw [List.take_of_length_le hlen]
    simp [hlen]
  · have hpos : 0 < (ds.drop k).length := by
      rw [List.length_drop]
      omega
    have hsum := digitsValue_append (ds.take k) (ds.drop k)
    rw [List.take_append_drop] at hsum
    have hpow : 10 ≤ 10 ^ (ds.drop k).length := Nat.le_self_pow hpos.ne' 10
    rw [or_iff_right hlen]
    constructor
    · intro h
      rw [h] at hsum
      nlinarith
    · intro h
      rw [h] at hsum ⊢
      have hzero := (Nat.add_eq_zero_iff.1 hsum.symm).1
      rcases Nat.mul_eq_zero.1 hzero with hzero | hzero
      · exact hzero
      · omega

end Decimal
