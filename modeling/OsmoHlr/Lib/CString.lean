import Mathlib.Tactic.Common
import Mathlib.Data.List.TakeWhile

/-!
# C strings

A `char *` that is handed around as a string is the bytes in front of its
terminating NUL.  `CStr` keeps that as an invariant: no byte of it is zero, so
`strlen`, `strcmp` and `%s` are length, equality and append of the byte lists.

* `CStr.ofBytes` — what C sees of a buffer: the bytes before the first NUL.
* `strrchr` — the last occurrence of a byte, with `strrchr_append_cons` (a
  string is cut at its last separator) and `strrchr_eq_none`.
* `caseEq` — `strcasecmp(a, b) == 0` in the C locale.
* `not_mem_of_mem_splitOn`, `mem_of_mem_splitOn`, `intercalate_concat` — what
  the pieces between separators are made of, and gluing one more on at the end.
* `length_splitOn` — how many pieces there are.
-/

namespace CString

/-- A C string: its bytes in front of the terminating NUL. -/
@[ext] structure CStr where
  /-- The characters, without the terminator. -/
  bytes : List UInt8
  /-- No character is the terminator. -/
  noNul : (0 : UInt8) ∉ bytes
  deriving DecidableEq

namespace CStr

/-- The string that C reads out of a buffer: everything before the first NUL. -/
def ofBytes (b : List UInt8) : CStr where
  bytes := b.takeWhile (· != 0)
  noNul := by
    intro h
    simpa using List.mem_takeWhile_imp h

/-- A string literal of the source. -/
def lit (x : String) : CStr := ofBytes (x.toList.map Char.toUInt8)

/-- `strlen`. -/
def len (s : CStr) : Nat := s.bytes.length

/-- The empty string. -/
def empty : CStr := ⟨[], by simp⟩

instance : Inhabited CStr := ⟨empty⟩

/-- Two strings printed one behind the other. -/
def append (a b : CStr) : CStr := ⟨a.bytes ++ b.bytes, by simp [a.noNul, b.noNul]⟩

instance : Append CStr := ⟨append⟩

/-- The first `n` characters. -/
def take (n : Nat) (s : CStr) : CStr := ⟨s.bytes.take n, fun h => s.noNul (List.mem_of_mem_take h)⟩

/-- The string behind the first `n` characters: `s + n`. -/
def drop (n : Nat) (s : CStr) : CStr := ⟨s.bytes.drop n, fun h => s.noNul (List.mem_of_mem_drop h)⟩

@[simp] theorem bytes_append (a b : CStr) : (a ++ b).bytes = a.bytes ++ b.bytes := rfl

@[simp] theorem bytes_take (n : Nat) (s : CStr) : (s.take n).bytes = s.bytes.take n := rfl

@[simp] theorem bytes_drop (n : Nat) (s : CStr) : (s.drop n).bytes = s.bytes.drop n := rfl

theorem ofBytes_bytes_of_noNul {b : List UInt8} (h : (0 : UInt8) ∉ b) : (ofBytes b).bytes = b := by
  refine List.takeWhile_eq_self_iff.2 ?_
  intro c hc
  have hne : c ≠ 0 := fun h0 => h (h0 ▸ hc)
  simpa using hne

@[simp] theorem ofBytes_bytes (s : CStr) : ofBytes s.bytes = s :=
  CStr.ext (ofBytes_bytes_of_noNul s.noNul)

/-- C never reads more out of a buffer than is in it. -/
theorem len_ofBytes_le (b : List UInt8) : (ofBytes b).len ≤ b.length :=
  (List.takeWhile_prefix _).length_le

end CStr

/-! ## Searching -/

/-- `strrchr`: the index of the last `c`, if there is one. -/
def strrchr (c : UInt8) : List UInt8 → Option Nat
  | [] => none
  | x :: xs =>
      match strrchr c xs with
      | some i => some (i + 1)
      | none => if x = c then some 0 else none

theorem strrchr_eq_none {c : UInt8} {s : List UInt8} (h : c ∉ s) : strrchr c s = none := by
  induction s with
  | nil => rfl
  | cons x xs ih =>
      simp only [List.mem_cons, not_or] at h
      simp [strrchr, ih h.2, Ne.symm h.1]

/-- A string is cut at its last separator. -/
theorem strrchr_append_cons {c : UInt8} (a : List UInt8) {b : List UInt8} (h : c ∉ b) :
    strrchr c (a ++ c :: b) = some a.length := by
  induction a with
  | nil => simp [strrchr, strrchr_eq_none h]
  | cons x xs ih => simp [strrchr, ih]

/-- What `strrchr` finds is a separator with none behind it. -/
theorem eq_of_strrchr {c : UInt8} {s : List UInt8} {i : Nat} (h : strrchr c s = some i) :
    ∃ a b, s = a ++ c :: b ∧ a.length = i ∧ c ∉ b := by
  induction s generalizing i with
  | nil => simp [strrchr] at h
  | cons x xs ih =>
      rw [strrchr] at h
      cases hxs : strrchr c xs with
      | some j =>
          rw [hxs] at h
          obtain ⟨a, b, rfl, rfl, hb⟩ := ih hxs
          exact ⟨x :: a, b, rfl, by simpa using h, hb⟩
      | none =>
          rw [hxs] at h
          simp only [Option.ite_none_right_eq_some, Option.some.injEq] at h
          obtain ⟨rfl, rfl⟩ := h
          refine ⟨[], xs, rfl, rfl, ?_⟩
          intro hmem
          obtain ⟨a, b, rfl⟩ := List.append_of_mem hmem
          have hsome : ∀ l : List UInt8, strrchr x (l ++ x :: b) ≠ none := by
            intro l
            induction l with
            | nil => rw [List.nil_append, strrchr]; split <;> simp
            | cons y ys ihl =>
                rw [List.cons_append, strrchr]
                cases hy : strrchr x (ys ++ x :: b) with
                | none => exact absurd hy ihl
                | some j => simp
          exact hsome a hxs

/-! ## Comparing without case -/

/-- `tolower` in the C locale. -/
def toLower (c : UInt8) : UInt8 := if 65 ≤ c ∧ c ≤ 90 then c + 32 else c

/-- `strcasecmp(a, b) == 0`. -/
def caseEq (a b : CStr) : Bool := a.bytes.map toLower == b.bytes.map toLower

/-! ## Pieces and separators -/

/-- Gluing one more piece on at the end. -/
theorem intercalate_concat {c : UInt8} {ps : List (List UInt8)} (h : ps ≠ []) (p : List UInt8) :
    [c].intercalate (ps ++ [p]) = [c].intercalate ps ++ c :: p := by
  induction ps with
  | nil => exact absurd rfl h
  | cons q qs ih =>
      cases qs with
      | nil => simp
      | cons r rs =>
          have hne : r :: rs ≠ [] := by simp
          have hne' : r :: rs ++ [p] ≠ [] := by simp
          rw [List.cons_append, List.intercalate_cons_of_ne_nil hne', ih hne,
            List.intercalate_cons_of_ne_nil hne, List.append_assoc, List.append_assoc,
            List.append_assoc]

/-- No piece of a split contains the separator. -/
theorem not_mem_of_mem_splitOn {c : UInt8} {s p : List UInt8} (h : p ∈ s.splitOn c) : c ∉ p := by
  induction s generalizing p with
  | nil =>
      rw [List.splitOn_nil, List.mem_singleton] at h
      simp [h]
  | cons x xs ih =>
      rw [List.splitOn_cons_eq_if_modifyHead] at h
      split at h
      · rcases List.mem_cons.1 h with rfl | h
        · simp
        · exact ih h
      · rename_i hx
        cases hxs : xs.splitOn c with
        | nil => exact absurd hxs (List.splitOn_ne_nil c xs)
        | cons q qs =>
            rw [hxs, List.modifyHead_cons] at h
            have hq : c ∉ q := ih (by rw [hxs]; exact List.mem_cons_self ..)
            rcases List.mem_cons.1 h with rfl | h
            · simp only [List.mem_cons, not_or]
              exact ⟨fun hc => hx (by simp [hc]), hq⟩
            · exact ih (by rw [hxs]; exact List.mem_cons_of_mem _ h)

/-- No piece of a split is longer than the string. -/
theorem length_le_of_mem_splitOn {c : UInt8} {s p : List UInt8} (h : p ∈ s.splitOn c) :
    p.length ≤ s.length := by
  induction s generalizing p with
  | nil =>
      rw [List.splitOn_nil, List.mem_singleton] at h
      simp [h]
  | cons x xs ih =>
      rw [List.splitOn_cons_eq_if_modifyHead] at h
      rw [List.length_cons]
      split at h
      · rcases List.mem_cons.1 h with rfl | h
        · simp
        · exact Nat.le_succ_of_le (ih h)
      · cases hxs : xs.splitOn c with
        | nil => exact absurd hxs (List.splitOn_ne_nil c xs)
        | cons q qs =>
            rw [hxs, List.modifyHead_cons] at h
            rcases List.mem_cons.1 h with rfl | h
            · exact Nat.succ_le_succ (ih (by rw [hxs]; exact List.mem_cons_self ..))
            · exact Nat.le_succ_of_le (ih (by rw [hxs]; exact List.mem_cons_of_mem _ h))

/-- Every byte of a piece is a byte of what the pieces are glued to. -/
theorem mem_intercalate_of_mem {c b : UInt8} {p : List UInt8} (hb : b ∈ p) :
    ∀ ps : List (List UInt8), p ∈ ps → b ∈ [c].intercalate ps := by
  intro ps
  induction ps with
  | nil => intro hp; simp at hp
  | cons q qs ih =>
      intro hp
      cases qs with
      | nil =>
          rw [List.mem_singleton] at hp
          simpa [← hp] using hb
      | cons r rs =>
          rw [List.intercalate_cons_of_ne_nil (by simp), List.mem_append, List.mem_append]
          rcases List.mem_cons.1 hp with rfl | hp
          · exact Or.inl (Or.inl hb)
          · exact Or.inr (ih hp)

/-- What pieces are glued to has no other bytes than theirs and the separator. -/
theorem mem_of_mem_intercalate {c b : UInt8} {ps : List (List UInt8)}
    (h : b ∈ [c].intercalate ps) : b ∈ c :: ps.flatten := by
  induction ps with
  | nil => simp at h
  | cons p ps ih =>
      cases ps with
      | nil => simp_all
      | cons q qs =>
          rw [List.intercalate_cons_of_ne_nil (by simp), List.mem_append, List.mem_append] at h
          rw [List.flatten_cons, List.mem_cons, List.mem_append]
          rcases h with (h | h) | h
          · exact Or.inr (Or.inl h)
          · exact Or.inl (List.mem_singleton.1 h)
          · rcases List.mem_cons.1 (ih h) with h | h
            · exact Or.inl h
            · exact Or.inr (Or.inr h)

/-- Every byte of a piece is a byte of the string. -/
theorem mem_of_mem_splitOn {c b : UInt8} {s p : List UInt8} (h : p ∈ s.splitOn c) (hb : b ∈ p) :
    b ∈ s := by
  have hmem := mem_intercalate_of_mem (c := c) hb _ h
  rwa [List.intercalate_splitOn] at hmem

/-- One piece more than separators. -/
theorem length_splitOn (c : UInt8) (s : List UInt8) :
    (s.splitOn c).length = s.count c + 1 := by
  induction s with
  | nil => rfl
  | cons x xs ih =>
      rw [List.splitOn_cons_eq_if_modifyHead, List.count_cons]
      split <;> simp_all

/-- Pieces that each have a separator in front of them. -/
theorem append_flatMap_cons (c : UInt8) (p : List UInt8) (ps : List (List UInt8)) :
    p ++ ps.flatMap (c :: ·) = [c].intercalate (p :: ps) := by
  induction ps generalizing p with
  | nil => simp
  | cons q qs ih =>
      rw [List.intercalate_cons_of_ne_nil (by simp), ← ih, List.flatMap_cons, List.append_assoc]
      rfl

theorem count_flatMap_cons {c : UInt8} {ps : List (List UInt8)} (h : ∀ p ∈ ps, c ∉ p) :
    (ps.flatMap (c :: ·)).count c = ps.length := by
  induction ps with
  | nil => rfl
  | cons p ps ih =>
      rw [List.flatMap_cons, List.count_append, List.count_cons_self,
        List.count_eq_zero_of_not_mem (h p (List.mem_cons_self ..)),
        ih fun q hq => h q (List.mem_cons_of_mem _ hq), List.length_cons]
      omega

end CString
