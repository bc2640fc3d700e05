import Mathlib.Data.List.Nodup
import Mathlib.Tactic.Common

/-!
# Lists of records that a key tells apart

A list whose records have different keys is a set of cells: a record is found by
its key, written to in its place, and removed.

* `find_eq_some_iff` — finding is being in the list.
* `mem_set`, `map_set` — writing changes one record, and no key.
* `set_set`, `remove_set` — a write is lost by the next one, and by removal.
* `find_view`, `set_view`, `remove_view` — the same on a part of each record.
-/

namespace Keyed

variable {α κ : Type} [DecidableEq κ] (key : α → κ)

/-- The record with a key. -/
def find (l : List α) (k : κ) : Option α := l.find? fun x => key x = k

/-- Writing to the record with the key of `x`. -/
def set (l : List α) (x : α) : List α := l.map fun y => if key y = key x then x else y

/-- Removing the record with a key. -/
def remove (l : List α) (k : κ) : List α := l.filter fun x => key x ≠ k

variable {key} {l : List α} {k : κ} {x y : α}

theorem find_eq_some_iff (h : (l.map key).Nodup) : find key l k = some x ↔ x ∈ l ∧ key x = k := by
  constructor
  · intro hx
    exact ⟨List.mem_of_find?_eq_some hx, by simpa using List.find?_some hx⟩
  · rintro ⟨hx, rfl⟩
    cases hfind : find key l (key x) with
    | none => exact absurd (List.find?_eq_none.1 hfind x hx) (by simp)
    | some y =>
        have hy : key y = key x := by simpa using List.find?_some hfind
        rw [List.inj_on_of_nodup_map h (List.mem_of_find?_eq_some hfind) hx hy]

omit [DecidableEq κ] in
/-- A key that not all records have tells those apart that have it. -/
theorem eq_of_nodup_filterMap {f : α → Option κ} (h : (l.filterMap f).Nodup) (hx : x ∈ l)
    (hy : y ∈ l) (hfx : f x = some k) (hfy : f y = some k) : x = y := by
  induction l with
  | nil => cases hx
  | cons a l ih =>
      have hmem : ∀ {z}, z ∈ l → f z = some k → k ∈ l.filterMap f :=
        fun hz hfz => List.mem_filterMap.2 ⟨_, hz, hfz⟩
      rcases List.mem_cons.1 hx with rfl | hx' <;> rcases List.mem_cons.1 hy with rfl | hy'
      · rfl
      · rw [List.filterMap_cons_some hfx, List.nodup_cons] at h
        exact absurd (hmem hy' hfy) h.1
      · rw [List.filterMap_cons_some hfy, List.nodup_cons] at h
        exact absurd (hmem hx' hfx) h.1
      · cases hfa : f a with
        | none =>
            rw [List.filterMap_cons_none hfa] at h
            exact ih h hx' hy'
        | some b =>
            rw [List.filterMap_cons_some hfa, List.nodup_cons] at h
            exact ih h.2 hx' hy'

theorem find_eq_none_iff : find key l k = none ↔ ∀ x ∈ l, key x ≠ k := by
  simp [find, List.find?_eq_none]

theorem mem_remove : x ∈ remove key l k ↔ x ∈ l ∧ key x ≠ k := by simp [remove]

theorem nodup_remove (h : (l.map key).Nodup) : ((remove key l k).map key).Nodup :=
  (List.filter_sublist.map key).nodup h

theorem mem_set (hx : x ∈ l) {x' : α} (hkey : key x' = key x) :
    y ∈ set key l x' ↔ y = x' ∨ y ∈ l ∧ key y ≠ key x := by
  simp only [set, List.mem_map, hkey]
  constructor
  · rintro ⟨z, hz, rfl⟩
    by_cases h : key z = key x
    · exact Or.inl (if_pos h)
    · rw [if_neg h]
      exact Or.inr ⟨hz, h⟩
  · rintro (rfl | ⟨hy, hne⟩)
    · exact ⟨x, hx, if_pos rfl⟩
    · exact ⟨y, hy, if_neg hne⟩

theorem mem_set_self (hx : x ∈ l) (x' : α) (hkey : key x' = key x) : x' ∈ set key l x' :=
  (mem_set hx hkey).2 (Or.inl rfl)

/-- What the new record has as the old one had it, every record has as before. -/
theorem map_set {β : Type} (f : α → β) (h : (l.map key).Nodup) (hx : x ∈ l) {x' : α}
    (hkey : key x' = key x) (hf : f x' = f x) : (set key l x').map f = l.map f := by
  rw [set, List.map_map]
  refine List.map_congr_left fun y hy => ?_
  simp only [Function.comp_apply, hkey]
  split
  next heq => rw [hf, List.inj_on_of_nodup_map h hy hx heq]
  next => rfl

/-- Writing changes no key. -/
theorem map_key_set (l : List α) (x : α) : (set key l x).map key = l.map key := by
  rw [set, List.map_map]
  refine List.map_congr_left fun y _ => ?_
  simp only [Function.comp_apply]
  split
  next heq => exact heq.symm
  next => rfl

/-- Nothing is written to records with other keys. -/
theorem set_of_ne (h : ∀ y ∈ l, key y ≠ key x) : set key l x = l :=
  (List.map_congr_left fun y hy => if_neg (h y hy)).trans (List.map_id _)

theorem remove_of_ne (h : ∀ y ∈ l, key y ≠ k) : remove key l k = l := by
  rw [remove, List.filter_eq_self]
  exact fun y hy => decide_eq_true (h y hy)

/-- A record in front of others with other keys. -/
theorem set_cons (h : ∀ y ∈ l, key y ≠ key x) {x₀ : α} (hkey : key x₀ = key x) :
    set key (x₀ :: l) x = x :: l := by
  rw [set, List.map_cons, if_pos hkey]
  exact congrArg (x :: ·) (set_of_ne h)

theorem remove_cons (h : ∀ y ∈ l, key y ≠ k) (hkey : key x = k) :
    remove key (x :: l) k = l := by
  rw [remove, List.filter_cons_of_neg (by simp [hkey])]
  exact remove_of_ne h

theorem find_cons : find key (x :: l) k = if key x = k then some x else find key l k := by
  rw [find, List.find?_cons]
  by_cases h : key x = k
  · simp [h]
  · simp [h, find]

/-- A record that is written to is found as it was written. -/
theorem find_set :
    find key (set key l x) k =
      if key x = k then (find key l k).map fun _ => x else find key l k := by
  induction l with
  | nil => simp [find, set]
  | cons y l ih =>
      have hset : set key (y :: l) x = (if key y = key x then x else y) :: set key l x := rfl
      rw [hset, find_cons, find_cons, ih]
      by_cases hy : key y = k
      · by_cases hx : key x = k
        · simp [hy, hx]
        · simp [hy, hx, Ne.symm hx]
      · by_cases hx : key x = k
        · subst hx
          simp [hy]
        · by_cases hyx : key y = key x
          · simp [hx, hyx]
          · simp [hy, hx, hyx]

/-- A record is found among those that are kept if it is found and kept. -/
theorem find_filter (h : (l.map key).Nodup) (keep : α → Bool) :
    find key (l.filter keep) k = (find key l k).filter keep := by
  have hkept : ((l.filter keep).map key).Nodup := (List.filter_sublist.map key).nodup h
  refine Option.ext fun y => ?_
  rw [find_eq_some_iff hkept, Option.filter_eq_some_iff, find_eq_some_iff h, List.mem_filter]
  exact and_right_comm

/-- What is left of each record keeps its key: it is found where the record was. -/
theorem find_filterMap (h : (l.map key).Nodup) {f : α → Option α}
    (hf : ∀ x x', f x = some x' → key x' = key x) :
    find key (l.filterMap f) k = (find key l k).bind f := by
  induction l with
  | nil => rfl
  | cons x l ih =>
      obtain ⟨hx, hl⟩ := List.nodup_cons.1 h
      rw [find_cons, List.filterMap_cons]
      by_cases hkey : key x = k
      · have hnone : find key l k = none :=
          find_eq_none_iff.2 fun y hy heq =>
            hx (List.mem_map.2 ⟨y, hy, heq.trans hkey.symm⟩)
        rw [if_pos hkey, Option.bind_some]
        cases hfx : f x with
        | none => exact (ih hl).trans (by rw [hnone, Option.bind_none])
        | some x' => exact find_cons.trans (if_pos ((hf x x' hfx).trans hkey))
      · rw [if_neg hkey, ← ih hl]
        cases hfx : f x with
        | none => rfl
        | some x' => exact find_cons.trans (if_neg fun h' => hkey ((hf x x' hfx).symm.trans h'))

omit [DecidableEq κ] in
theorem nodup_filterMap (h : (l.map key).Nodup) {f : α → Option α}
    (hf : ∀ x x', f x = some x' → key x' = key x) : ((l.filterMap f).map key).Nodup := by
  refine List.Sublist.nodup ?_ h
  clear h
  induction l with
  | nil => exact List.Sublist.slnil
  | cons x l ih =>
      rw [List.filterMap_cons]
      cases hfx : f x with
      | none => exact ih.cons _
      | some x' =>
          rw [List.map_cons, List.map_cons, hf x x' hfx]
          exact ih.cons_cons _

/-- A new record at the end is found, and hides no other. -/
theorem find_concat (hx : find key l (key x) = none) :
    find key (l ++ [x]) k = if key x = k then some x else find key l k := by
  induction l with
  | nil => exact find_cons
  | cons y l ih =>
      rw [find_cons] at hx
      have hy : key y ≠ key x := fun h => by rw [if_pos h] at hx; cases hx
      rw [if_neg hy] at hx
      rw [List.cons_append, find_cons, find_cons, ih hx]
      by_cases hyk : key y = k
      · rw [if_pos hyk, if_pos hyk, if_neg fun hxk => hy (hyk.trans hxk.symm)]
      · rw [if_neg hyk, if_neg hyk]

omit [DecidableEq κ] in
theorem nodup_concat (h : (l.map key).Nodup) (hx : ∀ y ∈ l, key y ≠ key x) :
    ((l ++ [x]).map key).Nodup := by
  rw [List.map_append, List.map_singleton]
  refine List.nodup_append.2 ⟨h, List.nodup_singleton _, ?_⟩
  intro a ha b hb hab
  obtain ⟨y, hy, rfl⟩ := List.mem_map.1 ha
  exact hx y hy (hab.trans (List.mem_singleton.1 hb))

/-- The last write counts. -/
theorem set_set (hkey : key x = key y) : set key (set key l x) y = set key l y := by
  rw [set, set, List.map_map, set]
  refine List.map_congr_left fun z _ => ?_
  by_cases hz : key z = key y
  · simp [hz, hkey]
  · simp [hz, hkey]

/-- A write to a record that is removed does not matter. -/
theorem remove_set : remove key (set key l x) (key x) = remove key l (key x) := by
  rw [remove, set, List.filter_map]
  have hfilter : l.filter ((fun y => decide (key y ≠ key x)) ∘
      fun y => if key y = key x then x else y) = remove key l (key x) := by
    refine List.filter_congr fun y _ => ?_
    by_cases hy : key y = key x <;> simp [hy]
  rw [hfilter]
  refine (List.map_congr_left fun y hy => ?_).trans (List.map_id _)
  exact if_neg (mem_remove.1 hy).2

/-- Exactly one record has the key of one in the list. -/
theorem filter_key (h : (l.map key).Nodup) (hx : x ∈ l) :
    (l.filter fun y => key y = key x) = [x] := by
  induction l with
  | nil => cases hx
  | cons y l ih =>
      obtain ⟨hy, hl⟩ := List.nodup_cons.1 h
      rcases List.mem_cons.1 hx with rfl | hx
      · rw [List.filter_cons_of_pos (by simp)]
        refine congrArg (List.cons x) (List.filter_eq_nil_iff.2 fun z hz => ?_)
        have hne : key z ≠ key x := fun heq => hy (List.mem_map.2 ⟨z, hz, heq⟩)
        simpa using hne
      · have hne : key y ≠ key x := fun heq => hy (List.mem_map.2 ⟨x, hx, heq.symm⟩)
        rw [List.filter_cons_of_neg (by simpa using hne)]
        exact ih hl hx

/-! ## Another view of the records, with the same keys -/

section View

variable {β : Type} {key' : β → κ} {f : α → β} (hf : ∀ x, key' (f x) = key x)
include hf

theorem find_view : find key' (l.map f) k = (find key l k).map f := by
  rw [find, find, List.find?_map]
  refine congrArg (fun p => (l.find? p).map f) (funext fun y => ?_)
  simp [hf]

theorem set_view : set key' (l.map f) (f x) = (set key l x).map f := by
  rw [set, set, List.map_map, List.map_map]
  refine List.map_congr_left fun y _ => ?_
  simp only [Function.comp_apply, hf]
  split <;> rfl

theorem remove_view : remove key' (l.map f) k = (remove key l k).map f := by
  rw [remove, remove, List.filter_map]
  refine congrArg (List.map f) (List.filter_congr fun y _ => ?_)
  simp [hf]

end View

/-- In a list that is ordered from the last to the first, the last record with a property is
found. -/
theorem find?_eq_some_iff_of_sorted {num : α → Nat} {p : α → Bool}
    (h : l.Pairwise fun a b => num b < num a) :
    l.find? p = some x ↔ x ∈ l ∧ p x = true ∧ ∀ y ∈ l, p y = true → num y ≤ num x := by
  induction l with
  | nil => simp
  | cons a l ih =>
      obtain ⟨ha, hl⟩ := List.pairwise_cons.1 h
      rw [List.find?_cons]
      split
      next hpa =>
          rw [Option.some.injEq]
          constructor
          · rintro rfl
            refine ⟨List.mem_cons_self, hpa, ?_⟩
            intro y hy _
            rcases List.mem_cons.1 hy with rfl | hy
            · exact Nat.le_refl _
            · exact Nat.le_of_lt (ha y hy)
          · rintro ⟨hx, -, hmax⟩
            rcases List.mem_cons.1 hx with rfl | hx
            · rfl
            · exact absurd (hmax a List.mem_cons_self hpa) (Nat.not_le.2 (ha x hx))
      next hpa =>
          have hne : ∀ y, p y = true → y ≠ a := by
            rintro y hy rfl
            exact absurd hy (by simp [hpa])
          rw [ih hl]
          constructor
          · rintro ⟨hx, hpx, hmax⟩
            refine ⟨List.mem_cons_of_mem _ hx, hpx, ?_⟩
            intro y hy hpy
            exact hmax y ((List.mem_cons.1 hy).resolve_left (hne y hpy)) hpy
          · rintro ⟨hx, hpx, hmax⟩
            refine ⟨(List.mem_cons.1 hx).resolve_left (hne x hpx), hpx, ?_⟩
            intro y hy hpy
            exact hmax y (List.mem_cons_of_mem _ hy) hpy

end Keyed
