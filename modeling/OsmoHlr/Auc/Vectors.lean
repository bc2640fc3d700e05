import OsmoHlr.Auc.Auc
import Mathlib.Data.List.Range

/-!
# Vectors

What the loop of `auc_compute_vectors` leaves, wherever it stops.

* `complete_genLoop` — complete vectors up to where it ends.
* `sqn_genLoop` — their sequence numbers go up.
* `returned_aucComputeVectors`, `sqn_aucComputeVectors` — the same of what is returned.
-/

namespace OsmoHlr
namespace Auc

variable {Ω : Type} {lib : AucLib Ω} {env : GenEnv Ω} {auts : Auts} {s : GenState} {i : Nat}
  {aud aud2g aud3g : SubAuthData}

/-! ## One vector -/

/-- Only the sequence number of the 3G data changes. -/
theorem genUmts_aud (lib : AucLib Ω) (ω : Ω) (auts : Auts) (vec : AuthVector) (aud : SubAuthData)
    (rand : List UInt8) :
    ∃ sqn, (genUmts lib ω auts vec aud rand).2.2 = { aud with sqn := sqn } := by
  cases auts with
  | none => exact ⟨_, lib.aud_eq ω vec aud rand⟩
  | some auts => exact ⟨_, lib.auts_aud_eq ω vec aud auts.1 auts.2 rand⟩

theorem genUmts_rand {ω : Ω} {vec : AuthVector} {rand : List UInt8}
    (h : 0 ≤ (genUmts lib ω auts vec aud rand).1) :
    (genUmts lib ω auts vec aud rand).2.1.rand = rand := by
  cases auts with
  | none => exact lib.rand_eq ω vec aud rand h
  | some auts => exact lib.auts_rand_eq ω vec aud auts.1 auts.2 rand h

/-- A vector is complete: the 3G part is generated with success, the first one by way of AUTS if
that is given; and so is the 2G part from the same RAND, if there are keys of its own. -/
def Complete (lib : AucLib Ω) (env : GenEnv Ω) (auts : Auts) (aud2g aud3g : Option SubAuthData)
    (i : Nat) (v : AuthVector) : Prop :=
  env.randGet i = some v.rand ∧
    match aud3g, aud2g with
    | some aud3g, none => ∃ vec sqn,
        let umts := genUmts lib (env.umts i) (autsFor auts i) vec { aud3g with sqn := sqn } v.rand
        0 ≤ umts.1 ∧ v = umts.2.1
    | some aud3g, some aud2g => ∃ vec sqn vtmp sqn',
        let umts := genUmts lib (env.umts i) (autsFor auts i) vec { aud3g with sqn := sqn } v.rand
        let gsm := lib.genVec (env.gsm i) vtmp { aud2g with sqn := sqn' } v.rand
        0 ≤ umts.1 ∧ 0 ≤ gsm.1 ∧ v = umts.2.1.withGsm gsm.2.1
    | none, some aud2g => ∃ vec sqn,
        let gsm := lib.genVec (env.gsm i) vec { aud2g with sqn := sqn } v.rand
        0 ≤ gsm.1 ∧ v = gsm.2.1
    | none, none => False

/-- A vector cannot be generated: there are no random numbers, or an algorithm fails. -/
def Fails (lib : AucLib Ω) (env : GenEnv Ω) (auts : Auts) (aud2g aud3g : Option SubAuthData)
    (i : Nat) : Prop :=
  ∀ rand, env.randGet i = some rand →
    (∃ aud ∈ aud3g, ∃ vec sqn,
      (genUmts lib (env.umts i) (autsFor auts i) vec { aud with sqn := sqn } rand).1 < 0) ∨
    ∃ aud ∈ aud2g, ∃ vec sqn, (lib.genVec (env.gsm i) vec { aud with sqn := sqn } rand).1 < 0

/-- What was given, but for the sequence number. -/
def ButSqn (given now : Option SubAuthData) : Prop :=
  (given = none ∧ now = none) ∨ ∃ aud sqn, given = some aud ∧ now = some { aud with sqn := sqn }

theorem ButSqn.refl (given : Option SubAuthData) : ButSqn given given := by
  cases given with
  | none => exact Or.inl ⟨rfl, rfl⟩
  | some aud => exact Or.inr ⟨aud, aud.sqn, rfl, rfl⟩

theorem ButSqn.of_sqn (aud : SubAuthData) (sqn : Nat) :
    ButSqn (some aud) (some { aud with sqn := sqn }) := Or.inr ⟨aud, sqn, rfl, rfl⟩

theorem ButSqn.genVec (lib : AucLib Ω) (ω : Ω) (vec : AuthVector) (aud : SubAuthData) (sqn : Nat)
    (rand : List UInt8) :
    ButSqn (some aud) (some (lib.genVec ω vec { aud with sqn := sqn } rand).2.2) := by
  rw [lib.aud_eq]
  exact ButSqn.of_sqn aud _

theorem ButSqn.genUmts (lib : AucLib Ω) (ω : Ω) (auts : Auts) (vec : AuthVector) (aud : SubAuthData)
    (sqn : Nat) (rand : List UInt8) :
    ButSqn (some aud) (some (Auc.genUmts lib ω auts vec { aud with sqn := sqn } rand).2.2) := by
  obtain ⟨sqn', h⟩ := genUmts_aud lib ω auts vec { aud with sqn := sqn } rand
  rw [h]
  exact ButSqn.of_sqn aud sqn'

/-- What one round of the loop does. -/
structure OneSpec (lib : AucLib Ω) (env : GenEnv Ω) (auts : Auts) (aud2g aud3g : Option SubAuthData)
    (i : Nat) (s : GenState) (one : Bool × GenState) : Prop where
  gsm : ButSqn aud2g one.2.aud2g
  umts : ButSqn aud3g one.2.aud3g
  frame : ∀ j, j ≠ i → one.2.vec j = s.vec j
  complete : one.1 = true → Complete lib env auts aud2g aud3g i (one.2.vec i)
  fails : one.1 = false → Fails lib env auts aud2g aud3g i
  resyncs : (∀ j ∈ s.resyncs, j = 0) → ∀ j ∈ one.2.resyncs, j = 0

theorem resyncs_concat (auts : Auts) (i : Nat) {resyncs : List Nat} (h : ∀ j ∈ resyncs, j = 0) :
    ∀ j ∈ if (autsFor auts i).isSome then resyncs ++ [i] else resyncs, j = 0 := by
  unfold autsFor
  by_cases hi : i = 0
  · rw [if_pos hi]
    split
    · intro j hj
      rcases List.mem_append.1 hj with hj | hj
      · exact h j hj
      · exact (List.mem_singleton.1 hj).trans hi
    · exact h
  · rw [if_neg hi]
    exact h

/-- **A round makes one vector complete, or fails.** -/
theorem genOne_spec (lib : AucLib Ω) {aud2g aud3g : Option SubAuthData} (hgsm : ButSqn aud2g s.aud2g)
    (humts : ButSqn aud3g s.aud3g) (hsome : ¬(aud2g = none ∧ aud3g = none)) (env : GenEnv Ω)
    (auts : Auts) (i : Nat) :
    OneSpec lib env auts aud2g aud3g i s (genOne lib env auts i s) := by
  unfold genOne
  cases hrand : env.randGet i with
  | none =>
      refine ⟨hgsm, humts, fun _ _ => rfl, by rintro ⟨⟩, ?_, id⟩
      intro _ rand hrand'
      rw [hrand] at hrand'
      cases hrand'
  | some rand =>
      have heq : ∀ rand', env.randGet i = some rand' → rand = rand' := by
        intro rand' hrand'
        exact Option.some.inj (hrand.symm.trans hrand')
      rcases humts with ⟨rfl, humts⟩ | ⟨aud3g, sqn, rfl, humts⟩
      · rcases hgsm with ⟨rfl, -⟩ | ⟨aud2g, sqn, rfl, hgsm⟩
        · exact absurd ⟨rfl, rfl⟩ hsome
        · -- there are only 2G keys
          simp only [humts, hgsm]
          refine ⟨.genVec lib _ _ aud2g sqn rand, .inl ⟨rfl, rfl⟩, ?_, ?_, ?_, id⟩
          · intro j hj
            exact Function.update_of_ne hj _ _
          · intro hok
            have hok' := of_decide_eq_true hok
            have hvrand := lib.rand_eq _ _ _ _ hok'
            simp only [Function.update_self]
            refine ⟨hrand.trans (congrArg some hvrand.symm), s.vec i, sqn, ?_⟩
            simp only [hvrand]
            exact ⟨hok', trivial⟩
          · intro hfail rand' hrand'
            obtain rfl := heq rand' hrand'
            exact Or.inr ⟨aud2g, rfl, _, sqn, Int.not_le.1 (of_decide_eq_false hfail)⟩
      · simp only [humts]
        have hbut := ButSqn.genUmts lib (env.umts i) (autsFor auts i) (s.vec i) aud3g sqn rand
        split
        next hneg =>
            refine ⟨hgsm, hbut, ?_, by rintro ⟨⟩, ?_, resyncs_concat auts i⟩
            · intro j hj
              exact Function.update_of_ne hj _ _
            · intro _ rand' hrand'
              obtain rfl := heq rand' hrand'
              exact Or.inl ⟨aud3g, rfl, _, sqn, hneg⟩
        next hpos =>
            have hpos' := Int.not_lt.1 hpos
            have hvrand := genUmts_rand hpos'
            rcases hgsm with ⟨rfl, hgsm⟩ | ⟨aud2g, sqn', rfl, hgsm⟩
            · -- there are only 3G keys
              simp only [hgsm]
              refine ⟨.inl ⟨rfl, rfl⟩, hbut, ?_, ?_, by rintro ⟨⟩, resyncs_concat auts i⟩
              · intro j hj
                exact Function.update_of_ne hj _ _
              · intro _
                simp only [Function.update_self]
                refine ⟨hrand.trans (congrArg some hvrand.symm), s.vec i, sqn, ?_⟩
                simp only [hvrand]
                exact ⟨hpos', trivial⟩
            · simp only [hgsm]
              split
              next hneg =>
                  refine ⟨.genVec lib _ _ aud2g sqn' rand, hbut, ?_, by rintro ⟨⟩, ?_,
                    resyncs_concat auts i⟩
                  · intro j hj
                    exact Function.update_of_ne hj _ _
                  · intro _ rand' hrand'
                    obtain rfl := heq rand' hrand'
                    exact Or.inr ⟨aud2g, rfl, _, sqn', hneg⟩
              next hpos2 =>
                  refine ⟨.genVec lib _ _ aud2g sqn' rand, hbut, ?_, ?_, by rintro ⟨⟩,
                    resyncs_concat auts i⟩
                  · intro j hj
                    simp only [Function.update_of_ne hj]
                  · intro _
                    simp only [Function.update_self]
                    refine ⟨hrand.trans (congrArg some hvrand.symm), s.vec i, sqn, s.vtmp, sqn',
                      ?_⟩
                    simp only [AuthVector.withGsm, hvrand]
                    exact ⟨hpos', Int.not_lt.1 hpos2, trivial⟩

/-! ## The loop -/

/-- What the loop does from `i` on for so many vectors. -/
structure LoopSpec (lib : AucLib Ω) (env : GenEnv Ω) (auts : Auts)
    (aud2g aud3g : Option SubAuthData) (n i : Nat) (s : GenState) (loop : Nat × GenState) :
    Prop where
  le : i ≤ loop.1
  le_add : loop.1 ≤ i + n
  umts : ButSqn aud3g loop.2.aud3g
  frame : ∀ j, j < i ∨ loop.1 < j → loop.2.vec j = s.vec j
  complete : ∀ j, i ≤ j → j < loop.1 → Complete lib env auts aud2g aud3g j (loop.2.vec j)
  fails : loop.1 < i + n → Fails lib env auts aud2g aud3g loop.1
  resyncs : (∀ j ∈ s.resyncs, j = 0) → ∀ j ∈ loop.2.resyncs, j = 0

/-- **The loop leaves complete vectors up to where it ends.** -/
theorem complete_genLoop (lib : AucLib Ω) {aud2g aud3g : Option SubAuthData} (hgsm : ButSqn aud2g s.aud2g)
    (humts : ButSqn aud3g s.aud3g) (hsome : ¬(aud2g = none ∧ aud3g = none)) (env : GenEnv Ω)
    (auts : Auts) (n i : Nat) :
    LoopSpec lib env auts aud2g aud3g n i s (genLoop lib env auts n i s) := by
  induction n generalizing i s with
  | zero =>
      refine ⟨Nat.le_refl i, Nat.le_refl i, humts, fun _ _ => rfl, ?_, ?_, id⟩
      · intro j hij hji
        exact absurd hij (Nat.not_le.2 hji)
      · intro h
        exact absurd h (Nat.lt_irrefl i)
  | succ n ih =>
      have one := genOne_spec lib hgsm humts hsome env auts i
      rw [genLoop]
      split
      next hok =>
          have rest := ih (i := i + 1) one.gsm one.umts
          refine ⟨?_, ?_, rest.umts, ?_, ?_, ?_, rest.resyncs ∘ one.resyncs⟩
          · exact Nat.le_of_succ_le rest.le
          · have hle := rest.le_add
            omega
          · intro j hj
            have hlt := rest.le
            rw [rest.frame j (by omega), one.frame j (by omega)]
          · intro j hij hj
            rcases Nat.eq_or_lt_of_le hij with rfl | hlt
            · rw [rest.frame i (Or.inl (Nat.lt_succ_self i))]
              exact one.complete hok
            · exact rest.complete j hlt hj
          · intro hlt
            exact rest.fails (by omega)
      next hfail =>
          refine ⟨Nat.le_refl i, Nat.le_add_right i _, one.umts, ?_, ?_, ?_, one.resyncs⟩
          · intro j hj
            exact one.frame j (by omega)
          · intro j hij hji
            exact absurd hij (Nat.not_le.2 hji)
          · intro _
            exact one.fails (Bool.eq_false_iff.2 hfail)

/-! ## The sequence numbers of the vectors -/

/-- The sequence number that the USIM finds in a vector. -/
def vectorSqn (lib : AucLib Ω) (keys : UmtsKeys) (v : AuthVector) : Nat :=
  lib.autnSqn keys v.rand v.autn

/-- A round takes the sequence number further if it makes a vector, which has it then. -/
theorem sqn_genOne (h3g : s.aud3g = some aud) (htype : aud.type = .umts) (env : GenEnv Ω)
    (i : Nat) :
    ∃ sqn, (genOne lib env none i s).2.aud3g = some { aud with sqn := sqn } ∧ aud.sqn ≤ sqn ∧
      ((genOne lib env none i s).1 = true →
        aud.sqn < sqn ∧ (sqn < 2 ^ 48 →
          vectorSqn lib aud.toUmtsKeys ((genOne lib env none i s).2.vec i) = sqn)) := by
  unfold genOne
  cases env.randGet i with
  | none => exact ⟨aud.sqn, h3g, Nat.le_refl _, by rintro ⟨⟩⟩
  | some rand =>
      have hauts : autsFor none i = none := by
        unfold autsFor
        split <;> rfl
      simp only [h3g, hauts, genUmts]
      have haud := lib.aud_eq (env.umts i) (s.vec i) aud rand
      have hle := lib.sqn_le (env.umts i) (s.vec i) aud rand htype
      have hlt := lib.sqn_lt (env.umts i) (s.vec i) aud rand htype
      have hautn := lib.autn_eq (env.umts i) (s.vec i) aud rand htype
      split
      next hneg => exact ⟨_, congrArg some haud, hle, by rintro ⟨⟩⟩
      next hpos =>
          have hlt' := hlt (Int.not_lt.1 hpos)
          have hautn' := hautn (Int.not_lt.1 hpos)
          cases s.aud2g with
          | none =>
              refine ⟨_, congrArg some haud, hle, fun _ => ⟨hlt', ?_⟩⟩
              simpa only [vectorSqn, Function.update_self] using hautn'
          | some aud2g =>
              simp only
              split
              · exact ⟨_, congrArg some haud, hle, by rintro ⟨⟩⟩
              · refine ⟨_, congrArg some haud, hle, fun _ => ⟨hlt', ?_⟩⟩
                simpa only [vectorSqn, AuthVector.withGsm, Function.update_self] using hautn'

/-- The sequence numbers of some of the vectors. -/
def vectorSqns (lib : AucLib Ω) (keys : UmtsKeys) (vec : Nat → AuthVector) (i n : Nat) : List Nat :=
  (List.range' i n).map fun j => vectorSqn lib keys (vec j)

/-- Numbers that go up, from above one to another. -/
structure Between (a b : Nat) (sqns : List Nat) : Prop where
  bounds : ∀ q ∈ sqns, a < q ∧ q ≤ b
  up : sqns.Pairwise (· < ·)

theorem between_nil (a b : Nat) : Between a b [] := ⟨fun _ hq => (List.not_mem_nil hq).elim, .nil⟩

theorem between_cons {a b q : Nat} {sqns : List Nat} (hlt : a < q) (hle : q ≤ b)
    (h : Between q b sqns) : Between a b (q :: sqns) where
  bounds := by
    intro x hx
    rcases List.mem_cons.1 hx with rfl | hx
    · exact ⟨hlt, hle⟩
    · exact ⟨Nat.lt_trans hlt (h.bounds x hx).1, (h.bounds x hx).2⟩
  up := List.pairwise_cons.2 ⟨fun x hx => (h.bounds x hx).1, h.up⟩

/-- **Without AUTS, the sequence numbers go up from vector to vector**, from what was given to what
is left. -/
theorem sqn_genLoop (lib : AucLib Ω) (h3g : s.aud3g = some aud) (htype : aud.type = .umts)
    (env : GenEnv Ω) (n i : Nat) :
    ∃ sqn, (genLoop lib env none n i s).2.aud3g = some { aud with sqn := sqn } ∧ aud.sqn ≤ sqn ∧
      (sqn < 2 ^ 48 → Between aud.sqn sqn (vectorSqns lib aud.toUmtsKeys
        (genLoop lib env none n i s).2.vec i ((genLoop lib env none n i s).1 - i))) := by
  induction n generalizing i s aud with
  | zero =>
      rw [genLoop, Nat.sub_self]
      exact ⟨aud.sqn, h3g, Nat.le_refl _, fun _ => between_nil _ _⟩
  | succ n ih =>
      obtain ⟨sqn, h3g', hle, hok⟩ := sqn_genOne h3g htype env i
      rw [genLoop]
      split
      next hone =>
          obtain ⟨hlt, hsqn⟩ := hok hone
          obtain ⟨last, hlast, hle', hrest⟩ := ih (i := i + 1) h3g' htype
          have rest := complete_genLoop lib (.refl (genOne lib env none i s).2.aud2g)
            (.refl _) (by rw [h3g']; rintro ⟨-, ⟨⟩⟩) env none n (i + 1)
          have hvec := rest.frame i (Or.inl (Nat.lt_succ_self i))
          have hcount : (genLoop lib env none n (i + 1) (genOne lib env none i s).2).1 - i =
              (genLoop lib env none n (i + 1) (genOne lib env none i s).2).1 - (i + 1) + 1 := by
            have := rest.le
            omega
          refine ⟨last, hlast, Nat.le_trans hle hle', ?_⟩
          intro hfits
          rw [hcount, vectorSqns, List.range'_succ, List.map_cons, hvec,
            hsqn (Nat.lt_of_le_of_lt hle' hfits)]
          exact between_cons hlt hle' (hrest hfits)
      next =>
          rw [Nat.sub_self]
          exact ⟨sqn, h3g', hle, fun _ => between_nil _ _⟩

/-! ## What is returned -/

theorem usable_eq_some {aud' : SubAuthData} (h : usable aud = some aud') : aud = aud' := by
  unfold usable at h
  split at h
  · cases h
  · exact Option.some.inj h

theorem intOfUnsigned_eq {n e : Nat} (hlt : e < 2 ^ 32) (h : intOfUnsigned e = n) : e = n := by
  unfold intOfUnsigned at h
  split at h
  · exact Int.ofNat.inj h
  · omega

/-- It fails before the loop, or what the loop leaves is returned. -/
theorem aucComputeVectors_cases (lib : AucLib Ω) (env : GenEnv Ω) (vec : Nat → AuthVector)
    (vtmp : AuthVector) (numVec : UInt32) (aud2g aud3g : SubAuthData)
    (randAuts auts : Option (List UInt8)) :
    aucComputeVectors lib env vec vtmp numVec aud2g aud3g randAuts auts = ⟨-1, vec, aud3g, []⟩ ∨
      ∃ made, made = genLoop lib env (givenAuts randAuts auts) numVec.toNat 0
          ⟨vec, vtmp, usable aud2g, usable aud3g, []⟩ ∧
        LoopSpec lib env (givenAuts randAuts auts) (usable aud2g) (usable aud3g) numVec.toNat 0
          ⟨vec, vtmp, usable aud2g, usable aud3g, []⟩ made ∧
        aucComputeVectors lib env vec vtmp numVec aud2g aud3g randAuts auts =
          ⟨intOfUnsigned made.1, made.2.vec, made.2.aud3g.getD aud3g, made.2.resyncs⟩ := by
  unfold aucComputeVectors
  simp only
  split
  · exact Or.inl rfl
  next hsome =>
      split
      · exact Or.inl rfl
      · split
        · exact Or.inl rfl
        · split
          · exact Or.inl rfl
          · split
            · exact Or.inl rfl
            · have spec := complete_genLoop lib
                (s := ⟨vec, vtmp, usable aud2g, usable aud3g, []⟩) (.refl _) (.refl _) hsome env
                (givenAuts randAuts auts) numVec.toNat 0
              exact Or.inr ⟨_, rfl, spec, rfl⟩

/-- What a number of vectors that is returned says about them. -/
structure Returned (lib : AucLib Ω) (env : GenEnv Ω) (auts : Auts)
    (aud2g aud3g : Option SubAuthData) (numVec n : Nat) (vec vec' : Nat → AuthVector) : Prop where
  le : n ≤ numVec
  complete : ∀ i < n, Complete lib env auts aud2g aud3g i (vec' i)
  fails : n < numVec → Fails lib env auts aud2g aud3g n
  frame : ∀ i, n < i → vec' i = vec i

theorem returned_aucComputeVectors {vec : Nat → AuthVector} {vtmp : AuthVector} {numVec : UInt32}
    {randAuts auts : Option (List UInt8)} {n : Nat}
    (h : (aucComputeVectors lib env vec vtmp numVec aud2g aud3g randAuts auts).rc = n) :
    Returned lib env (givenAuts randAuts auts) (usable aud2g) (usable aud3g) numVec.toNat n vec
      (aucComputeVectors lib env vec vtmp numVec aud2g aud3g randAuts auts).vec := by
  rcases aucComputeVectors_cases lib env vec vtmp numVec aud2g aud3g randAuts auts with
    hfailed | ⟨made, -, spec, heq⟩
  · rw [hfailed] at h
    cases h
  · rw [heq] at h ⊢
    have hle := spec.le_add
    have hlt := numVec.toNat_lt
    obtain rfl := intOfUnsigned_eq (by omega) h
    refine ⟨by omega, ?_, ?_, ?_⟩
    · intro i hi
      exact spec.complete i (Nat.zero_le i) hi
    · intro hlt'
      exact spec.fails (by omega)
    · intro i hi
      exact spec.frame i (Or.inr hi)

theorem resyncs_aucComputeVectors {vec : Nat → AuthVector} {vtmp : AuthVector} {numVec : UInt32}
    {randAuts auts : Option (List UInt8)} :
    ∀ i ∈ (aucComputeVectors lib env vec vtmp numVec aud2g aud3g randAuts auts).resyncs, i = 0 := by
  rcases aucComputeVectors_cases lib env vec vtmp numVec aud2g aud3g randAuts auts with
    hfailed | ⟨made, -, spec, heq⟩
  · rw [hfailed]
    intro i hi
    cases hi
  · rw [heq]
    refine spec.resyncs ?_
    intro i hi
    cases hi

/-- **Without AUTS, the sequence numbers of the vectors go up**, from what is given to what is left
to be stored. -/
theorem sqn_aucComputeVectors (lib : AucLib Ω) (env : GenEnv Ω) (vec : Nat → AuthVector)
    (vtmp : AuthVector) (numVec : UInt32) (aud2g : SubAuthData) (h3g : usable aud3g = some aud3g)
    (htype : aud3g.type = .umts) :
    ∃ sqn, (aucComputeVectors lib env vec vtmp numVec aud2g aud3g none none).aud3g =
        { aud3g with sqn := sqn } ∧ aud3g.sqn ≤ sqn ∧
      ∀ n : Nat, (aucComputeVectors lib env vec vtmp numVec aud2g aud3g none none).rc = n →
        sqn < 2 ^ 48 → Between aud3g.sqn sqn (vectorSqns lib aud3g.toUmtsKeys
          (aucComputeVectors lib env vec vtmp numVec aud2g aud3g none none).vec 0 n) := by
  rcases aucComputeVectors_cases lib env vec vtmp numVec aud2g aud3g none none with
    hfailed | ⟨made, hmade, spec, heq⟩
  · rw [hfailed]
    exact ⟨aud3g.sqn, rfl, Nat.le_refl _, by rintro n ⟨⟩⟩
  · obtain ⟨sqn, hlast, hle, hbetween⟩ := sqn_genLoop lib
      (s := ⟨vec, vtmp, usable aud2g, usable aud3g, []⟩) h3g htype env numVec.toNat 0
    rw [show genLoop lib env none numVec.toNat 0 ⟨vec, vtmp, usable aud2g, usable aud3g, []⟩ = made
      from hmade.symm] at hlast hbetween
    rw [heq]
    refine ⟨sqn, by rw [hlast]; rfl, hle, ?_⟩
    intro n h
    have hle := spec.le_add
    have hlt := numVec.toNat_lt
    obtain rfl := intOfUnsigned_eq (by omega) h
    exact hbetween

end Auc
end OsmoHlr
