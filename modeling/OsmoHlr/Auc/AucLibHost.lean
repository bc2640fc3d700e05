import OsmoHlr.Auc.Auc
import OsmoHlr.Db.DbLibHost
import OsmoHlr.Lib.BigEndian

/-!
# MILENAGE

One implementation of the assumed functions: how libosmogsm takes a sequence number further
and puts it into AUTN, for any functions f1 to f5.

* `Milenage.aucLib` — the implementation.
* `Host.milenage` — the functions for the keys and the RAND of `tests/auc/auc_test.c`.
-/

namespace OsmoHlr
namespace Auc

open CString CniPeerId BigEndian

/-- What f2, f3, f4 and f5 give. -/
structure F2345 where
  res : List UInt8
  ck : List UInt8
  ik : List UInt8
  ak : List UInt8

/-- The functions of MILENAGE. -/
structure Milenage where
  /-- OPc from K and OP. -/
  opc : List UInt8 → List UInt8 → List UInt8
  /-- MAC-A from K, OPc, RAND, SQN and AMF. -/
  f1 : List UInt8 → List UInt8 → List UInt8 → List UInt8 → List UInt8 → List UInt8
  /-- All else from K, OPc and RAND. -/
  f2345 : List UInt8 → List UInt8 → List UInt8 → F2345
  ak_length : ∀ k opc rand, (f2345 k opc rand).ak.length = 6
  /-- `milenage_auts`: the sequence number in AUTS, if its MAC is right. -/
  auts : List UInt8 → List UInt8 → List UInt8 → List UInt8 → Option Nat

namespace Milenage

variable (m : Milenage)

/-- Bytes with other ones added. -/
def xor (a b : List UInt8) : List UInt8 := List.zipWith (fun x y => x ^^^ y) a b

theorem xor_xor {a b : List UInt8} (h : a.length = b.length) : xor (xor a b) b = a := by
  induction a generalizing b with
  | nil => rfl
  | cons x a ih =>
      cases b with
      | nil => cases h
      | cons y b =>
          have hrest := ih (Nat.succ.inj h)
          simp only [xor, List.zipWith_cons_cons] at hrest ⊢
          rw [hrest, UInt8.xor_assoc, UInt8.xor_self, UInt8.xor_zero]

/-- What f2 to f5 give with the keys. -/
def keyed (keys : UmtsKeys) (rand : List UInt8) : F2345 :=
  m.f2345 keys.k (if keys.opcIsOp then m.opc keys.k keys.opc else keys.opc) rand

/-- `OSMO_MILENAGE_IND_BITLEN_MAX` -/
def indBitlenMax : Nat := 28

/-- The next sequence number: the next SEQ, and IND. -/
def nextSqn (aud : SubAuthData) : Nat :=
  2 ^ aud.indBitlen.toNat * ((aud.sqn + 2 ^ aud.indBitlen.toNat) / 2 ^ aud.indBitlen.toNat) +
    aud.ind.toNat

theorem lt_nextSqn (aud : SubAuthData) : aud.sqn < nextSqn aud := by
  unfold nextSqn
  generalize hseq : 2 ^ aud.indBitlen.toNat = seq
  have hpos : 0 < seq := by
    rw [← hseq]
    exact Nat.two_pow_pos _
  have hsum := Nat.div_add_mod (aud.sqn + seq) seq
  have hmod := Nat.mod_lt (aud.sqn + seq) hpos
  omega

/-- `milenage_gen_vec` by way of `osmo_auth_gen_vec` -/
def genVec (vec : AuthVector) (aud : SubAuthData) (rand : List UInt8) : Generated :=
  if aud.algo ≠ .milenage then (enoent, vec, aud)
  else if aud.indBitlen.toNat > indBitlenMax then (-2, vec, aud)
  else if 2 ^ aud.indBitlen.toNat ≤ aud.ind.toNat then (-3, vec, aud)
  else
    let sqn := store48 (nextSqn aud)
    let out := m.keyed aud.toUmtsKeys rand
    let opc := if aud.opcIsOp then m.opc aud.k aud.opc else aud.opc
    (0, { rand := rand
          autn := xor sqn out.ak ++ aud.amf ++ m.f1 aud.k opc rand sqn aud.amf
          ck := out.ck
          ik := out.ik
          res := out.res
          kc := xor (xor (out.ck.take 8) (out.ck.drop 8)) (xor (out.ik.take 8) (out.ik.drop 8))
          sres := xor (out.res.take 4) (out.res.drop 4)
          authTypes := 3 },
      { aud with sqn := nextSqn aud })

/-- `milenage_gen_vec_auts` -/
def genVecAuts (vec : AuthVector) (aud : SubAuthData) (auts randAuts rand : List UInt8) :
    Generated :=
  let opc := if aud.opcIsOp then m.opc aud.k aud.opc else aud.opc
  match m.auts opc aud.k randAuts auts with
  | none => (-1, vec, aud)
  | some sqn => m.genVec vec { aud with sqn := sqn } rand

/-- The sequence number in AUTN, with the anonymity key taken away. -/
def autnSqn (keys : UmtsKeys) (rand autn : List UInt8) : Nat :=
  load48 (xor (autn.take 6) (m.keyed keys rand).ak)

theorem genVec_cases (vec : AuthVector) (aud : SubAuthData) (rand : List UInt8) :
    (∃ rc < 0, m.genVec vec aud rand = (rc, vec, aud)) ∨
      ((m.genVec vec aud rand).1 = 0 ∧ (m.genVec vec aud rand).2.1.rand = rand ∧
        (m.genVec vec aud rand).2.1.autn.take 6 =
          xor (store48 (nextSqn aud)) (m.keyed aud.toUmtsKeys rand).ak ∧
        (m.genVec vec aud rand).2.2 = { aud with sqn := nextSqn aud }) := by
  unfold genVec
  split
  · exact Or.inl ⟨enoent, by decide, rfl⟩
  · split
    · exact Or.inl ⟨-2, by decide, rfl⟩
    · split
      · exact Or.inl ⟨-3, by decide, rfl⟩
      · refine Or.inr ⟨rfl, rfl, ?_, rfl⟩
        have hlen : (xor (store48 (nextSqn aud)) (m.keyed aud.toUmtsKeys rand).ak).length = 6 := by
          simp [xor, keyed, m.ak_length]
        show List.take 6 (_ ++ _ ++ _) = _
        rw [List.append_assoc, List.take_left' hlen]

/-- What `osmo_hexparse` leaves. -/
def hexparse (text : CStr) (size : Nat) : List UInt8 :=
  let nibble (c : UInt8) : Option UInt8 :=
    if 48 ≤ c ∧ c ≤ 57 then some (c - 48)
    else if 97 ≤ c ∧ c ≤ 102 then some (c - 87)
    else if 65 ≤ c ∧ c ≤ 70 then some (c - 55)
    else none
  let digits := text.bytes.filter fun c => c ∉ ([32, 9, 10, 13] : List UInt8)
  let nibbles := (digits.takeWhile fun c => (nibble c).isSome).filterMap nibble
  (List.range size).map fun i => nibbles.getD (2 * i) 0 * 16 + nibbles.getD (2 * i + 1) 0

/-- **The assumed functions.** -/
def aucLib : AucLib Unit where
  hexparse := hexparse
  genVec _ := m.genVec
  genVecAuts _ := m.genVecAuts
  autnSqn := m.autnSqn
  aud_eq := by
    intro _ vec aud rand
    obtain ⟨rc, -, h⟩ | ⟨-, -, -, h⟩ := m.genVec_cases vec aud rand
    · rw [h]
    · rw [h]
  auts_aud_eq := by
    intro _ vec aud auts randAuts rand
    simp only [genVecAuts]
    split
    · rfl
    next sqn _ =>
        obtain ⟨rc, -, h⟩ | ⟨-, -, -, h⟩ := m.genVec_cases vec { aud with sqn := sqn } rand
        · rw [h]
        · rw [h]
  sqn_le := by
    intro _ vec aud rand _
    obtain ⟨rc, -, h⟩ | ⟨-, -, -, h⟩ := m.genVec_cases vec aud rand
    · rw [h]
    · rw [h]
      exact Nat.le_of_lt (lt_nextSqn aud)
  sqn_lt := by
    intro _ vec aud rand _ hrc
    obtain ⟨rc, hneg, h⟩ | ⟨-, -, -, h⟩ := m.genVec_cases vec aud rand
    · rw [h] at hrc
      exact absurd hneg (Int.not_lt.2 hrc)
    · rw [h]
      exact lt_nextSqn aud
  autn_eq := by
    intro _ vec aud rand _ hrc hfits
    obtain ⟨rc, hneg, h⟩ | ⟨-, hrand, hautn, h⟩ := m.genVec_cases vec aud rand
    · rw [h] at hrc
      exact absurd hneg (Int.not_lt.2 hrc)
    · rw [h] at hfits ⊢
      rw [hrand, autnSqn, hautn, xor_xor (by rw [length_store48, keyed, m.ak_length])]
      exact load48_store48 hfits
  rand_eq := by
    intro _ vec aud rand hrc
    obtain ⟨rc, hneg, h⟩ | ⟨-, h, -⟩ := m.genVec_cases vec aud rand
    · rw [h] at hrc
      exact absurd hneg (Int.not_lt.2 hrc)
    · exact h
  auts_rand_eq := by
    intro _ vec aud auts randAuts rand
    simp only [genVecAuts]
    split
    · rintro ⟨⟩
    next sqn _ =>
        intro hrc
        obtain ⟨rc, hneg, h⟩ | ⟨-, h, -⟩ := m.genVec_cases vec { aud with sqn := sqn } rand
        · rw [h] at hrc
          exact absurd hneg (Int.not_lt.2 hrc)
        · exact h

end Milenage
end Auc

namespace Host

open CString Auc Db

/-- What the functions give with the keys and the RAND of the test, and with SQN 32. -/
def milenage : Milenage where
  opc _ _ := []
  f1 _ _ _ _ _ := [0x54, 0x1d, 0xde, 0x77, 0xea, 0x5b, 0x1d, 0x8c]
  f2345 _ _ _ :=
    { res := [0xe2, 0x29, 0xc1, 0x9e, 0x79, 0x1f, 0x2e, 0x41]
      ck := Milenage.hexparse (CStr.lit "f64735036e5871319c679f4742a75ea1") 16
      ik := Milenage.hexparse (CStr.lit "27497388b6cb044648f396aa155b95ef") 16
      ak := [0x87, 0x04, 0xf5, 0xba, 0x55, 0xf3] }
  ak_length _ _ _ := rfl
  auts _ _ _ _ := none

/-- The subscriber of the test, whose sequence number is 31. -/
def withUsim : Tables where
  subscriber := [subscriberRow 1 (CStr.lit "262420000000001")]
  auc2g := []
  auc3g := [⟨1, AuthAlgo.milenage.toInt, CStr.lit "EB215756028D60E3275E613320AEC880", none,
    some (CStr.lit "FB2A3D1B360F599ABAB99DB8669F8308"), 31, 0⟩]
  valid := by decide

/-- A vector of zeros. -/
def zeroVector : AuthVector := ⟨[], [], [], [], [], [], [], 0⟩

/-- One vector is asked for, with the RAND of the test or none. -/
def askOne (rand : Option CStr) : Call Unit where
  env := ⟨Faults.none, ⟨fun _ => rand.map fun rand => Milenage.hexparse rand 16, fun _ => (),
    fun _ => ()⟩, Faults.none⟩
  imsi := CStr.lit "262420000000001"
  auc3gInd := 0
  vec _ := zeroVector
  vtmp := zeroVector
  numVec := 1
  separationBit := false

example : (((askOne (some (CStr.lit "39fa2f4e3d523d8619a73b4f65c3e14d"))).got milenage.aucLib
    withUsim).vec 0).autn = Milenage.hexparse (CStr.lit "8704f5ba55d30000541dde77ea5b1d8c") 16 := by
  decide +kernel

end Host
end OsmoHlr
