import OsmoHlr.Db.DbHlr
import Mathlib.Logic.Function.Basic

/-!
# The authentication centre

`src/auc.c` and `src/db_auc.c`: authentication vectors are generated from the keys in the
database, and the sequence number that the last one has used is stored before they are
handed out.  The algorithms belong to libosmogsm and are a parameter, `AucLib`.  Sequence
numbers have 48 bits in a vector, and are plain numbers here.

* `genOne`, `genLoop` — one vector, and the loop.
* `aucComputeVectors` — vectors from given keys.
* `dbGetAuc` — vectors for a subscriber.
-/

namespace OsmoHlr
namespace Auc

open CString CniPeerId Db

/-! ## Data -/

/-- `-ENOKEY` -/
def enokey : Int := -126

/-- The number of `enum osmo_auth_algo` that a column has. -/
def algoOfInt (v : Int) : AuthAlgo :=
  if v = 0 then .none else if v = 1 then .comp128v1 else if v = 2 then .comp128v2
  else if v = 3 then .comp128v3 else if v = 4 then .xor else if v = 5 then .milenage
  else .other v

/-- The keys that a USIM has, too. -/
structure UmtsKeys where
  algo : AuthAlgo
  k : List UInt8
  opc : List UInt8
  opcIsOp : Bool
  deriving DecidableEq

/-- `struct osmo_sub_auth_data`, with both parts of its union. -/
structure SubAuthData extends UmtsKeys where
  type : AuthType
  ki : List UInt8
  amf : List UInt8
  sqn : Nat
  ind : UInt32
  indBitlen : UInt32
  deriving DecidableEq

/-- A zeroed `struct osmo_sub_auth_data`. -/
def SubAuthData.zero : SubAuthData :=
  ⟨⟨.none, [], [], false⟩, .none, [], [0, 0], 0, 0, 0⟩

/-- `struct osmo_auth_vector`; the length of `res` is `res_len`. -/
structure AuthVector where
  rand : List UInt8
  autn : List UInt8
  ck : List UInt8
  ik : List UInt8
  res : List UInt8
  kc : List UInt8
  sres : List UInt8
  authTypes : UInt32
  deriving DecidableEq

/-- `OSMO_AUTH_TYPE_GSM` as a flag of `auth_types`. -/
def authTypeGsm : UInt32 := 1

/-- What an algorithm does: its return code, the vector, and the authentication data. -/
abbrev Generated := Int × AuthVector × SubAuthData

/-- The authentication part of libosmogsm.  Whatever else an outcome depends on is `Ω`. -/
structure AucLib (Ω : Type) where
  /-- `osmo_hexparse`: what it leaves in a zeroed buffer of a size. -/
  hexparse : CStr → Nat → List UInt8
  /-- `osmo_auth_gen_vec(vec, aud, rand)` -/
  genVec : Ω → AuthVector → SubAuthData → List UInt8 → Generated
  /-- `osmo_auth_gen_vec_auts(vec, aud, auts, rand_auts, rand)` -/
  genVecAuts : Ω → AuthVector → SubAuthData → List UInt8 → List UInt8 → List UInt8 → Generated
  /-- The sequence number that a USIM finds in AUTN, given RAND. -/
  autnSqn : UmtsKeys → List UInt8 → List UInt8 → Nat
  /-- Of the authentication data, only the sequence number changes. -/
  aud_eq : ∀ ω vec aud rand,
    (genVec ω vec aud rand).2.2 = { aud with sqn := (genVec ω vec aud rand).2.2.sqn }
  /-- The same if it is taken from AUTS. -/
  auts_aud_eq : ∀ ω vec aud auts randAuts rand,
    (genVecAuts ω vec aud auts randAuts rand).2.2 =
      { aud with sqn := (genVecAuts ω vec aud auts randAuts rand).2.2.sqn }
  /-- Failing or not, it does not go back. -/
  sqn_le : ∀ ω vec aud rand, aud.type = .umts → aud.sqn ≤ (genVec ω vec aud rand).2.2.sqn
  /-- On success it has gone on. -/
  sqn_lt : ∀ ω vec aud rand, aud.type = .umts → 0 ≤ (genVec ω vec aud rand).1 →
    aud.sqn < (genVec ω vec aud rand).2.2.sqn
  /-- It is in the vector, as long as it fits. -/
  autn_eq : ∀ ω vec aud rand, aud.type = .umts → 0 ≤ (genVec ω vec aud rand).1 →
    (genVec ω vec aud rand).2.2.sqn < 2 ^ 48 →
      autnSqn aud.toUmtsKeys (genVec ω vec aud rand).2.1.rand (genVec ω vec aud rand).2.1.autn =
        (genVec ω vec aud rand).2.2.sqn
  /-- A vector has the RAND that it is made from. -/
  rand_eq : ∀ ω vec aud rand, 0 ≤ (genVec ω vec aud rand).1 →
    (genVec ω vec aud rand).2.1.rand = rand
  /-- The same for a resynchronisation. -/
  auts_rand_eq : ∀ ω vec aud auts randAuts rand,
    0 ≤ (genVecAuts ω vec aud auts randAuts rand).1 →
      (genVecAuts ω vec aud auts randAuts rand).2.1.rand = rand

variable {Ω : Type} (lib : AucLib Ω)

/-! ## Vectors -/

/-- What is around when vectors are generated: what `rand_get` gives for each of them, if it gives
all bytes, and what else the outcome of the algorithms depends on. -/
structure GenEnv (Ω : Type) where
  randGet : Nat → Option (List UInt8)
  umts : Nat → Ω
  gsm : Nat → Ω

/-- The variables of the loop, and for which vectors there has been a resynchronisation. -/
structure GenState where
  vec : Nat → AuthVector
  vtmp : AuthVector
  aud2g : Option SubAuthData
  aud3g : Option SubAuthData
  resyncs : List Nat

/-- A null pointer or what is given for AUTS, and its RAND. -/
abbrev Auts := Option (List UInt8 × List UInt8)

/-- AUTS is for the first vector only. -/
def autsFor (auts : Auts) (i : Nat) : Auts := if i = 0 then auts else none

/-- The 3G part of a vector. -/
def genUmts (ω : Ω) (auts : Auts) (vec : AuthVector) (aud3g : SubAuthData) (rand : List UInt8) :
    Generated :=
  match auts with
  | some (auts, randAuts) => lib.genVecAuts ω vec aud3g auts randAuts rand
  | none => lib.genVec ω vec aud3g rand

/-- A vector with the 2G part of another one. -/
def AuthVector.withGsm (vec vtmp : AuthVector) : AuthVector :=
  { vec with kc := vtmp.kc, sres := vtmp.sres, authTypes := vec.authTypes ||| authTypeGsm }

/-- One round of the loop; whether it goes on is the first component. -/
def genOne (env : GenEnv Ω) (auts : Auts) (i : Nat) (s : GenState) : Bool × GenState :=
  match env.randGet i with
  | none => (false, s)
  | some rand =>
      match s.aud3g with
      | some aud3g =>
          let made := genUmts lib (env.umts i) (autsFor auts i) (s.vec i) aud3g rand
          let s := { s with
            vec := Function.update s.vec i made.2.1
            aud3g := some made.2.2
            resyncs := if (autsFor auts i).isSome then s.resyncs ++ [i] else s.resyncs }
          if made.1 < 0 then (false, s)
          else
            match s.aud2g with
            | none => (true, s)
            | some aud2g =>
                let separate := lib.genVec (env.gsm i) s.vtmp aud2g rand
                let s := { s with vtmp := separate.2.1, aud2g := some separate.2.2 }
                if separate.1 < 0 then (false, s)
                else
                  (true, { s with vec := Function.update s.vec i ((s.vec i).withGsm s.vtmp) })
      | none =>
          match s.aud2g with
          | none => (false, s)
          | some aud2g =>
              let made := lib.genVec (env.gsm i) (s.vec i) aud2g rand
              (decide (0 ≤ made.1), { s with
                vec := Function.update s.vec i made.2.1
                aud2g := some made.2.2 })

/-- The loop, from `i` on for so many vectors; where it ends is the first component. -/
def genLoop (env : GenEnv Ω) (auts : Auts) : Nat → Nat → GenState → Nat × GenState
  | 0, i, s => (i, s)
  | n + 1, i, s =>
      let one := genOne lib env auts i s
      if one.1 then genLoop env auts n (i + 1) one.2 else (i, one.2)

/-- `unsigned int` as `int` -/
def intOfUnsigned (i : Nat) : Int := if i < 2 ^ 31 then i else (i : Int) - 2 ^ 32

/-- What `auc_compute_vectors` leaves. -/
structure Computed where
  rc : Int
  vec : Nat → AuthVector
  aud3g : SubAuthData
  resyncs : List Nat

/-- Authentication data that can be used. -/
def usable (aud : SubAuthData) : Option SubAuthData :=
  if aud.algo = .none ∨ aud.type = .none then none else some aud

/-- AUTS and its RAND, which are given both or not at all. -/
def givenAuts (randAuts auts : Option (List UInt8)) : Auts :=
  auts.bind fun auts => randAuts.map fun randAuts => (auts, randAuts)

/-- `auc_compute_vectors` -/
def aucComputeVectors (env : GenEnv Ω) (vec : Nat → AuthVector) (vtmp : AuthVector)
    (numVec : UInt32) (aud2g aud3g : SubAuthData) (randAuts auts : Option (List UInt8)) :
    Computed :=
  let failed : Computed := ⟨-1, vec, aud3g, []⟩
  if usable aud2g = none ∧ usable aud3g = none then failed
  else if (usable aud2g).isSome ∧ aud2g.type ≠ .gsm then failed
  else if (usable aud3g).isSome ∧ aud3g.type ≠ .umts then failed
  else if randAuts.isSome ≠ auts.isSome then failed
  else if auts.isSome ∧ usable aud3g = none then failed
  else
    let made := genLoop lib env (givenAuts randAuts auts) numVec.toNat 0
      ⟨vec, vtmp, usable aud2g, usable aud3g, []⟩
    ⟨intOfUnsigned made.1, made.2.vec, made.2.aud3g.getD aud3g, made.2.resyncs⟩

/-! ## From the database -/

/-- `hexparse_stmt` into a zeroed buffer of 16 bytes. -/
def hexparseStmt (col : Option CStr) : Option (List UInt8) :=
  match col with
  | none => none
  | some text => if text.len / 2 = 16 then some (lib.hexparse text 16) else none

/-- `DB_STMT_AUC_BY_IMSI` -/
def aucByImsi (c : Contents) (imsi : CStr) :
    Option (SubscriberRow × Option Auc2gRow × Option Auc3gRow) :=
  (c.subscriber.find? fun row => row.imsi = imsi).map fun row =>
    (row, c.auc2g.find? fun auc => auc.subscriberId = row.id,
      c.auc3g.find? fun auc => auc.subscriberId = row.id)

/-- The 2G authentication data of a row; without any if Ki cannot be read. -/
def aud2gOf (row : Option Auc2gRow) : SubAuthData :=
  match row with
  | none => SubAuthData.zero
  | some row =>
      match hexparseStmt lib (some row.ki) with
      | none => SubAuthData.zero
      | some ki =>
          { SubAuthData.zero with ki := ki, algo := algoOfInt row.algoId2g, type := .gsm }

/-- The 3G authentication data of a row; `none` if a key cannot be read. -/
def aud3gOf (row : Option Auc3gRow) : Option SubAuthData :=
  match row with
  | none => some SubAuthData.zero
  | some row =>
      match hexparseStmt lib (some row.k) with
      | none => none
      | some k =>
          match hexparseStmt lib (if row.op.isSome then row.op else row.opc) with
          | none => none
          | some opc =>
              some { SubAuthData.zero with
                k := k
                algo := algoOfInt row.algoId3g
                opc := opc
                opcIsOp := row.op.isSome
                sqn := row.sqn
                indBitlen := UInt32.ofInt row.indBitlen
                type := .umts }

/-- `db_get_auth_data`: the return code is an error, or 2G and 3G data and the subscriber's id are
given. -/
def dbGetAuthData (f : Faults) (t : Tables) (imsi : CStr) :
    Except Int (SubAuthData × SubAuthData × Int) :=
  if f.binds 1 then .error eio
  else if f.step then .error eio
  else
    match aucByImsi t.toContents imsi with
    | none => .error enoent
    | some (row, auc2g, auc3g) =>
        match aud3gOf lib auc3g with
        | none => .error eio
        | some aud3g =>
            if (aud2gOf lib auc2g).type = .none ∧ aud3g.type = .none then .error enokey
            else .ok (aud2gOf lib auc2g, aud3g, row.id)

/-- `db_update_sqn` -/
def dbUpdateSqn (f : Faults) (t : Tables) (subscrId : Int) (newSqn : Nat) : Int × Tables :=
  updateOne f 2 t (aucUpdSqn newSqn subscrId)

/-- What is around when vectors are asked for. -/
structure GetEnv (Ω : Type) where
  sel : Faults
  gen : GenEnv Ω
  upd : Faults

/-- What `db_get_auc` leaves. -/
structure Got where
  ret : Int
  vec : Nat → AuthVector
  tables : Tables
  resyncs : List Nat

/-- The 3G data with what the caller says about it. -/
def SubAuthData.prepare (aud3g : SubAuthData) (auc3gInd : UInt32) (separationBit : Bool) :
    SubAuthData :=
  let amf0 := aud3g.amf.headD 0 &&& 0x7f
  { aud3g with
    ind := auc3gInd &&& ((1 <<< aud3g.indBitlen) - 1)
    amf := (if separationBit then amf0 ||| 0x80 else amf0) :: aud3g.amf.tail }

/-- `db_get_auc` -/
def dbGetAuc (env : GetEnv Ω) (t : Tables) (imsi : CStr) (auc3gInd : UInt32)
    (vec : Nat → AuthVector) (vtmp : AuthVector) (numVec : UInt32)
    (randAuts auts : Option (List UInt8)) (separationBit : Bool) : Got :=
  match dbGetAuthData lib env.sel t imsi with
  | .error rc => ⟨rc, vec, t, []⟩
  | .ok (aud2g, aud3g, subscrId) =>
      let computed := aucComputeVectors lib env.gen vec vtmp numVec aud2g
        (aud3g.prepare auc3gInd separationBit) randAuts auts
      let ret := if computed.rc < 0 then -1 else computed.rc
      if computed.aud3g.algo = .none then ⟨ret, computed.vec, t, computed.resyncs⟩
      else
        let stored := dbUpdateSqn env.upd t subscrId computed.aud3g.sqn
        ⟨if stored.1 < 0 then -1 else ret, computed.vec, stored.2, computed.resyncs⟩

/-- The arguments of a call without AUTS, and what goes wrong in it. -/
structure Call (Ω : Type) where
  env : GetEnv Ω
  imsi : CStr
  auc3gInd : UInt32
  vec : Nat → AuthVector
  vtmp : AuthVector
  numVec : UInt32
  separationBit : Bool

/-- What it leaves. -/
def Call.got (t : Tables) (call : Call Ω) : Got :=
  dbGetAuc lib call.env t call.imsi call.auc3gInd call.vec call.vtmp call.numVec none none
    call.separationBit

end Auc
end OsmoHlr
