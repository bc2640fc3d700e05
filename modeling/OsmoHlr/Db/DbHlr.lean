import OsmoHlr.Db.Tables
import OsmoHlr.Gsup.PeerId
import OsmoHlr.HlrSubscriber
import OsmoHlr.Libosmocore

/-!
# Operations on subscribers

The operations of `src/db_hlr.c` that change the database.  None of them opens a
transaction: each statement takes effect by itself.  What may go wrong with each statement
is an argument.  Log messages are left out.

* `updateOne` — one row is to be updated, and the number of rows is verified.
* `dbSubscrUpdateAudById` — keys are deleted, and then inserted.
* `Op`, `Op.run` — all of the operations.
-/

namespace OsmoHlr
namespace Db

open CString CniPeerId

/-- What else is called of libosmocore, libosmogsm and SQLite. -/
structure DbLib extends Libosmocore where
  /-- `osmo_imei_str_valid(imei, false)` -/
  imeiStrValid : CStr → Bool
  /-- `OSMO_MILENAGE_IND_BITLEN_MAX` -/
  milenageIndBitlenMax : UInt32
  /-- `datetime(val, 'unixepoch')` of SQLite; `none` is NULL. -/
  datetime : Int → Option CStr

/-! ## Keys -/

/-- `enum osmo_sub_auth_type` -/
inductive AuthType where
  | none
  | gsm
  | umts
  | other (v : Int)
  deriving DecidableEq

/-- `enum osmo_auth_algo` -/
inductive AuthAlgo where
  | none
  | comp128v1
  | comp128v2
  | comp128v3
  | xor
  | milenage
  | other (v : Int)
  deriving DecidableEq

/-- The number of an algorithm. -/
def AuthAlgo.toInt : AuthAlgo → Int
  | .none => 0
  | .comp128v1 => 1
  | .comp128v2 => 2
  | .comp128v3 => 3
  | .xor => 4
  | .milenage => 5
  | .other v => v

/-- `struct sub_auth_data_str`; a null pointer counts as the empty string. -/
structure SubAuthDataStr where
  type : AuthType
  algo : AuthAlgo
  ki : CStr
  k : CStr
  opc : CStr
  opcIsOp : Bool
  indBitlen : UInt32
  deriving DecidableEq

/-- `isxdigit` -/
def isXdigit (c : UInt8) : Bool :=
  (48 ≤ c ∧ c ≤ 57) ∨ (65 ≤ c ∧ c ≤ 70) ∨ (97 ≤ c ∧ c ≤ 102)

/-- `osmo_is_hexstr` with a minimum that is not 0. -/
def osmoIsHexstr (str : CStr) (minDigits maxDigits : Nat) (requireEven : Bool) : Bool :=
  str.bytes.all isXdigit ∧ minDigits ≤ str.len ∧ str.len ≤ maxDigits ∧
    (requireEven → str.len % 2 = 0)

/-- What `db_subscr_update_aud_by_id` checks first. -/
def audValid (lib : DbLib) (aud : SubAuthDataStr) : Bool :=
  match aud.type with
  | .gsm =>
      match aud.algo with
      | .none => true
      | .comp128v1 | .comp128v2 | .comp128v3 | .xor => osmoIsHexstr aud.ki 32 32 true
      | .milenage | .other _ => false
  | .umts =>
      match aud.algo with
      | .none => true
      | .milenage =>
          osmoIsHexstr aud.k 32 32 true && osmoIsHexstr aud.opc 32 32 true &&
            decide (aud.indBitlen ≤ lib.milenageIndBitlenMax)
      | .comp128v1 | .comp128v2 | .comp128v3 | .xor | .other _ => false
  | .none | .other _ => false

/-- What deletes the keys of a subscriber. -/
def audDelete (aud : SubAuthDataStr) (subscrId : Int) : Stmt :=
  if aud.type = .gsm then auc2gDelete subscrId else auc3gDelete subscrId

/-- What inserts the keys of a subscriber. -/
def audInsert (aud : SubAuthDataStr) (subscrId : Int) : Stmt :=
  if aud.type = .gsm then auc2gInsert ⟨subscrId, aud.algo.toInt, aud.ki⟩
  else
    auc3gInsert
      { subscriberId := subscrId
        algoId3g := aud.algo.toInt
        k := aud.k
        op := if aud.opcIsOp then some aud.opc else none
        opc := if aud.opcIsOp then none else some aud.opc
        sqn := 0
        indBitlen := aud.indBitlen.toNat }

/-- The number of parameters of `audInsert`. -/
def audInsertBinds (aud : SubAuthDataStr) : Nat :=
  if aud.type = .gsm then 3 else 6

/-- What goes wrong with the statements of `db_subscr_update_aud_by_id`. -/
structure AudFaults where
  del : Faults
  ins : Faults

/-- Nothing goes wrong. -/
def AudFaults.none : AudFaults := ⟨Faults.none, Faults.none⟩

/-! ## The operations -/

/-- `DB_SUBSCR_FLAG_NAM_CS` -/
def dbSubscrFlagNamCs : UInt8 := (1 : UInt8) <<< (1 : UInt8)

/-- `DB_SUBSCR_FLAG_NAM_PS` -/
def dbSubscrFlagNamPs : UInt8 := (1 : UInt8) <<< (2 : UInt8)

/-- `db_subscr_create`; `found` is a row id that is not in use. -/
def dbSubscrCreate (lib : DbLib) (f : Faults) (found : Int) (t : Tables) (imsi : CStr)
    (flags : UInt8) : Int × Tables :=
  if !lib.imsiStrValid imsi then (einval, t)
  else if f.binds 3 then (eio, t)
  else
    let stepped :=
      t.exec f (subscrCreate found imsi (flags &&& dbSubscrFlagNamCs ≠ 0)
        (flags &&& dbSubscrFlagNamPs ≠ 0))
    if !stepped.done then (eio, stepped.tables) else (0, stepped.tables)

/-- A statement is bound and executed, and the execution result is verified: it is to change one
row. -/
def updateOne (f : Faults) (binds : Nat) (t : Tables) (stmt : Stmt) : Int × Tables :=
  if f.binds binds then (eio, t)
  else
    let stepped := t.exec f stmt
    if !stepped.done then (eio, stepped.tables)
    else if stepped.changes = 0 then (enoent, stepped.tables)
    else if stepped.changes ≠ 1 then (eio, stepped.tables)
    else (0, stepped.tables)

/-- `db_subscr_update_aud_by_id` -/
def dbSubscrUpdateAudById (lib : DbLib) (f : AudFaults) (t : Tables) (subscrId : Int)
    (aud : SubAuthDataStr) : Int × Tables :=
  if !audValid lib aud then (einval, t)
  else
    let deleted := updateOne f.del 1 t (audDelete aud subscrId)
    if deleted.1 ≠ 0 ∧ deleted.1 ≠ enoent then deleted
    else if aud.algo = .none then deleted
    else if f.ins.binds (audInsertBinds aud) then (eio, deleted.2)
    else
      let stepped := deleted.2.exec f.ins (audInsert aud subscrId)
      if !stepped.done then (eio, stepped.tables) else (0, stepped.tables)

/-- `(struct sub_auth_data_str){}` with a type. -/
def noAud (type : AuthType) : SubAuthDataStr :=
  ⟨type, .none, CStr.empty, CStr.empty, CStr.empty, false, 0⟩

/-- What goes wrong with the statements of `db_subscr_delete_by_id`. -/
structure DeleteFaults where
  del : Faults
  aud2g : AudFaults
  aud3g : AudFaults

/-- `db_subscr_delete_by_id` -/
def dbSubscrDeleteById (lib : DbLib) (f : DeleteFaults) (t : Tables) (subscrId : Int) :
    Int × Tables :=
  if f.del.binds 1 then (eio, t)
  else
    let stepped := t.exec f.del (delById subscrId)
    if !stepped.done then (eio, stepped.tables)
    else
      let ret := if stepped.changes = 0 then enoent else if stepped.changes ≠ 1 then eio else 0
      let aud2g := dbSubscrUpdateAudById lib f.aud2g stepped.tables subscrId (noAud .gsm)
      let ret := if ret = enoent ∧ aud2g.1 = 0 then 0 else ret
      let aud3g := dbSubscrUpdateAudById lib f.aud3g aud2g.2 subscrId (noAud .umts)
      (if ret = enoent ∧ aud3g.1 = 0 then 0 else ret, aud3g.2)

/-- `db_subscr_update_msisdn_by_imsi`; without an MSISDN, it is removed. -/
def dbSubscrUpdateMsisdnByImsi (lib : DbLib) (f : Faults) (t : Tables) (imsi : CStr)
    (msisdn : Option CStr) : Int × Tables :=
  match msisdn with
  | none => updateOne f 1 t (deleteMsisdnByImsi imsi)
  | some msisdn =>
      if !lib.msisdnStrValid msisdn then (einval, t)
      else updateOne f 2 t (setMsisdnByImsi msisdn imsi)

/-- `db_subscr_update_imei_by_imsi`; without an IMEI, it is removed. -/
def dbSubscrUpdateImeiByImsi (lib : DbLib) (f : Faults) (t : Tables) (imsi : CStr)
    (imei : Option CStr) : Int × Tables :=
  match imei with
  | none => updateOne f 1 t (updImeiByImsi none imsi)
  | some imei =>
      if !lib.imeiStrValid imei then (einval, t)
      else updateOne f 2 t (updImeiByImsi (some imei) imsi)

/-- `db_subscr_nam` -/
def dbSubscrNam (f : Faults) (t : Tables) (imsi : CStr) (namVal isPs : Bool) : Int × Tables :=
  updateOne f 2 t (if isPs then updNamPsByImsi namVal imsi else updNamCsByImsi namVal imsi)

/-- What goes wrong with the statements of `db_subscr_lu`, and what the clock says in between: the
time, or `errno`. -/
structure LuFaults where
  number : Faults
  clock : Except { errno : Nat // 0 < errno } Int
  lastLuSeen : Faults

/-- `db_subscr_lu`.  The VLR is the string at the `val` of its name, and so is the proxy; it is
`none` if its name is empty. -/
def dbSubscrLu (lib : DbLib) (f : LuFaults) (t : Tables) (subscrId : Int) (vlrName : CStr)
    (isPs : Bool) (viaProxy : Option CStr) : Int × Tables :=
  let stored := updateOne f.number 3 t
    (if isPs then updSgsnById subscrId vlrName viaProxy else updVlrById subscrId vlrName viaProxy)
  if stored.1 ≠ 0 then stored
  else
    match f.clock with
    | .error errno => (-(errno.val : Int), stored.2)
    | .ok localtime =>
        updateOne f.lastLuSeen 2 stored.2
          (if isPs then setLastLuSeenPs (lib.datetime localtime) subscrId
          else setLastLuSeen (lib.datetime localtime) subscrId)

/-- `db_subscr_purge` -/
def dbSubscrPurge (f : Faults) (t : Tables) (byImsi : CStr) (purgeVal isPs : Bool) :
    Int × Tables :=
  updateOne f 2 t
    (if isPs then updPurgePsByImsi purgeVal byImsi else updPurgeCsByImsi purgeVal byImsi)

/-- The operations, with their arguments and with what goes wrong. -/
inductive Op where
  | create (f : Faults) (found : Int) (imsi : CStr) (flags : UInt8)
  | deleteById (f : DeleteFaults) (subscrId : Int)
  | updateMsisdnByImsi (f : Faults) (imsi : CStr) (msisdn : Option CStr)
  | updateAudById (f : AudFaults) (subscrId : Int) (aud : SubAuthDataStr)
  | updateImeiByImsi (f : Faults) (imsi : CStr) (imei : Option CStr)
  | nam (f : Faults) (imsi : CStr) (namVal isPs : Bool)
  | lu (f : LuFaults) (subscrId : Int) (vlrName : CStr) (isPs : Bool) (viaProxy : Option CStr)
  | purge (f : Faults) (byImsi : CStr) (purgeVal isPs : Bool)

/-- An operation: its return code, and what it leaves. -/
def Op.run (lib : DbLib) (t : Tables) : Op → Int × Tables
  | .create f found imsi flags => dbSubscrCreate lib f found t imsi flags
  | .deleteById f subscrId => dbSubscrDeleteById lib f t subscrId
  | .updateMsisdnByImsi f imsi msisdn => dbSubscrUpdateMsisdnByImsi lib f t imsi msisdn
  | .updateAudById f subscrId aud => dbSubscrUpdateAudById lib f t subscrId aud
  | .updateImeiByImsi f imsi imei => dbSubscrUpdateImeiByImsi lib f t imsi imei
  | .nam f imsi namVal isPs => dbSubscrNam f t imsi namVal isPs
  | .lu f subscrId vlrName isPs viaProxy => dbSubscrLu lib f t subscrId vlrName isPs viaProxy
  | .purge f byImsi purgeVal isPs => dbSubscrPurge f t byImsi purgeVal isPs

end Db
end OsmoHlr
