import OsmoHlr.Dgsm.Proxy
import OsmoHlr.Gsup.ReqUse
import OsmoHlr.Lib.Except
import OsmoHlr.Main.LuTables
import OsmoHlr.Main.OnDemand
import OsmoHlr.Ussd.HlrUssd

/-!
# Handlers of requests

`rx_send_auth_info`, `rx_upd_loc_req`, `rx_purge_ms_req` and `rx_check_imei_req` of
`src/hlr.c`.  Each of them is about the subscriber of the request, who may have to be created
first, and answers the request or hands it to an LU.

* `rxSendAuthInfo`, `luRxGsup`, `rxPurgeMsReq`, `rxCheckImeiReq` — what they leave.
* `changed_dbGetAuc` and the like — the record of the subscriber is changed, and no other.
-/

namespace OsmoHlr
namespace Main

open CString CniPeerId Gsup Db Auc

/-! ## Messages -/

/-- What else is in a message; `none` is a null pointer. -/
structure Ies where
  numAuthVectors : Nat
  rand : Option (List UInt8)
  auts : Option (List UInt8)
  /-- `current_rat_type` is `OSMO_RAT_EUTRAN_SGS`. -/
  isEutranSgs : Bool
  imeiEnc : Option (List UInt8)
  deriving DecidableEq

/-- What else is called. -/
structure MainLib (Ω : Type) extends Ussd.SsLib, Dgsm.ProxyLib, SelLib where
  /-- The authentication part of libosmogsm. -/
  auc : AucLib Ω
  /-- What else `osmo_gsup_decode` finds. -/
  ies : List UInt8 → Ies
  /-- `GSM23003_IMEI_NUM_DIGITS_NO_CHK` -/
  imeiNumDigitsNoChk : Nat

/-- `OSMO_GSUP_MAX_NUM_AUTH_INFO` -/
def osmoGsupMaxNumAuthInfo : Nat := 5

/-- `(struct osmo_auth_vector){}` -/
def zeroVector : AuthVector := ⟨[], [], [], [], [], [], [], 0⟩

/-- What is configured about subscribers. -/
structure Config (lib : Libosmocore) extends OnDemand lib where
  storeImei : Bool

variable {Ω : Type} (lib : MainLib Ω)

/-! ## Send Auth Info -/

/-- What is around when authentication vectors are asked for. -/
structure SaiEnv (Ω : Type) where
  onDemand : OnDemandEnv
  get : GetEnv Ω
  /-- What `vtmp` of `auc_compute_vectors` holds. -/
  vtmp : AuthVector

/-- How many vectors are asked for: as many as there may be, unless the request says so. -/
def numAuthVectors (ies : Ies) : Nat :=
  if 0 < ies.numAuthVectors ∧ ies.numAuthVectors ≤ osmoGsupMaxNumAuthInfo then ies.numAuthVectors
  else osmoGsupMaxNumAuthInfo

/-- The call of `db_get_auc`. -/
def saiGot (env : SaiEnv Ω) (t : Tables) (auc3gInd : UInt32) (imsi : CStr) (ies : Ies) : Got :=
  dbGetAuc lib.auc env.get t imsi auc3gInd (fun _ => zeroVector) env.vtmp
    (UInt32.ofNat (numAuthVectors ies)) ies.rand ies.auts ies.isEutranSgs

/-- What `rx_send_auth_info` leaves: the vectors are those of the response. -/
structure Sai where
  tables : Tables
  vectors : List AuthVector
  calls : List ReqCall

/-- `rx_send_auth_info` -/
def rxSendAuthInfo (hlr : Config lib.toLibosmocore) (env : SaiEnv Ω) (t : Tables)
    (auc3gInd : UInt32) (req : GsupReq) (ies : Ies) : Sai :=
  let t := (subscrCreateOnDemand lib.toDbLib hlr.toOnDemand env.onDemand t req.gsup.imsi).2
  let got := saiGot lib env t auc3gInd req.gsup.imsi ies
  if got.ret ≤ 0 then
    ⟨got.tables, [],
      osmoGsupReqRespondErr lib.toGsupLib req
        (lib.causeNum
          (if got.ret = 0 ∨ got.ret = enokey ∨ got.ret = enoent then .gmmImsiUnknown
          else .gmmNetFail))⟩
  else
    ⟨got.tables, (List.range got.ret.toNat).map got.vec,
      (osmoGsupReqRespond lib.toGsupLib req
        { GsupMessage.zero with messageType := lib.msgt .sendAuthInfo .result } false true).2⟩

/-- What `db_get_auc` does to the record of a subscriber. -/
def aucChanges (lib : AucLib Ω) (env : GetEnv Ω) (t : Tables) (imsi : CStr) (auc3gInd : UInt32)
    (vec : Nat → AuthVector) (vtmp : AuthVector) (numVec : UInt32)
    (randAuts auts : Option (List UInt8)) (separationBit : Bool) : List Change :=
  match dbGetAuthData lib env.sel t imsi with
  | .error _ => []
  | .ok (aud2g, aud3g, subscrId) =>
      let computed := aucComputeVectors lib env.gen vec vtmp numVec aud2g
        (aud3g.prepare auc3gInd separationBit) randAuts auts
      if computed.aud3g.algo = .none then []
      else if (dbUpdateSqn env.upd t subscrId computed.aud3g.sqn).1 = 0 then
        [.sqn computed.aud3g.sqn]
      else []

theorem changed_dbGetAuc (lib : AucLib Ω) (env : GetEnv Ω) (t : Tables) (imsi : CStr)
    (auc3gInd : UInt32) (vec : Nat → AuthVector) (vtmp : AuthVector) (numVec : UInt32)
    (randAuts auts : Option (List UInt8)) (separationBit : Bool) :
    Changed imsi t.toContents
      (dbGetAuc lib env t imsi auc3gInd vec vtmp numVec randAuts auts
        separationBit).tables.toContents
      (aucChanges lib env t imsi auc3gInd vec vtmp numVec randAuts auts separationBit) := by
  unfold dbGetAuc aucChanges
  cases hdata : dbGetAuthData lib env.sel t imsi with
  | error rc => exact .refl imsi t.toContents
  | ok data =>
      obtain ⟨aud2g, aud3g, id⟩ := data
      obtain ⟨row, auc2g, auc3g, hfound, rfl, -⟩ := dbGetAuthData_ok hdata
      simp only
      split
      · exact .refl imsi t.toContents
      · exact changed_dbUpdateSqn env.upd hfound _

/-- Whatever it answers, it leaves the tables as `db_get_auc` does. -/
theorem rxSendAuthInfo_tables (hlr : Config lib.toLibosmocore) (env : SaiEnv Ω) (t : Tables)
    (auc3gInd : UInt32) (req : GsupReq) (ies : Ies) :
    (rxSendAuthInfo lib hlr env t auc3gInd req ies).tables = (saiGot lib env
      (subscrCreateOnDemand lib.toDbLib hlr.toOnDemand env.onDemand t req.gsup.imsi).2 auc3gInd
      req.gsup.imsi ies).tables := by
  unfold rxSendAuthInfo
  simp only
  split <;> rfl

/-! ## Update Location -/

/-- What is around when a message comes to `lu_rx_gsup`. -/
structure LuEnv where
  get : Faults
  lu : LuFaults
  /-- What is behind a name in its buffer. -/
  behind : List UInt8
  /-- The bytes that are written; `none` for a return code below 1. -/
  gsm48EncodeBcdNumber : CStr → Option (List UInt8)
  /-- The bytes that are written; `none` for a return code below 1. -/
  osmoApnFromStr : CStr → Option (List UInt8)

/-- `db_subscr_get_by_imsi`, as far as a `struct hlr_subscriber` is read. -/
def dbGet (f : Faults) (t : Tables) : DbSubscrGet :=
  fun imsi => (dbSubscrGetByImsi lib.toSelLib f t imsi).map Subscriber.toHlrSubscriber

/-- The database, as an LU sees it. -/
def LuEnv.toEnv (env : LuEnv) (t : Tables) : LuFsm.Env where
  dbSubscrGetByImsi := dbGet lib env.get t
  dbSubscrLu subscrId vlrName isPs viaProxy :=
    (LuCall.run lib.toDbLib env.lu env.behind t ⟨subscrId, vlrName, isPs, viaProxy⟩).1
  gsm48EncodeBcdNumber := env.gsm48EncodeBcdNumber
  osmoApnFromStr := env.osmoApnFromStr

/-- The call of `db_subscr_lu` that `lu_rx_gsup` comes to, if any. -/
def luRxGsupCall (env : LuEnv) (t : Tables) (req : GsupReq) : Option LuCall :=
  if req.gsup.messageType = lib.msgt .updateLocation .request then
    luStartCall (dbGet lib env.get t) req
  else none

/-- `lu_rx_gsup`, with the tables. -/
def luRxGsup (env : LuEnv) (t : Tables) (g : LuFsm.AllLu) (ptr : ReqPtr) :
    Tables × LuFsm.AllLu × List LuFsm.Out :=
  (match luRxGsupCall lib env t ptr.req with
    | none => t
    | some call => (call.run lib.toDbLib env.lu env.behind t).2,
    LuFsm.luRxGsup lib.toGsupProtocol (env.toEnv lib t) g ptr)

/-- What it does to the record of the subscriber. -/
def luChanges (env : LuEnv) (t : Tables) (req : GsupReq) : List Change :=
  match luRxGsupCall lib env t req with
  | none => []
  | some call => call.changes lib.toDbLib env.lu env.behind t

variable {lib}

/-- The call is about the subscriber of the request. -/
theorem luRxGsupCall_record {env : LuEnv} {t : Tables} {req : GsupReq} {call : LuCall}
    (h : luRxGsupCall lib env t req = some call) :
    ∃ record, aucByImsi t.toContents req.gsup.imsi = some record ∧
      call.subscrId = record.1.id := by
  unfold luRxGsupCall at h
  split at h
  next =>
      obtain ⟨subscr, hget, hid, -⟩ := luStartCall_spec h
      obtain ⟨found, hfound, rfl⟩ := Except.map_eq_ok.1 hget
      obtain ⟨row, hrow, rfl⟩ := dbSubscrGetByImsi_ok hfound
      exact ⟨_, congrArg (Option.map _) hrow, hid⟩
  next => cases h

variable (lib)

theorem changed_luRxGsup (env : LuEnv) (t : Tables) (g : LuFsm.AllLu) (ptr : ReqPtr) :
    Changed ptr.req.gsup.imsi t.toContents (luRxGsup lib env t g ptr).1.toContents
      (luChanges lib env t ptr.req) := by
  unfold luRxGsup luChanges
  cases hcall : luRxGsupCall lib env t ptr.req with
  | none => exact .refl _ t.toContents
  | some call =>
      obtain ⟨record, hrecord, hid⟩ := luRxGsupCall_record hcall
      exact changed_luCall lib.toDbLib env.lu env.behind hrecord hid

/-! ## Purge MS -/

/-- The domain of a request; PS is the default. -/
def reqIsPs (req : GsupReq) : Bool := req.gsup.cnDomain ≠ .cs

/-- `rx_purge_ms_req` -/
def rxPurgeMsReq (f : Faults) (t : Tables) (req : GsupReq) : Tables × List ReqCall :=
  let purged := dbSubscrPurge f t req.gsup.imsi true (reqIsPs req)
  (purged.2,
    if purged.1 = 0 then
      (osmoGsupReqRespondMsgt lib.toGsupLib req (lib.msgt .purgeMs .result) true).2
    else if purged.1 = enoent then
      osmoGsupReqRespondErr lib.toGsupLib req (lib.causeNum .gmmImsiUnknown)
    else osmoGsupReqRespondErr lib.toGsupLib req (lib.causeNum .gmmNetFail))

/-- What it does to the record of the subscriber. -/
def purgeChanges (f : Faults) (t : Tables) (req : GsupReq) : List Change :=
  if (dbSubscrPurge f t req.gsup.imsi true (reqIsPs req)).1 = 0 then [.purged (reqIsPs req)] else []

theorem changed_rxPurgeMsReq (f : Faults) (t : Tables) (req : GsupReq) :
    Changed req.gsup.imsi t.toContents (rxPurgeMsReq lib f t req).1.toContents
      (purgeChanges f t req) := by
  refine changed_updateByImsi (.purged (reqIsPs req)) (fun _ => rfl) f 2 t
    req.gsup.imsi ?_
  cases reqIsPs req <;> rfl

/-! ## Check IMEI -/

/-- What is around when an IMEI is checked. -/
structure CheckImeiEnv where
  onDemand : OnDemandEnv
  /-- What goes wrong with `db_subscr_update_imei_by_imsi`. -/
  update : Faults
  /-- What goes wrong with `db_subscr_get_by_imsi`. -/
  get : Faults

/-- The IMEI of a message, if there is one that is valid. -/
def imeiOf (ies : Ies) : Option CStr :=
  ies.imeiEnc.bind fun imeiEnc =>
    (lib.gsm48DecodeBcdNumber2 (lib.imeiNumDigitsNoChk + 1) imeiEnc).filter lib.imeiStrValid

/-- The part of `rx_check_imei_req` with the IMEI: whether the database has it, or the
subscriber. -/
def storeImei (hlr : Config lib.toLibosmocore) (env : CheckImeiEnv) (t : Tables)
    (imsi imei : CStr) : Bool × Tables :=
  if hlr.storeImei then
    let stored := dbSubscrUpdateImeiByImsi lib.toDbLib env.update t imsi (some imei)
    (decide (0 ≤ stored.1), stored.2)
  else
    match dbSubscrGetByImsi lib.toSelLib env.get t imsi with
    | .error rc => (decide (0 ≤ rc), t)
    | .ok _ => (true, t)

/-- `rx_check_imei_req` -/
def rxCheckImeiReq (hlr : Config lib.toLibosmocore) (env : CheckImeiEnv) (t : Tables)
    (req : GsupReq) (ies : Ies) : Tables × List ReqCall :=
  let refuse := osmoGsupReqRespondErr lib.toGsupLib req (lib.causeNum .gmmInvMandInfo)
  match imeiOf lib ies with
  | none => (t, refuse)
  | some imei =>
      let t := (subscrCreateOnDemand lib.toDbLib hlr.toOnDemand env.onDemand t req.gsup.imsi).2
      let stored := storeImei lib hlr env t req.gsup.imsi imei
      (stored.2,
        if stored.1 then
          (osmoGsupReqRespond lib.toGsupLib req
            { GsupMessage.zero with messageType := lib.msgt .checkImei .result } false true).2
        else refuse)

/-- What the part with the IMEI does to the record of the subscriber. -/
def imeiChanges (hlr : Config lib.toLibosmocore) (env : CheckImeiEnv) (t : Tables)
    (imsi imei : CStr) : List Change :=
  if hlr.storeImei ∧ (dbSubscrUpdateImeiByImsi lib.toDbLib env.update t imsi (some imei)).1 = 0 then
    [.imei imei]
  else []

theorem changed_storeImei (hlr : Config lib.toLibosmocore) (env : CheckImeiEnv) (t : Tables)
    (imsi imei : CStr) :
    Changed imsi t.toContents (storeImei lib hlr env t imsi imei).2.toContents
      (imeiChanges lib hlr env t imsi imei) := by
  unfold storeImei imeiChanges
  cases hlr.storeImei with
  | false =>
      simp only [Bool.false_eq_true, false_and, if_false]
      split <;> exact .refl imsi t.toContents
  | true =>
      simp only [true_and, if_true]
      unfold dbSubscrUpdateImeiByImsi
      simp only
      split
      · exact .refl imsi t.toContents
      · exact changed_updateByImsi (.imei imei) (fun _ => rfl) env.update 2 t imsi rfl

end Main
end OsmoHlr
