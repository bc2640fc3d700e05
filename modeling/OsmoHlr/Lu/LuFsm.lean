import OsmoHlr.Gsup.Protocol
import OsmoHlr.HlrSubscriber
import OsmoHlr.Lib.Keyed
import OsmoHlr.Lib.Machine

/-!
# Location Updating

`src/lu_fsm.c`: every Update Location Request has an FSM instance of its own, which
stores where the subscriber is, sends the subscriber's data to the VLR and answers
the request when the VLR has acknowledged them.

The instances are those of `osmo_fsm`: an event is dispatched to the action of the
state if the state admits it, `onenter` comes last in a change of state, and to
terminate an instance is to call its `cleanup` and to free it.

* `luRxGsup`, `luFsmTimerCb`, `luFsmCleanup` — what may happen to the instances.
* `machine` — all that may happen, one after the other.
-/

namespace OsmoHlr

open CString

namespace LuFsm

open CniPeerId Gsup

/-- `enum lu_fsm_event` -/
inductive Event where
  | rxGsup
  deriving DecidableEq

/-- `enum lu_fsm_state` -/
inductive State where
  | unvalidated
  | waitInsertDataResult
  | waitLocationCancelResult
  deriving DecidableEq

/-- `struct lu`, with the state of its `fi`. -/
structure Lu where
  /-- Which allocation the record is. -/
  ref : Nat
  state : State
  updateLocationReq : Option ReqPtr
  subscr : HlrSubscriber
  isPs : Bool
  vlrName : PeerId
  viaProxy : PeerId
  deriving DecidableEq

/-- `g_all_lu`, and how many messages have been received. -/
structure AllLu where
  lus : List Lu
  received : Nat
  deriving DecidableEq

/-- `LLIST_HEAD(g_all_lu)` -/
def AllLu.init : AllLu := ⟨[], 0⟩

/-- `llist_add` -/
def AllLu.add (g : AllLu) (lu : Lu) : AllLu := { g with lus := lu :: g.lus }

/-- Writing to a record of the list. -/
def AllLu.set (g : AllLu) (lu : Lu) : AllLu := { g with lus := Keyed.set Lu.ref g.lus lu }

/-- `llist_del` -/
def AllLu.del (g : AllLu) (ref : Nat) : AllLu := { g with lus := Keyed.remove Lu.ref g.lus ref }

/-- Why an LU fails. -/
inductive Failure where
  | luWithoutVlr
  | subscriberDoesNotExist
  | namCsFalse
  | namPsFalse
  | unsupportedVlrName
  | unsupportedViaProxy
  | cannotUpdate
  | timeout
  | cannotEncode
  | cannotSend
  | rxInsertDataError
  deriving DecidableEq

/-- What happens meanwhile. -/
inductive Out where
  | req (event : ReqEvent)
  /-- `lu_success` -/
  | success (lu : Lu)
  /-- `lu_failure` -/
  | failure (lu : Lu) (why : Failure)
  /-- A null pointer is dereferenced. -/
  | crash
  deriving DecidableEq

/-- What happens to a request. -/
def reqOut (ptr : ReqPtr) (calls : List ReqCall) : List Out := (ptr.events calls).map Out.req

/-- What the database and the coding of libosmogsm do, for one message. -/
structure Env where
  dbSubscrGetByImsi : DbSubscrGet
  dbSubscrLu : Int → IpaName → Bool → Option IpaName → Int
  /-- The bytes that are written; `none` for a return code below 1. -/
  gsm48EncodeBcdNumber : CStr → Option (List UInt8)
  /-- The bytes that are written; `none` for a return code below 1. -/
  osmoApnFromStr : CStr → Option (List UInt8)

variable (lib : GsupProtocol)

/-! ## The FSM -/

/-- `in_event_mask` of `lu_fsm_states` -/
def inEventMask : State → Event → Bool
  | .unvalidated, _ => false
  | .waitInsertDataResult, .rxGsup => true
  | .waitLocationCancelResult, _ => false

/-- `out_state_mask` of `lu_fsm_states` -/
def outStateMask : State → State → Bool
  | .unvalidated, s => s == .waitInsertDataResult
  | .waitInsertDataResult, _ => false
  | .waitLocationCancelResult, _ => false

/-- `lu_fsm_timeouts`: whether a timer runs in a state. -/
def hasTimeout : State → Bool
  | .unvalidated => false
  | .waitInsertDataResult => true
  | .waitLocationCancelResult => true

/-- `lu_fsm_cleanup` -/
def luFsmCleanup (g : AllLu) (lu : Lu) : AllLu × List Out :=
  match lu.updateLocationReq with
  | none => (g.del lu.ref, [])
  | some ptr =>
      (g.del lu.ref,
        reqOut ptr (osmoGsupReqRespondErr lib.toGsupLib ptr.req (lib.causeNum .gsmNetFail)))

/-- `osmo_fsm_inst_term` -/
def osmoFsmInstTerm (g : AllLu) (lu : Lu) : AllLu × List Out := luFsmCleanup lib g lu

/-- The end of `lu_success` and of `lu_failure`: the request is forgotten, and the FSM
terminated. -/
def luForgetAndTerm (g : AllLu) (lu : Lu) : AllLu × List Out :=
  let lu := { lu with updateLocationReq := none }
  osmoFsmInstTerm lib (g.set lu) lu

/-- `lu_success` -/
def luSuccess (g : AllLu) (lu : Lu) : AllLu × List Out :=
  let answer :=
    match lu.updateLocationReq with
    | none => []
    | some ptr => reqOut ptr
        (osmoGsupReqRespondMsgt lib.toGsupLib ptr.req (lib.msgt .updateLocation .result) true).2
  let term := luForgetAndTerm lib g lu
  (term.1, .success lu :: answer ++ term.2)

/-- `lu_failure` -/
def luFailure (g : AllLu) (lu : Lu) (cause : Cause) (why : Failure) : AllLu × List Out :=
  let answer :=
    match lu.updateLocationReq with
    | none => []
    | some ptr => reqOut ptr (osmoGsupReqRespondErr lib.toGsupLib ptr.req (lib.causeNum cause))
  let term := luForgetAndTerm lib g lu
  (term.1, .failure lu why :: answer ++ term.2)

/-! ## States -/

/-- `osmo_gsup_configure_wildcard_apn` -/
def osmoGsupConfigureWildcardApn (env : Env) (gsup : GsupMessage) : GsupMessage :=
  match env.osmoApnFromStr (CStr.lit "*") with
  | none => gsup
  | some apn => { gsup with pdpInfos := [⟨1, true, apn⟩] }

/-- `osmo_gsup_create_insert_subscriber_data_msg`; `none` for an error. -/
def osmoGsupCreateInsertSubscriberDataMsg (env : Env) (imsi msisdn : CStr) (cnDomain : CnDomain) :
    Option GsupMessage :=
  match env.gsm48EncodeBcdNumber msisdn with
  | none => none
  | some msisdnEnc =>
      let gsup := { GsupMessage.zero with
        messageType := lib.msgt .insertData .request
        imsi := imsi
        msisdnEnc := msisdnEnc
        cnDomain := cnDomain }
      some (if cnDomain = .ps then osmoGsupConfigureWildcardApn env gsup else gsup)

/-- `lu_fsm_wait_insert_data_result_onenter` -/
def luFsmWaitInsertDataResultOnenter (env : Env) (g : AllLu) (lu : Lu) : AllLu × List Out :=
  match osmoGsupCreateInsertSubscriberDataMsg lib env lu.subscr.imsi lu.subscr.msisdn
      (if lu.isPs then .ps else .cs) with
  | none => luFailure lib g lu .gmmNetFail .cannotEncode
  | some gsup =>
      match lu.updateLocationReq with
      | none => (g, [.crash])
      | some ptr =>
          let respond := osmoGsupReqRespond lib.toGsupLib ptr.req gsup false false
          if respond.1 ≠ 0 then
            let failure := luFailure lib g lu .gmmNetFail .cannotSend
            (failure.1, reqOut ptr respond.2 ++ failure.2)
          else (g, reqOut ptr respond.2)

/-- `onenter` of `lu_fsm_states` -/
def onenter (env : Env) (g : AllLu) (lu : Lu) : AllLu × List Out :=
  match lu.state with
  | .waitInsertDataResult => luFsmWaitInsertDataResultOnenter lib env g lu
  | _ => (g, [])

/-- `lu_state_chg` -/
def luStateChg (env : Env) (g : AllLu) (lu : Lu) (state : State) : AllLu × List Out :=
  if outStateMask lu.state state then
    let lu := { lu with state := state }
    onenter lib env (g.set lu) lu
  else (g, [])

/-- `lu_fsm_wait_insert_data_result` -/
def luFsmWaitInsertDataResult (g : AllLu) (lu : Lu) (ptr : ReqPtr) : AllLu × List Out :=
  if ptr.req.gsup.messageType = lib.msgt .insertData .result then
    let success := luSuccess lib g lu
    (success.1, reqOut ptr [.free ptr.req] ++ success.2)
  else if ptr.req.gsup.messageType = lib.msgt .insertData .error then
    -- the message itself is not freed
    luFailure lib g lu .gmmNetFail .rxInsertDataError
  else
    (g, reqOut ptr
      (osmoGsupReqRespondErr lib.toGsupLib ptr.req (lib.causeNum .gmmMsgtIncompPState)))

/-- `action` of `lu_fsm_states` -/
def action (g : AllLu) (lu : Lu) (ptr : ReqPtr) : AllLu × List Out :=
  match lu.state with
  | .waitInsertDataResult => luFsmWaitInsertDataResult lib g lu ptr
  | _ => (g, [])

/-- `osmo_fsm_inst_dispatch`: its return code, and what it does. -/
def osmoFsmInstDispatch (g : AllLu) (lu : Lu) (event : Event) (ptr : ReqPtr) :
    Int × AllLu × List Out :=
  if inEventMask lu.state event then (0, action lib g lu ptr) else (-1, g, [])

/-! ## Messages, timers, terminations -/

/-- The record of a new LU. -/
def luAlloc (ptr : ReqPtr) : Lu where
  ref := ptr.ref
  state := .unvalidated
  updateLocationReq := some ptr
  subscr := HlrSubscriber.zero
  isPs := ptr.req.gsup.cnDomain ≠ .cs
  vlrName := ptr.req.sourceName
  viaProxy := ptr.req.viaProxy

/-- The end of `lu_start`: the VLR is stored with the subscriber. -/
def luStore (env : Env) (g : AllLu) (lu : Lu) : AllLu × List Out :=
  if cniPeerIdIsEmpty lu.vlrName ∨ lu.vlrName.type ≠ .ipaName then
    luFailure lib g lu .gmmProtoErrUnspec .unsupportedVlrName
  else if ¬cniPeerIdIsEmpty lu.viaProxy ∧ lu.viaProxy.type ≠ .ipaName then
    luFailure lib g lu .gmmProtoErrUnspec .unsupportedViaProxy
  else if env.dbSubscrLu lu.subscr.id lu.vlrName.ipaName lu.isPs
      (if cniPeerIdIsEmpty lu.viaProxy then none else some lu.viaProxy.ipaName) ≠ 0 then
    luFailure lib g lu .gmmNetFail .cannotUpdate
  else luStateChg lib env g lu .waitInsertDataResult

/-- `lu_start` -/
def luStart (env : Env) (g : AllLu) (ptr : ReqPtr) : AllLu × List Out :=
  let lu := luAlloc ptr
  let g := g.add lu
  if cniPeerIdIsEmpty lu.vlrName then luFailure lib g lu .gmmNetFail .luWithoutVlr
  else
    match env.dbSubscrGetByImsi ptr.req.gsup.imsi with
    | .error _ => luFailure lib g lu .gmmImsiUnknown .subscriberDoesNotExist
    | .ok subscr =>
        let lu := { lu with subscr := subscr }
        let g := g.set lu
        if ¬lu.isPs ∧ ¬lu.subscr.namCs then luFailure lib g lu .gmmPlmnNotallowed .namCsFalse
        else if lu.isPs ∧ ¬lu.subscr.namPs then
          luFailure lib g lu .gmmGprsNotallowed .namPsFalse
        else luStore lib env g lu

/-- `lu_rx_gsup` -/
def luRxGsup (env : Env) (g : AllLu) (ptr : ReqPtr) : AllLu × List Out :=
  if ptr.req.gsup.messageType = lib.msgt .updateLocation .request then luStart lib env g ptr
  else
    let refuse :=
      reqOut ptr (osmoGsupReqRespondErr lib.toGsupLib ptr.req (lib.causeNum .gmmMsgtIncompPState))
    match g.lus.find? fun lu => lu.subscr.imsi = ptr.req.gsup.imsi with
    | none => (g, refuse)
    | some lu =>
        let dispatch := osmoFsmInstDispatch lib g lu .rxGsup ptr
        (dispatch.2.1, dispatch.2.2 ++ if dispatch.1 ≠ 0 then refuse else [])

/-- `lu_fsm_timer_cb` -/
def luFsmTimerCb (g : AllLu) (lu : Lu) : AllLu × List Out :=
  luFailure lib g lu .gsmNetFail .timeout

/-- What may happen. -/
inductive Input where
  /-- A message is handed to `lu_rx_gsup`. -/
  | rxGsup (req : GsupReq) (env : Env)
  /-- The timer of an LU expires. -/
  | timer (ref : Nat)
  /-- The FSM of an LU is terminated. -/
  | term (ref : Nat)

/-- One of them; nothing happens to an LU that is not there. -/
def step (g : AllLu) : Input → AllLu × List Out
  | .rxGsup req env => luRxGsup lib env { g with received := g.received + 1 } ⟨g.received, req⟩
  | .timer ref =>
      match Keyed.find Lu.ref g.lus ref with
      | none => (g, [])
      | some lu => if hasTimeout lu.state then luFsmTimerCb lib g lu else (g, [])
  | .term ref =>
      match Keyed.find Lu.ref g.lus ref with
      | none => (g, [])
      | some lu => osmoFsmInstTerm lib g lu

/-- The LUs as a machine. -/
def machine : Machine AllLu Input Out := ⟨step lib⟩

end LuFsm
end OsmoHlr
