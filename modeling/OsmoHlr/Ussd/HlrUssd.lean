import OsmoHlr.Gsup.Protocol
import OsmoHlr.Gsup.Send
import OsmoHlr.HlrSubscriber

/-!
# Supplementary services

`src/hlr_ussd.c`, and the commands of `src/hlr_vty.c` that configure it: SS sessions
between the MS and a handler, which is internal or an external USSD entity (EUSE).

A session names its handler by a pointer whose type is told by `is_external`, and
pointers may outlive what they point at.  What is read through such a pointer is
undefined in C, and a `Fault` here, which ends the run.  Log messages are left out.

* `rxProcSsReq`, `ssSessionTimeout` — messages and timers.
* `cfgNoEuse` and the like — the commands.
* `machine` — all of it, one after the other.
-/

namespace OsmoHlr
namespace Ussd

open CString CniPeerId Gsup

/-! ## What is configured -/

/-- `hlr_iuses` -/
inductive Iuse where
  | ownMsisdn
  | ownImsi
  deriving DecidableEq

/-- `struct hlr_euse` -/
structure Euse where
  /-- Which allocation the record is. -/
  ref : Nat
  name : CStr
  deriving DecidableEq

/-- What the union `u` of a route or a session points at. -/
inductive UssdPtr where
  | null
  | euse (ref : Nat)
  | iuse (iuse : Iuse)
  deriving DecidableEq

/-- `struct hlr_ussd_route` -/
structure UssdRoute where
  pfx : CStr
  isExternal : Bool
  u : UssdPtr
  deriving DecidableEq

/-- `struct ss_session` -/
structure SsSession where
  /-- Which allocation the record is. -/
  ref : Nat
  imsi : CStr
  sessionId : UInt32
  /-- Whether `timeout` is scheduled. -/
  timeout : Bool
  isExternal : Bool
  u : UssdPtr
  vlrName : IpaName
  initialReqFromMs : Option ReqPtr
  initialReqFromEuse : Option ReqPtr
  deriving DecidableEq

/-- The part of `struct hlr` that is about supplementary services. -/
structure Hlr where
  euseList : List Euse
  euseDefault : Option Nat
  ussdRoutes : List UssdRoute
  ssSessions : List SsSession
  ncssGuardTimeout : Int
  /-- How many allocations there have been. -/
  allocs : Nat
  deriving DecidableEq

/-- `NCSS_GUARD_TIMEOUT_DEFAULT` -/
def ncssGuardTimeoutDefault : Int := 30

/-- The state in which `main` leaves it. -/
def Hlr.init : Hlr := ⟨[], none, [], [], ncssGuardTimeoutDefault, 0⟩

/-- What is undefined. -/
inductive Fault where
  /-- `u.iuse->handle_ussd` of a `struct hlr_euse` -/
  | iuseIsEuse
  /-- `u.euse->name` of a `struct hlr_iuse` -/
  | euseIsIuse
  /-- `u.euse->name` of an EUSE that was freed -/
  | euseFreed
  /-- a session is freed that was freed before -/
  | ssSessionFreed
  deriving DecidableEq

/-- What is put out. -/
inductive Out where
  | req (event : ReqEvent)
  | sent (sent : Sent)
  /-- The HLR itself has answered the MS with session state END. -/
  | answeredEnd (imsi : CStr) (sessionId : UInt32)
  deriving DecidableEq

/-- What happens to a request. -/
def reqOut (ptr : ReqPtr) (calls : List ReqCall) : List Out := (ptr.events calls).map Out.req

/-- `struct ss_request` -/
structure SsRequest where
  opcode : UInt8
  invokeId : UInt8
  ussdText : CStr
  deriving DecidableEq

/-- The USSD operations of `GSM0480_OP_CODE_*`. -/
inductive UssdOp where
  | processUssData
  | processUssReq
  | ussRequest
  | ussNotify
  deriving DecidableEq

/-- The errors of `GSM0480_ERR_CODE_*` that are sent. -/
inductive ErrCode where
  | unknownSubscriber
  | ssNotAvailable
  | facilityNotSupported
  | systemFailure
  deriving DecidableEq

/-- The GSM 04.80 part of libosmogsm. -/
structure SsLib extends GsupProtocol where
  /-- The number of an operation. -/
  opCode : UssdOp → UInt8
  /-- The number of an error. -/
  errCode : ErrCode → UInt8
  /-- `gsm0480_parse_facility_ie`; `none` for a return code other than 0. -/
  parseFacilityIe : List UInt8 → Option SsRequest
  /-- `gsm0480_gen_return_error` -/
  genReturnError : UInt8 → UInt8 → List UInt8
  /-- `gsm0480_gen_ussd_resp_7bit` -/
  genUssdResp7bit : UInt8 → CStr → List UInt8
  /-- What `vsnprintf` prints for a format string without arguments. -/
  printFormat : CStr → CStr

/-- What is around when a message comes in. -/
structure Env where
  routes : RouteTable
  dbSubscrGetByImsi : DbSubscrGet

/-- What an operation comes to. -/
abbrev Res := Except Fault (Hlr × List Out)

/-- One operation after the other. -/
def Res.andThen (res : Res) (next : Hlr → Res) : Res :=
  match res with
  | .error fault => .error fault
  | .ok (hlr, out) => (next hlr).map fun p => (p.1, out ++ p.2)

/-! ## EUSEs and routes -/

/-- `euse_find` -/
def euseFind (hlr : Hlr) (name : CStr) : Option Euse := hlr.euseList.find? fun e => e.name = name

/-- `euse_alloc` -/
def euseAlloc (hlr : Hlr) (name : CStr) : Hlr :=
  match euseFind hlr name with
  | some _ => hlr
  | none =>
      { hlr with
        euseList := hlr.euseList ++ [⟨hlr.allocs, name⟩]
        allocs := hlr.allocs + 1 }

/-- `euse_del` -/
def euseDel (hlr : Hlr) (euse : Euse) : Hlr :=
  { hlr with euseList := Keyed.remove Euse.ref hlr.euseList euse.ref }

/-- `ussd_route_find_prefix` -/
def ussdRouteFindPrefix (hlr : Hlr) (pfx : CStr) : Option UssdRoute :=
  hlr.ussdRoutes.find? fun rt => rt.pfx = pfx

/-- `ussd_route_prefix_alloc_int`, `ussd_route_prefix_alloc_ext` -/
def ussdRoutePrefixAlloc (hlr : Hlr) (rt : UssdRoute) : Hlr :=
  match ussdRouteFindPrefix hlr rt.pfx with
  | some _ => hlr
  | none => { hlr with ussdRoutes := hlr.ussdRoutes ++ [rt] }

/-- `ussd_route_del` -/
def ussdRouteDel (hlr : Hlr) (rt : UssdRoute) : Hlr :=
  { hlr with ussdRoutes := hlr.ussdRoutes.erase rt }

/-- `ussd_route_lookup_7bit` -/
def ussdRouteLookup7bit (hlr : Hlr) (ussdCode : CStr) : Option UssdRoute :=
  hlr.ussdRoutes.find? fun rt => rt.pfx.bytes.isPrefixOf ussdCode.bytes

/-! ## Sessions -/

/-- `ss_session_find` -/
def ssSessionFind (hlr : Hlr) (imsi : CStr) (sessionId : UInt32) : Option SsSession :=
  hlr.ssSessions.find? fun ss => ss.imsi = imsi ∧ ss.sessionId = sessionId

/-- Writing to a session of the list. -/
def Hlr.setSession (hlr : Hlr) (ss : SsSession) : Hlr :=
  { hlr with ssSessions := Keyed.set SsSession.ref hlr.ssSessions ss }

/-- The requests of a session are freed. -/
def SsSession.freeReqs (ss : SsSession) : List Out :=
  (ss.initialReqFromMs.toList ++ ss.initialReqFromEuse.toList).flatMap fun ptr =>
    reqOut ptr [.free ptr.req]

/-- `ss_session_free` of the session at an address. -/
def ssSessionFree (hlr : Hlr) (ref : Nat) : Res :=
  match Keyed.find SsSession.ref hlr.ssSessions ref with
  | none => .error .ssSessionFreed
  | some ss =>
      .ok ({ hlr with ssSessions := Keyed.remove SsSession.ref hlr.ssSessions ref }, ss.freeReqs)

/-- `ss_session_alloc`: the session. -/
def ssSessionAlloc (hlr : Hlr) (ref : Nat) (imsi : CStr) (sessionId : UInt32) : SsSession where
  ref := ref
  imsi := imsi
  sessionId := sessionId
  timeout := 0 < hlr.ncssGuardTimeout
  isExternal := false
  u := .null
  vlrName := IpaName.zero
  initialReqFromMs := none
  initialReqFromEuse := none

/-- `osmo_timer_schedule`, unless there is to be no timer. -/
def SsSession.reschedule (ss : SsSession) (hlr : Hlr) : SsSession :=
  { ss with timeout := ss.timeout ∨ 0 < hlr.ncssGuardTimeout }

/-- `llist_add_tail` of a session -/
def Hlr.addSession (hlr : Hlr) (ss : SsSession) : Hlr :=
  { hlr with ssSessions := hlr.ssSessions ++ [ss] }

/-! ## To the MS -/

variable (lib : SsLib)

/-- The VLR of a session, looked up unless it is known; `none` if there is no subscriber. -/
def SsSession.resolveVlr (env : Env) (ss : SsSession) : Option IpaName :=
  if ss.vlrName.len ≠ 0 then some ss.vlrName
  else
    match env.dbSubscrGetByImsi ss.imsi with
    | .error _ => none
    | .ok subscr => some (ipaNameSetStr (lib.printFormat subscr.vlrNumber))

/-- `ss_gsup_send_to_ms` -/
def ssGsupSendToMs (env : Env) (hlr : Hlr) (ss : SsSession) (gsup : GsupMessage) :
    Hlr × List Out :=
  match ss.initialReqFromMs with
  | some ptr => (hlr, reqOut ptr (osmoGsupReqRespond lib.toGsupLib ptr.req gsup false false).2)
  | none =>
      match lib.gsupEncode gsup with
      | none => (hlr, [])
      | some msg =>
          match ss.resolveVlr lib env with
          | none => (hlr, [])
          | some vlrName =>
              let hlr := hlr.setSession { ss with vlrName := vlrName }
              if vlrName.len ≤ 1 then (hlr, [])
              else (hlr, (osmoGsupSendToIpaName env.routes vlrName msg).2.map Out.sent)

/-- The message that `ss_tx_to_ms` sends. -/
def SsSession.resp (ss : SsSession) (gsupMsgType : UInt8) (final : Bool) (ssMsg : List UInt8) :
    GsupMessage :=
  { GsupMessage.zero with
    messageType := gsupMsgType
    imsi := ss.imsi
    sessionState := if final then .stateEnd else .stateContinue
    sessionId := ss.sessionId
    ssInfo := ssMsg }

/-- `ss_tx_to_ms` -/
def ssTxToMs (env : Env) (hlr : Hlr) (ss : SsSession) (gsupMsgType : UInt8) (final : Bool)
    (ssMsg : List UInt8) : Hlr × List Out :=
  let sent := ssGsupSendToMs lib env hlr ss (ss.resp gsupMsgType final ssMsg)
  (sent.1, sent.2 ++ if final ∧ sent.2 ≠ [] then [.answeredEnd ss.imsi ss.sessionId] else [])

/-- `ss_tx_to_ms_error` -/
def ssTxToMsError (env : Env) (hlr : Hlr) (ss : SsSession) (invokeId : UInt8)
    (errorCode : ErrCode) : Hlr × List Out :=
  ssTxToMs lib env hlr ss (lib.msgt .procSs .result) true
    (lib.genReturnError invokeId (lib.errCode errorCode))

/-- `ss_tx_to_ms_ussd_7bit` -/
def ssTxToMsUssd7bit (env : Env) (hlr : Hlr) (ss : SsSession) (final : Bool) (invokeId : UInt8)
    (text : CStr) : Hlr × List Out :=
  ssTxToMs lib env hlr ss (lib.msgt .procSs .result) final (lib.genUssdResp7bit invokeId text)

/-! ## Handlers -/

/-- `handle_ussd_own_msisdn` -/
def handleUssdOwnMsisdn (env : Env) (hlr : Hlr) (ss : SsSession) (req : SsRequest) :
    Hlr × List Out :=
  match env.dbSubscrGetByImsi ss.imsi with
  | .ok subscr =>
      ssTxToMsUssd7bit lib env hlr ss true req.invokeId
        (if subscr.msisdn.len = 0 then CStr.lit "You have no MSISDN!"
        else CStr.lit "Your extension is " ++ subscr.msisdn)
  | .error rc =>
      ssTxToMsError lib env hlr ss req.invokeId
        (if rc = enoent then .unknownSubscriber else .systemFailure)

/-- `handle_ussd_own_imsi` -/
def handleUssdOwnImsi (env : Env) (hlr : Hlr) (ss : SsSession) (req : SsRequest) :
    Hlr × List Out :=
  ssTxToMsUssd7bit lib env hlr ss true req.invokeId (CStr.lit "Your IMSI is " ++ ss.imsi)

/-- `handle_ussd` of `hlr_iuses` -/
def Iuse.handleUssd (iuse : Iuse) (env : Env) (hlr : Hlr) (ss : SsSession) (req : SsRequest) :
    Hlr × List Out :=
  match iuse with
  | .ownMsisdn => handleUssdOwnMsisdn lib env hlr ss req
  | .ownImsi => handleUssdOwnImsi lib env hlr ss req

/-- `ss_op_is_ussd` -/
def ssOpIsUssd (opcode : UInt8) : Bool :=
  opcode = lib.opCode .processUssData ∨ opcode = lib.opCode .processUssReq ∨
    opcode = lib.opCode .ussRequest ∨ opcode = lib.opCode .ussNotify

/-- `"EUSE-"` -/
def eusePrefix : CStr := CStr.lit "EUSE-"

/-- `peer_name_is_euse` -/
def peerNameIsEuse (peerName : PeerId) : Bool :=
  match peerName.type with
  | .ipaName => 5 < peerName.ipaName.len ∧ peerName.ipaName.val.take 5 = eusePrefix.bytes
  | .empty => false

/-- `euse_by_name` -/
def euseByName (hlr : Hlr) (peerName : PeerId) : Option Euse :=
  if peerNameIsEuse peerName then euseFind hlr (CStr.ofBytes (peerName.ipaName.val.drop 5))
  else none

/-- The connection of an EUSE. -/
def Euse.conn (euse : Euse) (routes : RouteTable) : Option Nat :=
  gsupRouteFindByIpaName routes (ipaNameSetStr (eusePrefix ++ euse.name))

/-- `handle_ss` -/
def handleSs (env : Env) (hlr : Hlr) (ss : SsSession) (req : SsRequest) : Res :=
  .ok (ssTxToMsError lib env hlr ss req.invokeId .facilityNotSupported)

/-- The part of `handle_ussd` that hands a message from the MS to an EUSE. -/
def forwardToEuse (env : Env) (hlr : Hlr) (ss : SsSession) (gsup : GsupMessage) (req : SsRequest) :
    Res :=
  match ss.u with
  | .euse ref =>
      match Keyed.find Euse.ref hlr.euseList ref with
      | none => .error .euseFreed
      | some euse =>
          match euse.conn env.routes with
          | none => .ok (ssTxToMsError lib env hlr ss req.invokeId .systemFailure)
          | some conn => .ok (hlr, [.sent ⟨conn, (lib.gsupEncode gsup).getD []⟩])
  | _ => .error .euseIsIuse

/-- The part of `handle_ussd` that handles a message from the MS internally. -/
def handleInternally (env : Env) (hlr : Hlr) (ss : SsSession) (req : SsRequest) : Res :=
  match ss.u with
  | .iuse iuse =>
      Res.andThen (.ok (iuse.handleUssd lib env hlr ss req)) fun hlr => ssSessionFree hlr ss.ref
  | _ => .error .iuseIsEuse

/-- `handle_ussd` -/
def handleUssd (env : Env) (hlr : Hlr) (ss : SsSession) (isEuseOriginated : Bool)
    (gsup : GsupMessage) (req : SsRequest) : Res :=
  if ss.u = .null then .ok (ssTxToMsError lib env hlr ss req.invokeId .ssNotAvailable)
  else if isEuseOriginated then .ok (ssGsupSendToMs lib env hlr ss gsup)
  else if ss.isExternal then forwardToEuse lib env hlr ss gsup req
  else handleInternally lib env hlr ss req

/-- What `rx_proc_ss_req` dispatches a message to. -/
def dispatch (env : Env) (hlr : Hlr) (ss : SsSession) (isEuseOriginated : Bool)
    (gsup : GsupMessage) (req : SsRequest) : Res :=
  if ssOpIsUssd lib req.opcode then handleUssd lib env hlr ss isEuseOriginated gsup req
  else handleSs lib env hlr ss req

/-! ## Messages -/

/-- Who handles the USSD of a new session. -/
def SsSession.setHandler (ss : SsSession) (hlr : Hlr) (isEuseOriginated : Bool) (source : PeerId)
    (ussdText : CStr) : SsSession :=
  if isEuseOriginated then
    -- `is_external` is left as it is
    { ss with u := (euseByName hlr source).elim .null fun euse => .euse euse.ref }
  else
    match ussdRouteLookup7bit hlr ussdText with
    | some rt => { ss with isExternal := rt.isExternal, u := rt.u }
    | none =>
        match hlr.euseDefault with
        | some ref => { ss with isExternal := true, u := .euse ref }
        | none => ss

/-- The session of a BEGIN, before it is dispatched. -/
def beginSession (hlr : Hlr) (ptr : ReqPtr) (isEuseOriginated : Bool) (req : SsRequest) :
    SsSession :=
  let ss := ssSessionAlloc hlr ptr.ref ptr.req.gsup.imsi ptr.req.gsup.sessionId
  let ss :=
    if isEuseOriginated then { ss with initialReqFromEuse := some ptr }
    else { ss with initialReqFromMs := some ptr, vlrName := ptr.req.sourceName.ipaName }
  if ssOpIsUssd lib req.opcode then
    ss.setHandler hlr isEuseOriginated ptr.req.sourceName req.ussdText
  else ss

/-- The request is answered with an error. -/
def refuse (hlr : Hlr) (ptr : ReqPtr) (cause : Cause) : Res :=
  .ok (hlr, reqOut ptr (osmoGsupReqRespondErr lib.toGsupLib ptr.req (lib.causeNum cause)))

/-- `case OSMO_GSUP_SESSION_STATE_BEGIN` of `rx_proc_ss_req` -/
def rxBegin (env : Env) (hlr : Hlr) (ptr : ReqPtr) (isEuseOriginated : Bool) (req : SsRequest) :
    Res :=
  match ssSessionFind hlr ptr.req.gsup.imsi ptr.req.gsup.sessionId with
  | some _ => refuse lib hlr ptr .gmmInvMandInfo
  | none =>
      let ss := beginSession lib hlr ptr isEuseOriginated req
      dispatch lib env (hlr.addSession ss) ss isEuseOriginated ptr.req.gsup req

/-- A request that is not kept is freed. -/
def freeReq (ptr : ReqPtr) (hlr : Hlr) : Res := .ok (hlr, reqOut ptr [.free ptr.req])

/-- `case OSMO_GSUP_SESSION_STATE_CONTINUE` of `rx_proc_ss_req` -/
def rxContinue (env : Env) (hlr : Hlr) (ptr : ReqPtr) (isEuseOriginated : Bool) (req : SsRequest) :
    Res :=
  match ssSessionFind hlr ptr.req.gsup.imsi ptr.req.gsup.sessionId with
  | none => refuse lib hlr ptr .gmmInvMandInfo
  | some ss =>
      let ss := ss.reschedule hlr
      (dispatch lib env (hlr.setSession ss) ss isEuseOriginated ptr.req.gsup req).andThen
        (freeReq ptr)

/-- `case OSMO_GSUP_SESSION_STATE_END` of `rx_proc_ss_req`; without a session the request is not
freed. -/
def rxEnd (env : Env) (hlr : Hlr) (ptr : ReqPtr) (isEuseOriginated : Bool) (req : SsRequest) :
    Res :=
  match ssSessionFind hlr ptr.req.gsup.imsi ptr.req.gsup.sessionId with
  | none => .ok (hlr, [])
  | some ss =>
      let handled :=
        if ptr.req.gsup.ssInfo ≠ [] then
          dispatch lib env hlr ss isEuseOriginated ptr.req.gsup req
        else .ok (hlr, [])
      (handled.andThen fun hlr => ssSessionFree hlr ss.ref).andThen (freeReq ptr)

/-- What the SS payload of a message asks for, `{0}` for an END without any; `none` for an error. -/
def ssRequest (gsup : GsupMessage) : Option SsRequest :=
  if gsup.ssInfo ≠ [] then lib.parseFacilityIe gsup.ssInfo
  else if gsup.sessionState ≠ .stateEnd then none
  else some ⟨0, 0, CStr.empty⟩

/-- `rx_proc_ss_req` -/
def rxProcSsReq (env : Env) (hlr : Hlr) (ptr : ReqPtr) : Res :=
  let isEuseOriginated := peerNameIsEuse ptr.req.sourceName
  if ptr.req.sourceName.type ≠ .ipaName then refuse lib hlr ptr .gmmProtoErrUnspec
  else
    match ssRequest lib ptr.req.gsup with
    | none => refuse lib hlr ptr .gmmInvMandInfo
    | some req =>
        match ptr.req.gsup.sessionState with
        | .stateBegin => rxBegin lib env hlr ptr isEuseOriginated req
        | .stateContinue => rxContinue lib env hlr ptr isEuseOriginated req
        | .stateEnd => rxEnd lib env hlr ptr isEuseOriginated req
        | _ => freeReq ptr hlr

/-- `ss_session_timeout` -/
def ssSessionTimeout (hlr : Hlr) (ss : SsSession) : Res := ssSessionFree hlr ss.ref

/-! ## Commands -/

/-- `euse NAME` -/
def cfgEuse (hlr : Hlr) (name : CStr) : Hlr := euseAlloc hlr name

/-- `no euse NAME` -/
def cfgNoEuse (hlr : Hlr) (name : CStr) : Hlr :=
  match euseFind hlr name with
  | none => hlr
  | some euse => if hlr.euseDefault = some euse.ref then hlr else euseDel hlr euse

/-- `ussd route prefix PREFIX internal (own-msisdn|own-imsi)` -/
def cfgUssdRoutePfxInt (hlr : Hlr) (pfx : CStr) (iuse : Iuse) : Hlr :=
  ussdRoutePrefixAlloc hlr ⟨pfx, false, .iuse iuse⟩

/-- `ussd route prefix PREFIX external EUSE` -/
def cfgUssdRoutePfxExt (hlr : Hlr) (pfx name : CStr) : Hlr :=
  match euseFind hlr name with
  | none => hlr
  | some euse => ussdRoutePrefixAlloc hlr ⟨pfx, true, .euse euse.ref⟩

/-- `no ussd route prefix PREFIX` -/
def cfgUssdNoRoutePfx (hlr : Hlr) (pfx : CStr) : Hlr :=
  match ussdRouteFindPrefix hlr pfx with
  | none => hlr
  | some rt => ussdRouteDel hlr rt

/-- `ussd default-route external EUSE` -/
def cfgUssdDefaultroute (hlr : Hlr) (name : CStr) : Hlr :=
  match euseFind hlr name with
  | none => hlr
  | some euse => { hlr with euseDefault := some euse.ref }

/-- `no ussd default-route` -/
def cfgUssdNoDefaultroute (hlr : Hlr) : Hlr := { hlr with euseDefault := none }

/-- `ncss-guard-timeout <0-255>` -/
def cfgNcssGuardTimeout (hlr : Hlr) (timeout : Fin 256) : Hlr :=
  { hlr with ncssGuardTimeout := (timeout : Nat) }

/-! ## The machine -/

/-- What may happen. -/
inductive Input where
  /-- A message is handed to `rx_proc_ss_req`. -/
  | rx (req : GsupReq) (env : Env)
  /-- The timer of a session expires. -/
  | timeout (ref : Nat)
  | euse (name : CStr)
  | noEuse (name : CStr)
  | routeInt (pfx : CStr) (iuse : Iuse)
  | routeExt (pfx name : CStr)
  | noRoute (pfx : CStr)
  | defaultRoute (name : CStr)
  | noDefaultRoute
  | guardTimeout (timeout : Fin 256)

/-- One of them; no timer expires that is not scheduled. -/
def apply (hlr : Hlr) : Input → Res
  | .rx req env => rxProcSsReq lib env { hlr with allocs := hlr.allocs + 1 } ⟨hlr.allocs, req⟩
  | .timeout ref =>
      match Keyed.find SsSession.ref hlr.ssSessions ref with
      | none => .ok (hlr, [])
      | some ss => if ss.timeout then ssSessionTimeout hlr ss else .ok (hlr, [])
  | .euse name => .ok (cfgEuse hlr name, [])
  | .noEuse name => .ok (cfgNoEuse hlr name, [])
  | .routeInt pfx iuse => .ok (cfgUssdRoutePfxInt hlr pfx iuse, [])
  | .routeExt pfx name => .ok (cfgUssdRoutePfxExt hlr pfx name, [])
  | .noRoute pfx => .ok (cfgUssdNoRoutePfx hlr pfx, [])
  | .defaultRoute name => .ok (cfgUssdDefaultroute hlr name, [])
  | .noDefaultRoute => .ok (cfgUssdNoDefaultroute hlr, [])
  | .guardTimeout timeout => .ok (cfgNcssGuardTimeout hlr timeout, [])

/-- One of them, unless there was a fault before. -/
def step (s : Except Fault Hlr) (input : Input) : Except Fault Hlr × List Out :=
  match s with
  | .error fault => (.error fault, [])
  | .ok hlr =>
      match apply lib hlr input with
      | .error fault => (.error fault, [])
      | .ok (hlr, out) => (.ok hlr, out)

/-- The whole as a machine. -/
def machine : Machine (Except Fault Hlr) Input Out := ⟨step lib⟩

end Ussd
end OsmoHlr
