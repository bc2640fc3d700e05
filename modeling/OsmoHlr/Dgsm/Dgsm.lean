import OsmoHlr.Dgsm.Proxy
import OsmoHlr.Lib.Machine
import OsmoHlr.Mslookup.Basic

/-!
# Distributed GSM

`src/dgsm.c`, `src/remote_hlr.c` and the part of `src/proxy.c` that connects to remote
HLRs: requests for subscribers that are not in the database are forwarded to the home
HLR, which is looked up by mslookup unless there is a gateway, and to which there is one
GSUP client link each.

A link is a record of `remote_hlrs`, and ends by being removed.  Of a lookup it matters
only that it has been requested and that its result comes once.

* `dgsmCheckForwardGsupMsg`, `resolveHlrResultCb` — requests, and results of lookups.
* `gsupClientUpdownCb`, `remoteHlrRx` — links, and what is received on them.
* `machine` — all of it, one after the other.
-/

namespace OsmoHlr
namespace Dgsm

open CString CniPeerId Gsup

/-- `g_hlr->gs->proxy`, `remote_hlrs`, the queries of the lookups that have no result yet, and how
many allocations there have been. -/
structure State where
  proxy : Proxy
  remoteHlrs : List RemoteHlr
  lookups : List Mslookup.Query
  allocs : Nat

/-- The state in which `main` leaves it. -/
def State.init : State := ⟨Proxy.init, [], [], 0⟩

/-- What is around when something happens. -/
structure Env where
  /-- The time that `timestamp_update` takes. -/
  now : Int
  routes : RouteTable
  /-- `conn->peer_name` -/
  peerName : Nat → IpaName
  /-- `db_subscr_exists_by_imsi` -/
  dbSubscrExistsByImsi : CStr → Int
  /-- `g_hlr->mslookup.client.gsup_gateway_proxy` -/
  gsupGatewayProxy : SockaddrStr
  /-- `osmo_mslookup_client_active` -/
  mslookupClientActive : Bool
  /-- `osmo_mslookup_client_request`: the handle, or 0. -/
  mslookupClientRequest : Mslookup.Query → UInt32
  /-- Whether `osmo_gsup_client_create3` gives a client for an address. -/
  gsupClientCreate3 : SockaddrStr → Bool

/-- What an operation leaves and puts out. -/
abbrev Res := State × List Out

/-- One operation after the other. -/
def Res.andThen (res : Res) (next : State → Res) : Res :=
  ((next res.1).1, res.2 ++ (next res.1).2)

/-- An operation of the proxy. -/
def State.onProxy (s : State) (res : Proxy × List Out) : Res := ({ s with proxy := res.1 }, res.2)

/-- `proxy_subscr_create_or_update` -/
def State.createOrUpdate (s : State) (now : Int) (proxySubscr : ProxySubscr) : State :=
  { s with proxy := proxySubscrCreateOrUpdate now s.proxy proxySubscr }

/-- `proxy_deferred_gsup_req_add` -/
def State.deferReq (s : State) (ptr : ReqPtr) : State :=
  { s with proxy := proxyDeferredGsupReqAdd s.proxy ptr }

variable (lib : ProxyLib)

/-! ## Links -/

/-- The search of `remote_hlr_get_or_connect`. -/
def remoteHlrFind (remoteHlrs : List RemoteHlr) (addr : SockaddrStr) : Option RemoteHlr :=
  remoteHlrs.find? fun rh => lib.sockaddrStrCmp rh.addr addr = 0

/-- `connect_result_cb`, which is a null pointer or the proxy's. -/
def connectResultCb (s : State) (addr : SockaddrStr) (rh : Option RemoteHlr) (cb : Bool) : Res :=
  if cb then s.onProxy (proxyRemoteHlrConnectResultCb lib s.proxy addr rh) else (s, [])

/-- Writing to a link of the list. -/
def State.setRemoteHlr (s : State) (rh : RemoteHlr) : State :=
  { s with remoteHlrs := Keyed.set RemoteHlr.ref s.remoteHlrs rh }

/-- `add_result_cb` of `remote_hlr_get_or_connect` -/
def addResultCb (s : State) (addr : SockaddrStr) (rh : RemoteHlr) (cb : Bool) : Res :=
  if !cb then (s, [])
  else if remoteHlrIsUp (some rh) then connectResultCb lib s addr (some rh) cb
  else (s.setRemoteHlr { rh with pendingUpCallbacks := rh.pendingUpCallbacks + 1 }, [])

/-- `remote_hlr_get_or_connect`; the link that it returns is the first component. -/
def remoteHlrGetOrConnect (env : Env) (s : State) (addr : SockaddrStr) (connect cb : Bool) :
    Option RemoteHlr × Res :=
  match remoteHlrFind lib s.remoteHlrs addr with
  | some rh => (some rh, addResultCb lib s addr rh cb)
  | none =>
      if !connect then (none, connectResultCb lib s addr none cb)
      else if !env.gsupClientCreate3 addr then (none, connectResultCb lib s addr none cb)
      else
        let rh : RemoteHlr := ⟨s.allocs, addr, false, 0⟩
        let s := { s with remoteHlrs := rh :: s.remoteHlrs, allocs := s.allocs + 1 }
        (some rh, addResultCb lib s addr rh cb)

/-- `remote_hlr_destroy` -/
def remoteHlrDestroy (s : State) (rh : RemoteHlr) : State :=
  { s with remoteHlrs := Keyed.remove RemoteHlr.ref s.remoteHlrs rh.ref }

/-- The loop of `remote_hlr_up_down` over the callbacks. -/
def upCallbacks (rh : RemoteHlr) : Nat → Proxy → Proxy × List Out
  | 0, proxy => (proxy, [])
  | n + 1, proxy =>
      let called := proxyRemoteHlrConnectResultCb lib proxy rh.addr (some rh)
      let rest := upCallbacks rh n called.1
      (rest.1, called.2 ++ rest.2)

/-- `remote_hlr_up_down` -/
def remoteHlrUpDown (s : State) (rh : RemoteHlr) (up : Bool) : Res :=
  if !up then (remoteHlrDestroy s rh, [])
  else
    (s.setRemoteHlr { rh with pendingUpCallbacks := 0 }).onProxy
      (upCallbacks lib rh rh.pendingUpCallbacks s.proxy)

/-- `gsup_client_updown_cb` -/
def gsupClientUpdownCb (s : State) (rh : RemoteHlr) (up : Bool) : Res :=
  let rh := { rh with isConnected := up }
  remoteHlrUpDown lib (s.setRemoteHlr rh) rh up

/-- `gsupc->is_connected = 0`, without `up_down_cb`: a PONG is missing, or a CCM message is not
valid. -/
def gsupClientLost (s : State) (rh : RemoteHlr) : State :=
  s.setRemoteHlr { rh with isConnected := false }

/-! ## Requests -/

/-- `proxy_subscr_remote_hlr_resolved` -/
def proxySubscrRemoteHlrResolved (env : Env) (s : State) (proxySubscr : ProxySubscr)
    (remoteHlrAddr : SockaddrStr) : Res :=
  if lib.sockaddrStrIsNonzero proxySubscr.remoteHlrAddr ∧
      lib.sockaddrStrCmp remoteHlrAddr proxySubscr.remoteHlrAddr = 0 then (s, [])
  else
    let new := { proxySubscr with remoteHlrAddr := remoteHlrAddr }
    let s := s.createOrUpdate env.now new
    if proxyDeferredGsupReqWaiting s.proxy new.imsi then
      (remoteHlrGetOrConnect lib env s new.remoteHlrAddr true true).2
    else (s, [])

/-- The part of `proxy_subscr_forward_to_remote_hlr` that forwards a request which the proxy
allows. -/
def forwardAllowed (env : Env) (s : State) (proxySubscr : ProxySubscr) (ptr : ReqPtr) : Res :=
  if !lib.sockaddrStrIsNonzero proxySubscr.remoteHlrAddr then
    (s.deferReq ptr, [])
  else
    let remoteHlr := (remoteHlrGetOrConnect lib env s proxySubscr.remoteHlrAddr false false).1
    if remoteHlrIsUp remoteHlr then (s, proxyPendingReqRemoteHlrConnectResult lib ptr remoteHlr)
    else
      (remoteHlrGetOrConnect lib env (s.deferReq ptr) proxySubscr.remoteHlrAddr true true).2

/-- `proxy_subscr_forward_to_remote_hlr`; the return code is the first component. -/
def proxySubscrForwardToRemoteHlr (env : Env) (s : State) (proxySubscr : ProxySubscr)
    (ptr : ReqPtr) : Int × Res :=
  let ack := proxyAcknowledgeGsupToRemoteHlr lib env.now s.proxy proxySubscr ptr.req
  if ack.1 ≠ 0 then
    (ack.1, { s with proxy := ack.2 }, .received ptr :: refuse lib ptr .gmmProtoErrUnspec)
  else
    let sent := forwardAllowed lib env { s with proxy := ack.2 } proxySubscr ptr
    (0, sent.1, .received ptr :: sent.2)

/-- The query for the home HLR of an IMSI. -/
def hlrQuery (imsi : CStr) : Mslookup.Query := ⟨CStr.lit "gsup.hlr", .imsi imsi⟩

/-- The part of `dgsm_check_forward_gsup_msg` behind the gateway: the request waits, and the home
HLR is looked up. -/
def lookUpHlr (env : Env) (s : State) (proxySubscr : ProxySubscr) (ptr : ReqPtr) : Bool × Res :=
  let spooled := proxySubscrForwardToRemoteHlr lib env s proxySubscr ptr
  if spooled.1 ≠ 0 then (true, spooled.2)
  else
    let query := hlrQuery (imsiOf ptr)
    if env.mslookupClientRequest query = 0 then
      (false, spooled.2.andThen fun s => s.onProxy (proxySubscrDel lib s.proxy (imsiOf ptr)))
    else (true, spooled.2.andThen fun s => ({ s with lookups := s.lookups ++ [query] }, []))

/-- The part of `dgsm_check_forward_gsup_msg` with a gateway. -/
def forwardToGateway (env : Env) (s : State) (proxySubscr : ProxySubscr) (ptr : ReqPtr) : Res :=
  (proxySubscrRemoteHlrResolved lib env s proxySubscr env.gsupGatewayProxy).andThen fun s =>
    match proxySubscrGetByImsi s.proxy (imsiOf ptr) with
    | none => (s, refuse lib ptr .gmmNetFail)
    | some proxySubscr => (proxySubscrForwardToRemoteHlr lib env s proxySubscr ptr).2

/-- `dgsm_check_forward_gsup_msg`: whether D-GSM has handled the message is the first component. -/
def dgsmCheckForwardGsupMsg (env : Env) (s : State) (ptr : ReqPtr) : Bool × Res :=
  if env.dbSubscrExistsByImsi (imsiOf ptr) = 0 then (false, s, [])
  else
    match proxySubscrGetByImsi s.proxy (imsiOf ptr) with
    | some proxySubscr => (true, (proxySubscrForwardToRemoteHlr lib env s proxySubscr ptr).2)
    | none =>
        let proxySubscr := ProxySubscr.ofImsi (imsiOf ptr)
        let s := s.createOrUpdate env.now proxySubscr
        if lib.sockaddrStrIsNonzero env.gsupGatewayProxy then
          (true, forwardToGateway lib env s proxySubscr ptr)
        else if !env.mslookupClientActive then (false, s, [])
        else lookUpHlr lib env s proxySubscr ptr

/-- The part of `read_cb` that is about D-GSM. -/
def readCb (env : Env) (s : State) (ptr : ReqPtr) : Res :=
  if env.mslookupClientActive ∨ lib.sockaddrStrIsNonzero env.gsupGatewayProxy then
    let checked := dgsmCheckForwardGsupMsg lib env s ptr
    if checked.1 then checked.2 else (checked.2.1, checked.2.2 ++ [.local ptr])
  else (s, [.local ptr])

/-- `resolve_hlr_result_cb` -/
def resolveHlrResultCb (env : Env) (s : State) (query : Mslookup.Query)
    (result : Mslookup.Result) : Res :=
  match query.id with
  | .imsi imsi =>
      if result.rc ≠ .result then s.onProxy (proxySubscrDel lib s.proxy imsi)
      else
        let remoteHlrAddr :=
          if lib.sockaddrStrIsNonzero result.hostV4 then some result.hostV4
          else if lib.sockaddrStrIsNonzero result.hostV6 then some result.hostV6
          else none
        match remoteHlrAddr with
        | none => s.onProxy (proxySubscrDel lib s.proxy imsi)
        | some addr =>
            match proxySubscrGetByImsi s.proxy imsi with
            | none => (s, [])
            | some proxySubscr => proxySubscrRemoteHlrResolved lib env s proxySubscr addr
  | _ => (s, [])

/-! ## Messages from remote HLRs -/

/-- The reply of `remote_hlr_err_reply`. -/
def errReply (gsupOrig : GsupMessage) (cause : Cause) : GsupMessage :=
  let reply := { GsupMessage.zero with
    cause := lib.causeNum cause
    messageType := lib.toMsgtError gsupOrig.messageType
    messageClass := gsupOrig.messageClass
    smRpMr := gsupOrig.smRpMr
    imsi := gsupOrig.imsi }
  if gsupOrig.sessionState ≠ .stateNone then
    { reply with sessionState := .stateEnd, sessionId := gsupOrig.sessionId }
  else reply

/-- `remote_hlr_err_reply` -/
def remoteHlrErrReply (rh : RemoteHlr) (gsupOrig : GsupMessage) (cause : Cause) : List Out :=
  if !lib.isMsgtRequest gsupOrig.messageType then []
  else
    match lib.gsupEncode (errReply lib gsupOrig cause) with
    | none => []
    | some msg => if rh.isConnected then [.toRemoteHlr rh.addr msg] else []

/-- `proxy_subscr_forward_to_vlr`; the return code is the first component. -/
def proxySubscrForwardToVlr (env : Env) (s : State) (proxySubscr : ProxySubscr)
    (gsup : GsupMessage) : Int × Res :=
  let destination := ipaNameSet IpaName.zero gsup.destinationName
  if destination.1 ≠ 0 then ((lib.causeNum .gmmInvMandInfo).toNat, s, [])
  else
    match gsupRouteFindByIpaName env.routes destination.2 with
    | none => ((lib.causeNum .gmmMscTempNotreach).toNat, s, [])
    | some conn =>
        let ack := proxyAcknowledgeGsupFromRemoteHlr lib env.now s.proxy proxySubscr gsup
          destination.2 (env.peerName conn)
        let s := { s with proxy := ack.2 }
        if ack.1 ≠ 0 then ((lib.causeNum .gmmProtoErrUnspec).toNat, s, [])
        else
          match lib.gsupEncode gsup with
          | none => ((lib.causeNum .gmmInvMandInfo).toNat, s, [])
          | some msg => (0, s, [.toVlr ⟨conn, msg⟩])

/-- `remote_hlr_rx` -/
def remoteHlrRx (env : Env) (s : State) (rh : RemoteHlr) (msg : List UInt8) : Res :=
  match lib.gsupDecode msg with
  | none => (s, [])
  | some gsup =>
      if !lib.imsiStrValid gsup.imsi then (s, remoteHlrErrReply lib rh gsup .gmmInvMandInfo)
      else
        match proxySubscrGetByImsi s.proxy gsup.imsi with
        | none => (s, remoteHlrErrReply lib rh gsup .gmmNetFail)
        | some proxySubscr =>
            let forwarded := proxySubscrForwardToVlr lib env s proxySubscr gsup
            if forwarded.1 ≠ 0 then
              (forwarded.2.1, forwarded.2.2 ++ remoteHlrErrReply lib rh gsup .gmmNetFail)
            else forwarded.2

/-! ## The machine -/

/-- What may happen. -/
inductive Input where
  /-- A request comes to `read_cb`. -/
  | rx (req : GsupReq) (env : Env)
  /-- A lookup has its result. -/
  | result (query : Mslookup.Query) (result : Mslookup.Result) (env : Env)
  /-- A link comes up or goes down. -/
  | updown (ref : Nat) (up : Bool)
  /-- A link has no connection any more. -/
  | lost (ref : Nat)
  /-- A message comes over a link. -/
  | remoteRx (ref : Nat) (msg : List UInt8) (env : Env)
  /-- `gc_timer` expires. -/
  | gcTimer (now : Int)
  | setGcPeriod (gcPeriod : UInt32) (now : Int)
  | subscrDel (imsi : CStr)

/-- What happens to a link that is there. -/
def onRemoteHlr (s : State) (ref : Nat) (f : RemoteHlr → Res) : Res :=
  match Keyed.find RemoteHlr.ref s.remoteHlrs ref with
  | none => (s, [])
  | some rh => f rh

/-- One of them; no lookup has a result that is not requested, and no timer expires that is not
scheduled. -/
def step (s : State) : Input → Res
  | .rx req env => readCb lib env { s with allocs := s.allocs + 1 } ⟨s.allocs, req⟩
  | .result query result env =>
      if query ∈ s.lookups then
        resolveHlrResultCb lib env { s with lookups := s.lookups.erase query } query result
      else (s, [])
  | .updown ref up => onRemoteHlr s ref fun rh => gsupClientUpdownCb lib s rh up
  | .lost ref => onRemoteHlr s ref fun rh => (gsupClientLost s rh, [])
  | .remoteRx ref msg env => onRemoteHlr s ref fun rh => remoteHlrRx lib env s rh msg
  | .gcTimer now =>
      if s.proxy.gcTimer then
        ({ s with proxy := proxyCleanup now { s.proxy with gcTimer := false } }, [])
      else (s, [])
  | .setGcPeriod gcPeriod now => ({ s with proxy := proxySetGcPeriod now s.proxy gcPeriod }, [])
  | .subscrDel imsi => s.onProxy (proxySubscrDel lib s.proxy imsi)

/-- The whole as a machine. -/
def machine : Machine State Input Out := ⟨step lib⟩

end Dgsm
end OsmoHlr
