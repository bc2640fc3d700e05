import OsmoHlr.Gsup.Protocol
import OsmoHlr.Gsup.Send
import OsmoHlr.Lib.Keyed

/-!
# The proxy

`src/proxy.c` and the part of `src/remote_hlr.c` that sends to a remote HLR: for each
subscriber of another site there is an entry, which says at what address the home HLR is
and which VLR serves the subscriber in each domain.  Requests that cannot be forwarded
yet wait in one queue for all subscribers.  Log messages are left out.

* `proxySubscrCreateOrUpdate`, `proxySubscrDel`, `proxyCleanup` — the entries.
* `proxyDeferredGsupReqAdd`, `proxyDeferredGsupReqPop` — the queue.
* `proxyAcknowledgeGsupToRemoteHlr`, `proxyAcknowledgeGsupFromRemoteHlr` — what messages
  tell about a subscriber.
-/

namespace OsmoHlr
namespace Dgsm

open CString CniPeerId Gsup

/-- What else is called of libosmocore and libosmogsm. -/
structure ProxyLib extends GsupProtocol where
  /-- `osmo_sockaddr_str_cmp` -/
  sockaddrStrCmp : SockaddrStr → SockaddrStr → Int
  /-- `osmo_sockaddr_str_is_nonzero` -/
  sockaddrStrIsNonzero : SockaddrStr → Bool
  /-- `gsm48_decode_bcd_number2` into a buffer of a size; `none` for a return code other than 0. -/
  gsm48DecodeBcdNumber2 : Nat → List UInt8 → Option CStr
  /-- Addresses that compare equal are the same address and port. -/
  cmp_equivalence : Equivalence fun a b => sockaddrStrCmp a b = 0
  /-- A zeroed address is zero. -/
  nonzero_zero : sockaddrStrIsNonzero SockaddrStr.zero = false
  /-- No cause is 0. -/
  causeNum_ne : ∀ cause, causeNum cause ≠ 0

/-- `-ENOTSUP` -/
def enotsup : Int := -95

/-! ## Data -/

/-- `struct proxy_subscr_domain_state` -/
structure DomainState where
  vlrName : IpaName
  lastLu : Int
  vlrNamePreliminary : IpaName
  vlrViaProxy : IpaName
  deriving DecidableEq

/-- A zeroed `struct proxy_subscr_domain_state`. -/
def DomainState.zero : DomainState := ⟨IpaName.zero, 0, IpaName.zero, IpaName.zero⟩

/-- `struct proxy_subscr` -/
structure ProxySubscr where
  imsi : CStr
  msisdn : CStr
  remoteHlrAddr : SockaddrStr
  cs : DomainState
  ps : DomainState
  deriving DecidableEq

/-- A zeroed `struct proxy_subscr` with an IMSI. -/
def ProxySubscr.ofImsi (imsi : CStr) : ProxySubscr :=
  ⟨imsi, CStr.empty, SockaddrStr.zero, DomainState.zero, DomainState.zero⟩

/-- `struct proxy_subscr_listentry` -/
structure ProxySubscrListentry where
  lastUpdate : Int
  data : ProxySubscr
  deriving DecidableEq

/-- The IMSI of an entry. -/
def ProxySubscrListentry.imsi (e : ProxySubscrListentry) : CStr := e.data.imsi

/-- `proxy->subscr_list`: no IMSI has two entries. -/
structure SubscrList where
  entries : List ProxySubscrListentry
  imsis_nodup : (entries.map ProxySubscrListentry.imsi).Nodup

/-- `struct proxy` -/
structure Proxy where
  subscrList : SubscrList
  pendingGsupReqs : List ReqPtr
  freshTime : UInt32
  gcPeriod : UInt32
  /-- Whether `gc_timer` is scheduled. -/
  gcTimer : Bool

/-- `struct remote_hlr`, with the `is_connected` of its `gsupc`. -/
structure RemoteHlr where
  /-- Which allocation the record is. -/
  ref : Nat
  addr : SockaddrStr
  isConnected : Bool
  /-- How many `pending_up_callbacks` there are, each of them the proxy's. -/
  pendingUpCallbacks : Nat
  deriving DecidableEq

/-- What is put out. -/
inductive Out where
  /-- `proxy_subscr_forward_to_remote_hlr` is called with a request. -/
  | received (ptr : ReqPtr)
  /-- A request is forwarded to a remote HLR. -/
  | forwarded (ptr : ReqPtr) (addr : SockaddrStr) (msg : List UInt8)
  | req (event : ReqEvent)
  | toVlr (sent : Sent)
  /-- A reply to a remote HLR. -/
  | toRemoteHlr (addr : SockaddrStr) (msg : List UInt8)
  /-- A request is left to the local HLR. -/
  | local (ptr : ReqPtr)
  deriving DecidableEq

/-- What happens to a request. -/
def reqOut (ptr : ReqPtr) (calls : List ReqCall) : List Out := (ptr.events calls).map Out.req

/-! ## Timestamps -/

/-- `timestamp_age`; `none` for a timestamp that is not valid. -/
def timestampAge (now timestamp : Int) : Option Nat :=
  if now - timestamp < 0 ∨ now - timestamp > 4294967295 then none else some (now - timestamp).toNat

/-! ## Entries -/

/-- `_proxy_get_by_imsi` -/
def proxyGetByImsi (proxy : Proxy) (imsi : CStr) : Option ProxySubscrListentry :=
  Keyed.find ProxySubscrListentry.imsi proxy.subscrList.entries imsi

/-- `proxy_subscr_get_by_imsi` -/
def proxySubscrGetByImsi (proxy : Proxy) (imsi : CStr) : Option ProxySubscr :=
  (proxyGetByImsi proxy imsi).map ProxySubscrListentry.data

/-- `llist_add` of an entry with a new IMSI. -/
def SubscrList.add (l : SubscrList) (e : ProxySubscrListentry)
    (h : Keyed.find ProxySubscrListentry.imsi l.entries e.imsi = none) : SubscrList where
  entries := e :: l.entries
  imsis_nodup := by
    rw [List.map_cons, List.nodup_cons]
    refine ⟨fun hmem => ?_, l.imsis_nodup⟩
    obtain ⟨x, hx, himsi⟩ := List.mem_map.1 hmem
    exact Keyed.find_eq_none_iff.1 h x hx himsi

/-- Writing to the entry with an IMSI. -/
def SubscrList.set (l : SubscrList) (e : ProxySubscrListentry) : SubscrList where
  entries := Keyed.set ProxySubscrListentry.imsi l.entries e
  imsis_nodup := by
    rw [Keyed.map_key_set]
    exact l.imsis_nodup

/-- `llist_del` of entries. -/
def SubscrList.filter (l : SubscrList) (keep : ProxySubscrListentry → Bool) : SubscrList where
  entries := l.entries.filter keep
  imsis_nodup := (List.filter_sublist.map _).nodup l.imsis_nodup

/-- `proxy_subscr_create_or_update`, which always returns 0. -/
def proxySubscrCreateOrUpdate (now : Int) (proxy : Proxy) (proxySubscr : ProxySubscr) : Proxy :=
  let e : ProxySubscrListentry := ⟨now, proxySubscr⟩
  if h : Keyed.find ProxySubscrListentry.imsi proxy.subscrList.entries e.imsi = none then
    { proxy with subscrList := proxy.subscrList.add e h }
  else { proxy with subscrList := proxy.subscrList.set e }

variable (lib : ProxyLib)

/-! ## To a remote HLR -/

/-- `remote_hlr_is_up`; `none` is a null pointer. -/
def remoteHlrIsUp (remoteHlr : Option RemoteHlr) : Bool :=
  match remoteHlr with
  | none => false
  | some rh => rh.isConnected

/-- A request is answered with an error. -/
def refuse (ptr : ReqPtr) (cause : Cause) : List Out :=
  reqOut ptr (osmoGsupReqRespondErr lib.toGsupLib ptr.req (lib.causeNum cause))

/-- `remote_hlr_msgb_send` of a forwarded request; `osmo_gsup_client_send` drops it if there is no
connection. -/
def remoteHlrMsgbSend (remoteHlr : RemoteHlr) (ptr : ReqPtr) (msg : List UInt8) : List Out :=
  if remoteHlr.isConnected then [.forwarded ptr remoteHlr.addr msg] else []

/-- `remote_hlr_gsup_forward_to_remote_hlr` of an unmodified message. -/
def remoteHlrGsupForwardToRemoteHlr (remoteHlr : RemoteHlr) (ptr : ReqPtr) : List Out :=
  if ptr.req.sourceName.type ≠ .ipaName then refuse lib ptr .gmmNetFail
  else
    match lib.gsupEncode { ptr.req.gsup with sourceName := ptr.req.sourceName.ipaName.val } with
    | none => refuse lib ptr .gmmNetFail
    | some msg => remoteHlrMsgbSend remoteHlr ptr msg ++ reqOut ptr [.free ptr.req]

/-! ## The queue -/

/-- `proxy_deferred_gsup_req_add` -/
def proxyDeferredGsupReqAdd (proxy : Proxy) (ptr : ReqPtr) : Proxy :=
  { proxy with pendingGsupReqs := proxy.pendingGsupReqs ++ [ptr] }

/-- `proxy_pending_req_remote_hlr_connect_result` -/
def proxyPendingReqRemoteHlrConnectResult (ptr : ReqPtr) (remoteHlr : Option RemoteHlr) :
    List Out :=
  match remoteHlr with
  | none => refuse lib ptr .gmmImsiUnknown
  | some rh =>
      if remoteHlrIsUp (some rh) then remoteHlrGsupForwardToRemoteHlr lib rh ptr
      else refuse lib ptr .gmmImsiUnknown

/-- The IMSI of a request. -/
def imsiOf (ptr : ReqPtr) : CStr := ptr.req.gsup.imsi

/-- `proxy_deferred_gsup_req_waiting` -/
def proxyDeferredGsupReqWaiting (proxy : Proxy) (imsi : CStr) : Bool :=
  proxy.pendingGsupReqs.any fun p => imsiOf p = imsi

/-- `proxy_deferred_gsup_req_pop` -/
def proxyDeferredGsupReqPop (proxy : Proxy) (imsi : CStr) (remoteHlr : Option RemoteHlr) :
    Proxy × List Out :=
  ({ proxy with pendingGsupReqs := proxy.pendingGsupReqs.filter fun p => imsiOf p ≠ imsi },
    (proxy.pendingGsupReqs.filter fun p => imsiOf p = imsi).flatMap fun p =>
      proxyPendingReqRemoteHlrConnectResult lib p remoteHlr)

/-- The loop of `proxy_remote_hlr_connect_result_cb`. -/
def popEntries (addr : SockaddrStr) (remoteHlr : Option RemoteHlr) :
    List ProxySubscrListentry → Proxy → Proxy × List Out
  | [], proxy => (proxy, [])
  | e :: entries, proxy =>
      if lib.sockaddrStrCmp addr e.data.remoteHlrAddr = 0 then
        let popped := proxyDeferredGsupReqPop lib proxy e.data.imsi remoteHlr
        let rest := popEntries addr remoteHlr entries popped.1
        (rest.1, popped.2 ++ rest.2)
      else popEntries addr remoteHlr entries proxy

/-- `proxy_remote_hlr_connect_result_cb` -/
def proxyRemoteHlrConnectResultCb (proxy : Proxy) (addr : SockaddrStr)
    (remoteHlr : Option RemoteHlr) : Proxy × List Out :=
  popEntries lib addr remoteHlr proxy.subscrList.entries proxy

/-- `proxy_subscr_del` -/
def proxySubscrDel (proxy : Proxy) (imsi : CStr) : Proxy × List Out :=
  let popped := proxyDeferredGsupReqPop lib proxy imsi none
  ({ popped.1 with subscrList := popped.1.subscrList.filter fun e => e.imsi ≠ imsi }, popped.2)

/-- Whether `proxy_cleanup` keeps an entry. -/
def isFresh (now : Int) (freshTime : UInt32) (e : ProxySubscrListentry) : Bool :=
  match timestampAge now e.lastUpdate with
  | none => false
  | some age => age ≤ freshTime.toNat

/-- `proxy_cleanup`; a timer that is scheduled stays so. -/
def proxyCleanup (now : Int) (proxy : Proxy) : Proxy :=
  { proxy with
    subscrList := proxy.subscrList.filter (isFresh now proxy.freshTime)
    gcTimer := proxy.gcTimer ∨ proxy.gcPeriod ≠ 0 }

/-- `proxy_set_gc_period` -/
def proxySetGcPeriod (now : Int) (proxy : Proxy) (gcPeriod : UInt32) : Proxy :=
  proxyCleanup now { proxy with gcPeriod := gcPeriod }

/-- `proxy_init` -/
def Proxy.init : Proxy where
  subscrList := ⟨[], List.nodup_nil⟩
  pendingGsupReqs := []
  freshTime := 60 * 60
  gcPeriod := 60
  gcTimer := true

/-! ## What messages tell -/

/-- The VLR that sends an Update Location Request, remembered for the domain of the request. -/
def ProxySubscr.setPreliminary (subscr : ProxySubscr) (req : GsupReq) : ProxySubscr :=
  match req.gsup.cnDomain with
  | .cs => { subscr with cs := { subscr.cs with vlrNamePreliminary := req.sourceName.ipaName } }
  | .ps => { subscr with ps := { subscr.ps with vlrNamePreliminary := req.sourceName.ipaName } }
  | _ => subscr

/-- `proxy_acknowledge_gsup_to_remote_hlr` -/
def proxyAcknowledgeGsupToRemoteHlr (now : Int) (proxy : Proxy) (proxySubscr : ProxySubscr)
    (req : GsupReq) : Int × Proxy :=
  if req.sourceName.type ≠ .ipaName then (enotsup, proxy)
  else if req.gsup.messageType = lib.msgt .updateLocation .request then
    let new := proxySubscr.setPreliminary req
    let cs : Bool := ipaNameCmp new.cs.vlrNamePreliminary proxySubscr.cs.vlrNamePreliminary ≠ 0
    let ps : Bool := ipaNameCmp new.ps.vlrNamePreliminary proxySubscr.ps.vlrNamePreliminary ≠ 0
    if ¬(cs ∨ ps) then (0, proxy) else (0, proxySubscrCreateOrUpdate now proxy new)
  else (0, proxy)

/-- `case OSMO_GSUP_MSGT_INSERT_DATA_REQUEST` of `proxy_acknowledge_gsup_from_remote_hlr` -/
def storeMsisdn (now : Int) (proxy : Proxy) (proxySubscr : ProxySubscr) (gsup : GsupMessage) :
    Proxy :=
  if gsup.msisdnEnc = [] then proxy
  else
    match lib.gsm48DecodeBcdNumber2 (lib.msisdnMaxDigits + 1) gsup.msisdnEnc with
    | none => proxy
    | some msisdn =>
        if !lib.msisdnStrValid msisdn then proxy
        else if proxySubscr.msisdn = msisdn then proxy
        else proxySubscrCreateOrUpdate now proxy { proxySubscr with msisdn := msisdn }

/-- The state of a domain after a Location Update that has succeeded. -/
def DomainState.updated (now : Int) (destination viaProxy : IpaName) : DomainState :=
  ⟨destination, now, IpaName.zero, viaProxy⟩

/-- `case OSMO_GSUP_MSGT_UPDATE_LOCATION_RESULT` of `proxy_acknowledge_gsup_from_remote_hlr` -/
def storeLu (now : Int) (proxy : Proxy) (proxySubscr : ProxySubscr)
    (destination viaProxy : IpaName) : Int × Proxy :=
  let cs : Bool := ipaNameCmp destination proxySubscr.cs.vlrNamePreliminary = 0
  let ps : Bool := ipaNameCmp destination proxySubscr.ps.vlrNamePreliminary = 0
  let updated := DomainState.updated now destination viaProxy
  if ¬(cs ∨ ps) then ((lib.causeNum .gmmProtoErrUnspec).toNat, proxy)
  else
    (0, proxySubscrCreateOrUpdate now proxy
      { proxySubscr with
        cs := if cs then updated else proxySubscr.cs
        ps := if ps then updated else proxySubscr.ps })

/-- `proxy_acknowledge_gsup_from_remote_hlr` -/
def proxyAcknowledgeGsupFromRemoteHlr (now : Int) (proxy : Proxy) (proxySubscr : ProxySubscr)
    (gsup : GsupMessage) (destination viaPeer : IpaName) : Int × Proxy :=
  let viaProxy := if ipaNameCmp viaPeer destination ≠ 0 then viaPeer else IpaName.zero
  if gsup.messageType = lib.msgt .insertData .request then
    (0, storeMsisdn lib now proxy proxySubscr gsup)
  else if gsup.messageType = lib.msgt .updateLocation .result then
    storeLu lib now proxy proxySubscr destination viaProxy
  else (0, proxy)

end Dgsm
end OsmoHlr
