import OsmoHlr.Gsup.PeerId
import OsmoHlr.Libosmocore

/-!
# GSUP requests

`src/gsupclient/gsup_req.c`: what makes a received message a request, and how
messages are completed to be responses to it.  The GSUP coding itself belongs to
libosmogsm and is a parameter, `GsupLib`.

What happens to a request besides is the list of `ReqCall`s: the responses that
are handed to `send_response_cb`, and the deallocation.

* `osmoGsupReqNew_spec` — what a new request is, by the Source Name IE of its
  message.
-/

namespace OsmoHlr
namespace Gsup

open CString CniPeerId

/-- `enum osmo_gsup_session_state` -/
inductive SessionState where
  | stateNone
  | stateBegin
  | stateContinue
  | stateEnd
  | other (v : UInt8)
  deriving DecidableEq

/-- `enum osmo_gsup_cn_domain`; without the IE it is 0. -/
inductive CnDomain where
  | absent
  | ps
  | cs
  | other (v : UInt8)
  deriving DecidableEq

/-- `struct osmo_gsup_pdp_info` -/
structure PdpInfo where
  contextId : Nat
  haveInfo : Bool
  apnEnc : List UInt8
  deriving DecidableEq

/-- `struct osmo_gsup_message`.  A name, a number and the like are the bytes that their pointer and
their length give; without any they are not set. -/
structure GsupMessage where
  messageType : UInt8
  imsi : CStr
  cause : UInt8
  messageClass : UInt8
  sourceName : List UInt8
  destinationName : List UInt8
  smRpMr : Option UInt8
  sessionId : UInt32
  sessionState : SessionState
  cnDomain : CnDomain
  msisdnEnc : List UInt8
  pdpInfos : List PdpInfo
  ssInfo : List UInt8
  deriving DecidableEq

/-- `(struct osmo_gsup_message){}` -/
def GsupMessage.zero : GsupMessage :=
  ⟨0, CStr.empty, 0, 0, [], [], none, 0, .stateNone, .absent, [], [], []⟩

/-- The GSUP part of libosmogsm. -/
structure GsupLib extends Libosmocore where
  /-- `OSMO_GSUP_MSGT_ROUTING_ERROR` -/
  msgtRoutingError : UInt8
  /-- `GMM_CAUSE_INV_MAND_INFO` -/
  gmmCauseInvMandInfo : UInt8
  /-- `OSMO_GSUP_IS_MSGT_REQUEST` -/
  isMsgtRequest : UInt8 → Bool
  /-- `OSMO_GSUP_IS_MSGT_ERROR` -/
  isMsgtError : UInt8 → Bool
  /-- `OSMO_GSUP_TO_MSGT_ERROR` -/
  toMsgtError : UInt8 → UInt8
  /-- `OSMO_GSUP_TO_MSGT_RESULT` -/
  toMsgtResult : UInt8 → UInt8
  /-- `osmo_gsup_decode`; `none` for a negative return code. -/
  gsupDecode : List UInt8 → Option GsupMessage
  /-- `osmo_gsup_encode`; `none` for a return code other than 0. -/
  gsupEncode : GsupMessage → Option (List UInt8)

/-- `struct osmo_gsup_req` -/
structure GsupReq where
  gsup : GsupMessage
  sourceName : PeerId
  viaProxy : PeerId
  /-- Whether `send_response_cb` is set. -/
  sendResponseCb : Bool
  deriving DecidableEq

/-- What happens to a request. -/
inductive ReqCall where
  /-- `req->send_response_cb(req, response)` -/
  | sendResponseCb (req : GsupReq) (response : GsupMessage)
  /-- `osmo_gsup_req_free(req)` -/
  | free (req : GsupReq)
  deriving DecidableEq

variable (lib : GsupLib)

/-! ## Responses -/

/-- The session state of a response. -/
def responseSessionState (rx : SessionState) (finalResponse : Bool) : SessionState :=
  if finalResponse ∨ rx = .stateEnd then .stateEnd else .stateContinue

/-- The part of `osmo_gsup_make_response` that sets what is still unset. -/
def fillResponse (reply rx : GsupMessage) (error finalResponse : Bool) : GsupMessage :=
  { reply with
    messageType :=
      if reply.messageType = 0 then
        if error then lib.toMsgtError rx.messageType else lib.toMsgtResult rx.messageType
      else reply.messageType
    imsi := if reply.imsi.bytes = [] then rx.imsi else reply.imsi
    messageClass := if reply.messageClass = 0 then rx.messageClass else reply.messageClass
    destinationName := if reply.destinationName = [] then rx.sourceName else reply.destinationName
    smRpMr := if reply.smRpMr = none then rx.smRpMr else reply.smRpMr
    sessionId := if reply.sessionId = 0 then rx.sessionId else reply.sessionId
    sessionState :=
      if rx.sessionState ≠ .stateNone ∧ reply.sessionState = .stateNone then
        responseSessionState rx.sessionState finalResponse
      else reply.sessionState }

/-- `osmo_gsup_make_response`: its return code, and the reply. -/
def osmoGsupMakeResponse (reply rx : GsupMessage) (error finalResponse : Bool) :
    Nat × GsupMessage :=
  let reply := fillResponse lib reply rx error finalResponse
  let imsi := if reply.imsi ≠ rx.imsi then 1 <<< 0 else 0
  let messageClass := if reply.messageClass ≠ rx.messageClass then 1 <<< 1 else 0
  let smRpMr := if rx.smRpMr ≠ none ∧ reply.smRpMr ≠ rx.smRpMr then 1 <<< 2 else 0
  let sessionId := if reply.sessionId ≠ rx.sessionId then 1 <<< 3 else 0
  (imsi ||| messageClass ||| smRpMr ||| sessionId, reply)

/-- `_osmo_gsup_req_respond` -/
def osmoGsupReqRespond (req : GsupReq) (response : GsupMessage) (error finalResponse : Bool) :
    Int × List ReqCall :=
  let made := osmoGsupMakeResponse lib response req.gsup error finalResponse
  let sent : Int × List ReqCall :=
    if made.1 ≠ 0 then (einval, [])
    else if !req.sendResponseCb then (einval, [])
    else (0, [.sendResponseCb req made.2])
  -- exit_cleanup
  (sent.1, sent.2 ++ if finalResponse then [.free req] else [])

/-- `_osmo_gsup_req_respond_msgt` -/
def osmoGsupReqRespondMsgt (req : GsupReq) (messageType : UInt8) (finalResponse : Bool) :
    Int × List ReqCall :=
  osmoGsupReqRespond lib req { GsupMessage.zero with messageType := messageType }
    (lib.isMsgtError messageType) finalResponse

/-- `_osmo_gsup_req_respond_err` -/
def osmoGsupReqRespondErr (req : GsupReq) (cause : UInt8) : List ReqCall :=
  if !lib.isMsgtRequest req.gsup.messageType then [.free req]
  else (osmoGsupReqRespond lib req { GsupMessage.zero with cause := cause } true true).2

/-! ## New requests -/

/-- The Source Name IE, if there is one, takes the place of the peer as the source. -/
def GsupReq.setSourceName (req : GsupReq) : Int × GsupReq :=
  if req.gsup.sourceName = [] then (0, req)
  else
    let set := cniPeerIdSet req.sourceName .ipaName req.gsup.sourceName
    (set.1, { req with sourceName := set.2 })

/-- A peer that is not the source is a proxy for it. -/
def GsupReq.setViaProxy (req : GsupReq) (fromPeer : PeerId) : GsupReq :=
  if req.gsup.sourceName ≠ [] ∧ cniPeerIdCmp req.sourceName fromPeer ≠ 0 then
    { req with viaProxy := fromPeer }
  else req

/-- `osmo_gsup_req_new` of the bytes at `msgb_l2()`, which are none when it is NULL: the
request that it returns. -/
def osmoGsupReqNew (fromPeer : Option PeerId) (l2 : List UInt8) (sendResponseCb : Bool) :
    Option GsupReq × List ReqCall :=
  match fromPeer with
  | none => (none, [])
  | some fromPeer =>
      if l2.isEmpty then (none, [])
      else
        match lib.gsupDecode l2 with
        | none => (none, [.free ⟨GsupMessage.zero, fromPeer, PeerId.zero, sendResponseCb⟩])
        | some gsup =>
            let named := GsupReq.setSourceName ⟨gsup, fromPeer, PeerId.zero, sendResponseCb⟩
            if named.1 ≠ 0 then
              (none, (osmoGsupReqRespondMsgt lib named.2 lib.msgtRoutingError true).2)
            else
              let req := named.2.setViaProxy fromPeer
              if !lib.imsiStrValid req.gsup.imsi then
                (none, osmoGsupReqRespondErr lib req lib.gmmCauseInvMandInfo)
              else (some req, [])

section Source

variable {gsup : GsupMessage} {peer : IpaName} {via : PeerId} {sendResponseCb : Bool}

/-- The source of a message is whom it names, or else the peer. -/
theorem setSourceName_spec
    (h : (GsupReq.setSourceName ⟨gsup, .ofIpaName peer, via, sendResponseCb⟩).1 = 0) :
    ∃ source : IpaName,
      (GsupReq.setSourceName ⟨gsup, .ofIpaName peer, via, sendResponseCb⟩).2 =
        ⟨gsup, .ofIpaName source, via, sendResponseCb⟩ ∧
      source.val = if gsup.sourceName = [] then peer.val else gsup.sourceName := by
  unfold GsupReq.setSourceName at h ⊢
  by_cases hname : gsup.sourceName = []
  · simp only [hname, ↓reduceIte]
    exact ⟨peer, rfl, rfl⟩
  · simp only [hname, ↓reduceIte] at h ⊢
    exact ⟨_, rfl, ipaNameSet_eq_zero h⟩

/-- A message comes via the peer exactly if the peer is not its source. -/
theorem setViaProxy_spec {source : IpaName}
    (h : source.val = if gsup.sourceName = [] then peer.val else gsup.sourceName) :
    GsupReq.setViaProxy ⟨gsup, .ofIpaName source, PeerId.zero, sendResponseCb⟩ (.ofIpaName peer) =
      ⟨gsup, .ofIpaName source, if source = peer then PeerId.zero else .ofIpaName peer,
        sendResponseCb⟩ := by
  unfold GsupReq.setViaProxy
  simp only [ne_eq, cniPeerIdCmp_ofIpaName_eq_zero_iff]
  by_cases hpeer : source = peer
  · simp [hpeer]
  · have hname : gsup.sourceName ≠ [] := by
      intro hname
      rw [if_pos hname] at h
      exact hpeer (IpaName.ext h)
    simp [hpeer, hname]

end Source

variable {lib}

/-- **What a new request is**: it comes from the source that its message names, or else from
the peer itself, and via the peer exactly if that is somebody else. -/
theorem osmoGsupReqNew_spec {peer : IpaName} {l2 : List UInt8} {sendResponseCb : Bool}
    {req : GsupReq}
    (h : (osmoGsupReqNew lib (some (.ofIpaName peer)) l2 sendResponseCb).1 = some req) :
    ∃ gsup source,
      lib.gsupDecode l2 = some gsup ∧
      source.val = (if gsup.sourceName = [] then peer.val else gsup.sourceName) ∧
      req = ⟨gsup, .ofIpaName source, if source = peer then PeerId.zero else .ofIpaName peer,
        sendResponseCb⟩ := by
  unfold osmoGsupReqNew at h
  simp only at h
  split at h
  next => cases h
  next =>
      cases hgsup : lib.gsupDecode l2 with
      | none =>
          rw [hgsup] at h
          cases h
      | some gsup =>
          rw [hgsup] at h
          simp only [ne_eq, ite_not] at h
          split at h
          next hnamed =>
              obtain ⟨source, hreq, hsource⟩ := setSourceName_spec hnamed
              rw [hreq, setViaProxy_spec hsource] at h
              cases himsi : lib.imsiStrValid gsup.imsi with
              | false =>
                  simp only [himsi, Bool.not_false, ↓reduceIte] at h
                  cases h
              | true =>
                  simp only [himsi, Bool.not_true, Bool.false_eq_true, ↓reduceIte] at h
                  exact ⟨gsup, source, rfl, hsource, (Option.some.inj h).symm⟩
          next => cases h

end Gsup
end OsmoHlr
