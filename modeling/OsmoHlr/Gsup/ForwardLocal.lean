import OsmoHlr.Gsup.ReqUse
import OsmoHlr.Gsup.Send

/-!
# Forwarding to a local peer

`osmo_gsup_forward_to_local_peer` of `src/gsup_server.c`.  Where a peer id is not an
IPA name, `osmo_gsup_req_respond_err` has freed the request before the common exit
responds to it once more.

* `concludesOnce_iff` — when a forwarded request is concluded as it should be.
* `concludesOnce_of_rx` — it is for a request that came in over a connection, to an IPA
  name.
-/

namespace OsmoHlr
namespace Gsup

open CniPeerId Ownership

/-- `-ENOTSUP` -/
def enotsup : Int := -95

/-- What comes of `osmo_gsup_forward_to_local_peer`. -/
structure Forwarded where
  rc : Int
  /-- The message, to whom it is sent. -/
  sent : List Sent
  /-- What is done with the request. -/
  uses : List ReqUse

variable (lib : GsupProtocol)

/-- `routing_error:` -/
def forwardRoutingError (req : GsupReq) (rc : Int) (sent : List Sent) (uses : List ReqUse) :
    Forwarded :=
  ⟨rc, sent,
    uses ++ callUses (osmoGsupReqRespondMsgt lib.toGsupLib req lib.msgtRoutingError true).2⟩

/-- The message that is forwarded, with the name of its sender. -/
def forwardedGsup (req : GsupReq) (modifiedGsup : Option GsupMessage) : GsupMessage :=
  { modifiedGsup.getD req.gsup with sourceName := req.sourceName.ipaName.val }

/-- `osmo_gsup_forward_to_local_peer` -/
def osmoGsupForwardToLocalPeer (routes : RouteTable) (toPeer : PeerId) (req : GsupReq)
    (modifiedGsup : Option GsupMessage) : Forwarded :=
  let netFail := lib.causeNum .gmmNetFail
  if req.sourceName.type ≠ .ipaName then
    forwardRoutingError lib req enotsup []
      (.access :: callUses (osmoGsupReqRespondErr lib.toGsupLib req netFail))
  else if toPeer.type ≠ .ipaName then
    forwardRoutingError lib req enotsup []
      (.access :: callUses (osmoGsupReqRespondErr lib.toGsupLib req netFail))
  else
    let forward := forwardedGsup req modifiedGsup
    let sent := osmoGsupEncSendToIpaName lib.toGsupLib routes toPeer.ipaName forward
    if sent.1 ≠ 0 then forwardRoutingError lib req sent.1 sent.2 [.access]
    else ⟨0, sent.2, .access :: callUses [.free req]⟩

/-- A message that tells of an error: a routing error, or the error of the request's procedure. -/
def IsErrorFor (req : GsupReq) (response : GsupMessage) : Prop :=
  response.messageType = lib.msgtRoutingError ∨
    response.messageType = lib.toMsgtError req.gsup.messageType

/-- What should come of forwarding a request. -/
structure ConcludesOnce (req : GsupReq) (forwarded : Forwarded) : Prop where
  /-- The request is freed once, and not touched any more. -/
  released : Released ReqUse.isFree forwarded.uses
  /-- The message goes to one peer at most. -/
  sent : forwarded.sent.length ≤ 1
  /-- The sender gets an error exactly if the return code is not 0. -/
  answered : (∃ response, .respond response ∈ forwarded.uses ∧ IsErrorFor lib req response) ↔
    forwarded.rc ≠ 0

/-- The message can be encoded, its destination has room for a NUL, and there is a route to it. -/
def Deliverable (routes : RouteTable) (toPeer : IpaName) (forward : GsupMessage) : Prop :=
  (lib.gsupEncode forward).isSome = true ∧
    (toPeer.val.getLastD 0 ≠ 0 → toPeer.len < ipaNameSize) ∧ IsRouted routes toPeer

variable {lib} {routes : RouteTable} {toPeer : PeerId} {req : GsupReq}
  {modifiedGsup : Option GsupMessage}

/-! ## Encoding and routing -/

/-- A message is sent to one peer, or to none and the return code is not 0. -/
theorem osmoGsupEncSendToIpaName_cases (lib : GsupLib) (routes : RouteTable) (toPeer : IpaName)
    (forward : GsupMessage) :
    ((osmoGsupEncSendToIpaName lib routes toPeer forward).1 = 0 ∧
        (osmoGsupEncSendToIpaName lib routes toPeer forward).2.length = 1) ∨
      ((osmoGsupEncSendToIpaName lib routes toPeer forward).1 ≠ 0 ∧
        (osmoGsupEncSendToIpaName lib routes toPeer forward).2 = []) := by
  have haddr : ∀ addr msg,
      ((osmoGsupAddrSend routes addr msg).1 = 0 ∧
          (osmoGsupAddrSend routes addr msg).2.length = 1) ∨
        ((osmoGsupAddrSend routes addr msg).1 ≠ 0 ∧ (osmoGsupAddrSend routes addr msg).2 = []) := by
    intro addr msg
    unfold osmoGsupAddrSend
    cases gsupRouteFind routes addr with
    | none => exact Or.inr ⟨show enodev ≠ 0 by decide, rfl⟩
    | some conn => exact Or.inl ⟨rfl, rfl⟩
  unfold osmoGsupEncSendToIpaName
  cases lib.gsupEncode forward with
  | none => exact Or.inr ⟨show einval ≠ 0 by decide, rfl⟩
  | some msg =>
      simp only [osmoGsupSendToIpaName]
      split
      · split
        · exact Or.inr ⟨by decide, rfl⟩
        · exact haddr _ msg
      · exact haddr _ msg

theorem osmoGsupAddrSend_fst_eq_zero_iff {addr msg : List UInt8} :
    (osmoGsupAddrSend routes addr msg).1 = 0 ↔ ∃ conn, gsupRouteFind routes addr = some conn := by
  unfold osmoGsupAddrSend
  cases gsupRouteFind routes addr with
  | none => simp [enodev]
  | some conn => simp

/-- The return code is 0 exactly if the message can be delivered. -/
theorem osmoGsupEncSendToIpaName_fst_eq_zero_iff {name : IpaName} {forward : GsupMessage} :
    (osmoGsupEncSendToIpaName lib.toGsupLib routes name forward).1 = 0 ↔
      Deliverable lib routes name forward := by
  unfold osmoGsupEncSendToIpaName Deliverable IsRouted
  cases lib.gsupEncode forward with
  | none => simp [einval]
  | some msg =>
      simp only [osmoGsupSendToIpaName, Option.isSome_some, true_and]
      by_cases hlast : name.val.getLastD 0 = 0
      · rw [if_neg (not_not.2 hlast), if_neg (not_not.2 hlast)]
        rw [osmoGsupAddrSend_fst_eq_zero_iff]
        exact (and_iff_right fun h => absurd hlast h).symm
      · rw [if_pos hlast, if_pos hlast]
        by_cases hroom : ipaNameSize ≤ name.len
        · rw [if_pos hroom]
          refine iff_of_false (show einval ≠ 0 by decide) fun h => ?_
          exact absurd (h.1 hlast) (Nat.not_lt.2 hroom)
        · rw [if_neg hroom, osmoGsupAddrSend_fst_eq_zero_iff]
          exact (and_iff_right fun _ => Nat.lt_of_not_le hroom).symm

/-! ## Concluding the request -/

/-- A routing error is answered to everybody who can be answered. -/
theorem answered_routingError_iff (hrouting : lib.msgtRoutingError ≠ 0) :
    (∃ response, .respond response ∈
        callUses (osmoGsupReqRespondMsgt lib.toGsupLib req lib.msgtRoutingError true).2 ∧
      IsErrorFor lib req response) ↔ req.sendResponseCb = true := by
  have hrc := osmoGsupMakeResponse_fst lib
    { GsupMessage.zero with messageType := lib.msgtRoutingError } req.gsup
    (lib.isMsgtError lib.msgtRoutingError) true (Or.inl rfl) rfl rfl rfl
  have hchecked := makeResponse_ok_iff.1 hrc
  constructor
  · rintro ⟨response, hmem, -⟩
    obtain ⟨sender, hcall⟩ := mem_callUses_respond.1 hmem
    unfold osmoGsupReqRespondMsgt osmoGsupReqRespond at hcall
    cases hcb : req.sendResponseCb with
    | true => rfl
    | false => simp [hrc, hcb] at hcall
  · intro hcb
    have hsent := osmoGsupReqRespond_sends_iff.2 ⟨hcb, rfl, hchecked⟩
    exact ⟨_, mem_callUses_respond.2 ⟨req, hsent⟩, Or.inl (if_neg hrouting)⟩

/-- A request that has been responded to is not concluded by one more response. -/
theorem not_released_forwardRoutingError {rc : Int} {sent : List Sent} {uses : List ReqUse}
    (h : Released ReqUse.isFree uses) :
    ¬Released ReqUse.isFree (forwardRoutingError lib req rc sent uses).uses := by
  unfold forwardRoutingError
  rw [h.append_iff]
  simp [callUses]

/-- The only response to a request that was not responded to before. -/
theorem released_forwardRoutingError {rc : Int} {sent : List Sent} :
    Released ReqUse.isFree (forwardRoutingError lib req rc sent [.access]).uses := by
  unfold forwardRoutingError
  rw [List.singleton_append, released_cons isFree_access]
  exact released_respond lib.toGsupLib req _ _

/-- Between IPA names, a request is concluded once if the message can be delivered or the sender be
answered. -/
theorem concludesOnce_ipaName_iff (hrouting : lib.msgtRoutingError ≠ 0)
    (hsource : req.sourceName.type = .ipaName) (hto : toPeer.type = .ipaName) :
    ConcludesOnce lib req (osmoGsupForwardToLocalPeer lib routes toPeer req modifiedGsup) ↔
      Deliverable lib routes toPeer.ipaName (forwardedGsup req modifiedGsup) ∨
        req.sendResponseCb = true := by
  unfold osmoGsupForwardToLocalPeer
  simp only [hsource, hto, ne_eq, not_true_eq_false, ↓reduceIte]
  rw [← osmoGsupEncSendToIpaName_fst_eq_zero_iff]
  rcases osmoGsupEncSendToIpaName_cases lib.toGsupLib routes toPeer.ipaName
    (forwardedGsup req modifiedGsup) with ⟨hrc, hsent⟩ | ⟨hrc, hsent⟩
  · rw [if_neg (not_not.2 hrc)]
    refine iff_of_true ⟨?_, hsent.le, ?_⟩ (Or.inl hrc)
    · rw [released_cons isFree_access, callUses, released_cons isFree_access]
      exact (released_cons_free isFree_free).2 rfl
    · simp [callUses, ReqUse.ofCall]
  · rw [if_pos hrc, or_iff_right hrc, ← answered_routingError_iff hrouting]
    constructor
    · intro h
      obtain ⟨response, hmem, herror⟩ := h.answered.2 hrc
      refine ⟨response, ?_, herror⟩
      simpa [forwardRoutingError] using hmem
    · rintro ⟨response, hmem, herror⟩
      refine ⟨released_forwardRoutingError, ?_, ?_⟩
      · simp [forwardRoutingError, hsent]
      · refine iff_of_true ⟨response, ?_, herror⟩ hrc
        simpa [forwardRoutingError] using hmem

/-- **When a request is concluded once**: both peers are IPA names, and the message can be
delivered or the sender be answered. -/
theorem concludesOnce_iff (hrouting : lib.msgtRoutingError ≠ 0) (routes : RouteTable)
    (toPeer : PeerId) (req : GsupReq) (modifiedGsup : Option GsupMessage) :
    ConcludesOnce lib req (osmoGsupForwardToLocalPeer lib routes toPeer req modifiedGsup) ↔
      req.sourceName.type = .ipaName ∧ toPeer.type = .ipaName ∧
        (Deliverable lib routes toPeer.ipaName (forwardedGsup req modifiedGsup) ∨
          req.sendResponseCb = true) := by
  have hrespondErr : Released ReqUse.isFree
      (.access :: callUses (osmoGsupReqRespondErr lib.toGsupLib req (lib.causeNum .gmmNetFail))) :=
    (released_cons isFree_access).2 (released_respondErr _ _ _)
  by_cases hipa : req.sourceName.type = .ipaName ∧ toPeer.type = .ipaName
  · obtain ⟨hsource, hto⟩ := hipa
    rw [concludesOnce_ipaName_iff hrouting hsource hto]
    exact ⟨fun h => ⟨hsource, hto, h⟩, fun h => h.2.2⟩
  · -- the error response has freed the request already
    refine iff_of_false (fun h => ?_) fun h => hipa ⟨h.1, h.2.1⟩
    have hreleased := h.released
    unfold osmoGsupForwardToLocalPeer at hreleased
    by_cases hsource : req.sourceName.type = .ipaName
    · have hto : toPeer.type ≠ .ipaName := fun hto => hipa ⟨hsource, hto⟩
      rw [if_neg (not_not.2 hsource), if_pos hto] at hreleased
      exact not_released_forwardRoutingError hrespondErr hreleased
    · rw [if_pos hsource] at hreleased
      exact not_released_forwardRoutingError hrespondErr hreleased

/-- An empty message from "a", forwarded to "b", to which there is no route. -/
theorem concludesOnce_b :
    ConcludesOnce Host.gsupProtocol
      ⟨GsupMessage.zero, .ofIpaName ⟨[0x61, 0], by decide⟩, PeerId.zero, true⟩
      (osmoGsupForwardToLocalPeer Host.gsupProtocol RouteTable.empty
        (.ofIpaName ⟨[0x62, 0], by decide⟩)
        ⟨GsupMessage.zero, .ofIpaName ⟨[0x61, 0], by decide⟩, PeerId.zero, true⟩ none) :=
  (concludesOnce_iff (by decide) RouteTable.empty _ _ none).2 ⟨rfl, rfl, Or.inr rfl⟩

/-- An empty message from "a", forwarded to a peer id that is not set: the request is freed, and
then responded to. -/
theorem concludesOnce_not_always :
    ¬∀ (lib : GsupProtocol) (routes : RouteTable) (toPeer : PeerId) (req : GsupReq)
        (modifiedGsup : Option GsupMessage), lib.msgtRoutingError ≠ 0 →
      ConcludesOnce lib req (osmoGsupForwardToLocalPeer lib routes toPeer req modifiedGsup) := by
  intro h
  have hreleased := (h Host.gsupProtocol RouteTable.empty PeerId.zero
    ⟨GsupMessage.zero, .ofIpaName ⟨[0x61, 0], by decide⟩, PeerId.zero, true⟩ none
    (by decide)).released
  revert hreleased
  decide

/-- **A request that came in over a connection is concluded once**, if it is forwarded to an IPA
name. -/
theorem concludesOnce_of_rx (hrouting : lib.msgtRoutingError ≠ 0) {server : GsupServer}
    {conn : Conn} {l2 : List UInt8}
    (hreq : (osmoGsupConnRx lib.toGsupLib server conn l2).req = some req) (toPeer : IpaName) :
    ConcludesOnce lib req
      (osmoGsupForwardToLocalPeer lib routes (.ofIpaName toPeer) req modifiedGsup) := by
  rcases osmoGsupConnRx_cases lib.toGsupLib server conn l2 with
    ⟨-, hnone⟩ | ⟨gsup, source, -, -, ⟨-, -, hr⟩ | ⟨-, -, -, hr⟩⟩
  · rw [hnone] at hreq
    cases hreq
  · obtain rfl := Option.some.inj (hr.symm.trans hreq)
    exact (concludesOnce_ipaName_iff hrouting rfl rfl).2 (Or.inr rfl)
  · rw [hr] at hreq
    split at hreq
    next =>
        obtain rfl := Option.some.inj hreq
        exact (concludesOnce_ipaName_iff hrouting rfl rfl).2 (Or.inr rfl)
    next => cases hreq

end Gsup
end OsmoHlr
