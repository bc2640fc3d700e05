import OsmoHlr.Gsup.Req

/-!
# The message types of GSUP

What libosmogsm says about message types: each is a procedure with a kind, and
the macros that look at types go by the kind.  Requests at their addresses, and
what happens to them one after the other, stand here as well.

* `osmoGsupReqRespondMsgt_spec`, `osmoGsupReqRespondErr_spec` — the last that
  happens to a request: it is answered, and freed.
-/

namespace OsmoHlr
namespace Gsup

open CString CniPeerId

/-- The procedures that the program takes part in. -/
inductive Procedure where
  | updateLocation
  | sendAuthInfo
  | purgeMs
  | insertData
  | deleteData
  | locationCancel
  | procSs
  | checkImei
  deriving DecidableEq

/-- What a message is to its procedure. -/
inductive MsgKind where
  | request
  | error
  | result
  deriving DecidableEq

/-- The causes that the program gives: `GMM_CAUSE_*`, and `GSM_CAUSE_NET_FAIL`. -/
inductive Cause where
  | gmmNetFail
  | gmmImsiUnknown
  | gmmPlmnNotallowed
  | gmmMscTempNotreach
  | gmmGprsNotallowed
  | gmmProtoErrUnspec
  | gmmMsgtIncompPState
  | gmmInvMandInfo
  | gsmNetFail
  deriving DecidableEq

/-- The message types of libosmogsm. -/
structure GsupProtocol extends GsupLib where
  /-- `OSMO_GSUP_MSGT_<procedure>_<kind>` -/
  msgt : Procedure → MsgKind → UInt8
  /-- The number of a cause. -/
  causeNum : Cause → UInt8
  /-- The numbers of message types tell them apart. -/
  msgt_inj : ∀ p k p' k', msgt p k = msgt p' k' → p = p' ∧ k = k'
  /-- No message type is 0, and none that of a routing error. -/
  msgt_ne : ∀ p k, msgt p k ≠ 0 ∧ msgt p k ≠ msgtRoutingError
  /-- `OSMO_GSUP_IS_MSGT_REQUEST`, `OSMO_GSUP_IS_MSGT_ERROR` -/
  is_msgt : ∀ p k, isMsgtRequest (msgt p k) = decide (k = .request) ∧
    isMsgtError (msgt p k) = decide (k = .error)
  /-- `OSMO_GSUP_TO_MSGT_ERROR`, `OSMO_GSUP_TO_MSGT_RESULT` -/
  to_msgt : ∀ p k, toMsgtError (msgt p k) = msgt p .error ∧
    toMsgtResult (msgt p k) = msgt p .result

variable (lib : GsupProtocol)

theorem GsupProtocol.msgt_eq_iff {p p' : Procedure} {k k' : MsgKind} :
    lib.msgt p k = lib.msgt p' k' ↔ p = p' ∧ k = k' :=
  ⟨lib.msgt_inj p k p' k', fun h => by rw [h.1, h.2]⟩

/-! ## What happens to requests -/

/-- A request at its address. -/
structure ReqPtr where
  ref : Nat
  req : GsupReq
  deriving DecidableEq

/-- What happens to the request at an address. -/
structure ReqEvent where
  ref : Nat
  call : ReqCall
  deriving DecidableEq

/-- What happens to a request, at its address. -/
def ReqPtr.events (ptr : ReqPtr) (calls : List ReqCall) : List ReqEvent :=
  calls.map (ReqEvent.mk ptr.ref)

/-- What happens at an address. -/
def callsTo (events : List ReqEvent) (ref : Nat) : List ReqCall :=
  (events.filter fun e => e.ref = ref).map ReqEvent.call

@[simp] theorem callsTo_nil (ref : Nat) : callsTo [] ref = [] := rfl

@[simp] theorem callsTo_append (a b : List ReqEvent) (ref : Nat) :
    callsTo (a ++ b) ref = callsTo a ref ++ callsTo b ref := by
  simp [callsTo]

theorem callsTo_events_self (ptr : ReqPtr) (calls : List ReqCall) :
    callsTo (ptr.events calls) ptr.ref = calls := by
  simp [callsTo, ReqPtr.events, List.filter_map, Function.comp_def]

theorem callsTo_events_of_ne {ptr : ReqPtr} {ref : Nat} (h : ptr.ref ≠ ref)
    (calls : List ReqCall) : callsTo (ptr.events calls) ref = [] := by
  simp [callsTo, ReqPtr.events, List.filter_map, Function.comp_def, h]

/-! ## The last that happens to a request -/

variable {lib} {req : GsupReq}

/-- A response that says nothing about what it responds to goes with it. -/
theorem osmoGsupMakeResponse_fst (lib : GsupProtocol) (response rx : GsupMessage)
    (error finalResponse : Bool)
    (himsi : response.imsi.bytes = [] ∨ response.imsi = rx.imsi) (hclass : response.messageClass = 0)
    (hmr : response.smRpMr = none) (hid : response.sessionId = 0) :
    (osmoGsupMakeResponse lib.toGsupLib response rx error finalResponse).1 = 0 := by
  have hcstr : (fillResponse lib.toGsupLib response rx error finalResponse).imsi = rx.imsi := by
    rcases himsi with himsi | himsi <;> simp [fillResponse, himsi]
  simp [osmoGsupMakeResponse, hcstr]
  simp [fillResponse, hclass, hmr, hid]

/-- A response that goes with its request is sent. -/
theorem osmoGsupReqRespond_spec {response : GsupMessage} {error finalResponse : Bool}
    (hcb : req.sendResponseCb = true)
    (hrc : (osmoGsupMakeResponse lib.toGsupLib response req.gsup error finalResponse).1 = 0) :
    osmoGsupReqRespond lib.toGsupLib req response error finalResponse =
      (0, .sendResponseCb req (fillResponse lib.toGsupLib response req.gsup error finalResponse) ::
        if finalResponse then [.free req] else []) := by
  unfold osmoGsupReqRespond
  simp only [hrc, hcb]
  rfl

/-- **A response of a given type is sent, and it is the last.** -/
theorem osmoGsupReqRespondMsgt_spec (lib : GsupProtocol) (hcb : req.sendResponseCb = true)
    (p : Procedure) (k : MsgKind) :
    ∃ response, (osmoGsupReqRespondMsgt lib.toGsupLib req (lib.msgt p k) true).2 =
        [.sendResponseCb req response, .free req] ∧
      response.messageType = lib.msgt p k := by
  have hrc := osmoGsupMakeResponse_fst lib { GsupMessage.zero with messageType := lib.msgt p k }
    req.gsup (lib.isMsgtError (lib.msgt p k)) true (Or.inl rfl) rfl rfl rfl
  exact ⟨_, congrArg Prod.snd (osmoGsupReqRespond_spec hcb hrc), if_neg (lib.msgt_ne p k).1⟩

/-- **A request is answered with an error of its procedure, and it is the last.** -/
theorem osmoGsupReqRespondErr_spec (hcb : req.sendResponseCb = true) {p : Procedure}
    (hreq : req.gsup.messageType = lib.msgt p .request) (cause : UInt8) :
    ∃ response, osmoGsupReqRespondErr lib.toGsupLib req cause =
        [.sendResponseCb req response, .free req] ∧
      response.messageType = lib.msgt p .error := by
  have hrc := osmoGsupMakeResponse_fst lib { GsupMessage.zero with cause := cause } req.gsup true
    true (Or.inl rfl) rfl rfl rfl
  have hisreq : lib.isMsgtRequest req.gsup.messageType = true := by
    rw [hreq, (lib.is_msgt p .request).1]
    rfl
  refine ⟨_, (?_ : _ = _).trans (congrArg Prod.snd (osmoGsupReqRespond_spec hcb hrc)), ?_⟩
  · simp [osmoGsupReqRespondErr, hisreq]
  · simp only [fillResponse, GsupMessage.zero]
    rw [hreq, (lib.to_msgt p .request).1]
    rfl

end Gsup
end OsmoHlr
