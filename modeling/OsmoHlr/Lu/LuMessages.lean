import OsmoHlr.Gsup.ReqUse
import OsmoHlr.Lu.LuAnswers

/-!
# What becomes of the messages to an LU

Messages other than Update Location Requests go through `lu_rx_gsup` to the LU of their
subscriber, and are freed on the way.  `luRxGsupUses` is what is done with such a message,
line by line; `luRxGsup_calls` says that it is what the LUs do with it.

* `released_luRxGsupUses_iff` — only an Insert Data Error for an open LU is not freed.
* `messageReleased_iff` — so it is in every run.
-/

namespace OsmoHlr
namespace LuFsm

open CString CniPeerId Gsup Ownership

variable (lib : GsupProtocol)

/-! ## Line by line -/

/-- What `lu_fsm_wait_insert_data_result` does with the message. -/
def luFsmWaitInsertDataResultUses (req : GsupReq) : List ReqUse :=
  .access ::
    if req.gsup.messageType = lib.msgt .insertData .result then callUses [.free req]
    else if req.gsup.messageType = lib.msgt .insertData .error then
      -- its type is printed
      [.access]
    else callUses (osmoGsupReqRespondErr lib.toGsupLib req (lib.causeNum .gmmMsgtIncompPState))

/-- What `action` of `lu_fsm_states` does with the message. -/
def actionUses (lu : Lu) (req : GsupReq) : List ReqUse :=
  match lu.state with
  | .waitInsertDataResult => luFsmWaitInsertDataResultUses lib req
  | _ => []

/-- What is done with a message that is refused. -/
def refuseUses (req : GsupReq) : List ReqUse :=
  callUses (osmoGsupReqRespondErr lib.toGsupLib req (lib.causeNum .gmmMsgtIncompPState))

/-- What becomes of the message once its LU is found. -/
def dispatchUses (lu : Lu) (req : GsupReq) : List ReqUse :=
  if inEventMask lu.state .rxGsup then actionUses lib lu req else .access :: refuseUses lib req

/-- What `lu_rx_gsup` does with the message, from the loop over the LUs on. -/
def luRxGsupLoopUses (req : GsupReq) : List Lu → List ReqUse
  | [] => refuseUses lib req
  | lu :: lus =>
      .access ::
        if lu.subscr.imsi ≠ req.gsup.imsi then luRxGsupLoopUses req lus
        else dispatchUses lib lu req

/-- What `lu_rx_gsup` does with a message other than an Update Location Request. -/
def luRxGsupUses (g : AllLu) (req : GsupReq) : List ReqUse :=
  .access :: luRxGsupLoopUses lib req g.lus

/-- What happens to a message, without the mere looking at it. -/
def happens (uses : List ReqUse) : List ReqUse := uses.filter (· ≠ .access)

/-- A message is released before `lu_rx_gsup` returns. -/
structure MessageReleased (g : AllLu) (req : GsupReq) (env : Env) : Prop where
  /-- It is freed once, and not looked at any more. -/
  released : Released ReqUse.isFree (luRxGsupUses lib g req)
  /-- Nothing else happens at its address. -/
  calls : happens (luRxGsupUses lib g req) =
    (callsTo (reqEvents (step lib g (.rxGsup req env)).2) g.received).map ReqUse.ofCall

/-- An Insert Data Error for a subscriber with an open LU. -/
def IsErrorForLu (g : AllLu) (req : GsupReq) : Prop :=
  req.gsup.messageType = lib.msgt .insertData .error ∧
    ∃ lu ∈ g.lus, lu.subscr.imsi = req.gsup.imsi

variable {lib} {g : AllLu} {req : GsupReq}

/-! ## Released -/

/-- The request is freed, without a response. -/
theorem released_free (req : GsupReq) : Released ReqUse.isFree (callUses [.free req]) := by
  rw [callUses, released_cons isFree_access]
  exact (released_cons_free isFree_free).2 rfl

theorem released_waitInsertDataResult_iff :
    Released ReqUse.isFree (luFsmWaitInsertDataResultUses lib req) ↔
      req.gsup.messageType ≠ lib.msgt .insertData .error := by
  unfold luFsmWaitInsertDataResultUses
  rw [released_cons isFree_access]
  split
  next hresult =>
      refine iff_of_true (released_free req) fun herror => ?_
      have hkind := (lib.msgt_eq_iff.1 (hresult.symm.trans herror)).2
      cases hkind
  next =>
      split
      next herror =>
          rw [released_cons isFree_access]
          exact iff_of_false released_nil fun h => h herror
      next herror => exact iff_of_true (released_respondErr _ _ _) herror

theorem released_luRxGsupLoopUses_iff {lus : List Lu}
    (hwaiting : ∀ lu ∈ lus, lu.state = .waitInsertDataResult) :
    Released ReqUse.isFree (luRxGsupLoopUses lib req lus) ↔
      ¬(req.gsup.messageType = lib.msgt .insertData .error ∧
        ∃ lu ∈ lus, lu.subscr.imsi = req.gsup.imsi) := by
  induction lus with
  | nil => exact iff_of_true (released_respondErr _ _ _) (by simp)
  | cons lu lus ih =>
      rw [luRxGsupLoopUses, released_cons isFree_access]
      split
      next hother =>
          rw [ih fun x hx => hwaiting x (List.mem_cons_of_mem lu hx)]
          simp [hother]
      next hsame =>
          have hstate := hwaiting lu List.mem_cons_self
          have himsi := not_not.1 hsame
          have hmask : inEventMask lu.state .rxGsup = true := by
            rw [hstate]
            rfl
          rw [dispatchUses, if_pos hmask, actionUses, hstate]
          simp only
          rw [released_waitInsertDataResult_iff, not_and_or]
          refine (or_iff_left ?_).symm
          exact not_not.2 ⟨lu, List.mem_cons_self, himsi⟩

/-- **Only an Insert Data Error for an open LU is not freed.** -/
theorem released_luRxGsupUses_iff (hwaiting : ∀ lu ∈ g.lus, lu.state = .waitInsertDataResult) :
    Released ReqUse.isFree (luRxGsupUses lib g req) ↔ ¬IsErrorForLu lib g req := by
  rw [luRxGsupUses, released_cons isFree_access]
  exact released_luRxGsupLoopUses_iff hwaiting

/-! ## What the LUs do -/

theorem happens_access (uses : List ReqUse) : happens (.access :: uses) = happens uses :=
  List.filter_cons_of_neg (by simp)

theorem happens_callUses (calls : List ReqCall) :
    happens (callUses calls) = calls.map ReqUse.ofCall := by
  rw [callUses, happens_access, happens, List.filter_eq_self]
  intro use huse
  obtain ⟨call, -, rfl⟩ := List.mem_map.1 huse
  cases call <;> simp [ReqUse.ofCall]

/-- The message goes to the first LU of its subscriber. -/
theorem happens_luRxGsupUses (req : GsupReq) (g : AllLu) :
    happens (luRxGsupUses lib g req) =
      match g.lus.find? fun lu => lu.subscr.imsi = req.gsup.imsi with
      | none => happens (refuseUses lib req)
      | some lu => happens (dispatchUses lib lu req) := by
  rw [luRxGsupUses, happens_access]
  induction g.lus with
  | nil => rfl
  | cons lu lus ih =>
      rw [luRxGsupLoopUses, happens_access, List.find?_cons]
      by_cases himsi : lu.subscr.imsi = req.gsup.imsi
      · simp [himsi]
      · simp [himsi, ih]

/-- Nothing of what happens to the request of an LU happens to another one. -/
theorem Ends.callsTo_eq_nil {lu : Lu} {ptr : ReqPtr} {next : AllLu × List Out}
    (h : Ends lib g lu ptr next) {ref : Nat} (href : ptr.ref ≠ ref) :
    callsTo (reqEvents next.2) ref = [] := by
  obtain ⟨calls, hout, -⟩ := h.final
  rw [hout]
  exact callsTo_events_of_ne href calls

theorem callsTo_reqOut (ptr : ReqPtr) (calls : List ReqCall) :
    callsTo (reqEvents (reqOut ptr calls)) ptr.ref = calls := by
  rw [reqEvents_reqOut, callsTo_events_self]

/-- The action does with the message what is done line by line. -/
theorem action_calls {lu : Lu} {ptr : ReqPtr} (hstate : lu.state = .waitInsertDataResult)
    {owned : ReqPtr} (howned : lu.updateLocationReq = some owned) (hreq : IsRequest lib owned.req)
    (href : owned.ref ≠ ptr.ref) :
    (callsTo (reqEvents (action lib g lu ptr).2) ptr.ref).map ReqUse.ofCall =
      happens (actionUses lib lu ptr.req) := by
  have hsuccess := (luSuccess_ends g howned hreq).callsTo_eq_nil href
  have hfailure := (luFailure_ends g howned hreq .gmmNetFail .rxInsertDataError).callsTo_eq_nil href
  rw [action, actionUses, hstate]
  simp only
  unfold luFsmWaitInsertDataResult luFsmWaitInsertDataResultUses
  rw [happens_access]
  split
  · rw [reqEvents_append, callsTo_append, callsTo_reqOut, hsuccess, happens_callUses,
      List.append_nil]
  · split
    · rw [hfailure, happens_access]
      rfl
    · rw [callsTo_reqOut, happens_callUses]

/-- **What is done line by line is what the LUs do.** -/
theorem luRxGsup_calls (h : Owned lib g) (hwaiting : ∀ lu ∈ g.lus, lu.state = .waitInsertDataResult)
    (htype : req.gsup.messageType ≠ lib.msgt .updateLocation .request) (env : Env) :
    happens (luRxGsupUses lib g req) =
      (callsTo (reqEvents (step lib g (.rxGsup req env)).2) g.received).map ReqUse.ofCall := by
  rw [happens_luRxGsupUses, step, luRxGsup, if_neg htype]
  simp only
  cases hfind : g.lus.find? fun lu => lu.subscr.imsi = req.gsup.imsi with
  | none =>
      simp only
      rw [refuseUses, happens_callUses]
      exact congrArg (List.map ReqUse.ofCall) (callsTo_reqOut ⟨g.received, req⟩ _).symm
  | some lu =>
      have hlu := List.mem_of_find?_eq_some hfind
      have hstate := hwaiting lu hlu
      obtain ⟨owned, howned, hreq⟩ := h.owns lu hlu
      have hmask : inEventMask lu.state .rxGsup = true := by
        rw [hstate]
        rfl
      simp only [dispatchUses, osmoFsmInstDispatch, hmask, ↓reduceIte, ne_eq, not_true_eq_false,
        List.append_nil]
      have href : (⟨lu.ref, owned⟩ : ReqPtr).ref ≠ (⟨g.received, req⟩ : ReqPtr).ref :=
        Nat.ne_of_lt (h.ref_lt lu hlu)
      exact (action_calls hstate howned hreq href).symm

/-! ## Runs -/

/-- **Every message that is not an Update Location Request is released**, in any state that a run
comes to, except for an Insert Data Error for an open LU. -/
theorem messageReleased_iff (lib : GsupProtocol) (inputs : List Input)
    (hcb : ∀ req ∈ inputs.flatMap handed, req.sendResponseCb = true) (req : GsupReq)
    (htype : req.gsup.messageType ≠ lib.msgt .updateLocation .request) (env : Env) :
    MessageReleased lib ((machine lib).run AllLu.init inputs).1 req env ↔
      ¬IsErrorForLu lib ((machine lib).run AllLu.init inputs).1 req := by
  have h : AnsweredOnce lib _ _ _ := answeredOnce_run inputs hcb
  rw [← released_luRxGsupUses_iff h.waiting]
  exact ⟨fun hmsg => hmsg.released, fun hrel => ⟨hrel, luRxGsup_calls h.owned h.waiting htype env⟩⟩

/-- The result for the LU of a VLR is released. -/
theorem messageReleased_vlr :
    MessageReleased Host.gsupProtocol
      ((machine Host.gsupProtocol).run AllLu.init
        [.rxGsup (msgFrom "vlr" 0x04 .cs) hostEnv]).1 (msgFrom "vlr" 0x12 .absent) hostEnv :=
  (messageReleased_iff Host.gsupProtocol [.rxGsup (msgFrom "vlr" 0x04 .cs) hostEnv]
    (by decide +kernel) (msgFrom "vlr" 0x12 .absent) (by decide +kernel) hostEnv).2
    fun h => absurd h.1 (by decide +kernel)

/-- The error for the LU of a VLR is not. -/
theorem messageReleased_not_always :
    ¬∀ (lib : GsupProtocol) (inputs : List Input),
      (∀ req ∈ inputs.flatMap handed, req.sendResponseCb = true) → ∀ req : GsupReq,
      req.gsup.messageType ≠ lib.msgt .updateLocation .request → ∀ env,
      MessageReleased lib ((machine lib).run AllLu.init inputs).1 req env := by
  intro h
  have hreleased := (h Host.gsupProtocol [.rxGsup (msgFrom "vlr" 0x04 .cs) hostEnv]
    (by decide +kernel) (msgFrom "vlr" 0x11 .absent) (by decide +kernel) hostEnv).released
  revert hreleased
  decide +kernel

end LuFsm
end OsmoHlr
