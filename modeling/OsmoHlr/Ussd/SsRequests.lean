import OsmoHlr.Gsup.ReqUse
import OsmoHlr.Ussd.Sessions
import OsmoHlr.Ussd.UssdLibHost

/-!
# Who owns an SS request

The session that a request begins stores it, and frees it when it is freed itself.  Any
other request is freed by `rx_proc_ss_req`, or by the error response to it.  Two exits free
nothing: an END for an unknown session, and all of `rx_proc_ss_error`.

* `dispatch_balanced`, `rx_balanced` — which requests are left, and that all others have
  been freed.
* `requests_owned_iff` — in any run, requests are freed once or stored once, exactly as
  long as no message takes one of these exits and no handler is used that is not there.
* `end_unknown_leaks` — what happens otherwise.
-/

namespace OsmoHlr
namespace Ussd

open CString CniPeerId Gsup Ownership

/-! ## Errors -/

/-- `rx_proc_ss_error`: there is a log message, and nothing else. -/
def rxProcSsError (hlr : Hlr) (_ptr : ReqPtr) : Hlr × List Out := (hlr, [])

/-- What may happen, errors included. -/
inductive SsInput where
  /-- A message is handed to `rx_proc_ss_error`. -/
  | procSsError (req : GsupReq)
  | input (input : Input)

/-- One of them, unless there was a fault before. -/
def ssStep (lib : SsLib) (s : Except Fault Hlr) : SsInput → Except Fault Hlr × List Out
  | .procSsError req =>
      match s with
      | .error fault => (.error fault, [])
      | .ok hlr =>
          let done := rxProcSsError { hlr with allocs := hlr.allocs + 1 } ⟨hlr.allocs, req⟩
          (.ok done.1, done.2)
  | .input input => step lib s input

/-- The whole as a machine. -/
def ssMachine (lib : SsLib) : Machine (Except Fault Hlr) SsInput Out := ⟨ssStep lib⟩

/-- The request that is handed over. -/
def handed : Except Fault Hlr → SsInput → List ReqPtr
  | .ok hlr, .procSsError req => [⟨hlr.allocs, req⟩]
  | .ok hlr, .input (.rx req _) => [⟨hlr.allocs, req⟩]
  | _, _ => []

/-- All requests that are handed over in a run. -/
def received (lib : SsLib) (inputs : List SsInput) : List ReqPtr :=
  (ssMachine lib).view handed (.ok Hlr.init) inputs

/-! ## What is done with requests -/

/-- What happens to requests. -/
def reqEvents (out : List Out) : List ReqEvent :=
  out.filterMap fun
    | .req event => some event
    | _ => none

/-- What is done with the request at an address. -/
def usesOf (out : List Out) (ref : Nat) : List ReqUse :=
  (callsTo (reqEvents out) ref).map ReqUse.ofCall

/-- The requests that a session stores. -/
def SsSession.reqs (ss : SsSession) : List ReqPtr :=
  ss.initialReqFromMs.toList ++ ss.initialReqFromEuse.toList

/-- The requests that are stored as `initial_req_from_ms` or `initial_req_from_euse`. -/
def Hlr.stored (hlr : Hlr) : List ReqPtr := hlr.ssSessions.flatMap SsSession.reqs

/-- The request is stored once and has not been freed, or it is stored nowhere, and it has been
freed after everything else that was done with it. -/
def OwnedOnce (hlr : Hlr) (ptr : ReqPtr) (uses : List ReqUse) : Prop :=
  hlr.stored.count ptr = 1 ∧ Ownership.Kept ReqUse.isFree uses ∨
    ptr ∉ hlr.stored ∧ Released ReqUse.isFree uses

instance (hlr : Hlr) (ptr : ReqPtr) (uses : List ReqUse) : Decidable (OwnedOnce hlr ptr uses) :=
  inferInstanceAs (Decidable (_ ∨ _))

/-- Nothing undefined has happened in a run, and every request that was handed over is owned
once. -/
def RequestsOwned (lib : SsLib) (inputs : List SsInput) : Prop :=
  match (ssMachine lib).run (.ok Hlr.init) inputs with
  | (.error _, _) => False
  | (.ok hlr, out) => ∀ ptr ∈ received lib inputs, OwnedOnce hlr ptr (usesOf out ptr.ref)

instance (lib : SsLib) (inputs : List SsInput) : Decidable (RequestsOwned lib inputs) := by
  unfold RequestsOwned
  split <;> infer_instance

/-- An END for a session that is not there. -/
structure EndsUnknown (lib : SsLib) (hlr : Hlr) (req : GsupReq) : Prop where
  state : req.gsup.sessionState = .stateEnd
  source : req.sourceName.type = .ipaName
  request : ssRequest lib req.gsup ≠ none
  unknown : ssSessionFind hlr req.gsup.imsi req.gsup.sessionId = none

/-- The message is no error, and no END for an unknown session, and uses no handler that is not
there. -/
def FreesRequest (lib : SsLib) : Except Fault Hlr → SsInput → Prop
  | .ok _, .procSsError _ => False
  | .ok hlr, .input (.rx req _) =>
      ¬EndsUnknown lib hlr req ∧ ¬Confuses lib hlr ⟨hlr.allocs, req⟩ ∧
        ¬AsksFreed lib hlr ⟨hlr.allocs, req⟩
  | _, _ => True

variable {lib : SsLib} {env : Env} {hlr next mid : Hlr} {ss : SsSession} {req : SsRequest}
  {gsup : GsupMessage} {ptr : ReqPtr} {out out' : List Out}

@[simp] theorem reqEvents_append (a b : List Out) :
    reqEvents (a ++ b) = reqEvents a ++ reqEvents b := List.filterMap_append

@[simp] theorem reqEvents_reqOut (ptr : ReqPtr) (calls : List ReqCall) :
    reqEvents (reqOut ptr calls) = ptr.events calls := by
  rw [reqEvents, reqOut, List.filterMap_map]
  exact List.filterMap_some

@[simp] theorem reqEvents_sent (sent : List Sent) : reqEvents (sent.map Out.sent) = [] := by
  simp [reqEvents]

@[simp] theorem usesOf_nil (ref : Nat) : usesOf [] ref = [] := rfl

theorem usesOf_append (a b : List Out) (ref : Nat) :
    usesOf (a ++ b) ref = usesOf a ref ++ usesOf b ref := by
  simp [usesOf]

theorem usesOf_reqOut_self (ptr : ReqPtr) (calls : List ReqCall) :
    usesOf (reqOut ptr calls) ptr.ref = calls.map ReqUse.ofCall := by
  rw [usesOf, reqEvents_reqOut, callsTo_events_self]

theorem usesOf_reqOut_of_ne {ref : Nat} (h : ptr.ref ≠ ref) (calls : List ReqCall) :
    usesOf (reqOut ptr calls) ref = [] := by
  rw [usesOf, reqEvents_reqOut, callsTo_events_of_ne h, List.map_nil]

/-- One step after the other. -/
theorem balanced_append {live mid held : Nat → Prop}
    (h : Balanced ReqUse.isFree live mid (usesOf out))
    (h' : Balanced ReqUse.isFree mid held (usesOf out')) :
    Balanced ReqUse.isFree live held (usesOf (out ++ out')) := by
  have huses : usesOf (out ++ out') = fun k => usesOf out k ++ usesOf out' k :=
    funext fun k => usesOf_append out out' k
  rw [huses]
  exact h.trans h'

/-! ## What sessions store -/

/-- A session stores one request, which has its address. -/
def SsSession.Stores (ss : SsSession) : Prop := ∃ req, ss.reqs = [⟨ss.ref, req⟩]

theorem stores_core (ss : SsSession) : ss.core.Stores ↔ ss.Stores := Iff.rfl

/-- All sessions do. -/
def Stores (hlr : Hlr) : Prop := ∀ ss ∈ hlr.ssSessions, ss.Stores

theorem Stores.kept (h : Stores hlr) (hkept : Kept hlr next) : Stores next :=
  hkept.forall stores_core h

theorem Stores.removeSession (h : Stores hlr) (ref : Nat) : Stores (hlr.removeSession ref) :=
  fun ss hss => h ss (Keyed.mem_remove.1 hss).1

theorem Stores.addSession (h : Stores hlr) (hss : ss.Stores) : Stores (hlr.addSession ss) := by
  intro x hx
  rcases List.mem_append.1 hx with hx | hx
  · exact h x hx
  · exact List.mem_singleton.1 hx ▸ hss

theorem Stores.of_has (h : Stores hlr) (hss : Has hlr ss) : ss.Stores := by
  obtain ⟨x, hx, hcore⟩ := hss
  rw [← stores_core, ← hcore, stores_core]
  exact h x hx

theorem setHandler_reqs (ss : SsSession) (hlr : Hlr) (isEuse : Bool) (source : PeerId)
    (ussdText : CStr) : (ss.setHandler hlr isEuse source ussdText).reqs = ss.reqs := by
  unfold SsSession.setHandler
  split
  · rfl
  · split
    · rfl
    · split <;> rfl

/-- A new session stores its request. -/
theorem beginSession_reqs (lib : SsLib) (hlr : Hlr) (ptr : ReqPtr) (isEuse : Bool)
    (ssReq : SsRequest) : (beginSession lib hlr ptr isEuse ssReq).reqs = [ptr] := by
  unfold beginSession
  simp only
  split
  · rw [setHandler_reqs]
    cases isEuse <;> rfl
  · cases isEuse <;> rfl

theorem beginSession_stores (lib : SsLib) (hlr : Hlr) (ptr : ReqPtr) (isEuse : Bool)
    (ssReq : SsRequest) : (beginSession lib hlr ptr isEuse ssReq).Stores := by
  refine ⟨ptr.req, ?_⟩
  rw [beginSession_reqs, (beginSession_ids lib hlr ptr isEuse ssReq).1]

/-- What is stored is stored at the addresses of the sessions. -/
theorem Stores.map_ref (h : Stores hlr) : hlr.stored.map ReqPtr.ref = hlr.refs := by
  rw [Hlr.stored, Hlr.refs, List.map_flatMap]
  have hone : ∀ ss ∈ hlr.ssSessions, ss.reqs.map ReqPtr.ref = [ss.ref] := by
    intro ss hss
    obtain ⟨req, hreqs⟩ := h ss hss
    rw [hreqs]
    rfl
  rw [List.flatMap_congr hone, List.map_eq_flatMap]

/-! ## What a message leaves -/

/-- At most a response is made, to the request that a session stores. -/
structure Quiet (ss : SsSession) (out : List Out) : Prop where
  kept : ∀ ref, Ownership.Kept ReqUse.isFree (usesOf out ref)
  other : ∀ ref, ref ≠ ss.ref → usesOf out ref = []

theorem Quiet.of_nil (h : reqEvents out = []) : Quiet ss out := by
  have huses : ∀ ref, usesOf out ref = [] := fun ref => by rw [usesOf, h]; rfl
  exact ⟨fun ref => by rw [huses]; exact kept_nil, fun ref _ => huses ref⟩

/-- A response that is not final does not free the request. -/
theorem kept_respond (lib : GsupLib) (req : GsupReq) (response : GsupMessage) :
    Ownership.Kept ReqUse.isFree
      ((osmoGsupReqRespond lib req response false false).2.map ReqUse.ofCall) := by
  unfold osmoGsupReqRespond
  simp only
  split
  · exact kept_nil
  · split
    · exact kept_nil
    · exact (kept_cons rfl).2 kept_nil

section ToMs

variable (lib env hlr) (hstores : ss.Stores)
include hstores

theorem ssGsupSendToMs_quiet (gsup : GsupMessage) :
    Quiet ss (ssGsupSendToMs lib env hlr ss gsup).2 := by
  unfold ssGsupSendToMs
  split
  next ptr hptr =>
      obtain ⟨req, hreqs⟩ := hstores
      rw [SsSession.reqs, hptr, Option.toList_some, List.singleton_append, List.cons.injEq] at hreqs
      have href : ptr.ref = ss.ref := congrArg ReqPtr.ref hreqs.1
      refine ⟨fun ref => ?_, fun ref hne => usesOf_reqOut_of_ne (by rw [href]; exact hne.symm) _⟩
      by_cases hself : ptr.ref = ref
      · rw [← hself, usesOf_reqOut_self]
        exact kept_respond _ _ _
      · rw [usesOf_reqOut_of_ne hself]
        exact kept_nil
  · split
    · exact .of_nil rfl
    · split
      · exact .of_nil rfl
      · simp only
        split
        · exact .of_nil rfl
        · exact .of_nil (reqEvents_sent _)

theorem ssTxToMs_quiet (gsupMsgType : UInt8) (final : Bool) (ssMsg : List UInt8) :
    Quiet ss (ssTxToMs lib env hlr ss gsupMsgType final ssMsg).2 := by
  have hquiet := ssGsupSendToMs_quiet lib env hlr hstores (ss.resp gsupMsgType final ssMsg)
  have huses : ∀ ref, usesOf (ssTxToMs lib env hlr ss gsupMsgType final ssMsg).2 ref =
      usesOf (ssGsupSendToMs lib env hlr ss (ss.resp gsupMsgType final ssMsg)).2 ref := by
    intro ref
    simp only [ssTxToMs, usesOf_append]
    split <;> exact List.append_nil _
  exact ⟨fun ref => huses ref ▸ hquiet.kept ref, fun ref hne => huses ref ▸ hquiet.other ref hne⟩

theorem handleUssd_iuse_quiet (iuse : Iuse) (req : SsRequest) :
    Quiet ss (iuse.handleUssd lib env hlr ss req).2 := by
  cases iuse with
  | ownMsisdn =>
      simp only [Iuse.handleUssd, handleUssdOwnMsisdn]
      split
      · exact ssTxToMs_quiet lib env hlr hstores _ _ _
      · exact ssTxToMs_quiet lib env hlr hstores _ _ _
  | ownImsi => exact ssTxToMs_quiet lib env hlr hstores _ _ _

end ToMs

theorem mem_refs_removeSession {ref n : Nat} :
    n ∈ (hlr.removeSession ref).refs ↔ n ∈ hlr.refs ∧ n ≠ ref := by
  unfold Hlr.refs Hlr.removeSession
  simp only [List.mem_map, Keyed.mem_remove]
  constructor
  · rintro ⟨x, ⟨hx, hne⟩, rfl⟩
    exact ⟨⟨x, hx, rfl⟩, hne⟩
  · rintro ⟨⟨x, hx, rfl⟩, hne⟩
    exact ⟨x, ⟨hx, hne⟩, rfl⟩

theorem mem_refs_of_has (h : Has hlr ss) : ss.ref ∈ hlr.refs := by
  obtain ⟨x, hx, hcore⟩ := h
  have href : x.core.ref = ss.core.ref := congrArg SsSession.ref hcore
  exact List.mem_map.2 ⟨x, hx, href⟩

/-- What only responds leaves all requests where they are. -/
theorem balanced_of_quiet (hss : Has hlr ss) (hkept : Kept hlr next) (hquiet : Quiet ss out) :
    Balanced ReqUse.isFree (· ∈ hlr.refs) (· ∈ next.refs) (usesOf out) := by
  refine .of_kept (fun ref => by rw [hkept.refs]) hquiet.kept fun ref href => ?_
  exact hquiet.other ref fun hself => href (hself ▸ mem_refs_of_has hss)

/-- **A session that is freed frees its request.** -/
theorem ssSessionFree_balanced (hall : Stores hlr) {ref : Nat}
    (h : ssSessionFree hlr ref = .ok (next, out)) :
    Balanced ReqUse.isFree (· ∈ hlr.refs) (· ∈ next.refs) (usesOf out) := by
  unfold ssSessionFree at h
  split at h
  · cases h
  next ss hfind =>
      cases h
      have hss : ss ∈ hlr.ssSessions := List.mem_of_find?_eq_some hfind
      have href : ss.ref = ref := by simpa using List.find?_some hfind
      obtain ⟨req, hreqs⟩ := hall ss hss
      have hout : ss.freeReqs = reqOut ⟨ref, req⟩ [.free req] := by
        rw [← href]
        calc ss.freeReqs = ss.reqs.flatMap fun ptr => reqOut ptr [.free ptr.req] := rfl
          _ = reqOut ⟨ss.ref, req⟩ [.free req] := by rw [hreqs, List.flatMap_singleton]
      intro n
      show (n ∈ hlr.refs → Accounted _ (n ∈ (hlr.removeSession ref).refs) _) ∧
        (n ∉ hlr.refs → n ∉ (hlr.removeSession ref).refs ∧ _)
      rw [mem_refs_removeSession, hout]
      by_cases hn : n = ref
      · subst hn
        refine ⟨fun _ => Or.inr ⟨fun hmem => hmem.2 rfl, ?_⟩, fun hnot => ?_⟩
        · rw [usesOf_reqOut_self ⟨n, req⟩]
          exact (released_cons_free rfl).2 rfl
        · exact absurd (href ▸ List.mem_map_of_mem hss) hnot
      · have hquiet : usesOf (reqOut ⟨ref, req⟩ [.free req]) n = [] :=
          usesOf_reqOut_of_ne (Ne.symm hn) _
        rw [hquiet]
        exact ⟨fun hmem => Or.inl ⟨⟨hmem, hn⟩, kept_nil⟩, fun hnot => ⟨fun h => hnot h.1, rfl⟩⟩

/-- A request that is released at once is not stored. -/
theorem balanced_of_released (hnew : ptr.ref ∉ hlr.refs) {calls : List ReqCall}
    (h : Released ReqUse.isFree (calls.map ReqUse.ofCall)) :
    Balanced ReqUse.isFree (fun n => n ∈ hlr.refs ∨ n = ptr.ref) (· ∈ hlr.refs)
      (usesOf (reqOut ptr calls)) := by
  intro n
  by_cases hn : ptr.ref = n
  · subst hn
    rw [usesOf_reqOut_self]
    exact ⟨fun _ => Or.inr ⟨hnew, h⟩, fun hnot => absurd (Or.inr rfl) hnot⟩
  · rw [usesOf_reqOut_of_ne hn]
    refine ⟨fun hlive => Or.inl ⟨hlive.resolve_right (Ne.symm hn), kept_nil⟩, fun hnot => ?_⟩
    exact ⟨fun hmem => hnot (Or.inl hmem), rfl⟩

section Dispatch

variable (hrefs : hlr.refs.Nodup) (hss : Has hlr ss) (hall : Stores hlr)
include hrefs hss hall

/-- What a message that has a session leaves stores its requests, too. -/
theorem dispatch_stores {isEuse : Bool}
    (h : dispatch lib env hlr ss isEuse gsup req = .ok (next, out)) : Stores next := by
  have hcases : DispatchCases lib env hlr ss isEuse req (dispatch lib env hlr ss isEuse gsup req) :=
    dispatch_cases hrefs hss isEuse
  rw [h] at hcases
  cases hcases with
  | rejected _ _ hkept _ _ _ => exact hall.kept hkept
  | forwarded _ _ hkept _ _ _ => exact hall.kept hkept
  | handled mid _ _ hkept _ _ _ _ => exact (hall.kept hkept).removeSession _

/-- **A message that has a session leaves all requests where they are, or frees the session and its
request.** -/
theorem dispatch_balanced {isEuse : Bool}
    (h : dispatch lib env hlr ss isEuse gsup req = .ok (next, out)) :
    Balanced ReqUse.isFree (· ∈ hlr.refs) (· ∈ next.refs) (usesOf out) := by
  have hstores := hall.of_has hss
  have hanswer : ∀ {p : Hlr × List Out}, Kept hlr p.1 → Quiet ss p.2 →
      (.ok p : Res) = .ok (next, out) →
      Balanced ReqUse.isFree (· ∈ hlr.refs) (· ∈ next.refs) (usesOf out) := by
    rintro p hkept hquiet hp
    obtain rfl := Except.ok.inj hp
    exact balanced_of_quiet hss hkept hquiet
  have herror : ∀ {code}, (.ok (ssTxToMsError lib env hlr ss req.invokeId code) : Res) =
      .ok (next, out) → Balanced ReqUse.isFree (· ∈ hlr.refs) (· ∈ next.refs) (usesOf out) :=
    hanswer (ssTxToMs_kept lib env hrefs hss _ _ _).1 (ssTxToMs_quiet lib env hlr hstores _ _ _)
  unfold dispatch at h
  split at h
  · unfold handleUssd at h
    split at h
    · exact herror h
    · split at h
      · exact hanswer (ssGsupSendToMs_kept lib env hrefs hss gsup).1
          (ssGsupSendToMs_quiet lib env hlr hstores gsup) h
      · split at h
        · unfold forwardToEuse at h
          split at h
          · split at h
            · cases h
            · split at h
              · exact herror h
              · exact hanswer (Kept.refl hlr) (.of_nil rfl) h
          · cases h
        · unfold handleInternally at h
          split at h
          next iuse _ =>
              obtain ⟨mid, o₁, o₂, hmid, hfree, rfl⟩ := Res.andThen_eq_ok h
              have hp := Except.ok.inj hmid
              have hkept : Kept hlr mid := by
                have := (handleUssd_iuse_kept lib env hrefs hss iuse req).1
                rwa [hp] at this
              have hquiet : Quiet ss o₁ := by
                have := handleUssd_iuse_quiet lib env hlr hstores iuse req
                rwa [hp] at this
              exact balanced_append (balanced_of_quiet hss hkept hquiet)
                (ssSessionFree_balanced (hall.kept hkept) hfree)
          · cases h
  · exact herror h

end Dispatch

/-! ## Messages -/

/-- After what is done with other requests, the request itself is freed. -/
theorem freed_balanced {res : Res} (hnew : ptr.ref ∉ hlr.refs)
    (hres : ∀ {mid o}, res = .ok (mid, o) →
      Balanced ReqUse.isFree (· ∈ hlr.refs) (· ∈ mid.refs) (usesOf o))
    (h : res.andThen (freeReq ptr) = .ok (next, out)) :
    Balanced ReqUse.isFree (fun n => n ∈ hlr.refs ∨ n = ptr.ref) (· ∈ next.refs) (usesOf out) := by
  obtain ⟨before, hbefore, rfl⟩ := freeReq_ok h
  have hmid := hres hbefore
  have hnext : ptr.ref ∉ next.refs := ((hmid ptr.ref).2 hnew).1
  have hgrown := hmid.grow fun n (hn : n = ptr.ref) => hn ▸ hnew
  exact balanced_append hgrown (balanced_of_released hnext ((released_cons_free rfl).2 rfl))

theorem refuse_balanced (hnew : ptr.ref ∉ hlr.refs) {cause : Cause}
    (h : refuse lib hlr ptr cause = .ok (next, out)) :
    Balanced ReqUse.isFree (fun n => n ∈ hlr.refs ∨ n = ptr.ref) (· ∈ next.refs) (usesOf out) := by
  cases h
  have hreleased := released_respondErr lib.toGsupLib ptr.req (lib.causeNum cause)
  exact balanced_of_released hnew ((released_cons isFree_access).1 hreleased)

section Rx

variable (hwf : WellFormed hlr) (hall : Stores hlr) (hnew : ptr.ref ∉ hlr.refs)
include hwf hall hnew

theorem rxBegin_balanced {isEuse : Bool} (h : rxBegin lib env hlr ptr isEuse req = .ok (next, out)) :
    Balanced ReqUse.isFree (fun n => n ∈ hlr.refs ∨ n = ptr.ref) (· ∈ next.refs) (usesOf out) := by
  unfold rxBegin at h
  split at h
  · exact refuse_balanced hnew h
  · have href := (beginSession_ids lib hlr ptr isEuse req).1
    have hstores := beginSession_stores lib hlr ptr isEuse req
    simp only at h
    generalize beginSession lib hlr ptr isEuse req = ss at h href hstores
    have hhas : Has (hlr.addSession ss) ss :=
      Has.of_mem (List.mem_append_right _ (List.mem_singleton_self _))
    refine (dispatch_balanced (addSession_refs_nodup hwf.refs (href ▸ hnew)) hhas
      (hall.addSession hstores) h).congr (fun n => ?_) fun _ => Iff.rfl
    rw [Hlr.refs, Hlr.refs, Hlr.addSession, List.map_append, List.mem_append, List.map_singleton,
      List.mem_singleton, href]

theorem rxContinue_balanced {isEuse : Bool}
    (h : rxContinue lib env hlr ptr isEuse req = .ok (next, out)) :
    Balanced ReqUse.isFree (fun n => n ∈ hlr.refs ∨ n = ptr.ref) (· ∈ next.refs) (usesOf out) := by
  unfold rxContinue at h
  split at h
  · exact refuse_balanced hnew h
  next ss hfind =>
      have hhas : Has hlr (ss.reschedule hlr) := ⟨ss, (ssSessionFind_eq_some hfind).1, rfl⟩
      have hkept := setSession_kept hwf.refs hhas
      refine freed_balanced hnew (fun hres => ?_) h
      refine (dispatch_balanced (hkept.refs ▸ hwf.refs) (hkept.has_iff.2 hhas) (hall.kept hkept)
        hres).congr (fun n => ?_) fun _ => Iff.rfl
      rw [hkept.refs]

theorem rxEnd_balanced {isEuse : Bool} (h : rxEnd lib env hlr ptr isEuse req = .ok (next, out))
    (hfound : ssSessionFind hlr ptr.req.gsup.imsi ptr.req.gsup.sessionId ≠ none) :
    Balanced ReqUse.isFree (fun n => n ∈ hlr.refs ∨ n = ptr.ref) (· ∈ next.refs) (usesOf out) := by
  unfold rxEnd at h
  split at h
  next hnone => exact absurd hnone hfound
  next ss hfind =>
      have hhas : Has hlr ss := Has.of_mem (ssSessionFind_eq_some hfind).1
      refine freed_balanced hnew (fun hres => ?_) h
      obtain ⟨mid, o₁, o₂, hmid, hfree, rfl⟩ := Res.andThen_eq_ok hres
      split at hmid
      · exact balanced_append (dispatch_balanced hwf.refs hhas hall hmid)
          (ssSessionFree_balanced (dispatch_stores hwf.refs hhas hall hmid) hfree)
      · cases hmid
        exact ssSessionFree_balanced hall hfree

/-- **Any message but an END for an unknown session frees its request, or stores it.** -/
theorem rx_balanced (h : rxProcSsReq lib env hlr ptr = .ok (next, out))
    (hfound : ¬EndsUnknown lib hlr ptr.req) :
    Balanced ReqUse.isFree (fun n => n ∈ hlr.refs ∨ n = ptr.ref) (· ∈ next.refs) (usesOf out) := by
  unfold rxProcSsReq at h
  simp only at h
  split at h
  · exact refuse_balanced hnew h
  next hsource =>
      split at h
      · exact refuse_balanced hnew h
      next ssReq hrequest =>
          split at h
          · exact rxBegin_balanced hwf hall hnew h
          · exact rxContinue_balanced hwf hall hnew h
          next hstate =>
              refine rxEnd_balanced hwf hall hnew h fun hnone => hfound ⟨hstate, ?_, ?_, hnone⟩
              · simpa using hsource
              · simp [hrequest]
          · cases h
            exact balanced_of_released hnew ((released_cons_free rfl).2 rfl)

end Rx

/-- **An END for an unknown session does nothing at all.** -/
theorem rx_endsUnknown (lib : SsLib) (env : Env) (ptr : ReqPtr) (h : EndsUnknown lib hlr ptr.req) :
    rxProcSsReq lib env hlr ptr = .ok (hlr, []) := by
  obtain ⟨hstate, hsource, hrequest, hunknown⟩ := h
  obtain ⟨ssReq, hrequest⟩ := Option.ne_none_iff_exists'.1 hrequest
  simp [rxProcSsReq, hsource, hrequest, hstate, rxEnd, hunknown]

/-- What messages leave stores its requests. -/
theorem rx_stores (hwf : WellFormed hlr) (hall : Stores hlr) (hnew : ptr.ref ∉ hlr.refs)
    (h : rxProcSsReq lib env hlr ptr = .ok (next, out)) :
    Stores next ∧ next.allocs = hlr.allocs ∧ ∀ p ∈ next.stored, p ∈ hlr.stored ∨ p = ptr := by
  have hkept_stored : ∀ {a b : Hlr}, Kept a b → b.stored = a.stored := by
    intro a b hkept
    rw [Hlr.stored, Hlr.stored, List.flatMap, List.flatMap,
      hkept.map_eq SsSession.reqs fun _ => rfl]
  cases rx_ok hwf hnew h with
  | kept hkept _ =>
      exact ⟨hall.kept hkept, hkept.allocs, fun p hp => Or.inl (hkept_stored hkept ▸ hp)⟩
  | begun ssReq ss hss _ hkept _ _ =>
      have hstores : ss.Stores := hss ▸ beginSession_stores lib hlr ptr _ ssReq
      refine ⟨(hall.addSession hstores).kept hkept, hkept.allocs, fun p hp => ?_⟩
      rw [hkept_stored hkept, Hlr.stored, Hlr.addSession, List.flatMap_append,
        List.flatMap_singleton, List.mem_append, hss, beginSession_reqs, List.mem_singleton] at hp
      exact hp
  | handled _ _ _ _ hkept _ _ =>
      exact ⟨hall.kept hkept, hkept.allocs, fun p hp => Or.inl (hkept_stored hkept ▸ hp)⟩
  | ended _ ss _ _ hkept _ =>
      refine ⟨(hall.removeSession ss.ref).kept hkept, hkept.allocs, fun p hp => Or.inl ?_⟩
      rw [hkept_stored hkept] at hp
      obtain ⟨x, hx, hp⟩ := List.mem_flatMap.1 hp
      exact List.mem_flatMap.2 ⟨x, (Keyed.mem_remove.1 hx).1, hp⟩

/-! ## Handlers that are not there -/

theorem ssSessionFind_of_mem (hwf : WellFormed hlr) (hss : ss ∈ hlr.ssSessions) :
    ssSessionFind hlr ss.imsi ss.sessionId = some ss := by
  cases hfind : ssSessionFind hlr ss.imsi ss.sessionId with
  | none => exact absurd rfl (ssSessionFind_eq_none_iff.1 hfind ss hss)
  | some x =>
      obtain ⟨hx, himsi, hid⟩ := ssSessionFind_eq_some hfind
      have hids : (x.imsi, x.sessionId) = (ss.imsi, ss.sessionId) := by rw [himsi, hid]
      rw [List.inj_on_of_nodup_map hwf.ids hx hss hids]

/-- A message that is dispatched to a session is no more than what it is dispatched to. -/
theorem rx_of_dispatchedTo (hwf : WellFormed hlr) (env : Env)
    (h : DispatchedTo lib hlr ptr req ss) {fault : Fault}
    (hfault : ∀ mid ss', mid.euseList = hlr.euseList → ss'.core = ss.core →
      dispatch lib env mid ss' (peerNameIsEuse ptr.req.sourceName) ptr.req.gsup req =
        .error fault) : rxProcSsReq lib env hlr ptr = .error fault := by
  rcases h with ⟨hbegins, rfl⟩ | ⟨hconcerns, hstate⟩
  · have hdispatch := hfault (hlr.addSession (beginSession lib hlr ptr
      (peerNameIsEuse ptr.req.sourceName) req)) _ rfl rfl
    simp [rxProcSsReq, hbegins.source, hbegins.request, hbegins.state, rxBegin, hbegins.unused,
      hdispatch]
  · have hfind := ssSessionFind_of_mem hwf hconcerns.mem
    rw [hconcerns.imsi, hconcerns.sessionId] at hfind
    rcases hstate with hstate | ⟨hstate, hinfo⟩
    · have hdispatch := hfault (hlr.setSession (ss.reschedule hlr)) (ss.reschedule hlr) rfl rfl
      simp [rxProcSsReq, hconcerns.source, hconcerns.request, hstate, rxContinue, hfind, hdispatch,
        Res.andThen]
    · have hdispatch := hfault hlr ss rfl rfl
      simp [rxProcSsReq, hconcerns.source, hconcerns.request, hstate, rxEnd, hfind, hinfo,
        hdispatch, Res.andThen]

/-- What is undefined for a message happens. -/
theorem rx_undefined (hwf : WellFormed hlr) (env : Env)
    (h : Confuses lib hlr ptr ∨ AsksFreed lib hlr ptr) :
    ∃ fault, rxProcSsReq lib env hlr ptr = .error fault := by
  rcases h with ⟨ssReq, ss, hto, hussd, heuse, hexternal, ref, hu⟩ |
    ⟨ssReq, ss, hto, hussd, heuse, hexternal, ref, hu, hfind⟩
  · refine ⟨.iuseIsEuse, rx_of_dispatchedTo hwf env hto fun mid ss' _ hcore => ?_⟩
    have hu' : ss'.core.u = ss.core.u := congrArg SsSession.u hcore
    have hu' : ss'.u = .euse ref := hu'.trans hu
    have hexternal' : ss'.core.isExternal = ss.core.isExternal :=
      congrArg SsSession.isExternal hcore
    have hexternal' : ss'.isExternal = false := hexternal'.trans hexternal
    simp [dispatch, hussd, handleUssd, hu', heuse, hexternal', handleInternally]
  · refine ⟨.euseFreed, rx_of_dispatchedTo hwf env hto fun mid ss' heuses hcore => ?_⟩
    have hu' : ss'.core.u = ss.core.u := congrArg SsSession.u hcore
    have hu' : ss'.u = .euse ref := hu'.trans hu
    have hexternal' : ss'.core.isExternal = ss.core.isExternal :=
      congrArg SsSession.isExternal hcore
    have hexternal' : ss'.isExternal = true := hexternal'.trans hexternal
    simp [dispatch, hussd, handleUssd, hu', heuse, hexternal', forwardToEuse, heuses, hfind]

/-! ## Steps -/

/-- How many allocations there have been does not matter. -/
theorem confuses_allocs (n : Nat) :
    Confuses lib { hlr with allocs := n } ptr ↔ Confuses lib hlr ptr := by
  simp only [Confuses, dispatchedTo_allocs]

theorem asksFreed_allocs (n : Nat) :
    AsksFreed lib { hlr with allocs := n } ptr ↔ AsksFreed lib hlr ptr := by
  simp only [AsksFreed, dispatchedTo_allocs]

theorem endsUnknown_allocs (n : Nat) {req : GsupReq} :
    EndsUnknown lib { hlr with allocs := n } req ↔ EndsUnknown lib hlr req :=
  ⟨fun h => ⟨h.state, h.source, h.request, h.unknown⟩,
    fun h => ⟨h.state, h.source, h.request, h.unknown⟩⟩

/-- What one input does with requests: the end of the run, nothing at all, or what is to be done. -/
inductive StepCases (lib : SsLib) (hlr : Hlr) (input : SsInput) :
    Except Fault Hlr × List Out → Prop
  | undefined (fault : Fault) (hnot : ¬FreesRequest lib (.ok hlr) input) :
      StepCases lib hlr input (.error fault, [])
  | leaked (ptr : ReqPtr) (hnot : ¬FreesRequest lib (.ok hlr) input)
      (hhanded : handed (.ok hlr) input = [ptr]) (href : ptr.ref = hlr.allocs) :
      StepCases lib hlr input (.ok { hlr with allocs := hlr.allocs + 1 }, [])
  | settled (next : Hlr) (out : List Out) (hfrees : FreesRequest lib (.ok hlr) input)
      (hwf : WellFormed next) (hall : Stores next) (hallocs : hlr.allocs ≤ next.allocs)
      (hhanded : ∀ ptr ∈ handed (.ok hlr) input, ptr.ref = hlr.allocs ∧ hlr.allocs < next.allocs)
      (hstored : ∀ ptr ∈ next.stored, ptr ∈ hlr.stored ∨ ptr ∈ handed (.ok hlr) input)
      (hbalanced : Balanced ReqUse.isFree
        (fun n => n ∈ hlr.refs ∨ n ∈ (handed (.ok hlr) input).map ReqPtr.ref) (· ∈ next.refs)
        (usesOf out)) :
      StepCases lib hlr input (.ok next, out)

/-- Commands have nothing to do with sessions. -/
theorem apply_command (lib : SsLib) (hlr : Hlr) {input : Input}
    (hrx : ∀ req env, input ≠ .rx req env) (htimeout : ∀ ref, input ≠ .timeout ref) :
    ∃ next, apply lib hlr input = .ok (next, []) ∧ next.ssSessions = hlr.ssSessions ∧
      hlr.allocs ≤ next.allocs := by
  cases input with
  | rx req env => exact absurd rfl (hrx req env)
  | timeout ref => exact absurd rfl (htimeout ref)
  | euse name =>
      refine ⟨_, rfl, ?_⟩
      unfold cfgEuse euseAlloc
      split
      · exact ⟨rfl, le_refl _⟩
      · exact ⟨rfl, Nat.le_succ _⟩
  | noEuse name =>
      refine ⟨_, rfl, ?_⟩
      unfold cfgNoEuse
      split
      · exact ⟨rfl, le_refl _⟩
      · split <;> exact ⟨rfl, le_refl _⟩
  | routeInt pfx iuse =>
      refine ⟨_, rfl, ?_⟩
      unfold cfgUssdRoutePfxInt ussdRoutePrefixAlloc
      split <;> exact ⟨rfl, le_refl _⟩
  | routeExt pfx name =>
      refine ⟨_, rfl, ?_⟩
      unfold cfgUssdRoutePfxExt ussdRoutePrefixAlloc
      split
      · exact ⟨rfl, le_refl _⟩
      · split <;> exact ⟨rfl, le_refl _⟩
  | noRoute pfx =>
      refine ⟨_, rfl, ?_⟩
      unfold cfgUssdNoRoutePfx
      split <;> exact ⟨rfl, le_refl _⟩
  | defaultRoute name =>
      refine ⟨_, rfl, ?_⟩
      unfold cfgUssdDefaultroute
      split <;> exact ⟨rfl, le_refl _⟩
  | noDefaultRoute => exact ⟨_, rfl, rfl, le_refl _⟩
  | guardTimeout timeout => exact ⟨_, rfl, rfl, le_refl _⟩

/-- Timers and commands. -/
theorem apply_settled (lib : SsLib) (hall : Stores hlr) {input : Input}
    (hrx : ∀ req env, input ≠ .rx req env) :
    ∃ next out, apply lib hlr input = .ok (next, out) ∧ Stores next ∧ hlr.allocs ≤ next.allocs ∧
      (∀ ptr ∈ next.stored, ptr ∈ hlr.stored) ∧
      Balanced ReqUse.isFree (· ∈ hlr.refs) (· ∈ next.refs) (usesOf out) := by
  by_cases htimeout : ∃ ref, input = .timeout ref
  · obtain ⟨ref, rfl⟩ := htimeout
    have hidle : Balanced ReqUse.isFree (· ∈ hlr.refs) (· ∈ hlr.refs) (usesOf []) :=
      .of_kept (fun _ => Iff.rfl) (fun _ => kept_nil) fun _ _ => rfl
    simp only [apply]
    split
    · exact ⟨hlr, [], rfl, hall, le_refl _, fun _ h => h, hidle⟩
    next ss hfind =>
        split
        · obtain ⟨x, hx, -, hfree⟩ := ssSessionFree_eq (Has.of_mem (List.mem_of_find?_eq_some hfind))
          refine ⟨_, _, hfree, hall.removeSession _, le_refl _, fun ptr hptr => ?_,
            ssSessionFree_balanced hall hfree⟩
          obtain ⟨y, hy, hptr⟩ := List.mem_flatMap.1 hptr
          exact List.mem_flatMap.2 ⟨y, (Keyed.mem_remove.1 hy).1, hptr⟩
        · exact ⟨hlr, [], rfl, hall, le_refl _, fun _ h => h, hidle⟩
  · obtain ⟨next, happly, hsessions, hallocs⟩ :=
      apply_command lib hlr hrx fun ref h => htimeout ⟨ref, h⟩
    refine ⟨next, [], happly, ?_, hallocs, ?_, ?_⟩
    · rw [Stores, hsessions]
      exact hall
    · rw [Hlr.stored, hsessions]
      exact fun _ h => h
    · refine .of_kept (fun n => ?_) (fun _ => kept_nil) fun _ _ => rfl
      rw [Hlr.refs, hsessions, Hlr.refs]

theorem freesRequest_of_ne_rx (lib : SsLib) (s : Except Fault Hlr) {input : Input}
    (h : ∀ req env, input ≠ .rx req env) :
    FreesRequest lib s (.input input) ∧ handed s (.input input) = [] := by
  cases s with
  | error fault => exact ⟨trivial, rfl⟩
  | ok hlr =>
      cases input with
      | rx req env => exact absurd rfl (h req env)
      | _ => exact ⟨trivial, rfl⟩

/-- **What one input does with requests.** -/
theorem ssStep_cases (lib : SsLib) (hwf : WellFormed hlr) (hall : Stores hlr) (input : SsInput) :
    StepCases lib hlr input (ssStep lib (.ok hlr) input) := by
  cases input with
  | procSsError req => exact .leaked ⟨hlr.allocs, req⟩ id rfl rfl
  | input input =>
      rcases input.rx_or with ⟨req, env, rfl⟩ | hne
      · show StepCases lib hlr _ (step lib (.ok hlr) (.rx req env))
        have hcond : FreesRequest lib (.ok hlr) (.input (.rx req env)) ↔
            ¬EndsUnknown lib { hlr with allocs := hlr.allocs + 1 } req ∧
              ¬Confuses lib { hlr with allocs := hlr.allocs + 1 } ⟨hlr.allocs, req⟩ ∧
              ¬AsksFreed lib { hlr with allocs := hlr.allocs + 1 } ⟨hlr.allocs, req⟩ := by
          rw [endsUnknown_allocs, confuses_allocs, asksFreed_allocs, FreesRequest]
        cases happly : apply lib hlr (.rx req env) with
        | error fault =>
            rw [step_of_error happly]
            refine .undefined fault fun hfrees => ?_
            obtain ⟨-, hconfuses, hfreed⟩ := hcond.1 hfrees
            rcases rx_error hwf.alloc hwf.allocs_notMem happly with ⟨-, h⟩ | ⟨-, h⟩
            · exact hfreed h
            · exact hconfuses h
        | ok p =>
            obtain ⟨next, out⟩ := p
            rw [step_of_ok happly]
            by_cases hends : EndsUnknown lib { hlr with allocs := hlr.allocs + 1 } req
            · have hnothing := rx_endsUnknown lib env ⟨hlr.allocs, req⟩ hends
              rw [apply, hnothing] at happly
              cases happly
              exact .leaked ⟨hlr.allocs, req⟩ (fun hfrees => (hcond.1 hfrees).1 hends) rfl rfl
            · obtain ⟨hstores, hallocs, hstored⟩ :=
                rx_stores hwf.alloc hall hwf.allocs_notMem happly
              have hdefined : ¬(Confuses lib { hlr with allocs := hlr.allocs + 1 }
                  ⟨hlr.allocs, req⟩ ∨
                    AsksFreed lib { hlr with allocs := hlr.allocs + 1 } ⟨hlr.allocs, req⟩) := by
                intro h
                obtain ⟨fault, herror⟩ := rx_undefined hwf.alloc env h
                rw [apply, herror] at happly
                cases happly
              refine .settled next out (hcond.2 ⟨hends, not_or.1 hdefined⟩) (hwf.apply happly)
                hstores ?_ ?_ ?_ ?_
              · rw [hallocs]
                exact Nat.le_succ _
              · intro ptr hptr
                rw [List.mem_singleton.1 hptr, hallocs]
                exact ⟨rfl, Nat.lt_succ_self _⟩
              · exact fun ptr hptr => (hstored ptr hptr).imp_right List.mem_singleton.2
              · refine (rx_balanced hwf.alloc hall hwf.allocs_notMem happly hends).congr
                  (fun n => ?_) fun _ => Iff.rfl
                rw [handed, List.map_singleton, List.mem_singleton]
                exact Iff.rfl
      · obtain ⟨next, out, happly, hstores, hallocs, hstored, hbalanced⟩ :=
          apply_settled lib hall hne
        obtain ⟨hfrees, hhanded⟩ := freesRequest_of_ne_rx lib (.ok hlr) hne
        show StepCases lib hlr _ (step lib (.ok hlr) input)
        rw [step_of_ok happly]
        refine .settled next out hfrees (hwf.apply happly) hstores hallocs ?_
          (fun ptr hptr => Or.inl (hstored ptr hptr)) ?_
        · rw [hhanded]
          exact fun _ h => absurd h List.not_mem_nil
        · refine hbalanced.congr (fun n => ?_) fun _ => Iff.rfl
          rw [hhanded, List.map_nil]
          exact or_iff_left List.not_mem_nil

/-- No input hands over more than one request. -/
theorem handed_cases (s : Except Fault Hlr) (input : SsInput) :
    handed s input = [] ∨ ∃ ptr, handed s input = [ptr] := by
  unfold handed
  split
  · exact Or.inr ⟨_, rfl⟩
  · exact Or.inr ⟨_, rfl⟩
  · exact Or.inl rfl

/-! ## Runs -/

/-- What is known of the requests of a run, whether they are owned or not. -/
structure Ledger (lib : SsLib) (inputs : List SsInput) (hlr : Hlr) (out : List Out) : Prop where
  wellFormed : WellFormed hlr
  stores : Stores hlr
  stored : ∀ ptr ∈ hlr.stored, ptr ∈ received lib inputs
  received_lt : ∀ ptr ∈ received lib inputs, ptr.ref < hlr.allocs
  received_nodup : ((received lib inputs).map ReqPtr.ref).Nodup
  quiet : ∀ n, n ∉ (received lib inputs).map ReqPtr.ref → usesOf out n = []

/-- The requests of a run, and those that one more input hands over. -/
theorem received_concat (lib : SsLib) (inputs : List SsInput) (input : SsInput) :
    received lib (inputs ++ [input]) = received lib inputs ++
      handed ((ssMachine lib).run (.ok Hlr.init) inputs).1 input :=
  (ssMachine lib).view_concat handed (.ok Hlr.init) inputs input

namespace Ledger

variable {inputs : List SsInput} (h : Ledger lib inputs hlr out)
include h

/-- Sessions have the addresses of requests that were handed over. -/
theorem refs_received {n : Nat} (hn : n ∈ hlr.refs) : n ∈ (received lib inputs).map ReqPtr.ref := by
  rw [← h.stores.map_ref] at hn
  obtain ⟨ptr, hptr, rfl⟩ := List.mem_map.1 hn
  exact List.mem_map_of_mem (h.stored ptr hptr)

/-- A request is stored if there is a session with its address. -/
theorem stored_iff (hptr : ptr ∈ received lib inputs) : ptr ∈ hlr.stored ↔ ptr.ref ∈ hlr.refs := by
  rw [← h.stores.map_ref]
  constructor
  · exact fun hmem => List.mem_map_of_mem hmem
  · intro hmem
    obtain ⟨x, hx, href⟩ := List.mem_map.1 hmem
    rwa [← List.inj_on_of_nodup_map h.received_nodup (h.stored x hx) hptr href]

/-- No request is stored twice. -/
theorem count_stored (hptr : ptr ∈ hlr.stored) : hlr.stored.count ptr = 1 := by
  refine List.count_eq_one_of_mem ?_ hptr
  refine List.Nodup.of_map ReqPtr.ref ?_
  rw [h.stores.map_ref]
  exact h.wellFormed.refs

/-- **Requests are owned once if those without a session have been released, and no others.** -/
theorem owned_iff :
    (∀ ptr ∈ received lib inputs, OwnedOnce hlr ptr (usesOf out ptr.ref)) ↔
      Balanced ReqUse.isFree (· ∈ (received lib inputs).map ReqPtr.ref) (· ∈ hlr.refs)
        (usesOf out) := by
  constructor
  · intro howned n
    refine ⟨fun hn => ?_, fun hn => ⟨fun href => hn (h.refs_received href), h.quiet n hn⟩⟩
    obtain ⟨ptr, hptr, rfl⟩ := List.mem_map.1 hn
    rcases howned ptr hptr with ⟨hcount, hkept⟩ | ⟨hgone, hreleased⟩
    · have hmem : ptr ∈ hlr.stored := List.count_pos_iff.1 (by omega)
      exact Or.inl ⟨(h.stored_iff hptr).1 hmem, hkept⟩
    · exact Or.inr ⟨fun href => hgone ((h.stored_iff hptr).2 href), hreleased⟩
  · intro hbalanced ptr hptr
    rcases (hbalanced ptr.ref).1 (List.mem_map_of_mem hptr) with ⟨href, hkept⟩ | ⟨href, hreleased⟩
    · exact Or.inl ⟨h.count_stored ((h.stored_iff hptr).2 href), hkept⟩
    · exact Or.inr ⟨fun hmem => href ((h.stored_iff hptr).1 hmem), hreleased⟩

/-- One more input. -/
theorem step {input : SsInput} {next : Hlr} {out' : List Out}
    (hrun : ((ssMachine lib).run (.ok Hlr.init) inputs).1 = .ok hlr)
    (hcases : StepCases lib hlr input (.ok next, out')) :
    Ledger lib (inputs ++ [input]) next (out ++ out') := by
  have hreceived := received_concat lib inputs input
  rw [hrun] at hreceived
  have hlt : ∀ n ∈ (received lib inputs).map ReqPtr.ref, n < hlr.allocs := by
    intro n hn
    obtain ⟨ptr, hptr, rfl⟩ := List.mem_map.1 hn
    exact h.received_lt ptr hptr
  have hdistinct : (∀ ptr ∈ handed (.ok hlr) input, ptr.ref = hlr.allocs) →
      ((received lib (inputs ++ [input])).map ReqPtr.ref).Nodup := by
    intro hnew
    rw [hreceived, List.map_append, List.nodup_append]
    refine ⟨h.received_nodup, ?_, ?_⟩
    · rcases handed_cases (.ok hlr) input with hhanded | ⟨ptr, hhanded⟩ <;> simp [hhanded]
    · rintro n hn _ hm rfl
      obtain ⟨ptr, hptr, rfl⟩ := List.mem_map.1 hm
      exact Nat.ne_of_lt (hlt _ hn) (hnew ptr hptr)
  cases hcases with
  | leaked ptr hnot hhanded href =>
      have hwf := h.wellFormed
      refine ⟨hwf.alloc, h.stores, fun p hp => ?_, fun p hp => ?_, hdistinct ?_, fun n hn => ?_⟩
      · rw [hreceived]
        exact List.mem_append_left _ (h.stored p hp)
      · rw [hreceived, hhanded] at hp
        rcases List.mem_append.1 hp with hp | hp
        · exact Nat.lt_succ_of_lt (h.received_lt p hp)
        · rw [List.mem_singleton.1 hp, href]
          exact Nat.lt_succ_self _
      · rw [hhanded]
        exact fun p hp => (List.mem_singleton.1 hp) ▸ href
      · rw [List.append_nil]
        refine h.quiet n fun hmem => hn ?_
        rw [hreceived, List.map_append]
        exact List.mem_append_left _ hmem
  | settled _ _ hfrees hwf hall hallocs hhanded hstored hbalanced =>
      refine ⟨hwf, hall, fun p hp => ?_, fun p hp => ?_, hdistinct fun p hp => (hhanded p hp).1,
        fun n hn => ?_⟩
      · rw [hreceived]
        exact List.mem_append.2 ((hstored p hp).imp_left (h.stored p))
      · rw [hreceived] at hp
        rcases List.mem_append.1 hp with hp | hp
        · exact Nat.lt_of_lt_of_le (h.received_lt p hp) hallocs
        · exact (hhanded p hp).1 ▸ (hhanded p hp).2
      · rw [hreceived, List.map_append, List.mem_append, not_or] at hn
        rw [usesOf_append, h.quiet n hn.1, List.nil_append]
        refine hbalanced.quiet fun hlive => hlive.elim (fun href => hn.1 ?_) hn.2
        exact h.refs_received href

end Ledger

/-- The requests of a run, before anything has happened. -/
theorem ledger_nil (lib : SsLib) : Ledger lib [] Hlr.init [] where
  wellFormed := wellFormed_init
  stores := fun _ h => by cases h
  stored := fun _ h => by cases h
  received_lt := fun _ h => by cases h
  received_nodup := List.nodup_nil
  quiet := fun _ _ => rfl

/-- What is known of the requests of any run that is still going on. -/
theorem ledger_run (lib : SsLib) (inputs : List SsInput) :
    ∀ hlr, ((ssMachine lib).run (.ok Hlr.init) inputs).1 = .ok hlr →
      Ledger lib inputs hlr ((ssMachine lib).run (.ok Hlr.init) inputs).2 := by
  induction inputs using List.reverseRecOn with
  | nil =>
      intro hlr hrun
      cases hrun
      exact ledger_nil lib
  | append_singleton inputs input ih =>
      intro next hnext
      rw [Machine.run_concat] at hnext ⊢
      cases hs : ((ssMachine lib).run (.ok Hlr.init) inputs).1 with
      | error fault =>
          rw [hs] at hnext
          cases input <;> cases hnext
      | ok hlr =>
          have hledger := ih hlr hs
          have hcases := ssStep_cases lib hledger.wellFormed hledger.stores input
          have hstep : ssStep lib (.ok hlr) input =
              (.ok next, ((ssMachine lib).step (.ok hlr) input).2) := by
            rw [hs] at hnext
            exact Prod.ext hnext rfl
          rw [hstep] at hcases
          exact hledger.step hs hcases

theorem requestsOwned_iff_balanced {inputs : List SsInput}
    (hrun : (ssMachine lib).run (.ok Hlr.init) inputs = (.ok hlr, out)) :
    RequestsOwned lib inputs ↔
      Balanced ReqUse.isFree (· ∈ (received lib inputs).map ReqPtr.ref) (· ∈ hlr.refs)
        (usesOf out) := by
  have hledger := ledger_run lib inputs hlr (congrArg Prod.fst hrun)
  rw [hrun] at hledger
  rw [← hledger.owned_iff, RequestsOwned, hrun]

/-- **One more input leaves the requests owned exactly if it frees what it is to free.** -/
theorem requestsOwned_concat (lib : SsLib) (inputs : List SsInput) (input : SsInput)
    (h : RequestsOwned lib inputs) :
    RequestsOwned lib (inputs ++ [input]) ↔
      FreesRequest lib ((ssMachine lib).run (.ok Hlr.init) inputs).1 input := by
  rcases hrun : (ssMachine lib).run (.ok Hlr.init) inputs with ⟨s, out⟩
  cases s with
  | error fault =>
      rw [RequestsOwned, hrun] at h
      exact h.elim
  | ok hlr =>
      have hledger := ledger_run lib inputs hlr (congrArg Prod.fst hrun)
      rw [hrun] at hledger
      have hbefore := (requestsOwned_iff_balanced hrun).1 h
      have hnew : ∀ {ptr : ReqPtr}, ptr.ref = hlr.allocs →
          ptr.ref ∉ (received lib inputs).map ReqPtr.ref := by
        intro ptr href hmem
        obtain ⟨p, hp, hpref⟩ := List.mem_map.1 hmem
        exact Nat.ne_of_lt (hledger.received_lt p hp) (hpref.trans href)
      have hreceived := received_concat lib inputs input
      have hrun' := (ssMachine lib).run_concat (.ok Hlr.init) inputs input
      rw [hrun] at hreceived hrun'
      have hcases := ssStep_cases lib hledger.wellFormed hledger.stores input
      change StepCases lib hlr input ((ssMachine lib).step (.ok hlr) input) at hcases
      generalize (ssMachine lib).step (.ok hlr) input = stepped at hcases hrun'
      cases hcases with
      | undefined fault hnot =>
          refine iff_of_false (fun howned => ?_) hnot
          rw [RequestsOwned, hrun'] at howned
          exact howned
      | leaked ptr hnot hhanded href =>
          refine iff_of_false (fun howned => ?_) hnot
          have hafter := (requestsOwned_iff_balanced hrun').1 howned ptr.ref
          have hlive : ptr.ref ∈ (received lib (inputs ++ [input])).map ReqPtr.ref := by
            rw [hreceived, hhanded, List.map_append]
            exact List.mem_append_right _ List.mem_cons_self
          have hquiet : usesOf (out ++ []) ptr.ref = [] := by
            rw [List.append_nil]
            exact hledger.quiet _ (hnew href)
          rcases hafter.1 hlive with ⟨hstored, -⟩ | ⟨-, hreleased⟩
          · exact hnew href (hledger.refs_received hstored)
          · rw [hquiet] at hreleased
            exact released_nil hreleased
      | settled next out' hfrees hwf hall hallocs hhanded hstored hbalanced =>
          refine iff_of_true ((requestsOwned_iff_balanced hrun').2 ?_) hfrees
          have hgrown := hbefore.grow
            fun n (hn : n ∈ (handed (.ok hlr) input).map ReqPtr.ref) hlive => by
              obtain ⟨ptr, hptr, rfl⟩ := List.mem_map.1 hn
              exact hnew (hhanded ptr hptr).1 hlive
          refine (balanced_append hgrown hbalanced).congr (fun n => ?_) fun _ => Iff.rfl
          rw [hreceived, List.map_append, List.mem_append]

/-- **Every request that is handed over is freed once, as the last that is done with it, or stored
once with a session, all along a run, exactly as long as no message is an error or an END for an
unknown session, or uses a handler that is not there.** -/
theorem requests_owned_iff (lib : SsLib) (inputs : List SsInput) :
    (∀ pre, pre <+: inputs → RequestsOwned lib pre) ↔
      (ssMachine lib).Guarded (FreesRequest lib) (.ok Hlr.init) inputs :=
  (ssMachine lib).forall_prefix_iff_guarded (fun _ h => absurd h List.not_mem_nil)
    (requestsOwned_concat lib) inputs

/-- An MSC ends a session that there is not. -/
def endUnknown : SsInput := .input (.rx (Host.procSs "msc" .stateEnd []) Host.ussdEnv)

/-- An MSC reports an error. -/
def reportError : SsInput :=
  .procSsError { Host.procSs "msc" .stateEnd [] with
    gsup := { (Host.procSs "msc" .stateEnd []).gsup with messageType := Host.msgt .procSs .error } }

/-- **Both messages stay allocated for good**: nothing stores them, and nothing frees them. -/
theorem end_unknown_leaks :
    ¬RequestsOwned Host.ssLib [endUnknown] ∧ ¬RequestsOwned Host.ssLib [reportError] := by
  decide +kernel

end Ussd
end OsmoHlr
