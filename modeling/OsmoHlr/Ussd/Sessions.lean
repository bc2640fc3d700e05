import OsmoHlr.Ussd.HlrUssd

/-!
# What a message does to the sessions

Sending changes nothing of a session but its VLR, and messages change nothing of the
configuration.  So what is left to say of a message is which session it starts or ends,
and that is said here once.

* `dispatch_cases` — what becomes of a message that has a session.
* `rx_cases` — what becomes of any message.
* `WellFormed` — addresses and ids tell the sessions apart, in any run (`Sound.step`).
-/

namespace OsmoHlr
namespace Ussd

open CString CniPeerId Gsup

variable {lib : SsLib} {env : Env} {hlr hlr' : Hlr} {ss : SsSession} {req : SsRequest}
  {gsup : GsupMessage}

/-! ## What stays -/

/-- A session, but for what messages change of it. -/
def SsSession.core (ss : SsSession) : SsSession :=
  { ss with timeout := false, vlrName := IpaName.zero }

/-- Nothing changes but the VLRs and the timers of sessions. -/
structure Kept (hlr hlr' : Hlr) : Prop where
  euseList : hlr'.euseList = hlr.euseList
  euseDefault : hlr'.euseDefault = hlr.euseDefault
  ussdRoutes : hlr'.ussdRoutes = hlr.ussdRoutes
  ncssGuardTimeout : hlr'.ncssGuardTimeout = hlr.ncssGuardTimeout
  allocs : hlr'.allocs = hlr.allocs
  cores : hlr'.ssSessions.map SsSession.core = hlr.ssSessions.map SsSession.core

theorem Kept.refl (hlr : Hlr) : Kept hlr hlr := ⟨rfl, rfl, rfl, rfl, rfl, rfl⟩

theorem Kept.trans {h₁ h₂ h₃ : Hlr} (h : Kept h₁ h₂) (h' : Kept h₂ h₃) : Kept h₁ h₃ :=
  ⟨h'.euseList.trans h.euseList, h'.euseDefault.trans h.euseDefault,
    h'.ussdRoutes.trans h.ussdRoutes, h'.ncssGuardTimeout.trans h.ncssGuardTimeout,
    h'.allocs.trans h.allocs, h'.cores.trans h.cores⟩

/-- What does not depend on VLRs and timers is the same for all sessions. -/
theorem Kept.map_eq (h : Kept hlr hlr') {β : Type} (f : SsSession → β)
    (hf : ∀ ss : SsSession, f ss.core = f ss) :
    hlr'.ssSessions.map f = hlr.ssSessions.map f := by
  have hcores := congrArg (List.map f) h.cores
  rw [List.map_map, List.map_map] at hcores
  have hcomp : f ∘ SsSession.core = f := funext hf
  rwa [hcomp] at hcores

/-- What holds of all sessions and does not depend on VLRs and timers goes on holding. -/
theorem Kept.forall (h : Kept hlr hlr') {P : SsSession → Prop}
    (hP : ∀ ss : SsSession, P ss.core ↔ P ss)
    (hall : ∀ ss ∈ hlr.ssSessions, P ss) : ∀ ss ∈ hlr'.ssSessions, P ss := by
  intro ss hss
  have hmem : ss.core ∈ hlr.ssSessions.map SsSession.core := h.cores ▸ List.mem_map_of_mem hss
  obtain ⟨x, hx, hcore⟩ := List.mem_map.1 hmem
  exact (hP ss).1 (hcore ▸ (hP x).2 (hall x hx))

/-- The session is one of the list. -/
def Has (hlr : Hlr) (ss : SsSession) : Prop := ∃ x ∈ hlr.ssSessions, x.core = ss.core

theorem Has.of_mem (h : ss ∈ hlr.ssSessions) : Has hlr ss := ⟨ss, h, rfl⟩

theorem has_iff_mem : Has hlr ss ↔ ss.core ∈ hlr.ssSessions.map SsSession.core :=
  List.mem_map.symm

theorem Kept.has_iff (h : Kept hlr hlr') : Has hlr' ss ↔ Has hlr ss := by
  rw [has_iff_mem, has_iff_mem, h.cores]

/-- Without the session at an address. -/
def Hlr.removeSession (hlr : Hlr) (ref : Nat) : Hlr :=
  { hlr with ssSessions := Keyed.remove SsSession.ref hlr.ssSessions ref }

theorem cores_removeSession (hlr : Hlr) (ref : Nat) :
    (hlr.removeSession ref).ssSessions.map SsSession.core =
      Keyed.remove SsSession.ref (hlr.ssSessions.map SsSession.core) ref := by
  rw [Hlr.removeSession, Keyed.remove, Keyed.remove, List.filter_map]
  rfl

theorem Kept.removeSession (h : Kept hlr hlr') (ref : Nat) :
    Kept (hlr.removeSession ref) (hlr'.removeSession ref) := by
  refine ⟨h.euseList, h.euseDefault, h.ussdRoutes, h.ncssGuardTimeout, h.allocs, ?_⟩
  rw [cores_removeSession, cores_removeSession, h.cores]

/-- The addresses of the sessions. -/
def Hlr.refs (hlr : Hlr) : List Nat := hlr.ssSessions.map SsSession.ref

theorem Kept.refs (h : Kept hlr hlr') : hlr'.refs = hlr.refs := h.map_eq _ fun _ => rfl

/-- A session that is added and removed again. -/
theorem Kept.remove_added (h : Kept (hlr.addSession ss) hlr') (hnew : ss.ref ∉ hlr.refs) :
    Kept hlr (hlr'.removeSession ss.ref) := by
  refine ⟨h.euseList, h.euseDefault, h.ussdRoutes, h.ncssGuardTimeout, h.allocs, ?_⟩
  have hold : ∀ x ∈ hlr.ssSessions.map SsSession.core, x.ref ≠ ss.ref := by
    intro x hx href
    obtain ⟨y, hy, rfl⟩ := List.mem_map.1 hx
    exact hnew (List.mem_map.2 ⟨y, hy, href⟩)
  rw [cores_removeSession, h.cores, Hlr.addSession, List.map_append, Keyed.remove,
    List.filter_append, ← Keyed.remove, Keyed.remove_of_ne hold]
  simp [SsSession.core]

theorem setSession_kept (hrefs : hlr.refs.Nodup) (hss : Has hlr ss) :
    Kept hlr (hlr.setSession ss) := by
  obtain ⟨x, hx, hcore⟩ := hss
  have href : ss.core.ref = x.core.ref := congrArg SsSession.ref hcore.symm
  exact ⟨rfl, rfl, rfl, rfl, rfl, Keyed.map_set SsSession.core hrefs hx href hcore.symm⟩

/-! ## To the MS -/

/-- No session state END is among what is put out. -/
def NoEnd (out : List Out) : Prop := ∀ imsi sessionId, Out.answeredEnd imsi sessionId ∉ out

/-- No session state END, but for the given session. -/
def NoOtherEnd (ss : SsSession) (out : List Out) : Prop :=
  ∀ imsi sessionId, Out.answeredEnd imsi sessionId ∈ out → imsi = ss.imsi ∧ sessionId = ss.sessionId

theorem NoEnd.noOtherEnd {out : List Out} (h : NoEnd out) (ss : SsSession) : NoOtherEnd ss out :=
  fun imsi sessionId hmem => absurd hmem (h imsi sessionId)

theorem noEnd_nil : NoEnd [] := fun _ _ => by simp

theorem noEnd_reqOut (ptr : ReqPtr) (calls : List ReqCall) : NoEnd (reqOut ptr calls) := by
  simp [NoEnd, reqOut]

theorem NoEnd.append {a b : List Out} (ha : NoEnd a) (hb : NoEnd b) : NoEnd (a ++ b) := by
  intro imsi sessionId
  simp [ha imsi sessionId, hb imsi sessionId]

theorem NoOtherEnd.append {a b : List Out} (ha : NoOtherEnd ss a) (hb : NoEnd b) :
    NoOtherEnd ss (a ++ b) := by
  intro imsi sessionId hmem
  rcases List.mem_append.1 hmem with hmem | hmem
  · exact ha imsi sessionId hmem
  · exact absurd hmem (hb imsi sessionId)

theorem noEnd_freeReqs (ss : SsSession) : NoEnd ss.freeReqs := by
  simp [NoEnd, SsSession.freeReqs, reqOut]

/-- The MS of a session can be answered: over the request that began it, or else over a route to the
VLR. -/
def CanAnswer (lib : SsLib) (env : Env) (ss : SsSession) : Prop :=
  match ss.initialReqFromMs with
  | some ptr => ptr.req.sendResponseCb = true
  | none => ∃ vlrName, ss.resolveVlr lib env = some vlrName ∧ 1 < vlrName.len ∧
      IsRouted env.routes vlrName

/-- What is sent to an MS is sent because it can be. -/
theorem canAnswer_of_sent {gsup : GsupMessage} (h : (ssGsupSendToMs lib env hlr ss gsup).2 ≠ []) :
    CanAnswer lib env ss := by
  cases hptr : ss.initialReqFromMs with
  | some ptr =>
      simp only [CanAnswer, hptr]
      simp only [ssGsupSendToMs, hptr] at h
      cases hcb : ptr.req.sendResponseCb with
      | true => rfl
      | false =>
          simp only [osmoGsupReqRespond, hcb] at h
          split at h <;> exact absurd rfl h
  | none =>
      simp only [CanAnswer, hptr]
      simp only [ssGsupSendToMs, hptr] at h
      split at h
      · exact absurd rfl h
      · split at h
        · exact absurd rfl h
        next vlrName hvlr =>
            split at h
            · exact absurd rfl h
            next hlen =>
                have hsent : (osmoGsupSendToIpaName env.routes vlrName _).2 ≠ [] :=
                  fun hsent => h (congrArg (List.map Out.sent) hsent)
                exact ⟨vlrName, hvlr, Nat.lt_of_not_le hlen, isRouted_of_sent hsent⟩

theorem noEnd_or_canAnswer {gsupMsgType : UInt8} {final : Bool} {ssMsg : List UInt8} :
    NoEnd (ssTxToMs lib env hlr ss gsupMsgType final ssMsg).2 ∨ CanAnswer lib env ss := by
  by_cases hsent : (ssGsupSendToMs lib env hlr ss (ss.resp gsupMsgType final ssMsg)).2 = []
  · refine Or.inl ?_
    intro imsi sessionId hmem
    simp only [ssTxToMs, hsent] at hmem
    simp at hmem
  · exact Or.inr (canAnswer_of_sent hsent)

section ToMs

variable (lib env) (hrefs : hlr.refs.Nodup) (hss : Has hlr ss)
include hrefs hss

theorem ssGsupSendToMs_kept (gsup : GsupMessage) :
    Kept hlr (ssGsupSendToMs lib env hlr ss gsup).1 ∧
      NoEnd (ssGsupSendToMs lib env hlr ss gsup).2 := by
  unfold ssGsupSendToMs
  split
  · exact ⟨Kept.refl hlr, noEnd_reqOut _ _⟩
  · split
    · exact ⟨Kept.refl hlr, noEnd_nil⟩
    · split
      · exact ⟨Kept.refl hlr, noEnd_nil⟩
      next vlrName _ =>
          have hkept : Kept hlr (hlr.setSession { ss with vlrName := vlrName }) :=
            setSession_kept hrefs hss
          simp only
          split
          · exact ⟨hkept, noEnd_nil⟩
          · exact ⟨hkept, by simp [NoEnd]⟩

theorem ssTxToMs_kept (gsupMsgType : UInt8) (final : Bool) (ssMsg : List UInt8) :
    Kept hlr (ssTxToMs lib env hlr ss gsupMsgType final ssMsg).1 ∧
      NoOtherEnd ss (ssTxToMs lib env hlr ss gsupMsgType final ssMsg).2 := by
  obtain ⟨hkept, hend⟩ := ssGsupSendToMs_kept lib env hrefs hss
    (ss.resp gsupMsgType final ssMsg)
  refine ⟨hkept, ?_⟩
  intro imsi sessionId hmem
  rcases List.mem_append.1 hmem with hmem | hmem
  · exact absurd hmem (hend imsi sessionId)
  · split at hmem
    · obtain ⟨rfl, rfl⟩ := Out.answeredEnd.inj (List.mem_singleton.1 hmem)
      exact ⟨rfl, rfl⟩
    · cases hmem

theorem handleUssd_iuse_kept (iuse : Iuse) (req : SsRequest) :
    Kept hlr (iuse.handleUssd lib env hlr ss req).1 ∧
      NoOtherEnd ss (iuse.handleUssd lib env hlr ss req).2 := by
  cases iuse with
  | ownMsisdn =>
      simp only [Iuse.handleUssd, handleUssdOwnMsisdn]
      split
      · exact ssTxToMs_kept lib env hrefs hss _ _ _
      · exact ssTxToMs_kept lib env hrefs hss _ _ _
  | ownImsi => exact ssTxToMs_kept lib env hrefs hss _ _ _

end ToMs

/-! ## What becomes of a message that has a session -/

/-- The HLR itself rejects a message that has a session: it is not about USSD, or nobody handles
the session, or the MS asks an EUSE that is not connected. -/
def Rejects (lib : SsLib) (env : Env) (hlr : Hlr) (ss : SsSession) (isEuse : Bool)
    (req : SsRequest) : Prop :=
  ssOpIsUssd lib req.opcode = false ∨ ss.u = .null ∨
    isEuse = false ∧ ss.isExternal = true ∧ ∃ ref euse, ss.u = .euse ref ∧
      Keyed.find Euse.ref hlr.euseList ref = some euse ∧ euse.conn env.routes = none

/-- What becomes of a message that has a session: the HLR itself rejects it, it is forwarded, it
is handled and the session ends, or the session's handler is not what the session says. -/
inductive DispatchCases (lib : SsLib) (env : Env) (hlr : Hlr) (ss : SsSession) (isEuse : Bool)
    (req : SsRequest) : Res → Prop
  | rejected (next : Hlr) (out : List Out) (hkept : Kept hlr next) (hend : NoOtherEnd ss out)
      (hwhy : Rejects lib env hlr ss isEuse req) (hanswer : NoEnd out ∨ CanAnswer lib env ss) :
      DispatchCases lib env hlr ss isEuse req (.ok (next, out))
  | forwarded (next : Hlr) (out : List Out) (hkept : Kept hlr next) (hend : NoEnd out)
      (hnull : ss.u ≠ .null) (hwhy : isEuse = true ∨ ss.isExternal = true ∧ ∃ ref, ss.u = .euse ref) :
      DispatchCases lib env hlr ss isEuse req (.ok (next, out))
  | handled (next : Hlr) (out : List Out) (iuse : Iuse) (hkept : Kept hlr next)
      (hend : NoOtherEnd ss out) (heuse : isEuse = false) (hexternal : ss.isExternal = false)
      (hu : ss.u = .iuse iuse) :
      DispatchCases lib env hlr ss isEuse req (.ok (next.removeSession ss.ref, out))
  | euseFreed (ref : Nat) (hussd : ssOpIsUssd lib req.opcode = true) (heuse : isEuse = false)
      (hexternal : ss.isExternal = true) (hu : ss.u = .euse ref)
      (hfind : Keyed.find Euse.ref hlr.euseList ref = none) :
      DispatchCases lib env hlr ss isEuse req (.error .euseFreed)
  | euseIsIuse (iuse : Iuse) (hexternal : ss.isExternal = true) (hu : ss.u = .iuse iuse) :
      DispatchCases lib env hlr ss isEuse req (.error .euseIsIuse)
  | iuseIsEuse (ref : Nat) (hussd : ssOpIsUssd lib req.opcode = true) (heuse : isEuse = false)
      (hexternal : ss.isExternal = false) (hu : ss.u = .euse ref) :
      DispatchCases lib env hlr ss isEuse req (.error .iuseIsEuse)

/-- A session of the list is freed. -/
theorem ssSessionFree_eq (hss : Has hlr ss) :
    ∃ x ∈ hlr.ssSessions, x.ref = ss.ref ∧
      ssSessionFree hlr ss.ref = .ok (hlr.removeSession ss.ref, x.freeReqs) := by
  obtain ⟨x, hx, hcore⟩ := hss
  have href : x.core.ref = ss.core.ref := congrArg SsSession.ref hcore
  unfold ssSessionFree
  split
  next hnone => exact absurd href (Keyed.find_eq_none_iff.1 hnone x hx)
  next y hy =>
      exact ⟨y, List.mem_of_find?_eq_some hy, by simpa using List.find?_some hy, rfl⟩

section Dispatch

variable (hrefs : hlr.refs.Nodup) (hss : Has hlr ss)
include hrefs hss

theorem rejected_cases (invokeId : UInt8) (errorCode : ErrCode) {isEuse : Bool}
    (hwhy : Rejects lib env hlr ss isEuse req) :
    DispatchCases lib env hlr ss isEuse req
      (.ok (ssTxToMsError lib env hlr ss invokeId errorCode)) := by
  obtain ⟨hkept, hend⟩ := ssTxToMs_kept lib env hrefs hss
    (lib.msgt .procSs .result) true (lib.genReturnError invokeId (lib.errCode errorCode))
  exact .rejected _ _ hkept hend hwhy noEnd_or_canAnswer

theorem forwardToEuse_cases {isEuse : Bool} (hussd : ssOpIsUssd lib req.opcode = true)
    (heuse : isEuse = false) (hnull : ss.u ≠ .null) (hexternal : ss.isExternal = true) :
    DispatchCases lib env hlr ss isEuse req (forwardToEuse lib env hlr ss gsup req) := by
  unfold forwardToEuse
  split
  next ref hu =>
      split
      next hfind => exact .euseFreed ref hussd heuse hexternal hu hfind
      next euse hfind =>
          split
          next hconn =>
              exact rejected_cases hrefs hss _ _
                (Or.inr (Or.inr ⟨heuse, hexternal, ref, euse, hu, hfind, hconn⟩))
          next conn _ =>
              exact .forwarded _ _ (Kept.refl hlr) (by simp [NoEnd]) hnull
                (Or.inr ⟨hexternal, ref, hu⟩)
  next hne =>
      cases hu : ss.u with
      | null => exact absurd hu hnull
      | euse ref => exact absurd hu (hne ref)
      | iuse iuse => exact .euseIsIuse iuse hexternal hu

theorem handleInternally_cases {isEuse : Bool} (hussd : ssOpIsUssd lib req.opcode = true)
    (heuse : isEuse = false) (hnull : ss.u ≠ .null) (hexternal : ss.isExternal = false) :
    DispatchCases lib env hlr ss isEuse req (handleInternally lib env hlr ss req) := by
  unfold handleInternally
  split
  next iuse hu =>
      obtain ⟨hkept, hend⟩ := handleUssd_iuse_kept lib env hrefs hss iuse req
      obtain ⟨x, -, -, hfree⟩ := ssSessionFree_eq (hkept.has_iff.2 hss)
      simp only [Res.andThen, hfree, Except.map]
      exact .handled _ _ iuse hkept (hend.append (noEnd_freeReqs x)) heuse hexternal hu
  next hne =>
      cases hu : ss.u with
      | null => exact absurd hu hnull
      | euse ref => exact .iuseIsEuse ref hussd heuse hexternal hu
      | iuse iuse => exact absurd hu (hne iuse)

/-- **What becomes of a message that has a session.** -/
theorem dispatch_cases (isEuse : Bool) :
    DispatchCases lib env hlr ss isEuse req (dispatch lib env hlr ss isEuse gsup req) := by
  unfold dispatch
  split
  next hussd =>
      unfold handleUssd
      split
      next hnull => exact rejected_cases hrefs hss _ _ (Or.inr (Or.inl hnull))
      next hnull =>
          split
          next heuse =>
              obtain ⟨hkept, hend⟩ := ssGsupSendToMs_kept lib env hrefs hss gsup
              exact .forwarded _ _ hkept hend hnull (Or.inl heuse)
          next heuse =>
              have heuse : isEuse = false := by simpa using heuse
              split
              next hexternal => exact forwardToEuse_cases hrefs hss hussd heuse hnull hexternal
              next hexternal =>
                  have hexternal : ss.isExternal = false := by simpa using hexternal
                  exact handleInternally_cases hrefs hss hussd heuse hnull hexternal
  next hussd =>
      exact rejected_cases hrefs hss _ _ (Or.inl (by simpa using hussd))

end Dispatch

/-! ## What becomes of any message -/

theorem Res.andThen_eq_ok {res : Res} {f : Hlr → Res} {next : Hlr} {out : List Out}
    (h : res.andThen f = .ok (next, out)) :
    ∃ mid o₁ o₂, res = .ok (mid, o₁) ∧ f mid = .ok (next, o₂) ∧ out = o₁ ++ o₂ := by
  rcases res with fault | ⟨mid, o₁⟩
  · cases h
  · rcases hf : f mid with fault | ⟨next', o₂⟩
    · simp only [Res.andThen, hf, Except.map] at h
      cases h
    · simp only [Res.andThen, hf, Except.map] at h
      cases h
      exact ⟨mid, o₁, o₂, rfl, hf, rfl⟩

theorem Res.andThen_eq_error {res : Res} {f : Hlr → Res} {fault : Fault}
    (h : res.andThen f = .error fault) :
    res = .error fault ∨ ∃ mid out, res = .ok (mid, out) ∧ f mid = .error fault := by
  rcases res with fault' | ⟨mid, o₁⟩
  · exact Or.inl h
  · rcases hf : f mid with fault' | ⟨next', o₂⟩
    · simp only [Res.andThen, hf, Except.map] at h
      cases h
      exact Or.inr ⟨mid, o₁, rfl, hf⟩
    · simp only [Res.andThen, hf, Except.map] at h
      cases h

/-- The message is a BEGIN of a session that is not there yet, and asks for something. -/
structure Begins (lib : SsLib) (hlr : Hlr) (req : GsupReq) (ssReq : SsRequest) : Prop where
  state : req.gsup.sessionState = .stateBegin
  source : req.sourceName.type = .ipaName
  request : ssRequest lib req.gsup = some ssReq
  unused : ssSessionFind hlr req.gsup.imsi req.gsup.sessionId = none

/-- The message is for a session that is there, and asks for something. -/
structure Concerns (lib : SsLib) (hlr : Hlr) (req : GsupReq) (ssReq : SsRequest)
    (ss : SsSession) : Prop where
  source : req.sourceName.type = .ipaName
  request : ssRequest lib req.gsup = some ssReq
  mem : ss ∈ hlr.ssSessions
  imsi : ss.imsi = req.gsup.imsi
  sessionId : ss.sessionId = req.gsup.sessionId

/-- What becomes of a message. -/
inductive RxCases (lib : SsLib) (env : Env) (hlr : Hlr) (ptr : ReqPtr) : Res → Prop
  | idle (out : List Out) (hend : NoEnd out) : RxCases lib env hlr ptr (.ok (hlr, out))
  | begun (ssReq : SsRequest) (res : Res) (hbegins : Begins lib hlr ptr.req ssReq)
      (hcases : DispatchCases lib env
        (hlr.addSession (beginSession lib hlr ptr (peerNameIsEuse ptr.req.sourceName) ssReq))
        (beginSession lib hlr ptr (peerNameIsEuse ptr.req.sourceName) ssReq)
        (peerNameIsEuse ptr.req.sourceName) ssReq res) : RxCases lib env hlr ptr res
  | continued (ssReq : SsRequest) (ss ss' : SsSession) (mid : Hlr) (res : Res)
      (hstate : ptr.req.gsup.sessionState = .stateContinue)
      (hconcerns : Concerns lib hlr ptr.req ssReq ss) (hcore : ss'.core = ss.core)
      (hvlr : ss'.vlrName = ss.vlrName) (hkept : Kept hlr mid)
      (hcases : DispatchCases lib env mid ss' (peerNameIsEuse ptr.req.sourceName) ssReq res) :
      RxCases lib env hlr ptr (res.andThen (freeReq ptr))
  | ended (ssReq : SsRequest) (ss : SsSession) (res : Res)
      (hstate : ptr.req.gsup.sessionState = .stateEnd)
      (hconcerns : Concerns lib hlr ptr.req ssReq ss)
      (hcases : res = .ok (hlr, []) ∨ ptr.req.gsup.ssInfo ≠ [] ∧
        DispatchCases lib env hlr ss (peerNameIsEuse ptr.req.sourceName) ssReq res) :
      RxCases lib env hlr ptr
        ((res.andThen fun hlr => ssSessionFree hlr ss.ref).andThen (freeReq ptr))

theorem ssSessionFind_eq_some {imsi : CStr} {sessionId : UInt32}
    (h : ssSessionFind hlr imsi sessionId = some ss) :
    ss ∈ hlr.ssSessions ∧ ss.imsi = imsi ∧ ss.sessionId = sessionId := by
  refine ⟨List.mem_of_find?_eq_some h, ?_⟩
  simpa using List.find?_some h

theorem ssSessionFind_eq_none_iff {imsi : CStr} {sessionId : UInt32} :
    ssSessionFind hlr imsi sessionId = none ↔
      ∀ ss ∈ hlr.ssSessions, (ss.imsi, ss.sessionId) ≠ (imsi, sessionId) := by
  simp [ssSessionFind, List.find?_eq_none]

theorem setHandler_ids (ss : SsSession) (hlr : Hlr) (isEuse : Bool) (source : PeerId)
    (ussdText : CStr) :
    (ss.setHandler hlr isEuse source ussdText).ref = ss.ref ∧
      (ss.setHandler hlr isEuse source ussdText).imsi = ss.imsi ∧
      (ss.setHandler hlr isEuse source ussdText).sessionId = ss.sessionId := by
  unfold SsSession.setHandler
  split
  · exact ⟨rfl, rfl, rfl⟩
  · split
    · exact ⟨rfl, rfl, rfl⟩
    · split <;> exact ⟨rfl, rfl, rfl⟩

/-- A new session has the address of its request, and its ids. -/
theorem beginSession_ids (lib : SsLib) (hlr : Hlr) (ptr : ReqPtr) (isEuse : Bool)
    (ssReq : SsRequest) :
    (beginSession lib hlr ptr isEuse ssReq).ref = ptr.ref ∧
      (beginSession lib hlr ptr isEuse ssReq).imsi = ptr.req.gsup.imsi ∧
      (beginSession lib hlr ptr isEuse ssReq).sessionId = ptr.req.gsup.sessionId := by
  unfold beginSession
  simp only
  split
  · obtain ⟨href, himsi, hid⟩ := setHandler_ids _ hlr isEuse ptr.req.sourceName ssReq.ussdText
    rw [href, himsi, hid]
    cases isEuse <;> exact ⟨rfl, rfl, rfl⟩
  · cases isEuse <;> exact ⟨rfl, rfl, rfl⟩

theorem addSession_refs_nodup (hrefs : hlr.refs.Nodup) (hnew : ss.ref ∉ hlr.refs) :
    (hlr.addSession ss).refs.Nodup := by
  unfold Hlr.refs Hlr.addSession
  rw [List.map_append, List.nodup_append]
  refine ⟨hrefs, by simp, ?_⟩
  rintro ref href _ hss rfl
  rw [List.map_singleton, List.mem_singleton] at hss
  exact hnew (hss ▸ href)

/-- **What becomes of any message.** -/
theorem rx_cases (lib : SsLib) (env : Env) {ptr : ReqPtr} (hrefs : hlr.refs.Nodup)
    (hnew : ptr.ref ∉ hlr.refs) :
    RxCases lib env hlr ptr (rxProcSsReq lib env hlr ptr) := by
  unfold rxProcSsReq
  simp only
  split
  · exact .idle _ (noEnd_reqOut _ _)
  next hsource =>
      have hsource : ptr.req.sourceName.type = .ipaName := by simpa using hsource
      split
      · exact .idle _ (noEnd_reqOut _ _)
      next ssReq hrequest =>
          split
          next hstate =>
              unfold rxBegin
              split
              · exact .idle _ (noEnd_reqOut _ _)
              next hfind =>
                  refine .begun ssReq _ ⟨hstate, hsource, hrequest, hfind⟩ ?_
                  have href := (beginSession_ids lib hlr ptr (peerNameIsEuse ptr.req.sourceName)
                    ssReq).1
                  refine dispatch_cases (addSession_refs_nodup hrefs (href ▸ hnew)) ?_ _
                  exact Has.of_mem (List.mem_append_right _ (List.mem_singleton_self _))
          next hstate =>
              unfold rxContinue
              split
              · exact .idle _ (noEnd_reqOut _ _)
              next ss hfind =>
                  obtain ⟨hmem, himsi, hid⟩ := ssSessionFind_eq_some hfind
                  have hhas : Has hlr (ss.reschedule hlr) := ⟨ss, hmem, rfl⟩
                  have hkept := setSession_kept hrefs hhas
                  exact .continued ssReq ss (ss.reschedule hlr) _ _ hstate
                    ⟨hsource, hrequest, hmem, himsi, hid⟩ rfl rfl hkept
                    (dispatch_cases (hkept.refs ▸ hrefs) (hkept.has_iff.2 hhas) _)
          next hstate =>
              unfold rxEnd
              split
              · exact .idle _ noEnd_nil
              next ss hfind =>
                  obtain ⟨hmem, himsi, hid⟩ := ssSessionFind_eq_some hfind
                  refine .ended ssReq ss _ hstate ⟨hsource, hrequest, hmem, himsi, hid⟩ ?_
                  split
                  next hinfo => exact Or.inr ⟨hinfo, dispatch_cases hrefs (Has.of_mem hmem) _⟩
                  · exact Or.inl rfl
          next => exact .idle _ (noEnd_reqOut _ _)

/-! ## Between two inputs -/

/-- The union of a route is what `is_external` says. -/
def UssdRoute.WellTyped (rt : UssdRoute) : Prop :=
  if rt.isExternal then ∃ ref, rt.u = .euse ref else ∃ iuse, rt.u = .iuse iuse

/-- Addresses and ids tell the sessions apart, routes are what they say, and no session is handled
internally, since those that are end at once. -/
structure WellFormed (hlr : Hlr) : Prop where
  refs : hlr.refs.Nodup
  ref_lt : ∀ ref ∈ hlr.refs, ref < hlr.allocs
  ids : (hlr.ssSessions.map fun ss => (ss.imsi, ss.sessionId)).Nodup
  routes : ∀ rt ∈ hlr.ussdRoutes, rt.WellTyped
  not_iuse : ∀ ss ∈ hlr.ssSessions, ∀ iuse, ss.u ≠ .iuse iuse

/-- The session of a BEGIN is handled internally only if it says so. -/
theorem setHandler_typed (hroutes : ∀ rt ∈ hlr.ussdRoutes, rt.WellTyped) (hu : ss.u = .null)
    (hexternal : ss.isExternal = false) (isEuse : Bool) (source : PeerId) (ussdText : CStr) :
    let ss' := ss.setHandler hlr isEuse source ussdText
    (∀ iuse, ss'.u = .iuse iuse → isEuse = false ∧ ss'.isExternal = false) ∧
      ∀ ref, ss'.u = .euse ref → ss'.isExternal = !isEuse := by
  unfold SsSession.setHandler
  split
  next heuse =>
      cases heuseByName : euseByName hlr source with
      | none => simp
      | some euse => simp [heuse, hexternal]
  next heuse =>
      have heuse : isEuse = false := by simpa using heuse
      split
      next rt hrt =>
          have htyped := hroutes rt (List.mem_of_find?_eq_some hrt)
          unfold UssdRoute.WellTyped at htyped
          split at htyped
          next hext =>
              obtain ⟨ref, href⟩ := htyped
              simp [hext, href, heuse]
          next hext =>
              obtain ⟨iuse, hiuse⟩ := htyped
              have hext : rt.isExternal = false := by simpa using hext
              simp [hext, hiuse, heuse]
      next =>
          split
          · simp [heuse]
          · simp [hu]

theorem beginSession_typed (lib : SsLib) (hroutes : ∀ rt ∈ hlr.ussdRoutes, rt.WellTyped)
    (ptr : ReqPtr)
    (isEuse : Bool) (ssReq : SsRequest) :
    let ss := beginSession lib hlr ptr isEuse ssReq
    (∀ iuse, ss.u = .iuse iuse → isEuse = false ∧ ss.isExternal = false) ∧
      ∀ ref, ss.u = .euse ref → ss.isExternal = !isEuse := by
  unfold beginSession
  simp only
  split
  · cases isEuse <;> exact setHandler_typed hroutes rfl rfl _ _ _
  · cases isEuse <;> simp [ssSessionAlloc]

theorem beginSession_of_not_ussd {ptr : ReqPtr} {isEuse : Bool} {ssReq : SsRequest}
    (h : ssOpIsUssd lib ssReq.opcode = false) :
    (beginSession lib hlr ptr isEuse ssReq).u = .null := by
  unfold beginSession
  simp only [h]
  cases isEuse <;> rfl

theorem CanAnswer.congr {ss' : SsSession} (h : CanAnswer lib env ss') (hcore : ss'.core = ss.core)
    (hvlr : ss'.vlrName = ss.vlrName) : CanAnswer lib env ss := by
  have hreq : ss'.core.initialReqFromMs = ss.core.initialReqFromMs :=
    congrArg SsSession.initialReqFromMs hcore
  have himsi : ss'.core.imsi = ss.core.imsi := congrArg SsSession.imsi hcore
  have hreq : ss'.initialReqFromMs = ss.initialReqFromMs := hreq
  have himsi : ss'.imsi = ss.imsi := himsi
  unfold CanAnswer SsSession.resolveVlr at h ⊢
  rwa [hreq, himsi, hvlr] at h

theorem Rejects.congr {mid : Hlr} {ss' : SsSession} {isEuse : Bool}
    (h : Rejects lib env mid ss' isEuse req) (heuse : mid.euseList = hlr.euseList)
    (hcore : ss'.core = ss.core) : Rejects lib env hlr ss isEuse req := by
  have hu : ss'.core.u = ss.core.u := congrArg SsSession.u hcore
  have hexternal : ss'.core.isExternal = ss.core.isExternal := congrArg SsSession.isExternal hcore
  have hu : ss'.u = ss.u := hu
  have hexternal : ss'.isExternal = ss.isExternal := hexternal
  unfold Rejects at h ⊢
  rwa [hu, hexternal, heuse] at h

/-! ## What a message leaves -/

/-- What a message leaves if there is no fault: at most one session more, or less. -/
inductive OkCases (lib : SsLib) (env : Env) (hlr : Hlr) (ptr : ReqPtr) (next : Hlr)
    (out : List Out) : Prop
  | kept (hkept : Kept hlr next)
      (hend : NoEnd out ∨ ∃ ssReq ss, ptr.req.gsup.sessionState = .stateContinue ∧
        Concerns lib hlr ptr.req ssReq ss ∧
        Rejects lib env hlr ss (peerNameIsEuse ptr.req.sourceName) ssReq ∧ CanAnswer lib env ss)
  | begun (ssReq : SsRequest) (ss : SsSession)
      (hss : ss = beginSession lib hlr ptr (peerNameIsEuse ptr.req.sourceName) ssReq)
      (hbegins : Begins lib hlr ptr.req ssReq) (hkept : Kept (hlr.addSession ss) next)
      (hu : ∀ iuse, ss.u ≠ .iuse iuse)
      (hend : NoEnd out ∨
        Rejects lib env hlr ss (peerNameIsEuse ptr.req.sourceName) ssReq ∧ CanAnswer lib env ss)
  | handled (ssReq : SsRequest) (ss : SsSession)
      (hss : ss = beginSession lib hlr ptr (peerNameIsEuse ptr.req.sourceName) ssReq)
      (hbegins : Begins lib hlr ptr.req ssReq) (hkept : Kept hlr next)
      (heuse : peerNameIsEuse ptr.req.sourceName = false) (hend : NoOtherEnd ss out)
  | ended (ssReq : SsRequest) (ss : SsSession) (hstate : ptr.req.gsup.sessionState = .stateEnd)
      (hconcerns : Concerns lib hlr ptr.req ssReq ss)
      (hkept : Kept (hlr.removeSession ss.ref) next) (hend : NoOtherEnd ss out)

section Rx

variable {ptr : ReqPtr}

theorem freeReq_ok {res : Res} {next : Hlr} {out : List Out}
    (h : res.andThen (freeReq ptr) = .ok (next, out)) :
    ∃ before, res = .ok (next, before) ∧ out = before ++ reqOut ptr [.free ptr.req] := by
  obtain ⟨mid, o₁, o₂, hres, hfree, rfl⟩ := Res.andThen_eq_ok h
  cases hfree
  exact ⟨o₁, hres, rfl⟩

variable (hwf : WellFormed hlr)
include hwf

theorem begun_ok (hnew : ptr.ref ∉ hlr.refs) {ssReq : SsRequest} {next : Hlr} {out : List Out}
    (hbegins : Begins lib hlr ptr.req ssReq)
    (hcases : DispatchCases lib env
      (hlr.addSession (beginSession lib hlr ptr (peerNameIsEuse ptr.req.sourceName) ssReq))
      (beginSession lib hlr ptr (peerNameIsEuse ptr.req.sourceName) ssReq)
      (peerNameIsEuse ptr.req.sourceName) ssReq (.ok (next, out))) :
    OkCases lib env hlr ptr next out := by
  have htyped := beginSession_typed lib hwf.routes ptr (peerNameIsEuse ptr.req.sourceName) ssReq
  have hids := beginSession_ids lib hlr ptr (peerNameIsEuse ptr.req.sourceName) ssReq
  generalize hss : beginSession lib hlr ptr (peerNameIsEuse ptr.req.sourceName) ssReq = ss
    at hcases htyped hids
  cases hcases with
  | rejected _ _ hkept hend hwhy hanswer =>
      refine .begun ssReq ss hss.symm hbegins hkept (fun iuse hu => ?_)
        (hanswer.imp_right fun hanswer => ⟨hwhy.congr rfl rfl, hanswer⟩)
      rcases hwhy with hwhy | hwhy | ⟨-, -, ref, euse, hwhy, -⟩
      · rw [← hss, beginSession_of_not_ussd hwhy] at hu
        cases hu
      · rw [hu] at hwhy
        cases hwhy
      · rw [hu] at hwhy
        cases hwhy
  | forwarded _ _ hkept hend hnull hwhy =>
      refine .begun ssReq ss hss.symm hbegins hkept (fun iuse hu => ?_) (Or.inl hend)
      rcases hwhy with hwhy | ⟨hwhy, -⟩
      · rw [(htyped.1 iuse hu).1] at hwhy
        cases hwhy
      · rw [(htyped.1 iuse hu).2] at hwhy
        cases hwhy
  | handled mid _ iuse hkept hend heuse hexternal hu =>
      exact .handled ssReq ss hss.symm hbegins (hkept.remove_added (hids.1 ▸ hnew)) heuse hend

theorem continued_ok {ssReq : SsRequest} {ss ss' : SsSession} {mid next : Hlr} {res : Res}
    {out : List Out} (hstate : ptr.req.gsup.sessionState = .stateContinue)
    (hconcerns : Concerns lib hlr ptr.req ssReq ss) (hcore : ss'.core = ss.core)
    (hvlr : ss'.vlrName = ss.vlrName) (hkept : Kept hlr mid)
    (hcases : DispatchCases lib env mid ss' (peerNameIsEuse ptr.req.sourceName) ssReq res)
    (hres : res.andThen (freeReq ptr) = .ok (next, out)) : OkCases lib env hlr ptr next out := by
  obtain ⟨before, rfl, rfl⟩ := freeReq_ok hres
  cases hcases with
  | rejected _ _ hkept' hend hwhy hanswer =>
      refine .kept (hkept.trans hkept') ?_
      rcases hanswer with hend | hanswer
      · exact Or.inl (hend.append (noEnd_reqOut _ _))
      · exact Or.inr ⟨ssReq, ss, hstate, hconcerns, hwhy.congr hkept.euseList hcore,
          hanswer.congr hcore hvlr⟩
  | forwarded _ _ hkept' hend hnull hwhy =>
      exact .kept (hkept.trans hkept') (Or.inl (hend.append (noEnd_reqOut _ _)))
  | handled _ _ iuse _ _ _ _ hu =>
      have hu' : ss'.core.u = ss.core.u := congrArg SsSession.u hcore
      have hu' : ss'.u = ss.u := hu'
      exact absurd (hu'.symm.trans hu) (hwf.not_iuse ss hconcerns.mem iuse)

/-- A session that a message ends is still there when the message has been dispatched. -/
theorem ended_mid {ssReq : SsRequest} {ss : SsSession} {mid : Hlr} {res : Res} {out : List Out}
    (hconcerns : Concerns lib hlr ptr.req ssReq ss)
    (hcases : res = .ok (hlr, []) ∨ ptr.req.gsup.ssInfo ≠ [] ∧
      DispatchCases lib env hlr ss (peerNameIsEuse ptr.req.sourceName) ssReq res)
    (hres : res = .ok (mid, out)) : Kept hlr mid ∧ NoOtherEnd ss out := by
  subst hres
  rcases hcases with hidle | ⟨-, hcases⟩
  · cases hidle
    exact ⟨Kept.refl hlr, noEnd_nil.noOtherEnd ss⟩
  · cases hcases with
    | rejected _ _ hkept hend hwhy hanswer => exact ⟨hkept, hend⟩
    | forwarded _ _ hkept hend hnull hwhy => exact ⟨hkept, hend.noOtherEnd ss⟩
    | handled _ _ iuse _ _ _ _ hu => exact absurd hu (hwf.not_iuse ss hconcerns.mem iuse)

theorem ended_ok {ssReq : SsRequest} {ss : SsSession} {next : Hlr} {res : Res} {out : List Out}
    (hstate : ptr.req.gsup.sessionState = .stateEnd) (hconcerns : Concerns lib hlr ptr.req ssReq ss)
    (hcases : res = .ok (hlr, []) ∨ ptr.req.gsup.ssInfo ≠ [] ∧
      DispatchCases lib env hlr ss (peerNameIsEuse ptr.req.sourceName) ssReq res)
    (hres : (res.andThen fun hlr => ssSessionFree hlr ss.ref).andThen (freeReq ptr) =
      .ok (next, out)) : OkCases lib env hlr ptr next out := by
  obtain ⟨before, hbefore, rfl⟩ := freeReq_ok hres
  obtain ⟨mid, o₁, o₂, hmid, hfree, rfl⟩ := Res.andThen_eq_ok hbefore
  obtain ⟨hkept, hend⟩ := ended_mid hwf hconcerns hcases hmid
  have hhas : Has mid ss := hkept.has_iff.2 (Has.of_mem hconcerns.mem)
  obtain ⟨x, -, -, hfree'⟩ := ssSessionFree_eq hhas
  rw [hfree'] at hfree
  cases hfree
  exact .ended ssReq ss hstate hconcerns (hkept.removeSession ss.ref)
    ((hend.append (noEnd_freeReqs x)).append (noEnd_reqOut _ _))

/-- **What a message leaves if there is no fault.** -/
theorem rx_ok (hnew : ptr.ref ∉ hlr.refs) {next : Hlr} {out : List Out}
    (h : rxProcSsReq lib env hlr ptr = .ok (next, out)) : OkCases lib env hlr ptr next out := by
  have hcases := rx_cases lib env hwf.refs hnew
  generalize hres : rxProcSsReq lib env hlr ptr = res at h hcases
  cases hcases with
  | idle out hend =>
      cases h
      exact .kept (Kept.refl hlr) (Or.inl hend)
  | begun ssReq _ hbegins hcases =>
      rw [h] at hcases
      exact begun_ok hwf hnew hbegins hcases
  | continued ssReq ss ss' mid res hstate hconcerns hcore hvlr hkept hcases =>
      exact continued_ok hwf hstate hconcerns hcore hvlr hkept hcases h
  | ended ssReq ss res hstate hconcerns hcases => exact ended_ok hwf hstate hconcerns hcases h

/-- The message is dispatched to a session: to one that is there, or one that it begins. -/
def DispatchedTo (lib : SsLib) (hlr : Hlr) (ptr : ReqPtr) (ssReq : SsRequest) (ss : SsSession) :
    Prop :=
  Begins lib hlr ptr.req ssReq ∧
      ss = beginSession lib hlr ptr (peerNameIsEuse ptr.req.sourceName) ssReq ∨
    Concerns lib hlr ptr.req ssReq ss ∧ (ptr.req.gsup.sessionState = .stateContinue ∨
      ptr.req.gsup.sessionState = .stateEnd ∧ ptr.req.gsup.ssInfo ≠ [])

omit hwf in
/-- How many allocations there have been does not matter. -/
theorem dispatchedTo_allocs (n : Nat) {ssReq : SsRequest} {ss : SsSession} :
    DispatchedTo lib { hlr with allocs := n } ptr ssReq ss ↔ DispatchedTo lib hlr ptr ssReq ss := by
  constructor
  · rintro (⟨⟨hstate, hsource, hrequest, hunused⟩, hss⟩ |
      ⟨⟨hsource, hrequest, hmem, himsi, hid⟩, hstate⟩)
    · exact Or.inl ⟨⟨hstate, hsource, hrequest, hunused⟩, hss⟩
    · exact Or.inr ⟨⟨hsource, hrequest, hmem, himsi, hid⟩, hstate⟩
  · rintro (⟨⟨hstate, hsource, hrequest, hunused⟩, hss⟩ |
      ⟨⟨hsource, hrequest, hmem, himsi, hid⟩, hstate⟩)
    · exact Or.inl ⟨⟨hstate, hsource, hrequest, hunused⟩, hss⟩
    · exact Or.inr ⟨⟨hsource, hrequest, hmem, himsi, hid⟩, hstate⟩

/-- The MS asks about USSD in a session that is held by an EUSE but not external. -/
def Confuses (lib : SsLib) (hlr : Hlr) (ptr : ReqPtr) : Prop :=
  ∃ ssReq ss, DispatchedTo lib hlr ptr ssReq ss ∧ ssOpIsUssd lib ssReq.opcode = true ∧
    peerNameIsEuse ptr.req.sourceName = false ∧ ss.isExternal = false ∧ ∃ ref, ss.u = .euse ref

/-- The MS asks about USSD in an external session whose EUSE was freed. -/
def AsksFreed (lib : SsLib) (hlr : Hlr) (ptr : ReqPtr) : Prop :=
  ∃ ssReq ss, DispatchedTo lib hlr ptr ssReq ss ∧ ssOpIsUssd lib ssReq.opcode = true ∧
    peerNameIsEuse ptr.req.sourceName = false ∧ ss.isExternal = true ∧
    ∃ ref, ss.u = .euse ref ∧ Keyed.find Euse.ref hlr.euseList ref = none

/-- A fault is one of two, for a reason. -/
def Explains (lib : SsLib) (hlr : Hlr) (ptr : ReqPtr) (fault : Fault) : Prop :=
  fault = .euseFreed ∧ AsksFreed lib hlr ptr ∨ fault = .iuseIsEuse ∧ Confuses lib hlr ptr

omit hwf in
theorem dispatched_error {ssReq : SsRequest} {ss ss' : SsSession} {mid : Hlr} {fault : Fault}
    (hdispatched : DispatchedTo lib hlr ptr ssReq ss)
    (htyped : ∀ iuse, ss.u = .iuse iuse → ss.isExternal = false) (hcore : ss'.core = ss.core)
    (hcases : DispatchCases lib env mid ss' (peerNameIsEuse ptr.req.sourceName) ssReq
      (.error fault)) (hkept : mid.euseList = hlr.euseList) : Explains lib hlr ptr fault := by
  have hu' : ss'.core.u = ss.core.u := congrArg SsSession.u hcore
  have hu' : ss'.u = ss.u := hu'
  have hexternal' : ss'.core.isExternal = ss.core.isExternal := congrArg SsSession.isExternal hcore
  have hexternal' : ss'.isExternal = ss.isExternal := hexternal'
  cases hcases with
  | euseFreed ref hussd heuse hexternal hu hfind =>
      exact Or.inl ⟨rfl, ssReq, ss, hdispatched, hussd, heuse, hexternal'.symm.trans hexternal, ref,
        hu'.symm.trans hu, hkept ▸ hfind⟩
  | euseIsIuse iuse hexternal hu =>
      have hnot := htyped iuse (hu'.symm.trans hu)
      rw [← hexternal', hexternal] at hnot
      cases hnot
  | iuseIsEuse ref hussd heuse hexternal hu =>
      exact Or.inr ⟨rfl, ssReq, ss, hdispatched, hussd, heuse, hexternal'.symm.trans hexternal, ref,
        hu'.symm.trans hu⟩

/-- **What is wrong if there is a fault.** -/
theorem rx_error (hnew : ptr.ref ∉ hlr.refs) {fault : Fault}
    (h : rxProcSsReq lib env hlr ptr = .error fault) : Explains lib hlr ptr fault := by
  have hcases := rx_cases lib env hwf.refs hnew
  have hnot : ∀ {ssReq ss}, Concerns lib hlr ptr.req ssReq ss →
      ∀ iuse, ss.u = .iuse iuse → ss.isExternal = false :=
    fun hconcerns iuse hu => absurd hu (hwf.not_iuse _ hconcerns.mem iuse)
  generalize hres : rxProcSsReq lib env hlr ptr = res at h hcases
  cases hcases with
  | idle out hend => cases h
  | begun ssReq _ hbegins hcases =>
      rw [h] at hcases
      have htyped := beginSession_typed lib hwf.routes ptr
        (peerNameIsEuse ptr.req.sourceName) ssReq
      exact dispatched_error (Or.inl ⟨hbegins, rfl⟩) (fun iuse hu => (htyped.1 iuse hu).2) rfl
        hcases rfl
  | continued ssReq ss ss' mid res hstate hconcerns hcore hvlr hkept hcases =>
      rcases Res.andThen_eq_error h with rfl | ⟨_, _, -, hfree⟩
      · exact dispatched_error (Or.inr ⟨hconcerns, Or.inl hstate⟩) (hnot hconcerns) hcore
          hcases hkept.euseList
      · cases hfree
  | ended ssReq ss res hstate hconcerns hcases =>
      rcases Res.andThen_eq_error h with h | ⟨_, _, -, hfree⟩
      · rcases Res.andThen_eq_error h with rfl | ⟨mid, out, hmid, hfree⟩
        · rcases hcases with hcases | ⟨hinfo, hcases⟩
          · cases hcases
          · exact dispatched_error (Or.inr ⟨hconcerns, Or.inr ⟨hstate, hinfo⟩⟩) (hnot hconcerns) rfl
              hcases rfl
        · -- the session is still there, since it was not handled internally
          have hkept := (ended_mid hwf hconcerns hcases hmid).1
          have hhas : Has mid ss := hkept.has_iff.2 (Has.of_mem hconcerns.mem)
          obtain ⟨x, -, -, hfree'⟩ := ssSessionFree_eq hhas
          rw [hfree'] at hfree
          cases hfree
      · cases hfree

end Rx

/-! ## Well-formed states in any run -/

theorem wellFormed_init : WellFormed Hlr.init where
  refs := List.nodup_nil
  ref_lt := fun _ h => by cases h
  ids := List.nodup_nil
  routes := fun _ h => by cases h
  not_iuse := fun _ h => by cases h

namespace WellFormed

variable {next : Hlr} {out : List Out}

theorem kept (h : WellFormed hlr) (hkept : Kept hlr hlr') : WellFormed hlr' where
  refs := hkept.refs ▸ h.refs
  ref_lt := by
    rw [hkept.refs, hkept.allocs]
    exact h.ref_lt
  ids := by
    rw [hkept.map_eq _ fun _ => rfl]
    exact h.ids
  routes := hkept.ussdRoutes ▸ h.routes
  not_iuse := hkept.forall (fun _ => Iff.rfl) h.not_iuse

theorem addSession (h : WellFormed hlr) (hnew : ss.ref ∉ hlr.refs) (hlt : ss.ref < hlr.allocs)
    (hid : ssSessionFind hlr ss.imsi ss.sessionId = none) (hu : ∀ iuse, ss.u ≠ .iuse iuse) :
    WellFormed (hlr.addSession ss) where
  refs := addSession_refs_nodup h.refs hnew
  ref_lt := by
    intro ref href
    rw [Hlr.refs, Hlr.addSession, List.map_append, List.mem_append] at href
    rcases href with href | href
    · exact h.ref_lt ref href
    · rw [List.map_singleton, List.mem_singleton] at href
      exact href ▸ hlt
  ids := by
    rw [Hlr.addSession, List.map_append, List.nodup_append]
    refine ⟨h.ids, by simp, ?_⟩
    rintro id hmem _ hss rfl
    rw [List.map_singleton, List.mem_singleton] at hss
    obtain ⟨x, hx, rfl⟩ := List.mem_map.1 hmem
    exact ssSessionFind_eq_none_iff.1 hid x hx hss
  routes := h.routes
  not_iuse := by
    intro x hx
    rcases List.mem_append.1 hx with hx | hx
    · exact h.not_iuse x hx
    · obtain rfl := List.mem_singleton.1 hx
      exact hu

theorem removeSession (h : WellFormed hlr) (ref : Nat) : WellFormed (hlr.removeSession ref) where
  refs := Keyed.nodup_remove h.refs
  ref_lt := fun r hr => h.ref_lt r ((List.filter_sublist.map SsSession.ref).subset hr)
  ids := (List.filter_sublist.map _).nodup h.ids
  routes := h.routes
  not_iuse := fun x hx => h.not_iuse x (Keyed.mem_remove.1 hx).1

/-- One more allocation. -/
theorem alloc (h : WellFormed hlr) : WellFormed { hlr with allocs := hlr.allocs + 1 } :=
  ⟨h.refs, fun ref href => Nat.lt_succ_of_lt (h.ref_lt ref href), h.ids, h.routes, h.not_iuse⟩

theorem allocs_notMem (h : WellFormed hlr) : hlr.allocs ∉ hlr.refs :=
  fun hmem => Nat.lt_irrefl _ (h.ref_lt _ hmem)

theorem okCases {ptr : ReqPtr} (h : WellFormed hlr) (hnew : ptr.ref ∉ hlr.refs)
    (hlt : ptr.ref < hlr.allocs) (hcases : OkCases lib env hlr ptr next out) :
    WellFormed next := by
  cases hcases with
  | kept hkept hend => exact h.kept hkept
  | begun ssReq ss hss hbegins hkept hu hend =>
      obtain ⟨href, himsi, hid⟩ :=
        beginSession_ids lib hlr ptr (peerNameIsEuse ptr.req.sourceName) ssReq
      rw [← hss] at href himsi hid
      refine WellFormed.kept (h.addSession (href ▸ hnew) (href ▸ hlt) ?_ hu) hkept
      rw [himsi, hid]
      exact hbegins.unused
  | handled ssReq ss hss hbegins hkept heuse hend => exact h.kept hkept
  | ended ssReq ss hstate hconcerns hkept hend => exact (h.removeSession ss.ref).kept hkept

theorem setRoutes (h : WellFormed hlr) {routes : List UssdRoute}
    (hroutes : ∀ rt ∈ routes, rt.WellTyped) : WellFormed { hlr with ussdRoutes := routes } :=
  ⟨h.refs, h.ref_lt, h.ids, hroutes, h.not_iuse⟩

theorem addRoute (h : WellFormed hlr) {rt : UssdRoute} (hrt : rt.WellTyped) :
    WellFormed (ussdRoutePrefixAlloc hlr rt) := by
  unfold ussdRoutePrefixAlloc
  split
  · exact h
  · refine h.setRoutes ?_
    intro x hx
    rcases List.mem_append.1 hx with hx | hx
    · exact h.routes x hx
    · exact (List.mem_singleton.1 hx) ▸ hrt

/-- **Whatever happens, the state is well formed if there is no fault.** -/
theorem apply (h : WellFormed hlr) {input : Input}
    (hres : Ussd.apply lib hlr input = .ok (next, out)) : WellFormed next := by
  cases input with
  | rx req env =>
      exact h.alloc.okCases h.allocs_notMem (Nat.lt_succ_self _)
        (rx_ok h.alloc h.allocs_notMem hres)
  | timeout ref =>
      simp only [Ussd.apply, ssSessionTimeout, ssSessionFree] at hres
      split at hres
      · cases hres
        exact h
      next ss hfind =>
          split at hres
          · split at hres
            · cases hres
            · cases hres
              exact h.removeSession _
          · cases hres
            exact h
  | euse name =>
      cases hres
      unfold cfgEuse euseAlloc
      split
      · exact h
      · exact ⟨h.alloc.refs, h.alloc.ref_lt, h.ids, h.routes, h.not_iuse⟩
  | noEuse name =>
      cases hres
      unfold cfgNoEuse
      split
      · exact h
      · split
        · exact h
        · exact ⟨h.refs, h.ref_lt, h.ids, h.routes, h.not_iuse⟩
  | routeInt pfx iuse =>
      cases hres
      exact h.addRoute ⟨iuse, rfl⟩
  | routeExt pfx name =>
      cases hres
      unfold cfgUssdRoutePfxExt
      split
      · exact h
      · exact h.addRoute ⟨_, rfl⟩
  | noRoute pfx =>
      cases hres
      unfold cfgUssdNoRoutePfx ussdRouteDel
      split
      · exact h
      · exact h.setRoutes fun rt hrt => h.routes rt (List.mem_of_mem_erase hrt)
  | defaultRoute name =>
      cases hres
      unfold cfgUssdDefaultroute
      split
      · exact h
      · exact ⟨h.refs, h.ref_lt, h.ids, h.routes, h.not_iuse⟩
  | noDefaultRoute =>
      cases hres
      exact ⟨h.refs, h.ref_lt, h.ids, h.routes, h.not_iuse⟩
  | guardTimeout timeout =>
      cases hres
      exact ⟨h.refs, h.ref_lt, h.ids, h.routes, h.not_iuse⟩

end WellFormed

theorem Input.rx_or (input : Input) :
    (∃ req env, input = .rx req env) ∨ ∀ req env, input ≠ .rx req env := by
  cases input with
  | rx req env => exact Or.inl ⟨req, env, rfl⟩
  | _ => exact Or.inr fun _ _ h => by cases h

/-- Commands and timers neither add sessions nor answer the MS, and nothing is undefined in
them. -/
theorem apply_of_ne_rx (lib : SsLib) (hlr : Hlr) {input : Input}
    (hinput : ∀ req env, input ≠ .rx req env) :
    ∃ next out, apply lib hlr input = .ok (next, out) ∧
      next.ssSessions.Sublist hlr.ssSessions ∧ NoEnd out := by
  cases input with
  | rx req env => exact absurd rfl (hinput req env)
  | timeout ref =>
      simp only [apply]
      split
      · exact ⟨_, _, rfl, List.Sublist.refl _, noEnd_nil⟩
      next ss hfind =>
          split
          · have hhas : Has hlr ss := Has.of_mem (List.mem_of_find?_eq_some hfind)
            obtain ⟨x, -, -, hfree⟩ := ssSessionFree_eq hhas
            exact ⟨_, _, hfree, List.filter_sublist, noEnd_freeReqs x⟩
          · exact ⟨_, _, rfl, List.Sublist.refl _, noEnd_nil⟩
  | euse name =>
      refine ⟨_, _, rfl, ?_, noEnd_nil⟩
      unfold cfgEuse euseAlloc
      split <;> exact List.Sublist.refl _
  | noEuse name =>
      refine ⟨_, _, rfl, ?_, noEnd_nil⟩
      unfold cfgNoEuse
      split
      · exact List.Sublist.refl _
      · split <;> exact List.Sublist.refl _
  | routeInt pfx iuse =>
      refine ⟨_, _, rfl, ?_, noEnd_nil⟩
      unfold cfgUssdRoutePfxInt ussdRoutePrefixAlloc
      split <;> exact List.Sublist.refl _
  | routeExt pfx name =>
      refine ⟨_, _, rfl, ?_, noEnd_nil⟩
      unfold cfgUssdRoutePfxExt ussdRoutePrefixAlloc
      split
      · exact List.Sublist.refl _
      · split <;> exact List.Sublist.refl _
  | noRoute pfx =>
      refine ⟨_, _, rfl, ?_, noEnd_nil⟩
      unfold cfgUssdNoRoutePfx
      split <;> exact List.Sublist.refl _
  | defaultRoute name =>
      refine ⟨_, _, rfl, ?_, noEnd_nil⟩
      unfold cfgUssdDefaultroute
      split <;> exact List.Sublist.refl _
  | noDefaultRoute => exact ⟨_, _, rfl, List.Sublist.refl _, noEnd_nil⟩
  | guardTimeout timeout => exact ⟨_, _, rfl, List.Sublist.refl _, noEnd_nil⟩

/-- The state is well formed unless there was a fault. -/
def Sound (s : Except Fault Hlr) : Prop := ∀ hlr, s = .ok hlr → WellFormed hlr

theorem sound_init : Sound (.ok Hlr.init) := by
  intro hlr h
  cases h
  exact wellFormed_init

theorem step_fst (lib : SsLib) (hlr : Hlr) (input : Input) :
    (step lib (.ok hlr) input).1 = (apply lib hlr input).map Prod.fst := by
  unfold step
  simp only
  split
  next h => rw [h]; rfl
  next h => rw [h]; rfl

theorem step_of_ok {input : Input} {next : Hlr} {out : List Out}
    (h : apply lib hlr input = .ok (next, out)) :
    step lib (.ok hlr) input = (.ok next, out) := by
  simp only [step, h]

theorem step_of_error {input : Input} {fault : Fault} (h : apply lib hlr input = .error fault) :
    step lib (.ok hlr) input = (.error fault, []) := by
  simp only [step, h]

/-- A step leaves a fault, or what the input leaves. -/
theorem step_cases {s : Except Fault Hlr} {input : Input} {next : Hlr} {out : List Out}
    (h : step lib s input = (.ok next, out)) :
    ∃ hlr, s = .ok hlr ∧ apply lib hlr input = .ok (next, out) := by
  cases s with
  | error fault => cases h
  | ok hlr =>
      refine ⟨hlr, rfl, ?_⟩
      cases happly : apply lib hlr input with
      | error fault =>
          rw [step_of_error happly] at h
          cases h
      | ok p =>
          rw [step_of_ok happly] at h
          cases h
          rfl

/-- **No input leaves a state that is not well formed.** -/
theorem Sound.step {s : Except Fault Hlr} (h : Sound s) (input : Input) :
    Sound (step lib s input).1 := by
  intro next hnext
  obtain ⟨hlr, rfl, happly⟩ := step_cases (Prod.ext hnext rfl)
  exact (h hlr rfl).apply happly

end Ussd
end OsmoHlr
