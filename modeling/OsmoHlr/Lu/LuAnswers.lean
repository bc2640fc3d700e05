import OsmoHlr.Gsup.GsupLibHost
import OsmoHlr.Lu.LuFsm

/-!
# Every Update Location Request is answered once

An LU owns the request that started it until it ends, and its end is the answer:
success, failure, the timeout or the termination of its FSM.

* `step_effect` — what one input does to the LUs and to their requests.
* `update_location_answered_once` — so in every run each request is either owned by
  its LU and not answered yet, or it was answered once and freed.
-/

namespace OsmoHlr
namespace LuFsm

open CniPeerId CString Gsup

variable (lib : GsupProtocol)

/-! ## What is said about requests -/

/-- What happens to requests meanwhile. -/
def reqEvents (out : List Out) : List ReqEvent :=
  out.filterMap fun
    | .req event => some event
    | _ => none

@[simp] theorem reqEvents_append (a b : List Out) :
    reqEvents (a ++ b) = reqEvents a ++ reqEvents b := List.filterMap_append ..

@[simp] theorem reqEvents_success (lu : Lu) (out : List Out) :
    reqEvents (.success lu :: out) = reqEvents out := rfl

@[simp] theorem reqEvents_failure (lu : Lu) (why : Failure) (out : List Out) :
    reqEvents (.failure lu why :: out) = reqEvents out := rfl

@[simp] theorem reqEvents_nil : reqEvents [] = [] := rfl

@[simp] theorem reqEvents_reqOut (ptr : ReqPtr) (calls : List ReqCall) :
    reqEvents (reqOut ptr calls) = ptr.events calls := by
  simp [reqEvents, reqOut, List.filterMap_map]

theorem crash_notMem_reqOut (ptr : ReqPtr) (calls : List ReqCall) :
    Out.crash ∉ reqOut ptr calls := by
  simp [reqOut]

/-- An Update Location Request that can be responded to. -/
structure IsRequest (req : GsupReq) : Prop where
  messageType : req.gsup.messageType = lib.msgt .updateLocation .request
  sendResponseCb : req.sendResponseCb = true

/-- Not the last that happens to a request: an Insert Data Request is sent. -/
def Interim (req : GsupReq) (call : ReqCall) : Prop :=
  ∃ response, call = .sendResponseCb req response ∧
    response.messageType = lib.msgt .insertData .request

/-- The last that happens to a request: it is answered, and freed. -/
def Final (req : GsupReq) (calls : List ReqCall) : Prop :=
  ∃ response, calls = [.sendResponseCb req response, .free req] ∧
    (response.messageType = lib.msgt .updateLocation .result ∨
      response.messageType = lib.msgt .updateLocation .error)

/-- A request that has not been answered. -/
def Unanswered (req : GsupReq) (calls : List ReqCall) : Prop := ∀ call ∈ calls, Interim lib req call

/-- A request that has been answered once. -/
def Answered (req : GsupReq) (calls : List ReqCall) : Prop :=
  ∃ interim final, calls = interim ++ final ∧ Unanswered lib req interim ∧ Final lib req final

variable {lib} {g : AllLu} {lu : Lu} {ptr : ReqPtr}

/-! ## The end of an LU -/

theorem AllLu.del_set (lu : Lu) : (g.set lu).del lu.ref = g.del lu.ref :=
  congrArg (AllLu.mk · g.received) Keyed.remove_set

theorem luForgetAndTerm_eq (g : AllLu) (lu : Lu) :
    luForgetAndTerm lib g lu = (g.del lu.ref, []) :=
  congrArg (·, []) (AllLu.del_set { lu with updateLocationReq := none })

/-- The LU is gone, and its request answered and freed. -/
structure Ends (lib : GsupProtocol) (g : AllLu) (lu : Lu) (ptr : ReqPtr)
    (next : AllLu × List Out) : Prop where
  state : next.1 = g.del lu.ref
  final : ∃ calls, reqEvents next.2 = ptr.events calls ∧ Final lib ptr.req calls
  no_crash : Out.crash ∉ next.2

section Ends

variable (g) (hptr : lu.updateLocationReq = some ptr) (hreq : IsRequest lib ptr.req)
include hptr hreq

theorem luSuccess_ends : Ends lib g lu ptr (luSuccess lib g lu) := by
  obtain ⟨response, hcalls, htype⟩ :=
    osmoGsupReqRespondMsgt_spec lib hreq.sendResponseCb .updateLocation .result
  have hfinal : Final lib ptr.req _ := ⟨response, rfl, Or.inl htype⟩
  simp only [luSuccess, luForgetAndTerm_eq, hptr, hcalls]
  refine ⟨rfl, ⟨_, by simp, hfinal⟩, ?_⟩
  simp [crash_notMem_reqOut]

omit hptr in
theorem respondErr_final (cause : UInt8) :
    Final lib ptr.req (osmoGsupReqRespondErr lib.toGsupLib ptr.req cause) := by
  obtain ⟨response, hcalls, htype⟩ :=
    osmoGsupReqRespondErr_spec hreq.sendResponseCb hreq.messageType cause
  exact ⟨response, hcalls, Or.inr htype⟩

theorem luFailure_ends (cause : Cause) (why : Failure) :
    Ends lib g lu ptr (luFailure lib g lu cause why) := by
  have hfinal := respondErr_final hreq (lib.causeNum cause)
  simp only [luFailure, luForgetAndTerm_eq, hptr]
  refine ⟨rfl, ⟨_, by simp, hfinal⟩, ?_⟩
  simp [crash_notMem_reqOut]

theorem luFsmCleanup_ends : Ends lib g lu ptr (luFsmCleanup lib g lu) := by
  have hfinal := respondErr_final hreq (lib.causeNum .gsmNetFail)
  simp only [luFsmCleanup, hptr]
  exact ⟨rfl, ⟨_, by simp, hfinal⟩, crash_notMem_reqOut _ _⟩

end Ends

/-! ## The start of an LU -/

theorem osmoGsupCreateInsertSubscriberDataMsg_type {env : Env} {imsi msisdn : CStr}
    {cnDomain : CnDomain} {gsup : GsupMessage}
    (h : osmoGsupCreateInsertSubscriberDataMsg lib env imsi msisdn cnDomain = some gsup) :
    gsup.messageType = lib.msgt .insertData .request := by
  unfold osmoGsupCreateInsertSubscriberDataMsg at h
  split at h
  next => cases h
  next =>
      obtain rfl := Option.some.inj h
      unfold osmoGsupConfigureWildcardApn
      split
      · split <;> rfl
      · rfl

/-- What comes of an Update Location Request: an LU that owns it, or an error. -/
inductive StartOutcome (lib : GsupProtocol) (g : AllLu) (ptr : ReqPtr) : AllLu × List Out → Prop
  | opened (lu : Lu) (calls : List ReqCall) (href : lu.ref = ptr.ref)
      (hptr : lu.updateLocationReq = some ptr) (hstate : lu.state = .waitInsertDataResult)
      (hcalls : Unanswered lib ptr.req calls) : StartOutcome lib g ptr (g.add lu, reqOut ptr calls)
  | refused (out : List Out) (calls : List ReqCall) (hout : reqEvents out = ptr.events calls)
      (hcalls : Final lib ptr.req calls) (hcrash : Out.crash ∉ out) : StartOutcome lib g ptr (g, out)

/-- No LU has the address of a new one. -/
def AllLu.New (g : AllLu) (ptr : ReqPtr) : Prop := ∀ lu ∈ g.lus, lu.ref ≠ ptr.ref

section Start

variable (hnew : g.New ptr) (hreq : IsRequest lib ptr.req) (href : lu.ref = ptr.ref)
  (hptr : lu.updateLocationReq = some ptr)
include hnew href

theorem AllLu.set_add (lu' : Lu) (href' : lu'.ref = ptr.ref) : (g.add lu).set lu' = g.add lu' := by
  have hne : ∀ x ∈ g.lus, x.ref ≠ lu'.ref := fun x hx h => hnew x hx (h.trans href')
  exact congrArg (AllLu.mk · g.received) (Keyed.set_cons hne (href.trans href'.symm))

theorem AllLu.del_add : (g.add lu).del lu.ref = g := by
  have hne : ∀ x ∈ g.lus, x.ref ≠ lu.ref := fun x hx h => hnew x hx (h.trans href)
  exact congrArg (AllLu.mk · g.received) (Keyed.remove_cons hne rfl)

include hreq hptr

theorem luFailure_start (cause : Cause) (why : Failure) :
    StartOutcome lib g ptr (luFailure lib (g.add lu) lu cause why) := by
  obtain ⟨hstate, ⟨calls, hout, hfinal⟩, hcrash⟩ := luFailure_ends (g.add lu) hptr hreq cause why
  rw [AllLu.del_add hnew href] at hstate
  rw [← Prod.eta (luFailure lib (g.add lu) lu cause why), hstate]
  exact .refused _ calls hout hfinal hcrash

theorem luFsmWaitInsertDataResultOnenter_start (env : Env)
    (hstate : lu.state = .waitInsertDataResult) :
    StartOutcome lib g ptr (luFsmWaitInsertDataResultOnenter lib env (g.add lu) lu) := by
  unfold luFsmWaitInsertDataResultOnenter
  split
  next => exact luFailure_start hnew hreq href hptr _ _
  next gsup hgsup =>
      rw [hptr]
      simp only
      by_cases hrc : (osmoGsupMakeResponse lib.toGsupLib gsup ptr.req.gsup false false).1 = 0
      · rw [osmoGsupReqRespond_spec hreq.sendResponseCb hrc]
        refine .opened lu _ href hptr hstate fun call hcall => ?_
        obtain rfl := List.mem_singleton.1 hcall
        have htype := osmoGsupCreateInsertSubscriberDataMsg_type hgsup
        refine ⟨_, rfl, ?_⟩
        rw [fillResponse, htype]
        exact if_neg (lib.msgt_ne _ _).1
      · have hrespond : osmoGsupReqRespond lib.toGsupLib ptr.req gsup false false = (einval, []) := by
          simp [osmoGsupReqRespond, hrc]
        rw [hrespond]
        exact luFailure_start hnew hreq href hptr _ _

theorem luStateChg_start (env : Env) (hstate : lu.state = .unvalidated) :
    StartOutcome lib g ptr (luStateChg lib env (g.add lu) lu .waitInsertDataResult) := by
  have hmask : outStateMask lu.state .waitInsertDataResult = true := by
    rw [hstate]
    rfl
  have hset := AllLu.set_add hnew href { lu with state := .waitInsertDataResult } href
  rw [luStateChg, if_pos hmask]
  simp only [hset]
  exact luFsmWaitInsertDataResultOnenter_start hnew hreq (by exact href) (by exact hptr) env rfl

theorem luStore_start (env : Env) (hstate : lu.state = .unvalidated) :
    StartOutcome lib g ptr (luStore lib env (g.add lu) lu) := by
  rw [luStore]
  generalize env.dbSubscrLu _ _ _ _ = rc
  split
  · exact luFailure_start hnew hreq href hptr _ _
  · split
    · exact luFailure_start hnew hreq href hptr _ _
    · split
      · exact luFailure_start hnew hreq href hptr _ _
      · exact luStateChg_start hnew hreq href hptr env hstate

end Start

/-- **An Update Location Request is owned by a new LU, or answered at once.** -/
theorem luStart_outcome (hnew : g.New ptr) (hreq : IsRequest lib ptr.req) (env : Env) :
    StartOutcome lib g ptr (luStart lib env g ptr) := by
  unfold luStart
  simp only
  split_ifs
  · exact luFailure_start hnew hreq rfl rfl _ _
  · split
    next => exact luFailure_start hnew hreq rfl rfl _ _
    next subscr hsubscr =>
        rw [AllLu.set_add hnew rfl _ rfl]
        split_ifs
        · exact luFailure_start hnew hreq rfl rfl _ _
        · exact luFailure_start hnew hreq rfl rfl _ _
        · exact luStore_start hnew hreq rfl rfl env rfl

/-! ## What one input does -/

/-- The messages that are handed in. -/
def handed : Input → List GsupReq
  | .rxGsup req _ => [req]
  | _ => []

/-- What comes of an input, if every LU of `g` owns its request: at most one LU ends, and nothing
happens to the requests of the others. -/
inductive Effect (lib : GsupProtocol) (g : AllLu) (input : Input) : AllLu × List Out → Prop
  | kept (next : AllLu) (out : List Out)
      (hinput : ∀ req ∈ handed input, ¬IsRequest lib req)
      (hreceived : next.received = g.received + (handed input).length)
      (hlus : next.lus = g.lus)
      (hout : ∀ ref, ref < g.received ∨ next.received ≤ ref → callsTo (reqEvents out) ref = [])
      (hcrash : Out.crash ∉ out) : Effect lib g input (next, out)
  | ended (next : AllLu) (out : List Out) (lu : Lu) (req : GsupReq)
      (hinput : ∀ req ∈ handed input, ¬IsRequest lib req)
      (hreceived : next.received = g.received + (handed input).length)
      (hlu : lu ∈ g.lus) (hptr : lu.updateLocationReq = some ⟨lu.ref, req⟩)
      (hlus : next.lus = Keyed.remove Lu.ref g.lus lu.ref)
      (hfinal : Final lib req (callsTo (reqEvents out) lu.ref))
      (hout : ∀ ref, ref ≠ lu.ref → ref < g.received ∨ next.received ≤ ref →
        callsTo (reqEvents out) ref = [])
      (hcrash : Out.crash ∉ out) : Effect lib g input (next, out)
  | started (req : GsupReq) (next : AllLu × List Out)
      (hinput : handed input = [req]) (hreq : IsRequest lib req)
      (houtcome : StartOutcome lib { g with received := g.received + 1 } ⟨g.received, req⟩ next) :
      Effect lib g input next

/-- Every LU owns the request that started it, one of the messages received so far. -/
structure Owned (lib : GsupProtocol) (g : AllLu) : Prop where
  ref_lt : ∀ lu ∈ g.lus, lu.ref < g.received
  owns : ∀ lu ∈ g.lus, ∃ req, lu.updateLocationReq = some ⟨lu.ref, req⟩ ∧ IsRequest lib req

section Step

variable {input : Input} {req : GsupReq}

/-- Nothing but an answer to a message of its own. -/
theorem Effect.of_rx {env : Env} (hinput : ¬IsRequest lib req) (calls : List ReqCall) :
    Effect lib g (.rxGsup req env)
      ({ g with received := g.received + 1 }, reqOut ⟨g.received, req⟩ calls) := by
  refine .kept _ _ (by simpa [handed] using hinput) rfl rfl ?_ (crash_notMem_reqOut _ _)
  intro ref href
  have hne : g.received ≠ ref := by
    simp only at href
    omega
  rw [reqEvents_reqOut]
  exact callsTo_events_of_ne hne calls

/-- The end of an LU of the list. -/
theorem Effect.of_ends (h : Owned lib g) (hlu : lu ∈ g.lus)
    (hptr : lu.updateLocationReq = some ⟨lu.ref, req⟩)
    (hinput : ∀ req ∈ handed input, ¬IsRequest lib req) {next : AllLu × List Out}
    (hends : Ends lib ⟨g.lus, g.received + (handed input).length⟩ lu ⟨lu.ref, req⟩ next)
    (msg : GsupReq) {before : List ReqCall} (hbefore : before = [] ∨ (handed input).length = 1) :
    Effect lib g input (next.1, reqOut ⟨g.received, msg⟩ before ++ next.2) := by
  obtain ⟨hstate, ⟨calls, hout, hfinal⟩, hcrash⟩ := hends
  have hne : g.received ≠ lu.ref := Nat.ne_of_gt (h.ref_lt lu hlu)
  refine .ended _ _ lu req hinput (by rw [hstate]; rfl) hlu hptr (by rw [hstate]; rfl) ?_ ?_ ?_
  · rw [reqEvents_append, callsTo_append, hout, reqEvents_reqOut,
      callsTo_events_of_ne (by exact hne), List.nil_append]
    have hself := callsTo_events_self ⟨lu.ref, req⟩ calls
    exact hself.symm ▸ hfinal
  · intro ref href hrec
    have hlucalls : callsTo (ReqPtr.events ⟨lu.ref, req⟩ calls) ref = [] :=
      callsTo_events_of_ne (Ne.symm href) calls
    rw [reqEvents_append, callsTo_append, hout, reqEvents_reqOut, hlucalls, List.append_nil]
    rcases hbefore with rfl | hone
    · rfl
    · have hnext : next.1.received = g.received + 1 := by
        rw [hstate, ← hone]
        rfl
      have hneref : g.received ≠ ref := by omega
      exact callsTo_events_of_ne hneref before
  · rw [List.mem_append]
    rintro (hc | hc)
    · exact crash_notMem_reqOut _ _ hc
    · exact hcrash hc

/-- A message other than a request. -/
theorem luFsmWaitInsertDataResult_effect (h : Owned lib g) (hlu : lu ∈ g.lus) {msg : GsupReq}
    (hmsg : ¬IsRequest lib msg) (env : Env) :
    Effect lib g (.rxGsup msg env) (luFsmWaitInsertDataResult lib
      { g with received := g.received + 1 } lu ⟨g.received, msg⟩) := by
  obtain ⟨req, hptr, hreq⟩ := h.owns lu hlu
  unfold luFsmWaitInsertDataResult
  have hinput : ∀ req ∈ handed (.rxGsup msg env), ¬IsRequest lib req := by
    simpa [handed] using hmsg
  split
  · exact .of_ends h hlu hptr hinput (luSuccess_ends _ hptr hreq) msg (Or.inr rfl)
  · split
    · exact .of_ends h hlu hptr hinput (luFailure_ends _ hptr hreq _ _) msg
        (Or.inl rfl)
    · exact .of_rx hmsg _

/-- **What one input does.** -/
theorem step_effect (h : Owned lib g) (input : Input)
    (hcb : ∀ req ∈ handed input, req.sendResponseCb = true) :
    Effect lib g input (step lib g input) := by
  cases input with
  | rxGsup req env =>
      simp only [step, luRxGsup]
      have hcb : req.sendResponseCb = true := hcb req (List.mem_singleton_self req)
      split
      next htype =>
          have hnew : AllLu.New { g with received := g.received + 1 } ⟨g.received, req⟩ :=
            fun lu hlu => Nat.ne_of_lt (h.ref_lt lu hlu)
          exact .started req _ rfl ⟨htype, hcb⟩ (luStart_outcome hnew ⟨htype, hcb⟩ env)
      next htype =>
          have hmsg : ¬IsRequest lib req := fun h => htype h.messageType
          split
          next => exact .of_rx hmsg _
          next lu hfind =>
              have hlu : lu ∈ g.lus := List.mem_of_find?_eq_some hfind
              unfold osmoFsmInstDispatch
              split
              · simp only [action, ne_eq, not_true_eq_false, ↓reduceIte, List.append_nil]
                split
                · exact luFsmWaitInsertDataResult_effect h hlu hmsg env
                · exact .of_rx hmsg []
              · exact .of_rx hmsg _
  | timer ref =>
      have hinput : ∀ req ∈ handed (.timer ref), ¬IsRequest lib req := by simp [handed]
      simp only [step]
      split
      next => exact .kept _ _ hinput rfl rfl (by simp) (by simp)
      next lu hfind =>
          split
          · have hlu : lu ∈ g.lus := List.mem_of_find?_eq_some hfind
            obtain ⟨req, hptr, hreq⟩ := h.owns lu hlu
            exact .of_ends h hlu hptr hinput (luFailure_ends g hptr hreq _ _) req
              (Or.inl rfl)
          · exact .kept _ _ hinput rfl rfl (by simp) (by simp)
  | term ref =>
      have hinput : ∀ req ∈ handed (.term ref), ¬IsRequest lib req := by simp [handed]
      simp only [step]
      split
      next => exact .kept _ _ hinput rfl rfl (by simp) (by simp)
      next lu hfind =>
          have hlu : lu ∈ g.lus := List.mem_of_find?_eq_some hfind
          obtain ⟨req, hptr, hreq⟩ := h.owns lu hlu
          exact .of_ends h hlu hptr hinput (luFsmCleanup_ends g hptr hreq) req (Or.inl rfl)

end Step

/-! ## Runs -/

/-- What has become of the messages that were handed in, by their numbers. -/
structure AnsweredOnce (lib : GsupProtocol) (msgs : List GsupReq) (g : AllLu) (out : List Out) :
    Prop where
  received : g.received = msgs.length
  newest_first : g.lus.Pairwise fun a b => b.ref < a.ref
  waiting : ∀ lu ∈ g.lus, lu.state = .waitInsertDataResult
  owns : ∀ lu ∈ g.lus, ∃ req, lu.updateLocationReq = some ⟨lu.ref, req⟩ ∧
    msgs[lu.ref]? = some req ∧ IsRequest lib req ∧
    Unanswered lib req (callsTo (reqEvents out) lu.ref)
  answered : ∀ n req, msgs[n]? = some req → IsRequest lib req → (∀ lu ∈ g.lus, lu.ref ≠ n) →
    Answered lib req (callsTo (reqEvents out) n)
  quiet : ∀ n, g.received ≤ n → callsTo (reqEvents out) n = []
  no_crash : Out.crash ∉ out

namespace AnsweredOnce

variable {msgs : List GsupReq} {out : List Out} {input : Input}

theorem init (lib : GsupProtocol) : AnsweredOnce lib [] AllLu.init [] where
  received := rfl
  newest_first := List.Pairwise.nil
  waiting := fun _ h => by cases h
  owns := fun _ h => by cases h
  answered := fun _ _ h => by cases h
  quiet := fun _ _ => rfl
  no_crash := by simp

theorem ref_lt (h : AnsweredOnce lib msgs g out) (hlu : lu ∈ g.lus) : lu.ref < g.received := by
  obtain ⟨req, -, hmsg, -⟩ := h.owns lu hlu
  rw [h.received]
  exact (List.getElem?_eq_some_iff.1 hmsg).1

theorem owned (h : AnsweredOnce lib msgs g out) : Owned lib g where
  ref_lt := fun _ hlu => h.ref_lt hlu
  owns := by
    intro lu hlu
    obtain ⟨req, hptr, -, hreq, -⟩ := h.owns lu hlu
    exact ⟨req, hptr, hreq⟩

/-- A request is not among messages that are none. -/
theorem lt_of_isRequest (h : AnsweredOnce lib msgs g out) {new : List GsupReq}
    (hnew : ∀ req ∈ new, ¬IsRequest lib req) {n : Nat} {req : GsupReq}
    (hmsg : (msgs ++ new)[n]? = some req) (hreq : IsRequest lib req) : n < g.received := by
  by_contra hge
  rw [h.received, Nat.not_lt] at hge
  rw [List.getElem?_append_right hge] at hmsg
  exact hnew req (List.mem_of_getElem? hmsg) hreq

/-- Nothing more happens to a request whose LU is gone. -/
theorem answered_append (h : AnsweredOnce lib msgs g out) {new : List GsupReq} {out' : List Out}
    {n : Nat} {req : GsupReq} (hlt : n < g.received) (hmsg : (msgs ++ new)[n]? = some req)
    (hreq : IsRequest lib req) (hgone : ∀ lu ∈ g.lus, lu.ref ≠ n)
    (hout : callsTo (reqEvents out') n = []) :
    Answered lib req (callsTo (reqEvents (out ++ out')) n) := by
  rw [List.getElem?_append_left (h.received ▸ hlt)] at hmsg
  rw [reqEvents_append, callsTo_append, hout, List.append_nil]
  exact h.answered n req hmsg hreq hgone

/-- An LU keeps its request as long as nothing happens to it. -/
theorem owns_append (h : AnsweredOnce lib msgs g out) (hlu : lu ∈ g.lus) {new : List GsupReq}
    {out' : List Out} (hout : callsTo (reqEvents out') lu.ref = []) :
    ∃ req, lu.updateLocationReq = some ⟨lu.ref, req⟩ ∧ (msgs ++ new)[lu.ref]? = some req ∧
      IsRequest lib req ∧ Unanswered lib req (callsTo (reqEvents (out ++ out')) lu.ref) := by
  obtain ⟨req, hptr, hmsg, hreq, hcalls⟩ := h.owns lu hlu
  refine ⟨req, hptr, ?_, hreq, ?_⟩
  · rwa [List.getElem?_append_left (h.received ▸ h.ref_lt hlu)]
  · rwa [reqEvents_append, callsTo_append, hout, List.append_nil]

theorem quiet_append (h : AnsweredOnce lib msgs g out) {out' : List Out} {n : Nat}
    (hn : g.received ≤ n) (hout : callsTo (reqEvents out') n = []) :
    callsTo (reqEvents (out ++ out')) n = [] := by
  rw [reqEvents_append, callsTo_append, h.quiet n hn, hout, List.append_nil]

theorem no_crash_append (h : AnsweredOnce lib msgs g out) {out' : List Out}
    (hcrash : Out.crash ∉ out') : Out.crash ∉ out ++ out' := by
  simpa using ⟨h.no_crash, hcrash⟩

theorem kept {next : AllLu} {out' : List Out} (h : AnsweredOnce lib msgs g out)
    (hinput : ∀ req ∈ handed input, ¬IsRequest lib req)
    (hreceived : next.received = g.received + (handed input).length) (hlus : next.lus = g.lus)
    (hout : ∀ ref, ref < g.received ∨ next.received ≤ ref → callsTo (reqEvents out') ref = [])
    (hcrash : Out.crash ∉ out') : AnsweredOnce lib (msgs ++ handed input) next (out ++ out') where
  received := by rw [hreceived, h.received, List.length_append]
  newest_first := hlus ▸ h.newest_first
  waiting := hlus ▸ h.waiting
  owns := by
    rw [hlus]
    exact fun lu hlu => h.owns_append hlu (hout _ (Or.inl (h.ref_lt hlu)))
  answered := by
    rw [hlus]
    intro n req hmsg hreq hgone
    have hlt := h.lt_of_isRequest hinput hmsg hreq
    exact h.answered_append hlt hmsg hreq hgone (hout n (Or.inl hlt))
  quiet := fun n hn => h.quiet_append (by omega) (hout n (Or.inr hn))
  no_crash := h.no_crash_append hcrash

theorem ended {next : AllLu} {out' : List Out} (h : AnsweredOnce lib msgs g out)
    (hinput : ∀ req ∈ handed input, ¬IsRequest lib req)
    (hreceived : next.received = g.received + (handed input).length) (hlu : lu ∈ g.lus)
    {req : GsupReq} (hptr : lu.updateLocationReq = some ⟨lu.ref, req⟩)
    (hlus : next.lus = Keyed.remove Lu.ref g.lus lu.ref)
    (hfinal : Final lib req (callsTo (reqEvents out') lu.ref))
    (hout : ∀ ref, ref ≠ lu.ref → ref < g.received ∨ next.received ≤ ref →
      callsTo (reqEvents out') ref = [])
    (hcrash : Out.crash ∉ out') : AnsweredOnce lib (msgs ++ handed input) next (out ++ out') where
  received := by rw [hreceived, h.received, List.length_append]
  newest_first := hlus ▸ h.newest_first.filter _
  waiting := hlus ▸ fun x hx => h.waiting x (Keyed.mem_remove.1 hx).1
  owns := by
    rw [hlus]
    intro x hx
    obtain ⟨hx, hne⟩ := Keyed.mem_remove.1 hx
    exact h.owns_append hx (hout _ hne (Or.inl (h.ref_lt hx)))
  answered := by
    rw [hlus]
    intro n r hmsg hreq hgone
    by_cases hn : n = lu.ref
    · -- the LU that ends: what it owned is answered now
      subst hn
      obtain ⟨r', hptr', hmsg', -, hcalls⟩ := h.owns lu hlu
      rw [List.getElem?_append_left (h.received ▸ h.ref_lt hlu), hmsg'] at hmsg
      obtain rfl := Option.some.inj hmsg
      obtain rfl : req = r' := congrArg ReqPtr.req (Option.some.inj (hptr.symm.trans hptr'))
      rw [reqEvents_append, callsTo_append]
      exact ⟨_, _, rfl, hcalls, hfinal⟩
    · have hlt := h.lt_of_isRequest hinput hmsg hreq
      refine h.answered_append hlt hmsg hreq (fun x hx hxn => ?_) (hout n hn (Or.inl hlt))
      exact hgone x (Keyed.mem_remove.2 ⟨hx, hxn ▸ hn⟩) hxn
  quiet := by
    intro n hn
    have hlt := h.ref_lt hlu
    exact h.quiet_append (by omega) (hout n (by omega) (Or.inr hn))
  no_crash := h.no_crash_append hcrash

section Started

variable {req : GsupReq} {out' : List Out} {calls : List ReqCall}
  (h : AnsweredOnce lib msgs g out) (hreq : IsRequest lib req)
  (hevents : reqEvents out' = ReqPtr.events ⟨g.received, req⟩ calls) (hcrash : Out.crash ∉ out')
include h hevents

omit hevents in
theorem getElem?_received : (msgs ++ [req])[g.received]? = some req := by
  rw [h.received, List.getElem?_append_right (Nat.le_refl _), Nat.sub_self]
  rfl

theorem callsTo_started : callsTo (reqEvents (out ++ out')) g.received = calls := by
  have hself := callsTo_events_self ⟨g.received, req⟩ calls
  rw [reqEvents_append, callsTo_append, h.quiet _ (Nat.le_refl _), hevents, hself,
    List.nil_append]

omit h in
theorem callsTo_other {n : Nat} (hn : n ≠ g.received) : callsTo (reqEvents out') n = [] := by
  rw [hevents]
  exact callsTo_events_of_ne (Ne.symm hn) calls

theorem quiet_started {n : Nat} (hn : g.received + 1 ≤ n) :
    callsTo (reqEvents (out ++ out')) n = [] :=
  h.quiet_append (by omega) (callsTo_other hevents (by omega))

theorem answered_started {n : Nat} {r : GsupReq} (hn : n ≠ g.received)
    (hmsg : (msgs ++ [req])[n]? = some r) (hr : IsRequest lib r)
    (hgone : ∀ lu ∈ g.lus, lu.ref ≠ n) :
    Answered lib r (callsTo (reqEvents (out ++ out')) n) := by
  have hle := (List.getElem?_eq_some_iff.1 hmsg).1
  rw [List.length_append, List.length_singleton, ← h.received] at hle
  exact h.answered_append (by omega) hmsg hr hgone (callsTo_other hevents hn)

include hreq hcrash

/-- The next message is owned by a new LU. -/
theorem opened (href : lu.ref = g.received) (hstate : lu.state = .waitInsertDataResult)
    (hptr : lu.updateLocationReq = some ⟨g.received, req⟩) (hcalls : Unanswered lib req calls) :
    AnsweredOnce lib (msgs ++ [req]) ⟨lu :: g.lus, g.received + 1⟩ (out ++ out') where
  received := by rw [h.received, List.length_append, List.length_singleton]
  newest_first := List.pairwise_cons.2 ⟨fun x hx => href.symm ▸ h.ref_lt hx, h.newest_first⟩
  waiting := by
    intro x hx
    rcases List.mem_cons.1 hx with rfl | hx
    · exact hstate
    · exact h.waiting x hx
  owns := by
    intro x hx
    rcases List.mem_cons.1 hx with rfl | hx
    · rw [href]
      refine ⟨req, hptr, h.getElem?_received, hreq, ?_⟩
      rwa [h.callsTo_started hevents]
    · exact h.owns_append hx (callsTo_other hevents (Nat.ne_of_lt (h.ref_lt hx)))
  answered := by
    intro n r hmsg hr hgone
    have hn : n ≠ g.received := fun hn => hgone lu List.mem_cons_self (href.trans hn.symm)
    exact h.answered_started hevents hn hmsg hr fun x hx => hgone x (List.mem_cons_of_mem _ hx)
  quiet := fun _ hn => h.quiet_started hevents hn
  no_crash := h.no_crash_append hcrash

omit hreq in
/-- The next message is answered at once. -/
theorem refused (hcalls : Final lib req calls) :
    AnsweredOnce lib (msgs ++ [req]) ⟨g.lus, g.received + 1⟩ (out ++ out') where
  received := by rw [h.received, List.length_append, List.length_singleton]
  newest_first := h.newest_first
  waiting := h.waiting
  owns := fun x hx => h.owns_append hx (callsTo_other hevents (Nat.ne_of_lt (h.ref_lt hx)))
  answered := by
    intro n r hmsg hr hgone
    by_cases hn : n = g.received
    · subst hn
      rw [h.getElem?_received] at hmsg
      obtain rfl := Option.some.inj hmsg
      rw [h.callsTo_started hevents]
      exact ⟨[], calls, rfl, by simp [Unanswered], hcalls⟩
    · exact h.answered_started hevents hn hmsg hr hgone
  quiet := fun _ hn => h.quiet_started hevents hn
  no_crash := h.no_crash_append hcrash

end Started

theorem step (h : AnsweredOnce lib msgs g out)
    (hcb : ∀ req ∈ handed input, req.sendResponseCb = true) :
    AnsweredOnce lib (msgs ++ handed input) (LuFsm.step lib g input).1
      (out ++ (LuFsm.step lib g input).2) := by
  have heffect := step_effect h.owned input hcb
  generalize LuFsm.step lib g input = next at heffect ⊢
  cases heffect with
  | kept next out' hinput hreceived hlus hout hcrash =>
      exact h.kept hinput hreceived hlus hout hcrash
  | ended next out' lu req hinput hreceived hlu hptr hlus hfinal hout hcrash =>
      exact h.ended hinput hreceived hlu hptr hlus hfinal hout hcrash
  | started req next hinput hreq houtcome =>
      rw [hinput]
      cases houtcome with
      | opened lu calls href hptr hstate hcalls =>
          exact h.opened hreq (reqEvents_reqOut _ _) (crash_notMem_reqOut _ _) href hstate
            hptr hcalls
      | refused out' calls hout hcalls hcrash => exact h.refused hout hcrash hcalls

end AnsweredOnce

theorem answeredOnce_run (inputs : List Input)
    (hcb : ∀ req ∈ inputs.flatMap handed, req.sendResponseCb = true) :
    AnsweredOnce lib (inputs.flatMap handed) ((machine lib).run AllLu.init inputs).1
      ((machine lib).run AllLu.init inputs).2 := by
  have hrun := (machine lib).run_induction (s := AllLu.init)
    (P := fun inputs g out => (∀ req ∈ inputs.flatMap handed, req.sendResponseCb = true) →
      AnsweredOnce lib (inputs.flatMap handed) g out) (fun _ => AnsweredOnce.init lib) ?_ inputs
  · exact hrun hcb
  · intro inputs g out input ih hcb
    rw [List.flatMap_append] at hcb ⊢
    have hinput : [input].flatMap handed = handed input := by simp
    rw [hinput] at hcb ⊢
    exact (ih fun req hreq => hcb req (List.mem_append_left _ hreq)).step
      fun req hreq => hcb req (List.mem_append_right _ hreq)

/-- A database with every subscriber, and the coding of libosmogsm. -/
def hostEnv : Env where
  dbSubscrGetByImsi imsi := .ok ⟨1, imsi, CStr.lit "1234", CStr.empty, true, true⟩
  dbSubscrLu _ _ _ _ := 0
  gsm48EncodeBcdNumber msisdn :=
    some (UInt8.ofNat ((msisdn.len + 1) / 2) :: Host.packBcd msisdn.bytes)
  osmoApnFromStr apn := some (UInt8.ofNat apn.len :: apn.bytes)

/-- A message from a peer. -/
def msgFrom (peer : String) (messageType : UInt8) (cnDomain : CnDomain) : GsupReq where
  gsup := { GsupMessage.zero with
    messageType := messageType
    imsi := CStr.lit "262420000000001"
    cnDomain := cnDomain }
  sourceName := .ofIpaName (ipaNameSet IpaName.zero (CStr.lit peer).bytes).2
  viaProxy := PeerId.zero
  sendResponseCb := true

/-- A VLR starts an LU and acknowledges the subscriber's data, and an SGSN starts another one. -/
def vlrRun : List Input :=
  [.rxGsup (msgFrom "vlr" 0x04 .cs) hostEnv, .rxGsup (msgFrom "vlr" 0x12 .absent) hostEnv,
    .rxGsup (msgFrom "sgsn" 0x04 .ps) hostEnv]

end LuFsm
end OsmoHlr
