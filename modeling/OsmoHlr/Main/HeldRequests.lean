import OsmoHlr.Dgsm.CheckForward
import OsmoHlr.Lib.Books
import OsmoHlr.Lu.LuMessages

/-!
# Requests that LUs and the proxy hold

What LUs and the queue of the proxy do with requests, in terms of `Balanced`: who is handed one
holds it or has released it.  For supplementary services that is `Ussd.rx_balanced`.

* `LuFsm.luRxGsup_leaves` — a message to the LUs, other than an Insert Data Error for one of them.
* `Dgsm.Keeps.balanced` — all that the proxy does.
* `Dgsm.dgsmCheckForwardGsupMsg_of_unknown` — which requests it is handed.
-/

namespace OsmoHlr

/-! ## Location Updating -/

namespace LuFsm

open CString CniPeerId Gsup Ownership

/-- The addresses of the LUs, which are those of their requests. -/
def AllLu.refs (g : AllLu) : List Nat := g.lus.map Lu.ref

/-- What is done with the request at an address. -/
def usesOf (out : List Out) (ref : Nat) : List ReqUse :=
  (callsTo (reqEvents out) ref).map ReqUse.ofCall

/-- LUs own their requests and wait, and no two are at one address. -/
structure Tidy (lib : GsupProtocol) (g : AllLu) : Prop where
  owns : ∀ lu ∈ g.lus, ∃ req, lu.updateLocationReq = some ⟨lu.ref, req⟩ ∧ IsRequest lib req
  waiting : ∀ lu ∈ g.lus, lu.state = .waitInsertDataResult
  nodup : g.refs.Nodup

/-- LUs are tidy afterwards, and requests are held or released. -/
structure Leaves (lib : GsupProtocol) (g : AllLu) (new : Nat → Prop) (next : AllLu × List Out) :
    Prop where
  tidy : Tidy lib next.1
  balanced : Balanced ReqUse.isFree (fun n => n ∈ g.refs ∨ new n) (· ∈ next.1.refs)
    (usesOf next.2)

variable {lib : GsupProtocol} {g : AllLu} {lu : Lu} {ptr : ReqPtr} {next : AllLu × List Out}

theorem usesOf_append (out out' : List Out) (ref : Nat) :
    usesOf (out ++ out') ref = usesOf out ref ++ usesOf out' ref := by
  simp [usesOf]

theorem usesOf_reqOut_self (ptr : ReqPtr) (calls : List ReqCall) :
    usesOf (reqOut ptr calls) ptr.ref = calls.map ReqUse.ofCall := by
  rw [usesOf, callsTo_reqOut]

theorem usesOf_reqOut_of_ne {ref : Nat} (h : ref ≠ ptr.ref) (calls : List ReqCall) :
    usesOf (reqOut ptr calls) ref = [] := by
  rw [usesOf, reqEvents_reqOut, callsTo_events_of_ne h.symm, List.map_nil]

/-- An answer comes, and then the request is freed. -/
theorem Final.released {req : GsupReq} {calls : List ReqCall} (h : Final lib req calls) :
    Released ReqUse.isFree (calls.map ReqUse.ofCall) := by
  obtain ⟨response, rfl, -⟩ := h
  exact (released_cons rfl).2 ((released_cons_free rfl).2 rfl)

theorem Unanswered.kept {req : GsupReq} {calls : List ReqCall} (h : Unanswered lib req calls) :
    Kept ReqUse.isFree (calls.map ReqUse.ofCall) := by
  refine kept_iff.2 fun use huse => ?_
  obtain ⟨call, hcall, rfl⟩ := List.mem_map.1 huse
  obtain ⟨response, rfl, -⟩ := h call hcall
  rfl

theorem mem_refs_del {ref n : Nat} : n ∈ (g.del ref).refs ↔ n ∈ g.refs ∧ n ≠ ref := by
  simp only [AllLu.refs, AllLu.del, List.mem_map, Keyed.mem_remove]
  constructor
  · rintro ⟨lu, ⟨hlu, hne⟩, rfl⟩
    exact ⟨⟨lu, hlu, rfl⟩, hne⟩
  · rintro ⟨⟨lu, hlu, rfl⟩, hne⟩
    exact ⟨lu, ⟨hlu, hne⟩, rfl⟩

theorem Tidy.del (h : Tidy lib g) (ref : Nat) : Tidy lib (g.del ref) where
  owns := fun lu hlu => h.owns lu (Keyed.mem_remove.1 hlu).1
  waiting := fun lu hlu => h.waiting lu (Keyed.mem_remove.1 hlu).1
  nodup := (List.filter_sublist.map Lu.ref).nodup h.nodup

theorem Tidy.add (h : Tidy lib g) (hnew : g.New ptr) (href : lu.ref = ptr.ref)
    (hptr : lu.updateLocationReq = some ptr) (hreq : IsRequest lib ptr.req)
    (hstate : lu.state = .waitInsertDataResult) : Tidy lib (g.add lu) where
  owns := by
    refine List.forall_mem_cons.2 ⟨⟨ptr.req, ?_, hreq⟩, h.owns⟩
    rw [hptr, href]
  waiting := List.forall_mem_cons.2 ⟨hstate, h.waiting⟩
  nodup := by
    refine List.nodup_cons.2 ⟨fun hmem => ?_, h.nodup⟩
    obtain ⟨x, hx, hxref⟩ := List.mem_map.1 hmem
    exact hnew x hx (hxref.trans href)

/-- Nothing happens to any LU. -/
theorem Tidy.idle (h : Tidy lib g) : Leaves lib g (fun _ => False) (g, []) :=
  ⟨h, (Balanced.refl _ _).congr (fun _ => or_iff_left id) fun _ => Iff.rfl⟩

/-- An LU ends, and its request is released. -/
theorem Ends.leaves (h : Tidy lib g) (hlu : lu ∈ g.lus) (href : ptr.ref = lu.ref)
    (hends : Ends lib g lu ptr next) : Leaves lib g (fun _ => False) next := by
  refine ⟨by rw [hends.state]; exact h.del lu.ref, fun n => ?_⟩
  simp only [or_false]
  rw [hends.state, mem_refs_del]
  by_cases hn : n = lu.ref
  · subst hn
    have hlive : lu.ref ∈ g.refs := List.mem_map_of_mem hlu
    refine ⟨fun _ => Or.inr ⟨fun hheld => hheld.2 rfl, ?_⟩, fun hdead => absurd hlive hdead⟩
    obtain ⟨calls, hout, hfinal⟩ := hends.final
    rw [usesOf, hout, ← href, callsTo_events_self]
    exact hfinal.released
  · have hquiet : usesOf next.2 n = [] := by
      rw [usesOf, hends.callsTo_eq_nil (by rw [href]; exact Ne.symm hn), List.map_nil]
    rw [hquiet]
    exact ⟨fun hlive => Or.inl ⟨⟨hlive, hn⟩, kept_nil⟩,
      fun hdead => ⟨fun hheld => hdead hheld.1, rfl⟩⟩

/-- A message that is released leaves the LUs as they are. -/
theorem leaves_of_released (h : Tidy lib g) (hnew : g.New ptr) {calls : List ReqCall}
    (hcalls : Released ReqUse.isFree (calls.map ReqUse.ofCall)) :
    Leaves lib g (· = ptr.ref) (g, reqOut ptr calls) := by
  refine ⟨h, .of_released (fun hmem => ?_) ?_ fun n hn => usesOf_reqOut_of_ne hn calls⟩
  · obtain ⟨lu, hlu, href⟩ := List.mem_map.1 hmem
    exact hnew lu hlu href
  · rw [usesOf_reqOut_self]
    exact hcalls

/-- First a message is released, and then an LU ends. -/
theorem Leaves.before {out : List Out} (h : Leaves lib g (· = ptr.ref) (g, out))
    (hnext : Leaves lib g (fun _ => False) next) :
    Leaves lib g (· = ptr.ref) (next.1, out ++ next.2) := by
  have huses : usesOf (out ++ next.2) = fun n => usesOf out n ++ usesOf next.2 n :=
    funext fun n => usesOf_append out next.2 n
  refine ⟨hnext.tidy, ?_⟩
  rw [huses]
  exact h.balanced.trans (hnext.balanced.congr (fun _ => (or_iff_left id).symm) fun _ => Iff.rfl)

/-- An Update Location Request is released, or held by a new LU. -/
theorem StartOutcome.leaves (h : Tidy lib g) (hnew : g.New ptr) (hreq : IsRequest lib ptr.req)
    (houtcome : StartOutcome lib g ptr next) : Leaves lib g (· = ptr.ref) next := by
  cases houtcome with
  | opened lu calls href hptr hstate hcalls =>
      refine ⟨h.add hnew href hptr hreq hstate, .of_kept (fun n => ?_) (fun n => ?_) fun n hn => ?_⟩
      · show n ∈ lu.ref :: g.refs ↔ _
        rw [List.mem_cons, href, or_comm]
      · by_cases hn : n = ptr.ref
        · rw [hn, usesOf_reqOut_self]
          exact hcalls.kept
        · rw [usesOf_reqOut_of_ne hn]
          exact kept_nil
      · exact usesOf_reqOut_of_ne (fun hn' => hn (Or.inr hn')) calls
  | refused out calls hout hcalls hcrash =>
      refine ⟨h, .of_released (fun hmem => ?_) ?_ fun n hn => ?_⟩
      · obtain ⟨lu, hlu, href⟩ := List.mem_map.1 hmem
        exact hnew lu hlu href
      · rw [usesOf, hout, callsTo_events_self]
        exact hcalls.released
      · rw [usesOf, hout, callsTo_events_of_ne (Ne.symm hn), List.map_nil]

/-- A message goes to an LU that waits for the answer of its VLR. -/
theorem luFsmWaitInsertDataResult_leaves (h : Tidy lib g) (hnew : g.New ptr) (hlu : lu ∈ g.lus)
    (herror : ptr.req.gsup.messageType ≠ lib.msgt .insertData .error) :
    Leaves lib g (· = ptr.ref) (luFsmWaitInsertDataResult lib g lu ptr) := by
  obtain ⟨req, hreq, hisReq⟩ := h.owns lu hlu
  unfold luFsmWaitInsertDataResult
  split
  next =>
      have hfreed : Leaves lib g (· = ptr.ref) (g, reqOut ptr [.free ptr.req]) :=
        leaves_of_released h hnew ((released_cons_free rfl).2 rfl)
      exact hfreed.before (Ends.leaves h hlu rfl (luSuccess_ends g hreq hisReq))
  next =>
      have hreleased := released_respondErr lib.toGsupLib ptr.req (lib.causeNum .gmmMsgtIncompPState)
      exact leaves_of_released h hnew ((released_cons isFree_access).1 hreleased)

/-- A message for an LU that waits goes to its action. -/
theorem osmoFsmInstDispatch_of_waiting (g : AllLu) (ptr : ReqPtr)
    (hstate : lu.state = .waitInsertDataResult) :
    osmoFsmInstDispatch lib g lu .rxGsup ptr = (0, luFsmWaitInsertDataResult lib g lu ptr) := by
  have hmask : inEventMask lu.state .rxGsup = true := by
    rw [hstate]
    rfl
  rw [osmoFsmInstDispatch, if_pos hmask, action, hstate]

/-- **A message is held by an LU or released**, unless it is an Insert Data Error for one. -/
theorem luRxGsup_leaves (env : Env) (h : Tidy lib g) (hnew : g.New ptr)
    (hcb : ptr.req.sendResponseCb = true) (herror : ¬IsErrorForLu lib g ptr.req) :
    Leaves lib g (· = ptr.ref) (luRxGsup lib env g ptr) := by
  unfold luRxGsup
  split
  next htype => exact (luStart_outcome hnew ⟨htype, hcb⟩ env).leaves h hnew ⟨htype, hcb⟩
  next =>
      have hrefused : Leaves lib g (· = ptr.ref) (g, reqOut ptr (osmoGsupReqRespondErr
          lib.toGsupLib ptr.req (lib.causeNum .gmmMsgtIncompPState))) :=
        leaves_of_released h hnew
          ((released_cons isFree_access).1 (released_respondErr lib.toGsupLib ptr.req _))
      simp only
      split
      · exact hrefused
      next lu hfind =>
          have hlu := List.mem_of_find?_eq_some hfind
          have himsi : lu.subscr.imsi = ptr.req.gsup.imsi := by
            simpa using List.find?_some hfind
          rw [osmoFsmInstDispatch_of_waiting g ptr (h.waiting lu hlu)]
          simp only [ne_eq, not_true_eq_false, ↓reduceIte, List.append_nil]
          exact luFsmWaitInsertDataResult_leaves h hnew hlu
            fun htype => herror ⟨htype, lu, hlu, himsi⟩

/-- **An Insert Data Error for an LU is neither held nor released**: it is the LU that ends. -/
theorem luRxGsup_of_isErrorForLu (env : Env) (h : Tidy lib g)
    (herror : IsErrorForLu lib g ptr.req) :
    Leaves lib g (fun _ => False) (luRxGsup lib env g ptr) := by
  obtain ⟨htype, lu₀, hlu₀, himsi₀⟩ := herror
  have hrequest : ptr.req.gsup.messageType ≠ lib.msgt .updateLocation .request := fun hrequest =>
    absurd (lib.msgt_eq_iff.1 (htype.symm.trans hrequest)).1 (by decide)
  have hresult : ptr.req.gsup.messageType ≠ lib.msgt .insertData .result := fun hresult =>
    absurd (lib.msgt_eq_iff.1 (htype.symm.trans hresult)).2 (by decide)
  rw [luRxGsup, if_neg hrequest]
  cases hfind : g.lus.find? fun lu => lu.subscr.imsi = ptr.req.gsup.imsi with
  | none => simpa [himsi₀] using List.find?_eq_none.1 hfind lu₀ hlu₀
  | some lu =>
      have hlu := List.mem_of_find?_eq_some hfind
      obtain ⟨req, hreq, hisReq⟩ := h.owns lu hlu
      simp only [osmoFsmInstDispatch_of_waiting g ptr (h.waiting lu hlu),
        luFsmWaitInsertDataResult, if_neg hresult, if_pos htype, ne_eq, not_true_eq_false,
        ↓reduceIte, List.append_nil]
      exact Ends.leaves h hlu rfl (luFailure_ends g hreq hisReq .gmmNetFail .rxInsertDataError)

/-- **A timer or a termination releases the request of the LU.** -/
theorem step_leaves (h : Tidy lib g) {input : Input} (hrx : ∀ req env, input ≠ .rxGsup req env) :
    Leaves lib g (fun _ => False) (step lib g input) := by
  cases input with
  | rxGsup req env => exact absurd rfl (hrx req env)
  | timer ref =>
      rw [step]
      split
      · exact h.idle
      next lu hfind =>
          have hlu := ((Keyed.find_eq_some_iff h.nodup).1 hfind).1
          obtain ⟨req, hreq, hisReq⟩ := h.owns lu hlu
          split
          · exact Ends.leaves h hlu rfl (luFailure_ends g hreq hisReq _ _)
          · exact h.idle
  | term ref =>
      rw [step]
      split
      · exact h.idle
      next lu hfind =>
          have hlu := ((Keyed.find_eq_some_iff h.nodup).1 hfind).1
          obtain ⟨req, hreq, hisReq⟩ := h.owns lu hlu
          exact Ends.leaves h hlu rfl (luFsmCleanup_ends g hreq hisReq)

end LuFsm

/-! ## The queue of the proxy -/

namespace Dgsm

open CString CniPeerId Gsup Ownership SharedQueue

/-- What happens to requests. -/
def reqEvents (out : List Out) : List ReqEvent :=
  out.filterMap fun
    | .req event => some event
    | _ => none

/-- What is done with the request at an address. -/
def usesOf (out : List Out) (ref : Nat) : List ReqUse :=
  (callsTo (reqEvents out) ref).map ReqUse.ofCall

/-- The addresses of the requests that wait. -/
def State.refs (s : State) : List Nat := s.proxy.pendingGsupReqs.map ReqPtr.ref

variable {lib : ProxyLib} {s : State} {ptr : ReqPtr} {received : List ReqPtr} {res : Res}
  {block out : List Out}

@[simp] theorem reqEvents_reqOut (ptr : ReqPtr) (calls : List ReqCall) :
    reqEvents (reqOut ptr calls) = ptr.events calls := by
  simp [reqEvents, reqOut, List.filterMap_map]

/-- Only what is about a request is done with it. -/
theorem usesOf_about (out : List Out) (ref : Nat) : usesOf (about ref out) ref = usesOf out ref := by
  have hevents : callsTo (reqEvents (about ref out)) ref = callsTo (reqEvents out) ref := by
    induction out with
    | nil => rfl
    | cons o out ih =>
        cases o with
        | req event =>
            by_cases href : event.ref = ref
            · simp_all [about, isAbout, reqEvents, callsTo]
            · simp_all [about, isAbout, reqEvents, callsTo]
        | forwarded ptr addr msg =>
            by_cases href : ptr.ref = ref
            · simp_all [about, isAbout, reqEvents, callsTo]
            · simp_all [about, isAbout, reqEvents, callsTo]
        | _ => simp_all [about, isAbout, reqEvents, callsTo]
  rw [usesOf, hevents, usesOf]

/-- A request that is concluded is released. -/
theorem Concludes.released (h : Concludes lib ptr block) :
    Released ReqUse.isFree (usesOf block ptr.ref) := by
  cases h with
  | forwarded addr msg =>
      have hevents : reqEvents (.forwarded ptr addr msg :: reqOut ptr [.free ptr.req]) =
          ptr.events [.free ptr.req] := reqEvents_reqOut ptr _
      rw [usesOf, hevents, callsTo_events_self]
      exact (released_cons_free rfl).2 rfl
  | refused cause =>
      rw [usesOf, refuse, reqEvents_reqOut, callsTo_events_self]
      exact (released_cons isFree_access).1 (released_respondErr lib.toGsupLib ptr.req _)

/-- No request comes. -/
theorem keepsNode_onDgsm {n : Node} (hlinks : LinksDistinct lib n.dgsm) (harmed : Armed lib n.dgsm)
    (input : Input) (hnone : input.request n.dgsm = []) :
    KeepsNode lib [] n.dgsm (n.onDgsm (step lib n.dgsm input)) := by
  obtain ⟨received, hreceived, hkeeps⟩ := keeps_step hlinks harmed input
  rw [hnone] at hreceived hkeeps
  obtain rfl := List.sublist_nil.1 hreceived
  exact hkeeps

/-- **A request for who is not in the database is taken**, if there is anything to take it. -/
theorem dgsmCheckForwardGsupMsg_of_unknown {env : Env} {n : Node}
    {resultTimeoutMilliseconds : UInt32} (himsi : lib.imsiStrValid (imsiOf ptr) = true)
    (hactive : clientActive n.client = true ∨ lib.sockaddrStrIsNonzero env.gsupGatewayProxy = true)
    (hunknown : env.dbSubscrExistsByImsi (imsiOf ptr) ≠ 0) :
    (n.dgsmCheckForwardGsupMsg lib env resultTimeoutMilliseconds ptr).1 = true := by
  unfold Node.dgsmCheckForwardGsupMsg
  rw [if_neg hunknown]
  split
  · rfl
  · simp only
    split
    · rfl
    next hgateway =>
        have hclient := hactive.resolve_right hgateway
        rw [if_neg (by simp [hclient])]
        exact lookUpHlr_fst env _ _ _ himsi

/-- **Who waits or is received waits afterwards, or has been released.** -/
theorem Keeps.balanced (h : Keeps lib received s res)
    (hnodup : ((s.proxy.pendingGsupReqs ++ received).map ReqPtr.ref).Nodup) :
    res.1.refs.Nodup ∧ Balanced ReqUse.isFree
      (fun n => n ∈ s.refs ∨ n ∈ received.map ReqPtr.ref) (· ∈ res.1.refs) (usesOf res.2) := by
  obtain ⟨arrived, refused, served, hqueued, hflow⟩ := h.flows.queue
  have hflow' : Flow imsiOf [] (s.proxy.pendingGsupReqs ++ arrived) served
      res.1.proxy.pendingGsupReqs := fun imsi => by
    rw [only_nil, List.nil_append, only_append]
    exact hflow imsi
  have hreceived : received.Perm (arrived ++ refused) := h.flows.received ▸ hqueued.received_perm
  have hperm : (s.proxy.pendingGsupReqs ++ received).Perm
      (res.1.proxy.pendingGsupReqs ++ (refused ++ served)) :=
    calc (s.proxy.pendingGsupReqs ++ received).Perm
            (s.proxy.pendingGsupReqs ++ (arrived ++ refused)) := hreceived.append_left _
      List.Perm _ (s.proxy.pendingGsupReqs ++ arrived ++ refused) := by rw [List.append_assoc]
      List.Perm _ (served ++ res.1.proxy.pendingGsupReqs ++ refused) :=
          hflow'.perm.append_right refused
      List.Perm _ (res.1.proxy.pendingGsupReqs ++ served ++ refused) :=
          List.perm_append_comm.append_right refused
      List.Perm _ (res.1.proxy.pendingGsupReqs ++ (served ++ refused)) := by rw [List.append_assoc]
      List.Perm _ (res.1.proxy.pendingGsupReqs ++ (refused ++ served)) :=
          List.perm_append_comm.append_left _
  have hrefs := hnodup
  rw [(hperm.map ReqPtr.ref).nodup_iff, List.map_append, List.nodup_append] at hrefs
  obtain ⟨hwaiting, hconcluded, hdisjoint⟩ := hrefs
  have hlive : ∀ n, (n ∈ s.refs ∨ n ∈ received.map ReqPtr.ref) ↔
      n ∈ res.1.refs ∨ n ∈ (refused ++ served).map ReqPtr.ref := by
    intro n
    rw [State.refs, State.refs, ← List.mem_append, ← List.mem_append, ← List.map_append,
      ← List.map_append]
    exact (hperm.map ReqPtr.ref).mem_iff
  refine ⟨hwaiting, Balanced.congr (fun n => ?_) hlive fun _ => Iff.rfl⟩
  by_cases hn : n ∈ (refused ++ served).map ReqPtr.ref
  · obtain ⟨p, hp, rfl⟩ := List.mem_map.1 hn
    refine ⟨fun _ => Or.inr ⟨fun hwaits => hdisjoint _ hwaits _ hn rfl, ?_⟩,
      fun hdead => absurd (Or.inr hn) hdead⟩
    have hconcludes := hqueued.concludes hconcluded p hp
    have hreleased := hconcludes.released
    rwa [usesOf_about] at hreleased
  · have hquiet : usesOf res.2 n = [] := by
      rw [← usesOf_about, hqueued.about_eq_nil fun p hp hpn =>
        hn (List.mem_map.2 ⟨p, hp, hpn⟩)]
      rfl
    rw [hquiet]
    exact ⟨fun hor => Or.inl ⟨hor.resolve_right hn, kept_nil⟩,
      fun hdead => ⟨fun hwaits => hdead (Or.inl hwaits), rfl⟩⟩

end Dgsm
end OsmoHlr
