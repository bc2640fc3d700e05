import OsmoHlr.Dgsm.Entries

/-!
# The order of requests

Requests of all IMSIs wait in one queue, and for each IMSI it is first in, first out: those
that wait leave together, and a request is forwarded at once only if none of its IMSI waits.
The last is so because whoever waits for a link has left a callback there, so that nobody
waits for a link that is up.

* `Flows` — what any operation does to the queue, and what it puts out.
* `Armed` — who waits for a link is called when it comes up.
* `forwarded_in_order` — the requests of an IMSI are forwarded in the order in which they
  were received, each at most once.
-/

namespace OsmoHlr
namespace Dgsm

open CString CniPeerId Gsup SharedQueue

/-! ## What is put out about requests -/

/-- The last that happens to a request: it is forwarded and freed, or answered with an error. -/
inductive Concludes (lib : ProxyLib) (ptr : ReqPtr) : List Out → Prop
  | forwarded (addr : SockaddrStr) (msg : List UInt8) :
      Concludes lib ptr (.forwarded ptr addr msg :: reqOut ptr [.free ptr.req])
  | refused (cause : Cause) : Concludes lib ptr (refuse lib ptr cause)

/-- It is not about a request that the proxy has received. -/
inductive Aside : Out → Prop
  | toVlr (sent : Sent) : Aside (.toVlr sent)
  | toRemoteHlr (addr : SockaddrStr) (msg : List UInt8) : Aside (.toRemoteHlr addr msg)
  | local (ptr : ReqPtr) : Aside (.local ptr)

/-- What is put out when some requests arrive, some are refused at once and some of those that have
arrived are served. -/
inductive Queued (lib : ProxyLib) : List ReqPtr → List ReqPtr → List ReqPtr → List Out → Prop
  | nil : Queued lib [] [] [] []
  | received (ptr : ReqPtr) {arrived refused served : List ReqPtr} {out : List Out}
      (h : Queued lib arrived refused served out) :
      Queued lib (ptr :: arrived) refused served (.received ptr :: out)
  | refusedAtOnce (ptr : ReqPtr) (cause : Cause) {arrived refused served : List ReqPtr}
      {out : List Out} (h : Queued lib arrived refused served out) :
      Queued lib arrived (ptr :: refused) served (.received ptr :: refuse lib ptr cause ++ out)
  | served (ptr : ReqPtr) (block : List Out) (hblock : Concludes lib ptr block)
      {arrived refused served : List ReqPtr} {out : List Out}
      (h : Queued lib arrived refused served out) :
      Queued lib arrived refused (ptr :: served) (block ++ out)
  | aside (o : Out) (ho : Aside o) {arrived refused served : List ReqPtr} {out : List Out}
      (h : Queued lib arrived refused served out) : Queued lib arrived refused served (o :: out)

/-- The requests with which `proxy_subscr_forward_to_remote_hlr` is called. -/
def receivedOf (out : List Out) : List ReqPtr :=
  out.filterMap fun o => match o with
    | .received ptr => some ptr
    | _ => none

/-- The requests that are forwarded. -/
def forwardedOf (out : List Out) : List ReqPtr :=
  out.filterMap fun o => match o with
    | .forwarded ptr _ _ => some ptr
    | _ => none

variable {lib : ProxyLib} {env : Env} {now : Int} {proxy proxy' proxy'' : Proxy} {s s' : State}
  {subscr : ProxySubscr} {imsi : CStr} {ptr : ReqPtr} {rh : RemoteHlr} {addr : SockaddrStr}
  {arrived refused served received received' a r d : List ReqPtr} {out out' : List Out}

@[simp] theorem receivedOf_append (out out' : List Out) :
    receivedOf (out ++ out') = receivedOf out ++ receivedOf out' := List.filterMap_append

@[simp] theorem forwardedOf_append (out out' : List Out) :
    forwardedOf (out ++ out') = forwardedOf out ++ forwardedOf out' := List.filterMap_append

theorem receivedOf_reqOut (ptr : ReqPtr) (calls : List ReqCall) :
    receivedOf (reqOut ptr calls) = [] := by
  simp [receivedOf, reqOut]

theorem forwardedOf_reqOut (ptr : ReqPtr) (calls : List ReqCall) :
    forwardedOf (reqOut ptr calls) = [] := by
  simp [forwardedOf, reqOut]

theorem Concludes.receivedOf (h : Concludes lib ptr out) : receivedOf out = [] := by
  cases h with
  | forwarded addr msg => exact receivedOf_reqOut ptr _
  | refused cause => exact receivedOf_reqOut ptr _

theorem Concludes.forwardedOf (h : Concludes lib ptr out) :
    forwardedOf out = [ptr] ∨ forwardedOf out = [] := by
  cases h with
  | forwarded addr msg => exact Or.inl (congrArg (ptr :: ·) (forwardedOf_reqOut ptr _))
  | refused cause => exact Or.inr (forwardedOf_reqOut ptr _)

namespace Queued

theorem append (h : Queued lib arrived refused served out) (h' : Queued lib a r d out') :
    Queued lib (arrived ++ a) (refused ++ r) (served ++ d) (out ++ out') := by
  induction h with
  | nil => exact h'
  | received ptr _ ih => exact ih.received ptr
  | refusedAtOnce ptr cause _ ih =>
      rw [List.append_assoc]
      exact ih.refusedAtOnce ptr cause
  | served ptr block hblock _ ih =>
      rw [List.append_assoc]
      exact ih.served ptr block hblock
  | aside o ho _ ih => exact ih.aside o ho

/-- Requests that are served one after the other. -/
theorem ofServed {f : ReqPtr → List Out} {l : List ReqPtr}
    (h : ∀ ptr ∈ l, Concludes lib ptr (f ptr)) : Queued lib [] [] l (l.flatMap f) := by
  induction l with
  | nil => exact .nil
  | cons ptr l ih =>
      obtain ⟨hptr, hl⟩ := List.forall_mem_cons.1 h
      exact (ih hl).served ptr (f ptr) hptr

/-- What is received has arrived, or is refused. -/
theorem received_perm (h : Queued lib arrived refused served out) :
    (receivedOf out).Perm (arrived ++ refused) := by
  induction h with
  | nil => exact List.Perm.refl _
  | received ptr _ ih => exact ih.cons ptr
  | refusedAtOnce ptr cause _ ih =>
      rw [List.cons_append, receivedOf, List.filterMap_cons]
      refine List.Perm.trans ?_ List.perm_middle.symm
      refine List.Perm.cons ptr ?_
      rw [← receivedOf, receivedOf_append, refuse, receivedOf_reqOut]
      exact ih
  | served ptr block hblock _ ih =>
      rw [receivedOf_append, hblock.receivedOf]
      exact ih
  | aside o ho _ ih => cases ho <;> exact ih

theorem arrived_sublist (h : Queued lib arrived refused served out) :
    arrived.Sublist (receivedOf out) := by
  induction h with
  | nil => exact List.Sublist.refl _
  | received ptr _ ih => exact ih.cons_cons ptr
  | refusedAtOnce ptr cause _ ih =>
      rw [List.cons_append, receivedOf, List.filterMap_cons, ← receivedOf, receivedOf_append,
        refuse, receivedOf_reqOut]
      exact ih.cons ptr
  | served ptr block hblock _ ih =>
      rw [receivedOf_append, hblock.receivedOf]
      exact ih
  | aside o ho _ ih => cases ho <;> exact ih

/-- What is forwarded is served. -/
theorem forwarded_sublist (h : Queued lib arrived refused served out) :
    (forwardedOf out).Sublist served := by
  induction h with
  | nil => exact List.Sublist.refl _
  | received ptr _ ih => exact ih
  | refusedAtOnce ptr cause _ ih =>
      rw [List.cons_append, forwardedOf, List.filterMap_cons, ← forwardedOf, forwardedOf_append,
        refuse, forwardedOf_reqOut]
      exact ih
  | served ptr block hblock _ ih =>
      rw [forwardedOf_append]
      rcases hblock.forwardedOf with hfwd | hfwd
      · rw [hfwd]
        exact ih.cons_cons ptr
      · rw [hfwd]
        exact ih.cons ptr
  | aside o ho _ ih => cases ho <;> exact ih

end Queued

/-! ## What an operation does to the queue -/

/-- The queue goes from that of one state of the proxy to that of another, first in, first out for
each IMSI, and what is put out is what has happened, with some requests that are received. -/
structure Flows (lib : ProxyLib) (received : List ReqPtr) (proxy proxy' : Proxy) (out : List Out) :
    Prop where
  received : receivedOf out = received
  queue : ∃ arrived refused served, Queued lib arrived refused served out ∧
    Flow imsiOf proxy.pendingGsupReqs arrived served proxy'.pendingGsupReqs

theorem Flows.of_pending_eq (h : proxy'.pendingGsupReqs = proxy.pendingGsupReqs) :
    Flows lib [] proxy proxy' [] :=
  ⟨rfl, [], [], [], .nil, h ▸ Flow.refl _⟩

theorem Flows.refl (proxy : Proxy) : Flows lib [] proxy proxy [] := .of_pending_eq rfl

theorem Flows.trans (h : Flows lib received proxy proxy' out)
    (h' : Flows lib received' proxy' proxy'' out') :
    Flows lib (received ++ received') proxy proxy'' (out ++ out') := by
  obtain ⟨a, r, d, hqueued, hflow⟩ := h.queue
  obtain ⟨a', r', d', hqueued', hflow'⟩ := h'.queue
  refine ⟨?_, _, _, _, hqueued.append hqueued', hflow.trans hflow'⟩
  rw [receivedOf_append, h.received, h'.received]

/-- What is served has waited, and nothing is received. -/
theorem Flows.of_served (hqueued : Queued lib [] [] served out)
    (hflow : Flow imsiOf proxy.pendingGsupReqs [] served proxy'.pendingGsupReqs) :
    Flows lib [] proxy proxy' out :=
  ⟨List.perm_nil.1 hqueued.received_perm, [], [], served, hqueued, hflow⟩

theorem Flows.aside (o : Out) (ho : Aside o) (proxy : Proxy) : Flows lib [] proxy proxy [o] :=
  .of_served (Queued.nil.aside o ho) (Flow.refl _)

theorem connectResult_concludes (lib : ProxyLib) (ptr : ReqPtr) (rh : Option RemoteHlr) :
    Concludes lib ptr (proxyPendingReqRemoteHlrConnectResult lib ptr rh) := by
  unfold proxyPendingReqRemoteHlrConnectResult
  split
  · exact .refused _
  next rh =>
      split
      next hup =>
          have hconnected : rh.isConnected = true := hup
          unfold remoteHlrGsupForwardToRemoteHlr
          split
          · exact .refused _
          · split
            · exact .refused _
            next msg _ =>
                rw [remoteHlrMsgbSend, if_pos hconnected]
                exact .forwarded rh.addr msg
      · exact .refused _

theorem flows_pop (proxy : Proxy) (imsi : CStr) (rh : Option RemoteHlr) :
    Flows lib [] proxy (proxyDeferredGsupReqPop lib proxy imsi rh).1
      (proxyDeferredGsupReqPop lib proxy imsi rh).2 :=
  .of_served (.ofServed fun ptr _ => connectResult_concludes lib ptr rh) (Flow.serve _ imsi)

theorem flows_popEntries (rh : Option RemoteHlr) (entries : List ProxySubscrListentry)
    (proxy : Proxy) :
    Flows lib [] proxy (popEntries lib addr rh entries proxy).1
      (popEntries lib addr rh entries proxy).2 := by
  induction entries generalizing proxy with
  | nil => exact .refl proxy
  | cons e entries ih =>
      rw [popEntries]
      split
      · exact (flows_pop proxy e.data.imsi rh).trans (ih _)
      · exact ih proxy

theorem flows_connectResultCb (s : State) (addr : SockaddrStr) (rh : Option RemoteHlr) (cb : Bool) :
    Flows lib [] s.proxy (connectResultCb lib s addr rh cb).1.proxy
      (connectResultCb lib s addr rh cb).2 := by
  unfold connectResultCb
  split
  · exact flows_popEntries rh s.proxy.subscrList.entries s.proxy
  · exact .refl s.proxy

theorem flows_addResultCb (s : State) (addr : SockaddrStr) (rh : RemoteHlr) (cb : Bool) :
    Flows lib [] s.proxy (addResultCb lib s addr rh cb).1.proxy
      (addResultCb lib s addr rh cb).2 := by
  unfold addResultCb
  split
  · exact .refl s.proxy
  · split
    · exact flows_connectResultCb s addr (some rh) cb
    · exact .refl s.proxy

/-- **Asking for a link only serves who waits for it.** -/
theorem flows_getOrConnect (s : State) (addr : SockaddrStr) (connect cb : Bool) :
    Flows lib [] s.proxy (remoteHlrGetOrConnect lib env s addr connect cb).2.1.proxy
      (remoteHlrGetOrConnect lib env s addr connect cb).2.2 := by
  unfold remoteHlrGetOrConnect
  split
  next rh _ => exact flows_addResultCb s addr rh cb
  next =>
      split
      · exact flows_connectResultCb s addr none cb
      · split
        · exact flows_connectResultCb s addr none cb
        · exact flows_addResultCb { s with
            remoteHlrs := ⟨s.allocs, addr, false, 0⟩ :: s.remoteHlrs
            allocs := s.allocs + 1 } addr ⟨s.allocs, addr, false, 0⟩ cb

theorem flows_upCallbacks (rh : RemoteHlr) (n : Nat) (proxy : Proxy) :
    Flows lib [] proxy (upCallbacks lib rh n proxy).1 (upCallbacks lib rh n proxy).2 := by
  induction n generalizing proxy with
  | zero => exact .refl proxy
  | succ n ih => exact (flows_popEntries (some rh) proxy.subscrList.entries proxy).trans (ih _)

theorem flows_del (proxy : Proxy) (imsi : CStr) :
    Flows lib [] proxy (proxySubscrDel lib proxy imsi).1 (proxySubscrDel lib proxy imsi).2 :=
  ⟨(flows_pop proxy imsi none).received, (flows_pop proxy imsi none).queue⟩

/-! ## Callbacks -/

/-- If there is a link to an address, it is not up, and a callback is registered there. -/
def Ready (lib : ProxyLib) (s : State) (addr : SockaddrStr) : Prop :=
  ∀ rh ∈ s.remoteHlrs, lib.sockaddrStrCmp rh.addr addr = 0 →
    rh.isConnected = false ∧ 0 < rh.pendingUpCallbacks

/-- Who waits for a link is called when it comes up. -/
def Armed (lib : ProxyLib) (s : State) : Prop :=
  ∀ ptr ∈ s.proxy.pendingGsupReqs, ∀ addr, addrOf s.proxy (imsiOf ptr) = some addr →
    lib.sockaddrStrIsNonzero addr = true → Ready lib s addr

theorem Ready.mono (h : Ready lib s addr) (hsub : s'.remoteHlrs ⊆ s.remoteHlrs) :
    Ready lib s' addr := fun rh hrh => h rh (hsub hrh)

/-- Who waits is fewer, addresses are the same or gone, and so are links. -/
theorem Armed.mono (h : Armed lib s)
    (hpending : s'.proxy.pendingGsupReqs ⊆ s.proxy.pendingGsupReqs)
    (haddr : ∀ imsi addr, addrOf s'.proxy imsi = some addr → addrOf s.proxy imsi = some addr)
    (hsub : s'.remoteHlrs ⊆ s.remoteHlrs) : Armed lib s' :=
  fun ptr hptr addr ha hnonzero =>
    (h ptr (hpending hptr) addr (haddr _ _ ha) hnonzero).mono hsub

theorem Armed.sameAddrs (h : Armed lib s) (hsame : SameAddrs s.proxy proxy) :
    Armed lib { s with proxy := proxy } :=
  h.mono (hsame.pending ▸ List.Subset.refl _) (fun imsi _ ha => (hsame.addrs imsi).symm.trans ha)
    (List.Subset.refl _)

theorem armed_connectResultCb (rh : Option RemoteHlr)
    (h : ∀ ptr ∈ s.proxy.pendingGsupReqs, ∀ a, addrOf s.proxy (imsiOf ptr) = some a →
      lib.sockaddrStrIsNonzero a = true → lib.sockaddrStrCmp addr a ≠ 0 → Ready lib s a) :
    Armed lib (connectResultCb lib s addr rh true).1 := by
  intro ptr hptr a ha hnonzero
  have hptr : ptr ∈ (proxyRemoteHlrConnectResultCb lib s.proxy addr rh).1.pendingGsupReqs := hptr
  have ha : addrOf (proxyRemoteHlrConnectResultCb lib s.proxy addr rh).1 (imsiOf ptr) = some a := ha
  rw [addrOf_connectResult] at ha
  obtain ⟨hwaits, hother⟩ := (mem_pending_connectResult rh).1 hptr
  exact h ptr hwaits a ha hnonzero (hother a ha)

/-- A link to an address is asked to call back: nobody waits for it in vain any more. -/
theorem armed_addResultCb (hlinks : LinksDistinct lib s) (hrh : rh ∈ s.remoteHlrs)
    (hcmp : lib.sockaddrStrCmp rh.addr addr = 0)
    (h : ∀ ptr ∈ s.proxy.pendingGsupReqs, ∀ a, addrOf s.proxy (imsiOf ptr) = some a →
      lib.sockaddrStrIsNonzero a = true → lib.sockaddrStrCmp addr a ≠ 0 → Ready lib s a) :
    Armed lib (addResultCb lib s addr rh true).1 := by
  unfold addResultCb
  rw [if_neg (by decide)]
  split
  next hup => exact armed_connectResultCb (some rh) h
  next hup =>
      have hdown : rh.isConnected = false := by simpa [remoteHlrIsUp] using hup
      intro ptr hptr a ha hnonzero x hx hxa
      rcases (mem_setRemoteHlr { rh with pendingUpCallbacks := rh.pendingUpCallbacks + 1 } hrh
        rfl).1 hx with rfl | ⟨hx, hne⟩
      · exact ⟨hdown, Nat.succ_pos _⟩
      · by_cases hcmp' : lib.sockaddrStrCmp addr a = 0
        · have hxrh : lib.sockaddrStrCmp x.addr rh.addr = 0 :=
            lib.cmp_equivalence.trans hxa
              (lib.cmp_equivalence.symm (lib.cmp_equivalence.trans hcmp hcmp'))
          exact absurd (congrArg RemoteHlr.ref (hlinks.eq_of_cmp hx hrh hxrh)) hne
        · exact h ptr hptr a ha hnonzero hcmp' x hx hxa

theorem linksDistinct_addResultCb (hlinks : LinksDistinct lib s) (hrh : rh ∈ s.remoteHlrs)
    (addr : SockaddrStr) (cb : Bool) : LinksDistinct lib (addResultCb lib s addr rh cb).1 := by
  unfold addResultCb connectResultCb
  split
  · exact hlinks
  · split
    · split
      · exact hlinks.of_eq rfl (Nat.le_refl _)
      · exact hlinks
    · exact hlinks.setRemoteHlr hrh rfl rfl

/-- What a step does to the queue, and what it keeps. -/
structure Keeps (lib : ProxyLib) (received : List ReqPtr) (s : State) (res : Res) : Prop where
  flows : Flows lib received s.proxy res.1.proxy res.2
  allocs_le : s.allocs ≤ res.1.allocs
  links : LinksDistinct lib res.1
  armed : Armed lib res.1

theorem Keeps.refl (hlinks : LinksDistinct lib s) (harmed : Armed lib s) :
    Keeps lib [] s (s, []) := ⟨.refl s.proxy, Nat.le_refl _, hlinks, harmed⟩

theorem Keeps.andThen {res : Res} (h : Keeps lib received s res) (next : State → Res)
    (h' : Keeps lib received' res.1 (next res.1)) :
    Keeps lib (received ++ received') s (res.andThen next) :=
  ⟨h.flows.trans h'.flows, Nat.le_trans h.allocs_le h'.allocs_le, h'.links, h'.armed⟩

/-- Something that puts nothing out comes first. -/
theorem Keeps.of_flows {res : Res} (h : Keeps lib received s' res)
    (hflows : Flows lib [] s.proxy s'.proxy []) (hallocs : s.allocs ≤ s'.allocs) :
    Keeps lib received s res :=
  ⟨hflows.trans h.flows, Nat.le_trans hallocs h.allocs_le, h.links, h.armed⟩

/-- The caller goes on to handle the request here. -/
theorem Keeps.handleLocally {res : Res} (h : Keeps lib received s res) (ptr : ReqPtr) :
    Keeps lib received s (res.1, res.2 ++ [.local ptr]) := by
  refine ⟨?_, h.allocs_le, h.links, h.armed⟩
  rw [← List.append_nil received]
  exact h.flows.trans (.aside _ (.local ptr) _)

theorem allocs_addResultCb (lib : ProxyLib) (s : State) (addr : SockaddrStr) (rh : RemoteHlr)
    (cb : Bool) :
    (addResultCb lib s addr rh cb).1.allocs = s.allocs := by
  unfold addResultCb connectResultCb
  split
  · rfl
  · split
    · split <;> rfl
    · rfl

theorem allocs_le_getOrConnect (s : State) (addr : SockaddrStr) (connect cb : Bool) :
    s.allocs ≤ (remoteHlrGetOrConnect lib env s addr connect cb).2.1.allocs := by
  have hcb : (connectResultCb lib s addr none cb).1.allocs = s.allocs := by
    unfold connectResultCb
    split <;> rfl
  unfold remoteHlrGetOrConnect
  split
  · exact Nat.le_of_eq (allocs_addResultCb lib s addr _ cb).symm
  · split
    · exact Nat.le_of_eq hcb.symm
    · split
      · exact Nat.le_of_eq hcb.symm
      · have hconnected := allocs_addResultCb lib { s with
          remoteHlrs := ⟨s.allocs, addr, false, 0⟩ :: s.remoteHlrs
          allocs := s.allocs + 1 } addr ⟨s.allocs, addr, false, 0⟩ cb
        exact Nat.le_trans (Nat.le_succ _) (Nat.le_of_eq hconnected.symm)

/-- **Asking for a link gives who waits for it a callback.** -/
theorem keeps_getOrConnect (hlinks : LinksDistinct lib s)
    (h : ∀ ptr ∈ s.proxy.pendingGsupReqs, ∀ a, addrOf s.proxy (imsiOf ptr) = some a →
      lib.sockaddrStrIsNonzero a = true → lib.sockaddrStrCmp addr a ≠ 0 → Ready lib s a) :
    Keeps lib [] s (remoteHlrGetOrConnect lib env s addr true true).2 := by
  refine ⟨flows_getOrConnect s addr true true, allocs_le_getOrConnect s addr true true, ?_, ?_⟩
  · unfold remoteHlrGetOrConnect
    split
    next rh hfind =>
        exact linksDistinct_addResultCb hlinks (remoteHlrFind_eq_some hfind).1 addr true
    next hfind =>
        rw [if_neg (by decide)]
        split
        · exact hlinks.of_eq rfl (Nat.le_refl _)
        · exact linksDistinct_addResultCb (hlinks.connect hfind) List.mem_cons_self addr true
  · unfold remoteHlrGetOrConnect
    split
    next rh hfind =>
        obtain ⟨hrh, hcmp⟩ := remoteHlrFind_eq_some hfind
        exact armed_addResultCb hlinks hrh hcmp h
    next hfind =>
        rw [if_neg (by decide)]
        split
        · exact armed_connectResultCb none h
        · refine armed_addResultCb (hlinks.connect hfind) List.mem_cons_self
            (lib.cmp_equivalence.refl addr) ?_
          intro ptr hptr a ha hnonzero hcmp x hx hxa
          rcases List.mem_cons.1 hx with rfl | hx
          · exact absurd hxa hcmp
          · exact h ptr hptr a ha hnonzero hcmp x hx hxa

/-! ## Requests -/

theorem keeps_resolved (env : Env) (hlinks : LinksDistinct lib s) (harmed : Armed lib s)
    (subscr : ProxySubscr) (addr : SockaddrStr) :
    Keeps lib [] s (proxySubscrRemoteHlrResolved lib env s subscr addr) := by
  unfold proxySubscrRemoteHlrResolved
  split
  · exact .refl hlinks harmed
  · simp only
    generalize hnew : ({ subscr with remoteHlrAddr := addr } : ProxySubscr) = new
    have haddr : new.remoteHlrAddr = addr := hnew ▸ rfl
    have himsi : new.imsi = subscr.imsi := hnew ▸ rfl
    have hstored : Flows lib [] s.proxy (s.createOrUpdate env.now new).proxy [] :=
      .of_pending_eq (pending_createOrUpdate _ _ _)
    have hlinks' : LinksDistinct lib (s.createOrUpdate env.now new) :=
      hlinks.of_eq rfl (Nat.le_refl _)
    -- who waits for another IMSI waits as before
    have hothers : ∀ ptr ∈ (s.createOrUpdate env.now new).proxy.pendingGsupReqs,
        imsiOf ptr ≠ new.imsi → ∀ a,
        addrOf (s.createOrUpdate env.now new).proxy (imsiOf ptr) = some a →
        lib.sockaddrStrIsNonzero a = true → Ready lib s a := by
      intro ptr hptr hne a ha hnonzero
      rw [State.createOrUpdate, pending_createOrUpdate] at hptr
      rw [State.createOrUpdate, addrOf_createOrUpdate, if_neg (Ne.symm hne)] at ha
      exact harmed ptr hptr a ha hnonzero
    split
    next hwaiting =>
        have hkeeps : Keeps lib [] (s.createOrUpdate env.now new)
            (remoteHlrGetOrConnect lib env (s.createOrUpdate env.now new) addr true true).2 := by
          refine keeps_getOrConnect hlinks' ?_
          intro ptr hptr a ha hnonzero hcmp
          refine hothers ptr hptr (fun hptr => hcmp ?_) a ha hnonzero
          rw [State.createOrUpdate, addrOf_createOrUpdate, if_pos hptr.symm, haddr] at ha
          rw [← Option.some.inj ha]
          exact lib.cmp_equivalence.refl _
        exact hkeeps.of_flows hstored (Nat.le_refl _)
    next hwaiting =>
        refine ⟨hstored, Nat.le_refl _, hlinks', ?_⟩
        intro ptr hptr a ha hnonzero
        refine hothers ptr hptr (fun hnew => hwaiting ?_) a ha hnonzero
        exact waiting_iff.2 ⟨ptr, hptr, hnew.trans himsi⟩

theorem flows_defer (s : State) (ptr : ReqPtr) :
    Flows lib [ptr] s.proxy (s.deferReq ptr).proxy [.received ptr] :=
  ⟨rfl, [ptr], [], [], Queued.nil.received ptr, Flow.defer _ ptr⟩

/-- Nobody of an IMSI waits if the link to its home HLR is up. -/
theorem nobody_waits_of_up (harmed : Armed lib s) (haddr : addrOf s.proxy imsi = some addr)
    (hnonzero : lib.sockaddrStrIsNonzero addr = true)
    (hup : remoteHlrIsUp (remoteHlrFind lib s.remoteHlrs addr) = true) :
    only imsiOf imsi s.proxy.pendingGsupReqs = [] := by
  rw [only_eq_nil_iff]
  rintro p hp rfl
  cases hfind : remoteHlrFind lib s.remoteHlrs addr with
  | none =>
      rw [hfind] at hup
      cases hup
  | some rh =>
      rw [hfind] at hup
      obtain ⟨hrh, hcmp⟩ := remoteHlrFind_eq_some hfind
      have hdown := (harmed p hp addr haddr hnonzero rh hrh hcmp).1
      have hup : rh.isConnected = true := hup
      rw [hdown] at hup
      cases hup

/-- **A request that the proxy allows waits, or is forwarded while nobody of its IMSI waits.** -/
theorem keeps_forwardAllowed (env : Env) (hlinks : LinksDistinct lib s) (harmed : Armed lib s)
    (haddr : addrOf s.proxy (imsiOf ptr) = some subscr.remoteHlrAddr) :
    Keeps lib [ptr] s ((forwardAllowed lib env s subscr ptr).1,
      .received ptr :: (forwardAllowed lib env s subscr ptr).2) := by
  have hlinks' : LinksDistinct lib (s.deferReq ptr) := hlinks.of_eq rfl (Nat.le_refl _)
  unfold forwardAllowed
  rw [getOrConnect_fst]
  split
  next hzero =>
      refine ⟨flows_defer s ptr, Nat.le_refl _, hlinks', ?_⟩
      intro p hp a ha hnonzero
      rcases List.mem_append.1 hp with hp | hp
      · exact harmed p hp a ha hnonzero
      · obtain rfl := List.mem_singleton.1 hp
        rw [← Option.some.inj (haddr.symm.trans ha)] at hnonzero
        simp [hnonzero] at hzero
  next hnonzero =>
      have hnonzero : lib.sockaddrStrIsNonzero subscr.remoteHlrAddr = true := by
        simpa using hnonzero
      simp only
      split
      next hup =>
          have hconcludes := connectResult_concludes lib ptr
            (remoteHlrFind lib s.remoteHlrs subscr.remoteHlrAddr)
          refine ⟨⟨?_, [ptr], [], [ptr], ?_, ?_⟩, Nat.le_refl _, hlinks, harmed⟩
          · show ptr :: receivedOf _ = [ptr]
            rw [hconcludes.receivedOf]
          · have hserved := Queued.nil.served ptr _ hconcludes
            rw [List.append_nil] at hserved
            exact hserved.received ptr
          · exact Flow.pass (nobody_waits_of_up harmed haddr hnonzero hup)
      next hup =>
          have hkeeps : Keeps lib [] (s.deferReq ptr) (remoteHlrGetOrConnect lib env
              (s.deferReq ptr) subscr.remoteHlrAddr true true).2 := by
            refine keeps_getOrConnect hlinks' ?_
            intro p hp a ha hnonzero' hcmp
            rcases List.mem_append.1 hp with hp | hp
            · exact harmed p hp a ha hnonzero'
            · obtain rfl := List.mem_singleton.1 hp
              rw [← Option.some.inj (haddr.symm.trans ha)] at hcmp
              exact absurd (lib.cmp_equivalence.refl _) hcmp
          exact ⟨(flows_defer s ptr).trans hkeeps.flows, hkeeps.allocs_le, hkeeps.links,
            hkeeps.armed⟩

theorem keeps_forward (env : Env) (hlinks : LinksDistinct lib s) (harmed : Armed lib s)
    (hget : proxySubscrGetByImsi s.proxy (imsiOf ptr) = some subscr) :
    Keeps lib [ptr] s (proxySubscrForwardToRemoteHlr lib env s subscr ptr).2 := by
  have hsame := sameAddrs_acknowledgeTo lib env.now hget ptr.req
  unfold proxySubscrForwardToRemoteHlr
  generalize proxyAcknowledgeGsupToRemoteHlr lib env.now s.proxy subscr ptr.req = ack at hsame
  have hlinks' : LinksDistinct lib { s with proxy := ack.2 } :=
    hlinks.of_eq rfl (Nat.le_refl _)
  have harmed' := harmed.sameAddrs hsame
  simp only
  split
  · have hrefused : Queued lib [] [ptr] []
        (.received ptr :: refuse lib ptr .gmmProtoErrUnspec ++ []) :=
      Queued.nil.refusedAtOnce ptr .gmmProtoErrUnspec
    rw [List.append_nil] at hrefused
    refine ⟨⟨congrArg (ptr :: ·) (receivedOf_reqOut ptr _), [], [ptr], [], hrefused, ?_⟩,
      Nat.le_refl _, hlinks', harmed'⟩
    rw [hsame.pending]
    exact Flow.refl _
  · have hkeeps := keeps_forwardAllowed env hlinks' harmed'
      ((hsame.addrs _).trans (addrOf_eq_some hget))
    exact hkeeps.of_flows (.of_pending_eq hsame.pending) (Nat.le_refl _)

theorem keeps_del (hlinks : LinksDistinct lib s) (harmed : Armed lib s) (imsi : CStr) :
    Keeps lib [] s (s.onProxy (proxySubscrDel lib s.proxy imsi)) := by
  refine ⟨flows_del s.proxy imsi, Nat.le_refl _, hlinks.of_eq rfl (Nat.le_refl _), ?_⟩
  refine harmed.mono (fun _ h => (List.mem_filter.1 h).1) ?_ (List.Subset.refl _)
  intro imsi' addr ha
  exact addrOf_of_filter (proxyDeferredGsupReqPop lib s.proxy imsi none).1 ha

theorem keeps_lookUpHlr (env : Env) (hlinks : LinksDistinct lib s) (harmed : Armed lib s)
    (hget : proxySubscrGetByImsi s.proxy (imsiOf ptr) = some subscr) :
    Keeps lib [ptr] s (lookUpHlr lib env s subscr ptr).2 := by
  have hspooled := keeps_forward env hlinks harmed hget
  unfold lookUpHlr
  simp only
  split
  · exact hspooled
  · split
    · exact hspooled.andThen (fun s => s.onProxy (proxySubscrDel lib s.proxy (imsiOf ptr)))
        (keeps_del hspooled.links hspooled.armed (imsiOf ptr))
    · exact hspooled.andThen
        (fun s => ({ s with lookups := s.lookups ++ [hlrQuery (imsiOf ptr)] }, []))
        ⟨.refl _, Nat.le_refl _, hspooled.links.of_eq rfl (Nat.le_refl _),
          hspooled.armed⟩

theorem keeps_forwardToGateway (env : Env) (hlinks : LinksDistinct lib s) (harmed : Armed lib s)
    (hget : proxySubscrGetByImsi s.proxy (imsiOf ptr) = some subscr) :
    Keeps lib [ptr] s (forwardToGateway lib env s subscr ptr) := by
  have hresolved := keeps_resolved env hlinks harmed subscr env.gsupGatewayProxy
  refine hresolved.andThen _ ?_
  obtain ⟨new, hnew, -⟩ := proxySubscrGetByImsi_resolved lib env hget env.gsupGatewayProxy
  rw [hnew]
  exact keeps_forward env hresolved.links hresolved.armed hnew

/-- An entry that has no address yet makes nobody wait for a link. -/
theorem armed_createOrUpdate (harmed : Armed lib s) (now : Int)
    (hzero : lib.sockaddrStrIsNonzero subscr.remoteHlrAddr = false) :
    Armed lib (s.createOrUpdate now subscr) := by
  intro p hp a ha hnonzero
  rw [State.createOrUpdate, pending_createOrUpdate] at hp
  rw [State.createOrUpdate, addrOf_createOrUpdate] at ha
  split at ha
  · rw [← Option.some.inj ha, hzero] at hnonzero
    cases hnonzero
  · exact harmed p hp a ha hnonzero

/-- An entry without an address has been made for an IMSI. -/
structure Created (lib : ProxyLib) (s : State) (now : Int) (imsi : CStr) (new : ProxySubscr) :
    Prop where
  links : LinksDistinct lib (s.createOrUpdate now new)
  armed : Armed lib (s.createOrUpdate now new)
  flows : Flows lib [] s.proxy (s.createOrUpdate now new).proxy []
  zero : lib.sockaddrStrIsNonzero new.remoteHlrAddr = false
  imsi_eq : new.imsi = imsi
  get : proxySubscrGetByImsi (s.createOrUpdate now new).proxy imsi = some new

theorem created_ofImsi (hlinks : LinksDistinct lib s) (harmed : Armed lib s) (now : Int)
    (imsi : CStr) : Created lib s now imsi (ProxySubscr.ofImsi imsi) where
  links := hlinks.of_eq rfl (Nat.le_refl _)
  armed := armed_createOrUpdate harmed now lib.nonzero_zero
  flows := .of_pending_eq (pending_createOrUpdate _ _ _)
  zero := lib.nonzero_zero
  imsi_eq := rfl
  get := by
    rw [State.createOrUpdate, proxySubscrGetByImsi_createOrUpdate]
    exact if_pos rfl

theorem keeps_dgsmCheckForwardGsupMsg (env : Env) (hlinks : LinksDistinct lib s)
    (harmed : Armed lib s) (ptr : ReqPtr) :
    ∃ received, received.Sublist [ptr] ∧
      Keeps lib received s (dgsmCheckForwardGsupMsg lib env s ptr).2 := by
  unfold dgsmCheckForwardGsupMsg
  split
  · exact ⟨[], List.nil_sublist _, .refl hlinks harmed⟩
  · split
    next subscr hget =>
        exact ⟨[ptr], List.Sublist.refl _, keeps_forward env hlinks harmed hget⟩
    next =>
        simp only
        have hcreated := created_ofImsi hlinks harmed env.now (imsiOf ptr)
        generalize ProxySubscr.ofImsi (imsiOf ptr) = new at hcreated
        split
        · exact ⟨[ptr], List.Sublist.refl _,
            (keeps_forwardToGateway env hcreated.links hcreated.armed hcreated.get).of_flows
              hcreated.flows (Nat.le_refl _)⟩
        · split
          · exact ⟨[], List.nil_sublist _, (Keeps.refl hcreated.links hcreated.armed).of_flows
              hcreated.flows (Nat.le_refl _)⟩
          · exact ⟨[ptr], List.Sublist.refl _,
              (keeps_lookUpHlr env hcreated.links hcreated.armed hcreated.get).of_flows
                hcreated.flows (Nat.le_refl _)⟩

theorem keeps_readCb (env : Env) (hlinks : LinksDistinct lib s) (harmed : Armed lib s)
    (ptr : ReqPtr) :
    ∃ received, received.Sublist [ptr] ∧ Keeps lib received s (readCb lib env s ptr) := by
  obtain ⟨received, hreceived, hchecked⟩ := keeps_dgsmCheckForwardGsupMsg env hlinks harmed ptr
  unfold readCb
  split
  · simp only
    split
    · exact ⟨received, hreceived, hchecked⟩
    · exact ⟨received, hreceived, hchecked.handleLocally ptr⟩
  · exact ⟨[], List.nil_sublist _, (Keeps.refl hlinks harmed).handleLocally ptr⟩

theorem keeps_resolveHlrResultCb (env : Env) (hlinks : LinksDistinct lib s) (harmed : Armed lib s)
    (query : Mslookup.Query) (result : Mslookup.Result) :
    Keeps lib [] s (resolveHlrResultCb lib env s query result) := by
  unfold resolveHlrResultCb
  split
  next imsi _ =>
      split
      · exact keeps_del hlinks harmed imsi
      · simp only
        split
        · exact keeps_del hlinks harmed imsi
        · split
          · exact .refl hlinks harmed
          next subscr hget => exact keeps_resolved env hlinks harmed subscr _
  · exact .refl hlinks harmed

/-! ## Links -/

theorem keeps_setRemoteHlr (hlinks : LinksDistinct lib s) (harmed : Armed lib s)
    {old : RemoteHlr} (hold : old ∈ s.remoteHlrs) (href : rh.ref = old.ref)
    (haddr : rh.addr = old.addr) (hdown : rh.isConnected = false)
    (hcallbacks : old.pendingUpCallbacks ≤ rh.pendingUpCallbacks) :
    Keeps lib [] s (s.setRemoteHlr rh, []) := by
  refine ⟨.refl s.proxy, Nat.le_refl _, hlinks.setRemoteHlr hold href haddr,
    ?_⟩
  intro p hp a ha hnonzero x hx hcmp
  rcases (mem_setRemoteHlr rh hold href).1 hx with rfl | ⟨hx, -⟩
  · rw [haddr] at hcmp
    exact ⟨hdown, Nat.lt_of_lt_of_le (harmed p hp a ha hnonzero old hold hcmp).2 hcallbacks⟩
  · exact harmed p hp a ha hnonzero x hx hcmp

/-- Of two writes to a link the last one stays. -/
theorem setRemoteHlr_setRemoteHlr {new : RemoteHlr} (s : State) (href : rh.ref = new.ref) :
    (s.setRemoteHlr rh).setRemoteHlr new = s.setRemoteHlr new := by
  unfold State.setRemoteHlr
  rw [Keyed.set_set href]

theorem remoteHlrDestroy_setRemoteHlr (s : State) (rh : RemoteHlr) :
    remoteHlrDestroy (s.setRemoteHlr rh) rh = remoteHlrDestroy s rh := by
  unfold remoteHlrDestroy State.setRemoteHlr
  rw [Keyed.remove_set]

/-- A link that goes down is gone. -/
theorem gsupClientUpdownCb_down (lib : ProxyLib) (s : State) (rh : RemoteHlr) :
    gsupClientUpdownCb lib s rh false = (remoteHlrDestroy s rh, []) := by
  show (remoteHlrDestroy (s.setRemoteHlr _) _, []) = _
  rw [remoteHlrDestroy_setRemoteHlr]
  rfl

/-- A link that comes up has no callbacks any more, and all of them are called. -/
theorem gsupClientUpdownCb_up (lib : ProxyLib) (s : State) (rh : RemoteHlr) :
    gsupClientUpdownCb lib s rh true =
      (s.setRemoteHlr { rh with isConnected := true, pendingUpCallbacks := 0 }).onProxy
        (upCallbacks lib { rh with isConnected := true } rh.pendingUpCallbacks s.proxy) := by
  have hset : (s.setRemoteHlr { rh with isConnected := true }).setRemoteHlr
      { rh with isConnected := true, pendingUpCallbacks := 0 } =
        s.setRemoteHlr { rh with isConnected := true, pendingUpCallbacks := 0 } :=
    setRemoteHlr_setRemoteHlr s rfl
  show ((s.setRemoteHlr _).setRemoteHlr _).onProxy _ = _
  rw [hset]
  rfl

theorem keeps_updown (hlinks : LinksDistinct lib s) (harmed : Armed lib s)
    (hrh : rh ∈ s.remoteHlrs) (up : Bool) :
    Keeps lib [] s (gsupClientUpdownCb lib s rh up) := by
  cases up with
  | false =>
      rw [gsupClientUpdownCb_down]
      exact ⟨.refl s.proxy, Nat.le_refl _, hlinks.destroy rh,
        harmed.mono (List.Subset.refl _) (fun _ _ ha => ha) (fun _ h => (List.mem_filter.1 h).1)⟩
  | true =>
      rw [gsupClientUpdownCb_up]
      generalize hnew : ({ rh with isConnected := true, pendingUpCallbacks := 0 } : RemoteHlr) = new
      have href : new.ref = rh.ref := hnew ▸ rfl
      have haddr : new.addr = rh.addr := hnew ▸ rfl
      have hset := hlinks.setRemoteHlr hrh href haddr
      refine ⟨flows_upCallbacks _ rh.pendingUpCallbacks s.proxy, Nat.le_refl _,
        hset.of_eq rfl (Nat.le_refl _), ?_⟩
      intro p hp a ha hnonzero x hx hcmp
      obtain ⟨hwaits, hcalled⟩ := of_mem_pending_upCallbacks hp
      have hbefore : addrOf s.proxy (imsiOf p) = some a :=
        (addrOf_congr (subscrList_upCallbacks _ _ _) (imsiOf p)).symm.trans ha
      rcases (mem_setRemoteHlr new hrh href).1 hx with rfl | ⟨hx, -⟩
      · rw [haddr] at hcmp
        exact absurd hcmp (hcalled (harmed p hwaits a hbefore hnonzero rh hrh hcmp).2 a hbefore)
      · exact harmed p hwaits a hbefore hnonzero x hx hcmp

/-! ## Messages from remote HLRs -/

theorem flows_errReply (rh : RemoteHlr) (gsupOrig : GsupMessage) (cause : Cause) (proxy : Proxy) :
    Flows lib [] proxy proxy (remoteHlrErrReply lib rh gsupOrig cause) := by
  unfold remoteHlrErrReply
  split
  · exact .refl proxy
  · split
    · exact .refl proxy
    · split
      · exact .aside _ (.toRemoteHlr _ _) proxy
      · exact .refl proxy

theorem keeps_forwardToVlr (env : Env) (hlinks : LinksDistinct lib s) (harmed : Armed lib s)
    {gsup : GsupMessage} (hget : proxySubscrGetByImsi s.proxy gsup.imsi = some subscr) :
    Keeps lib [] s (proxySubscrForwardToVlr lib env s subscr gsup).2 := by
  unfold proxySubscrForwardToVlr
  simp only
  split
  · exact .refl hlinks harmed
  · split
    · exact .refl hlinks harmed
    next conn _ =>
        have hsame := sameAddrs_acknowledgeFrom lib env.now hget gsup
          (ipaNameSet IpaName.zero gsup.destinationName).2 (env.peerName conn)
        have hflows : Flows lib [] s.proxy _ [] := .of_pending_eq hsame.pending
        have hlinks' := fun proxy : Proxy =>
          (hlinks.of_eq rfl (Nat.le_refl _) : LinksDistinct lib { s with proxy := proxy })
        have harmed' := harmed.sameAddrs hsame
        split
        · exact ⟨hflows, Nat.le_refl _, hlinks' _, harmed'⟩
        · split
          · exact ⟨hflows, Nat.le_refl _, hlinks' _, harmed'⟩
          · exact ⟨hflows.trans (.aside _ (.toVlr _) _), Nat.le_refl _, hlinks' _, harmed'⟩

theorem keeps_remoteHlrRx (env : Env) (hlinks : LinksDistinct lib s) (harmed : Armed lib s)
    (rh : RemoteHlr) (msg : List UInt8) : Keeps lib [] s (remoteHlrRx lib env s rh msg) := by
  unfold remoteHlrRx
  split
  · exact .refl hlinks harmed
  next gsup _ =>
      split
      · exact ⟨flows_errReply rh gsup _ s.proxy, Nat.le_refl _, hlinks, harmed⟩
      · split
        · exact ⟨flows_errReply rh gsup _ s.proxy, Nat.le_refl _, hlinks, harmed⟩
        next subscr hget =>
            have hforwarded := keeps_forwardToVlr env hlinks harmed hget
            simp only
            split
            · exact ⟨hforwarded.flows.trans (flows_errReply rh gsup _ _), hforwarded.allocs_le,
                hforwarded.links, hforwarded.armed⟩
            · exact hforwarded

/-! ## Runs -/

theorem keeps_cleanup (hlinks : LinksDistinct lib s) (harmed : Armed lib s) (now : Int)
    (gcPeriod : UInt32) (gcTimer : Bool) :
    Keeps lib [] s ({ s with
      proxy := proxyCleanup now { s.proxy with gcPeriod := gcPeriod, gcTimer := gcTimer } }, []) :=
  ⟨.of_pending_eq rfl, Nat.le_refl _, hlinks.of_eq rfl (Nat.le_refl _),
    harmed.mono (List.Subset.refl _) (fun _ _ ha => addrOf_of_filter s.proxy ha)
      (List.Subset.refl _)⟩

/-- The request that an input brings, with the number that it gets. -/
def Input.request (s : State) : Input → List ReqPtr
  | .rx req _ => [⟨s.allocs, req⟩]
  | _ => []

theorem keeps_onRemoteHlr (hlinks : LinksDistinct lib s) (harmed : Armed lib s) (ref : Nat)
    {f : RemoteHlr → Res} (h : ∀ rh ∈ s.remoteHlrs, Keeps lib [] s (f rh)) :
    Keeps lib [] s (onRemoteHlr s ref f) := by
  unfold onRemoteHlr
  split
  · exact .refl hlinks harmed
  next rh hfind => exact h rh ((Keyed.find_eq_some_iff hlinks.refs).1 hfind).1

/-- **What a step does to the queue, and what it keeps.** -/
theorem keeps_step (hlinks : LinksDistinct lib s) (harmed : Armed lib s) (input : Input) :
    ∃ received, received.Sublist (input.request s) ∧
      Keeps lib received { s with allocs := s.allocs + (input.request s).length }
        (step lib s input) := by
  cases input with
  | rx req env =>
      have hlinks' : LinksDistinct lib { s with allocs := s.allocs + 1 } :=
        hlinks.of_eq rfl (Nat.le_succ _)
      exact keeps_readCb env hlinks' harmed ⟨s.allocs, req⟩
  | result query result env =>
      refine ⟨[], List.Sublist.refl _, ?_⟩
      rw [step]
      split
      · have hkeeps := keeps_resolveHlrResultCb
          (s := { s with lookups := s.lookups.erase query }) env
          (hlinks.of_eq rfl (Nat.le_refl _)) harmed query result
        exact ⟨hkeeps.flows, hkeeps.allocs_le, hkeeps.links, hkeeps.armed⟩
      · exact .refl hlinks harmed
  | updown ref up =>
      exact ⟨[], List.Sublist.refl _,
        keeps_onRemoteHlr hlinks harmed ref fun rh hrh => keeps_updown hlinks harmed hrh up⟩
  | lost ref =>
      exact ⟨[], List.Sublist.refl _, keeps_onRemoteHlr hlinks harmed ref fun rh hrh =>
        keeps_setRemoteHlr hlinks harmed hrh rfl rfl rfl (Nat.le_refl _)⟩
  | remoteRx ref msg env =>
      exact ⟨[], List.Sublist.refl _, keeps_onRemoteHlr hlinks harmed ref fun rh _ =>
        keeps_remoteHlrRx env hlinks harmed rh msg⟩
  | gcTimer now =>
      refine ⟨[], List.Sublist.refl _, ?_⟩
      rw [step]
      split
      · exact keeps_cleanup hlinks harmed now s.proxy.gcPeriod false
      · exact .refl hlinks harmed
  | setGcPeriod gcPeriod now =>
      exact ⟨[], List.Sublist.refl _, keeps_cleanup hlinks harmed now gcPeriod s.proxy.gcTimer⟩
  | subscrDel imsi => exact ⟨[], List.Sublist.refl _, keeps_del hlinks harmed imsi⟩

/-- What holds after a run: requests are numbered in the order in which they are received. -/
structure Ran (lib : ProxyLib) (s : State) (out : List Out) : Prop where
  flows : Flows lib (receivedOf out) Proxy.init s.proxy out
  links : LinksDistinct lib s
  armed : Armed lib s
  ref_lt : ∀ ptr ∈ receivedOf out, ptr.ref < s.allocs
  sorted : (receivedOf out).Pairwise fun p q => p.ref < q.ref

/-- What is received gets the next numbers. -/
theorem Ran.of_keeps {res : Res} (h : Ran lib s out) (hkeeps : Keeps lib received s' res)
    (hproxy : s'.proxy = s.proxy) (hallocs : s.allocs ≤ s'.allocs)
    (hnew : ∀ p ∈ received, s.allocs ≤ p.ref ∧ p.ref < s'.allocs)
    (hsorted : received.Pairwise fun p q => p.ref < q.ref) : Ran lib res.1 (out ++ res.2) := by
  have hout : receivedOf (out ++ res.2) = receivedOf out ++ received := by
    rw [receivedOf_append, hkeeps.flows.received]
  have hflows := hkeeps.flows
  rw [hproxy] at hflows
  refine ⟨?_, hkeeps.links, hkeeps.armed, ?_, ?_⟩
  · rw [hout]
    exact h.flows.trans hflows
  · rw [hout]
    intro p hp
    rcases List.mem_append.1 hp with hp | hp
    · exact Nat.lt_of_lt_of_le (h.ref_lt p hp) (Nat.le_trans hallocs hkeeps.allocs_le)
    · exact Nat.lt_of_lt_of_le (hnew p hp).2 hkeeps.allocs_le
  · rw [hout, List.pairwise_append]
    exact ⟨h.sorted, hsorted, fun p hp q hq =>
      Nat.lt_of_lt_of_le (h.ref_lt p hp) (hnew q hq).1⟩

/-- If it is one request at most, it gets the next number. -/
theorem Ran.of_keeps_one {res : Res} {req : GsupReq} (h : Ran lib s out)
    (hreceived : received.Sublist [⟨s.allocs, req⟩])
    (hkeeps : Keeps lib received { s with allocs := s.allocs + 1 } res) :
    Ran lib res.1 (out ++ res.2) := by
  refine h.of_keeps hkeeps rfl (Nat.le_succ _) (fun p hp => ?_)
    ((List.pairwise_singleton _ _).sublist hreceived)
  obtain rfl := List.mem_singleton.1 (hreceived.subset hp)
  exact ⟨Nat.le_refl _, Nat.lt_succ_self _⟩

theorem Ran.step (h : Ran lib s out) (input : Input) :
    Ran lib (Dgsm.step lib s input).1 (out ++ (Dgsm.step lib s input).2) := by
  obtain ⟨received, hreceived, hkeeps⟩ := keeps_step h.links h.armed input
  cases input with
  | rx req env => exact h.of_keeps_one hreceived hkeeps
  | _ =>
      obtain rfl := List.sublist_nil.1 hreceived
      exact h.of_keeps hkeeps rfl (Nat.le_refl _) (fun p hp => by cases hp) List.Pairwise.nil

theorem ran_init (lib : ProxyLib) : Ran lib State.init [] :=
  ⟨.refl _, ⟨List.nodup_nil, fun _ h => (by cases h), List.Pairwise.nil⟩, fun _ h => (by cases h),
    fun _ h => (by cases h), List.Pairwise.nil⟩

theorem ran_run (lib : ProxyLib) (inputs : List Input) :
    Ran lib ((machine lib).run State.init inputs).1 ((machine lib).run State.init inputs).2 :=
  (machine lib).run_induction (P := fun _ s out => Ran lib s out) (ran_init lib)
    (fun _ _ _ input h => h.step input) inputs

/-- **The requests of an IMSI are forwarded in the order in which they are received, each at most
once, and none overtakes one that waits.** -/
theorem forwarded_in_order (lib : ProxyLib) (inputs : List Input) (imsi : CStr) :
    (receivedOf ((machine lib).run State.init inputs).2).Pairwise (fun p q => p.ref < q.ref) ∧
      (only imsiOf imsi (forwardedOf ((machine lib).run State.init inputs).2)).Sublist
        (only imsiOf imsi (receivedOf ((machine lib).run State.init inputs).2)) ∧
      ∀ p ∈ forwardedOf ((machine lib).run State.init inputs).2,
        ∀ q ∈ ((machine lib).run State.init inputs).1.proxy.pendingGsupReqs,
        imsiOf p = imsiOf q → p.ref < q.ref := by
  have hran := ran_run lib inputs
  generalize (machine lib).run State.init inputs = res at hran
  obtain ⟨arrived, refused, served, hqueued, hflow⟩ := hran.flows.queue
  have hsplit : ∀ k, only imsiOf k served ++ only imsiOf k res.1.proxy.pendingGsupReqs =
      only imsiOf k arrived := fun k => (hflow k).symm
  refine ⟨hran.sorted, ?_, ?_⟩
  · calc (only imsiOf imsi (forwardedOf res.2)).Sublist (only imsiOf imsi served) :=
          hqueued.forwarded_sublist.filter _
      List.Sublist _ (only imsiOf imsi arrived) := (hflow.served_prefix imsi).sublist
      List.Sublist _ (only imsiOf imsi (receivedOf res.2)) := hqueued.arrived_sublist.filter _
  · intro p hp q hq himsi
    have hserved : p ∈ only imsiOf (imsiOf q) served :=
      mem_only.2 ⟨hqueued.forwarded_sublist.subset hp, himsi⟩
    have hwaits : q ∈ only imsiOf (imsiOf q) res.1.proxy.pendingGsupReqs := mem_only.2 ⟨hq, rfl⟩
    have hsorted : (only imsiOf (imsiOf q) arrived).Pairwise fun p q => p.ref < q.ref :=
      (hran.sorted.sublist hqueued.arrived_sublist).filter _
    rw [← hsplit] at hsorted
    exact (List.pairwise_append.1 hsorted).2.2 p hserved q hwaits

end Dgsm
end OsmoHlr
