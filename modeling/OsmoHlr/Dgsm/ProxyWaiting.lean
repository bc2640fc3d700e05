import OsmoHlr.Dgsm.ProxyLibHost
import OsmoHlr.Dgsm.ProxyOrder

/-!
# Requests that wait

A request that has been received waits in one place, or was concluded once: forwarded and
freed, or answered with an error.  While it waits, something is under way that ends this: a
lookup for its IMSI, or a link to the home HLR that calls back.  Some steps take that away
and leave the request where it is.

* `Ran.accounted` — a request waits, or was concluded once.
* `NotStranded` — for who waits, a lookup is open or a link calls back.
* `Spares`, `Dispatches` — the steps that leave nobody stranded, and no request to both HLRs.
* `no_request_stranded_iff` — in a run nobody is stranded if and only if all steps are such.
-/

namespace OsmoHlr
namespace Dgsm

open CString CniPeerId Gsup SharedQueue

/-- Something happens to the request at an address. -/
def isAbout (ref : Nat) : Out → Bool
  | .forwarded ptr _ _ => ptr.ref = ref
  | .req event => event.ref = ref
  | _ => false

/-- What is put out about the request at an address after it was received. -/
def about (ref : Nat) (out : List Out) : List Out := out.filter (isAbout ref)

/-- It was concluded once, or waits in one place and nothing has happened to it. -/
def Accounted (lib : ProxyLib) (s : State) (out : List Out) (ptr : ReqPtr) : Prop :=
  (Concludes lib ptr (about ptr.ref out) ∧ s.proxy.pendingGsupReqs.count ptr = 0) ∨
    (about ptr.ref out = [] ∧ s.proxy.pendingGsupReqs.count ptr = 1)

/-- There is a link to an address that calls back or is up. -/
def LinkExpected (lib : ProxyLib) (remoteHlrs : List RemoteHlr) (addr : SockaddrStr) : Prop :=
  ∃ rh ∈ remoteHlrs, lib.sockaddrStrCmp rh.addr addr = 0 ∧
    (0 < rh.pendingUpCallbacks ∨ rh.isConnected = true)

/-- A lookup for an IMSI has no result yet. -/
def LookupOpen (lookups : List Mslookup.Query) (imsi : CStr) : Prop :=
  ∃ query ∈ lookups, query.id = .imsi imsi

/-- An IMSI has an entry, and a lookup is open or there is a link to its home HLR. -/
def Expects (lib : ProxyLib) (s : State) (imsi : CStr) : Prop :=
  ∃ addr, addrOf s.proxy imsi = some addr ∧
    (LookupOpen s.lookups imsi ∨
      lib.sockaddrStrIsNonzero addr = true ∧ LinkExpected lib s.remoteHlrs addr)

/-- Nobody waits in vain. -/
def NotStranded (lib : ProxyLib) (s : State) : Prop :=
  ∀ ptr ∈ s.proxy.pendingGsupReqs, Expects lib s (imsiOf ptr)

variable {lib : ProxyLib} {env : Env} {now : Int} {proxy proxy' : Proxy} {s s' : State}
  {subscr : ProxySubscr} {imsi : CStr} {ptr : ReqPtr} {rh : RemoteHlr} {addr : SockaddrStr}
  {arrived refused served : List ReqPtr} {out block : List Out} {ref : Nat}

/-! ## Each request is concluded once -/

@[simp] theorem about_append (ref : Nat) (out out' : List Out) :
    about ref (out ++ out') = about ref out ++ about ref out' := List.filter_append ..

theorem about_reqOut_self (ptr : ReqPtr) (calls : List ReqCall) :
    about ptr.ref (reqOut ptr calls) = reqOut ptr calls := by
  rw [about, List.filter_eq_self]
  intro o ho
  simp only [reqOut, ReqPtr.events, List.map_map, List.mem_map] at ho
  obtain ⟨call, -, rfl⟩ := ho
  exact decide_eq_true rfl

theorem about_reqOut_of_ne (h : ptr.ref ≠ ref) (calls : List ReqCall) :
    about ref (reqOut ptr calls) = [] := by
  rw [about, List.filter_eq_nil_iff]
  intro o ho
  simp only [reqOut, ReqPtr.events, List.map_map, List.mem_map] at ho
  obtain ⟨call, -, rfl⟩ := ho
  simpa [isAbout] using h

theorem Concludes.about_self (h : Concludes lib ptr block) : about ptr.ref block = block := by
  cases h with
  | forwarded addr msg =>
      have hptr : isAbout ptr.ref (.forwarded ptr addr msg) = true := decide_eq_true rfl
      rw [about, List.filter_cons_of_pos hptr]
      exact congrArg _ (about_reqOut_self ptr _)
  | refused cause => exact about_reqOut_self ptr _

theorem Concludes.about_of_ne (h : Concludes lib ptr block) (hne : ptr.ref ≠ ref) :
    about ref block = [] := by
  cases h with
  | forwarded addr msg =>
      have hptr : ¬isAbout ref (.forwarded ptr addr msg) = true := by simpa [isAbout] using hne
      rw [about, List.filter_cons_of_neg hptr]
      exact about_reqOut_of_ne hne _
  | refused cause => exact about_reqOut_of_ne hne _

/-- Nothing happens to requests that are not concluded. -/
theorem Queued.about_eq_nil (h : Queued lib arrived refused served out)
    (hne : ∀ p ∈ refused ++ served, p.ref ≠ ref) : about ref out = [] := by
  induction h with
  | nil => rfl
  | received ptr _ ih => exact ih hne
  | refusedAtOnce ptr cause _ ih =>
      obtain ⟨hptr, hne⟩ := List.forall_mem_cons.1 hne
      rw [about_append, ih hne, List.append_nil]
      exact about_reqOut_of_ne hptr _
  | served ptr block hblock _ ih =>
      obtain ⟨hptr, hne⟩ := List.forall_mem_cons.1 fun p hp => hne p (List.perm_middle.mem_iff.2 hp)
      rw [about_append, ih hne, List.append_nil]
      exact hblock.about_of_ne hptr
  | aside o ho _ ih => cases ho <;> exact ih hne

/-- One is concluded, and then others. -/
theorem concludes_about_cons (hblock : Concludes lib ptr block)
    (hout : Queued lib arrived refused served out)
    (hrest : ∀ p ∈ refused ++ served, Concludes lib p (about p.ref out))
    (hnodup : ((ptr :: (refused ++ served)).map ReqPtr.ref).Nodup) :
    ∀ p ∈ ptr :: (refused ++ served), Concludes lib p (about p.ref (block ++ out)) := by
  rw [List.map_cons, List.nodup_cons] at hnodup
  have hne : ∀ p ∈ refused ++ served, p.ref ≠ ptr.ref := fun p hp heq =>
    hnodup.1 (heq ▸ List.mem_map_of_mem hp)
  intro p hp
  rw [about_append]
  rcases List.mem_cons.1 hp with rfl | hp
  · rw [hblock.about_self, hout.about_eq_nil hne, List.append_nil]
    exact hblock
  · rw [hblock.about_of_ne (hne p hp).symm]
    exact hrest p hp

/-- **Those that are refused or served are concluded, each of them once.** -/
theorem Queued.concludes (h : Queued lib arrived refused served out)
    (hnodup : ((refused ++ served).map ReqPtr.ref).Nodup) :
    ∀ p ∈ refused ++ served, Concludes lib p (about p.ref out) := by
  induction h with
  | nil => exact fun p hp => (by cases hp)
  | received ptr _ ih => exact ih hnodup
  | refusedAtOnce ptr cause hout ih =>
      have hblock : Concludes lib ptr (refuse lib ptr cause) := .refused cause
      have hconcludes := concludes_about_cons hblock hout (ih hnodup.of_cons) hnodup
      exact hconcludes
  | served ptr block hblock hout ih =>
      have hnodup := (List.perm_middle.map ReqPtr.ref).nodup_iff.1 hnodup
      exact fun p hp => concludes_about_cons hblock hout (ih hnodup.of_cons) hnodup p
        (List.perm_middle.mem_iff.1 hp)
  | aside o ho _ ih => cases ho <;> exact ih hnodup

/-- Who was received waits, or was refused or served. -/
theorem Ran.queued (h : Ran lib s out) : ∃ arrived refused served,
    Queued lib arrived refused served out ∧
      (receivedOf out).Perm (s.proxy.pendingGsupReqs ++ (refused ++ served)) := by
  obtain ⟨arrived, refused, served, hqueued, hflow⟩ := h.flows.queue
  refine ⟨arrived, refused, served, hqueued, ?_⟩
  calc (receivedOf out).Perm (arrived ++ refused) := hqueued.received_perm
    List.Perm _ (served ++ s.proxy.pendingGsupReqs ++ refused) := hflow.perm.append_right refused
    List.Perm _ (s.proxy.pendingGsupReqs ++ served ++ refused) :=
        List.perm_append_comm.append_right refused
    List.Perm _ (s.proxy.pendingGsupReqs ++ (served ++ refused)) := by rw [List.append_assoc]
    List.Perm _ (s.proxy.pendingGsupReqs ++ (refused ++ served)) :=
        List.perm_append_comm.append_left _

/-- Nothing has happened to who has not been received. -/
theorem Ran.about_eq_nil (h : Ran lib s out) (hnew : s.allocs ≤ ref) : about ref out = [] := by
  obtain ⟨arrived, refused, served, hqueued, hperm⟩ := h.queued
  refine hqueued.about_eq_nil fun p hp => ?_
  exact Nat.ne_of_lt (Nat.lt_of_lt_of_le
    (h.ref_lt p (hperm.mem_iff.2 (List.mem_append_right _ hp))) hnew)

/-- **A request that was received was concluded once, or waits in one place.** -/
theorem Ran.accounted (h : Ran lib s out) (hptr : ptr ∈ receivedOf out) :
    Accounted lib s out ptr := by
  obtain ⟨arrived, refused, served, hqueued, hperm⟩ := h.queued
  have hrefs : ((receivedOf out).map ReqPtr.ref).Nodup :=
    List.pairwise_map.2 (h.sorted.imp fun hlt => Nat.ne_of_lt hlt)
  rw [(hperm.map ReqPtr.ref).nodup_iff, List.map_append, List.nodup_append] at hrefs
  obtain ⟨hpending, hconcluded, hdisjoint⟩ := hrefs
  rcases List.mem_append.1 (hperm.mem_iff.1 hptr) with hwaits | hdone
  · refine Or.inr ⟨hqueued.about_eq_nil ?_, ?_⟩
    · intro p hp heq
      exact hdisjoint _ (List.mem_map_of_mem hwaits) _ (List.mem_map_of_mem hp) heq.symm
    · exact List.count_eq_one_of_mem (List.Nodup.of_map _ hpending) hwaits
  · refine Or.inl ⟨hqueued.concludes hconcluded ptr hdone, ?_⟩
    rw [List.count_eq_zero]
    intro hwaits
    exact hdisjoint _ (List.mem_map_of_mem hwaits) _ (List.mem_map_of_mem hdone) rfl

/-! ## What requests that wait can expect -/

/-- Entries are at the same addresses, the same lookups are open, and links that can be expected
still can. -/
structure Frame (lib : ProxyLib) (s s' : State) : Prop where
  addrs : ∀ imsi, addrOf s'.proxy imsi = addrOf s.proxy imsi
  lookups : s'.lookups = s.lookups
  links : ∀ addr, LinkExpected lib s.remoteHlrs addr → LinkExpected lib s'.remoteHlrs addr

theorem Frame.sameAddrs (h : SameAddrs s.proxy proxy) : Frame lib s { s with proxy := proxy } :=
  ⟨h.addrs, rfl, fun _ hlink => hlink⟩

theorem Frame.trans {s'' : State} (h : Frame lib s s') (h' : Frame lib s' s'') :
    Frame lib s s'' :=
  ⟨fun imsi => (h'.addrs imsi).trans (h.addrs imsi), h'.lookups.trans h.lookups,
    fun addr hlink => h'.links addr (h.links addr hlink)⟩

theorem Expects.frame (h : Expects lib s imsi) (hframe : Frame lib s s') : Expects lib s' imsi := by
  obtain ⟨addr, haddr, hexpects⟩ := h
  refine ⟨addr, (hframe.addrs imsi).trans haddr, ?_⟩
  rw [hframe.lookups]
  exact hexpects.imp_right fun hlink => ⟨hlink.1, hframe.links addr hlink.2⟩

/-- A link is written to and can be expected as before. -/
theorem linkExpected_setRemoteHlr (hlinks : LinksDistinct lib s) {old : RemoteHlr}
    (hold : old ∈ s.remoteHlrs) (href : rh.ref = old.ref) (haddr : rh.addr = old.addr)
    (hexpected : 0 < old.pendingUpCallbacks ∨ old.isConnected = true →
      0 < rh.pendingUpCallbacks ∨ rh.isConnected = true)
    (h : LinkExpected lib s.remoteHlrs addr) :
    LinkExpected lib (s.setRemoteHlr rh).remoteHlrs addr := by
  obtain ⟨x, hx, hcmp, hx'⟩ := h
  by_cases hxref : x.ref = old.ref
  · obtain rfl := List.inj_on_of_nodup_map hlinks.refs hx hold hxref
    exact ⟨rh, (mem_setRemoteHlr rh hold href).2 (Or.inl rfl), haddr ▸ hcmp, hexpected hx'⟩
  · exact ⟨x, (mem_setRemoteHlr rh hold href).2 (Or.inr ⟨hx, hxref⟩), hcmp, hx'⟩

/-- A link to an address has been asked to call back: who waits for that address can expect it. -/
structure Asked (lib : ProxyLib) (addr : SockaddrStr) (s s' : State) : Prop where
  frame : Frame lib s s'
  waits : ∀ p ∈ s'.proxy.pendingGsupReqs, p ∈ s.proxy.pendingGsupReqs ∧
    ∀ a, addrOf s.proxy (imsiOf p) = some a → lib.sockaddrStrCmp addr a = 0 →
      LinkExpected lib s'.remoteHlrs a

theorem asked_connectResultCb (s : State) (addr : SockaddrStr) (rh : Option RemoteHlr) :
    Asked lib addr s (connectResultCb lib s addr rh true).1 where
  frame := ⟨fun imsi => addrOf_connectResult rh imsi, rfl, fun _ h => h⟩
  waits := by
    intro p hp
    obtain ⟨hwaits, hother⟩ := (mem_pending_connectResult rh).1 hp
    exact ⟨hwaits, fun a ha hcmp => absurd hcmp (hother a ha)⟩

theorem asked_addResultCb (hlinks : LinksDistinct lib s) (hrh : rh ∈ s.remoteHlrs)
    (hcmp : lib.sockaddrStrCmp rh.addr addr = 0) :
    Asked lib addr s (addResultCb lib s addr rh true).1 := by
  unfold addResultCb
  rw [if_neg (by decide)]
  split
  · exact asked_connectResultCb s addr (some rh)
  · generalize hnew :
      ({ rh with pendingUpCallbacks := rh.pendingUpCallbacks + 1 } : RemoteHlr) = new
    have href : new.ref = rh.ref := hnew ▸ rfl
    have haddr : new.addr = rh.addr := hnew ▸ rfl
    have hcalls : 0 < new.pendingUpCallbacks := hnew ▸ Nat.succ_pos _
    refine ⟨⟨fun _ => rfl, rfl, fun a => linkExpected_setRemoteHlr hlinks hrh href haddr
      fun _ => Or.inl hcalls⟩, fun p hp => ⟨hp, ?_⟩⟩
    intro a _ ha
    refine ⟨new, (mem_setRemoteHlr new hrh href).2 (Or.inl rfl), ?_, Or.inl hcalls⟩
    rw [haddr]
    exact lib.cmp_equivalence.trans hcmp ha

/-- **Who waits for a link can expect it after it was asked for.** -/
theorem asked_getOrConnect (env : Env) (hlinks : LinksDistinct lib s) (addr : SockaddrStr) :
    Asked lib addr s (remoteHlrGetOrConnect lib env s addr true true).2.1 := by
  unfold remoteHlrGetOrConnect
  split
  next rh hfind =>
      obtain ⟨hrh, hcmp⟩ := remoteHlrFind_eq_some hfind
      exact asked_addResultCb hlinks hrh hcmp
  next hfind =>
      rw [if_neg (by decide)]
      split
      · exact asked_connectResultCb s addr none
      · have hasked := asked_addResultCb (hlinks.connect hfind) List.mem_cons_self
          (lib.cmp_equivalence.refl addr)
        have hconnected : Frame lib s { s with
            remoteHlrs := ⟨s.allocs, addr, false, 0⟩ :: s.remoteHlrs
            allocs := s.allocs + 1 } :=
          ⟨fun _ => rfl, rfl, fun a ⟨rh, hrh, hrest⟩ => ⟨rh, List.mem_cons_of_mem _ hrh, hrest⟩⟩
        exact ⟨hconnected.trans hasked.frame, hasked.waits⟩

/-! ## Requests -/

/-- A request has been forwarded, refused or queued, and nothing else has happened to who waits. -/
structure Passed (lib : ProxyLib) (ptr : ReqPtr) (addr : SockaddrStr) (s s' : State) : Prop where
  frame : Frame lib s s'
  waits : ∀ p ∈ s'.proxy.pendingGsupReqs, p ∈ s.proxy.pendingGsupReqs ∨
    p = ptr ∧ ptr.req.sourceName.type = .ipaName ∧
      (lib.sockaddrStrIsNonzero addr = true → LinkExpected lib s'.remoteHlrs addr)
  queued : ptr.req.sourceName.type = .ipaName → lib.sockaddrStrIsNonzero addr = false →
    ptr ∈ s'.proxy.pendingGsupReqs

theorem passed_forwardAllowed (env : Env) (hlinks : LinksDistinct lib s)
    (haddr : addrOf s.proxy (imsiOf ptr) = some subscr.remoteHlrAddr)
    (hipa : ptr.req.sourceName.type = .ipaName) :
    Passed lib ptr subscr.remoteHlrAddr s (forwardAllowed lib env s subscr ptr).1 := by
  have hdeferred : ∀ p ∈ (s.deferReq ptr).proxy.pendingGsupReqs,
      p ∈ s.proxy.pendingGsupReqs ∨ p = ptr := fun p hp =>
    (List.mem_append.1 hp).imp_right List.mem_singleton.1
  unfold forwardAllowed
  split
  next hzero =>
      refine ⟨⟨fun _ => rfl, rfl, fun _ h => h⟩, ?_, ?_⟩
      · intro p hp
        refine (hdeferred p hp).imp_right fun hptr => ⟨hptr, hipa, ?_⟩
        intro hnonzero
        simp [hnonzero] at hzero
      · intro _ _
        exact List.mem_append_right _ (List.mem_singleton_self ptr)
  next hnonzero =>
      have hqueued : ptr.req.sourceName.type = .ipaName →
          lib.sockaddrStrIsNonzero subscr.remoteHlrAddr = false → False := fun _ hzero => by
        simp [hzero] at hnonzero
      simp only
      split
      · exact ⟨⟨fun _ => rfl, rfl, fun _ h => h⟩, fun p hp => Or.inl hp,
          fun hipa hzero => (hqueued hipa hzero).elim⟩
      · have hlinks' : LinksDistinct lib (s.deferReq ptr) :=
          hlinks.of_eq rfl (Nat.le_refl _)
        have hasked := asked_getOrConnect env hlinks' subscr.remoteHlrAddr
        have hframe : Frame lib s (s.deferReq ptr) := ⟨fun _ => rfl, rfl, fun _ h => h⟩
        refine ⟨hframe.trans hasked.frame, ?_, fun hipa hzero => (hqueued hipa hzero).elim⟩
        intro p hp
        obtain ⟨hdefer, hwaits⟩ := hasked.waits p hp
        rcases hdeferred p hdefer with hp | rfl
        · exact Or.inl hp
        · exact Or.inr ⟨rfl, hipa, fun _ => hwaits _ haddr (lib.cmp_equivalence.refl _)⟩

/-- The proxy allows all requests whose source is an IPA name. -/
theorem acknowledgeTo_eq_zero_iff (lib : ProxyLib) (now : Int) (proxy : Proxy)
    (subscr : ProxySubscr) (req : GsupReq) :
    (proxyAcknowledgeGsupToRemoteHlr lib now proxy subscr req).1 = 0 ↔
      req.sourceName.type = .ipaName := by
  unfold proxyAcknowledgeGsupToRemoteHlr
  split
  next hipa => exact ⟨fun h => absurd h (show enotsup ≠ 0 by decide), fun h => absurd h hipa⟩
  next hipa =>
      refine ⟨fun _ => Decidable.not_not.1 hipa, fun _ => ?_⟩
      split
      · simp only
        split <;> rfl
      · rfl

theorem passed_forward (env : Env) (hlinks : LinksDistinct lib s)
    (hget : proxySubscrGetByImsi s.proxy (imsiOf ptr) = some subscr) :
    Passed lib ptr subscr.remoteHlrAddr s
      (proxySubscrForwardToRemoteHlr lib env s subscr ptr).2.1 := by
  have hsame := sameAddrs_acknowledgeTo lib env.now hget ptr.req
  have hzero := acknowledgeTo_eq_zero_iff lib env.now s.proxy subscr ptr.req
  unfold proxySubscrForwardToRemoteHlr
  generalize proxyAcknowledgeGsupToRemoteHlr lib env.now s.proxy subscr ptr.req = ack at hsame hzero
  have hframe : Frame lib s { s with proxy := ack.2 } := .sameAddrs hsame
  have hpending : ∀ p ∈ ack.2.pendingGsupReqs, p ∈ s.proxy.pendingGsupReqs := fun p hp =>
    hsame.pending ▸ hp
  simp only
  split
  next hne =>
      exact ⟨hframe, fun p hp => Or.inl (hpending p hp),
        fun hipa _ => absurd (hzero.2 hipa) hne⟩
  next heq =>
      have hipa := hzero.1 (Decidable.not_not.1 heq)
      have hlinks' : LinksDistinct lib { s with proxy := ack.2 } :=
        hlinks.of_eq rfl (Nat.le_refl _)
      have hpassed := passed_forwardAllowed env hlinks'
        ((hsame.addrs _).trans (addrOf_eq_some hget)) hipa
      exact ⟨hframe.trans hpassed.frame,
        fun p hp => (hpassed.waits p hp).imp_left (hpending p), hpassed.queued⟩

/-- **A request is stranded if nobody looks for the address that its entry does not have.** -/
theorem notStranded_forward_iff (env : Env) (hlinks : LinksDistinct lib s) (h : NotStranded lib s)
    (hget : proxySubscrGetByImsi s.proxy (imsiOf ptr) = some subscr) :
    NotStranded lib (proxySubscrForwardToRemoteHlr lib env s subscr ptr).2.1 ↔
      (ptr.req.sourceName.type = .ipaName →
        lib.sockaddrStrIsNonzero subscr.remoteHlrAddr = false →
        LookupOpen s.lookups (imsiOf ptr)) := by
  have hpassed := passed_forward env hlinks hget
  generalize (proxySubscrForwardToRemoteHlr lib env s subscr ptr).2.1 = s' at hpassed
  have haddr : addrOf s'.proxy (imsiOf ptr) = some subscr.remoteHlrAddr :=
    (hpassed.frame.addrs _).trans (addrOf_eq_some hget)
  constructor
  · intro hnot hipa hzero
    obtain ⟨addr, ha, hexpects⟩ := hnot ptr (hpassed.queued hipa hzero)
    rw [hpassed.frame.lookups, ← Option.some.inj (haddr.symm.trans ha), hzero] at hexpects
    exact hexpects.resolve_right fun hlink => absurd hlink.1 (by decide)
  · intro hopen p hp
    rcases hpassed.waits p hp with hp | ⟨rfl, hipa, hlink⟩
    · exact (h p hp).frame hpassed.frame
    · refine ⟨_, haddr, ?_⟩
      cases hnonzero : lib.sockaddrStrIsNonzero subscr.remoteHlrAddr with
      | false => exact Or.inl (hpassed.frame.lookups ▸ hopen hipa hnonzero)
      | true => exact Or.inr ⟨rfl, hlink hnonzero⟩

/-- Who waits for another IMSI than one that is deleted expects what it expected. -/
theorem notStranded_del
    (h : ∀ p ∈ s.proxy.pendingGsupReqs, imsiOf p ≠ imsi → Expects lib s (imsiOf p)) :
    NotStranded lib (s.onProxy (proxySubscrDel lib s.proxy imsi)).1 := by
  intro p hp
  obtain ⟨hp, hne⟩ := List.mem_filter.1 hp
  have hne : imsiOf p ≠ imsi := of_decide_eq_true hne
  obtain ⟨addr, haddr, hexpects⟩ := h p hp hne
  refine ⟨addr, ?_, hexpects⟩
  exact (addrOf_del lib s.proxy imsi (imsiOf p)).trans ((if_neg hne).trans haddr)

theorem Expects.createOrUpdate (h : Expects lib s imsi) (now : Int) (hne : subscr.imsi ≠ imsi) :
    Expects lib (s.createOrUpdate now subscr) imsi := by
  obtain ⟨addr, haddr, hexpects⟩ := h
  refine ⟨addr, ?_, hexpects⟩
  rw [State.createOrUpdate, addrOf_createOrUpdate, if_neg hne]
  exact haddr

/-- **Who waits for the IMSI of an entry that gets a new address can expect a link.** -/
theorem notStranded_resolved (env : Env) (hlinks : LinksDistinct lib s)
    (h : ∀ p ∈ s.proxy.pendingGsupReqs, imsiOf p ≠ subscr.imsi → Expects lib s (imsiOf p))
    (hnonzero : lib.sockaddrStrIsNonzero addr = true)
    (hnew : ¬(lib.sockaddrStrIsNonzero subscr.remoteHlrAddr = true ∧
      lib.sockaddrStrCmp addr subscr.remoteHlrAddr = 0)) :
    NotStranded lib (proxySubscrRemoteHlrResolved lib env s subscr addr).1 := by
  unfold proxySubscrRemoteHlrResolved
  rw [if_neg hnew]
  simp only
  generalize hnew : ({ subscr with remoteHlrAddr := addr } : ProxySubscr) = new
  have haddr : new.remoteHlrAddr = addr := hnew ▸ rfl
  have himsi : new.imsi = subscr.imsi := hnew ▸ rfl
  rw [← himsi] at h
  have hothers : ∀ p ∈ (s.createOrUpdate env.now new).proxy.pendingGsupReqs, imsiOf p ≠ new.imsi →
      Expects lib (s.createOrUpdate env.now new) (imsiOf p) := by
    intro p hp hne
    rw [State.createOrUpdate, pending_createOrUpdate] at hp
    exact (h p hp hne).createOrUpdate env.now (Ne.symm hne)
  have hlinks' : LinksDistinct lib (s.createOrUpdate env.now new) :=
    hlinks.of_eq rfl (Nat.le_refl _)
  split
  next =>
      have hasked := asked_getOrConnect env hlinks' addr
      intro p hp
      obtain ⟨hp, hwaits⟩ := hasked.waits p hp
      by_cases hne : imsiOf p = new.imsi
      · have ha : addrOf (s.createOrUpdate env.now new).proxy (imsiOf p) = some addr := by
          rw [State.createOrUpdate, addrOf_createOrUpdate, if_pos hne.symm, haddr]
        exact ⟨addr, (hasked.frame.addrs _).trans ha,
          Or.inr ⟨hnonzero, hwaits addr ha (lib.cmp_equivalence.refl addr)⟩⟩
      · exact (hothers p hp hne).frame hasked.frame
  next hwaiting =>
      exact fun p hp => hothers p hp fun hne => hwaiting (waiting_iff.2 ⟨p, hp, hne.trans himsi⟩)

/-- **A request for which a lookup begins is not stranded.** -/
theorem notStranded_lookUpHlr (env : Env) (hlinks : LinksDistinct lib s) (h : NotStranded lib s)
    (hget : proxySubscrGetByImsi s.proxy (imsiOf ptr) = some subscr)
    (hnobody : ∀ p ∈ s.proxy.pendingGsupReqs, imsiOf p ≠ imsiOf ptr) :
    NotStranded lib (lookUpHlr lib env s subscr ptr).2.1 := by
  have hpassed := passed_forward env hlinks hget
  have hforward := notStranded_forward_iff env hlinks h hget
  have hrc : (proxySubscrForwardToRemoteHlr lib env s subscr ptr).1 ≠ 0 →
      ptr.req.sourceName.type ≠ .ipaName := by
    intro hne hipa
    have hzero := (acknowledgeTo_eq_zero_iff lib env.now s.proxy subscr ptr.req).2 hipa
    unfold proxySubscrForwardToRemoteHlr at hne
    rw [if_neg (Decidable.not_not.2 hzero)] at hne
    exact hne rfl
  unfold lookUpHlr
  generalize proxySubscrForwardToRemoteHlr lib env s subscr ptr = spooled at hpassed hforward hrc
  simp only
  split
  next hne => exact hforward.2 fun hipa => absurd hipa (hrc hne)
  next =>
      have hothers : ∀ p ∈ spooled.2.1.proxy.pendingGsupReqs, imsiOf p ≠ imsiOf ptr →
          Expects lib spooled.2.1 (imsiOf p) := by
        intro p hp hne
        rcases hpassed.waits p hp with hp | ⟨rfl, -⟩
        · exact (h p hp).frame hpassed.frame
        · exact absurd rfl hne
      split
      · exact notStranded_del hothers
      · intro p hp
        have hopen : LookupOpen (spooled.2.1.lookups ++ [hlrQuery (imsiOf ptr)]) (imsiOf ptr) :=
          ⟨_, List.mem_append_right _ (List.mem_singleton_self _), rfl⟩
        by_cases hne : imsiOf p = imsiOf ptr
        · refine ⟨subscr.remoteHlrAddr, ?_, Or.inl (hne ▸ hopen)⟩
          rw [hne]
          exact (hpassed.frame.addrs _).trans (addrOf_eq_some hget)
        · obtain ⟨addr, haddr, hexpects⟩ := hothers p hp hne
          exact ⟨addr, haddr, hexpects.imp_left fun ⟨query, hquery, hid⟩ =>
            ⟨query, List.mem_append_left _ hquery, hid⟩⟩

/-- **A request that goes to the gateway is not stranded.** -/
theorem notStranded_forwardToGateway (env : Env) (hlinks : LinksDistinct lib s)
    (harmed : Armed lib s) (h : NotStranded lib s)
    (hget : proxySubscrGetByImsi s.proxy (imsiOf ptr) = some subscr)
    (hzero : lib.sockaddrStrIsNonzero subscr.remoteHlrAddr = false)
    (hgateway : lib.sockaddrStrIsNonzero env.gsupGatewayProxy = true) :
    NotStranded lib (forwardToGateway lib env s subscr ptr).1 := by
  have hlinks' := (keeps_resolved env hlinks harmed subscr env.gsupGatewayProxy).links
  have hresolved := notStranded_resolved env hlinks (fun p hp _ => h p hp) hgateway
    (fun hsame => absurd (hzero.symm.trans hsame.1) (by decide))
  obtain ⟨new, hnew, hnonzero⟩ :=
    proxySubscrGetByImsi_resolved lib env hget env.gsupGatewayProxy
  unfold forwardToGateway Res.andThen
  simp only [hnew]
  exact (notStranded_forward_iff env hlinks' hresolved hnew).2 fun _ hzero =>
    absurd (hzero.symm.trans (hnonzero hgateway)) (by decide)

/-- D-GSM is about a request, and it can only wait for an address that nobody looks for. -/
def Hopeless (lib : ProxyLib) (s : State) (env : Env) (req : GsupReq) : Prop :=
  (env.mslookupClientActive = true ∨ lib.sockaddrStrIsNonzero env.gsupGatewayProxy = true) ∧
    env.dbSubscrExistsByImsi req.gsup.imsi ≠ 0 ∧ req.sourceName.type = .ipaName ∧
    ∃ addr, addrOf s.proxy req.gsup.imsi = some addr ∧ lib.sockaddrStrIsNonzero addr = false ∧
      ¬LookupOpen s.lookups req.gsup.imsi

theorem notStranded_dgsmCheckForwardGsupMsg_iff (ptr : ReqPtr) (hlinks : LinksDistinct lib s)
    (harmed : Armed lib s) (h : NotStranded lib s) (henv : env.mslookupClientActive = true ∨
      lib.sockaddrStrIsNonzero env.gsupGatewayProxy = true) :
    NotStranded lib (dgsmCheckForwardGsupMsg lib env s ptr).2.1 ↔ ¬Hopeless lib s env ptr.req := by
  unfold dgsmCheckForwardGsupMsg
  split
  next hdb => exact ⟨fun _ hhopeless => hhopeless.2.1 hdb, fun _ => h⟩
  next hdb =>
      cases hget : proxySubscrGetByImsi s.proxy (imsiOf ptr) with
      | some subscr =>
          refine (notStranded_forward_iff env hlinks h hget).trans ⟨?_, ?_⟩
          · rintro hopen ⟨-, -, hipa, addr, haddr, hzero, hclosed⟩
            obtain rfl := Option.some.inj ((addrOf_eq_some hget).symm.trans haddr)
            exact hclosed (hopen hipa hzero)
          · intro hnot hipa hzero
            by_contra hclosed
            exact hnot ⟨henv, hdb, hipa, _, addrOf_eq_some hget, hzero, hclosed⟩
      | none =>
          have hnone : addrOf s.proxy (imsiOf ptr) = none := by rw [addrOf, hget]; rfl
          have hnot : ¬Hopeless lib s env ptr.req := by
            rintro ⟨-, -, -, addr, haddr, -⟩
            exact absurd (hnone.symm.trans haddr) (by simp)
          refine iff_of_true ?_ hnot
          simp only
          have hcreated := created_ofImsi hlinks harmed env.now (imsiOf ptr)
          generalize ProxySubscr.ofImsi (imsiOf ptr) = new at hcreated
          have hnobody : ∀ p ∈ (s.createOrUpdate env.now new).proxy.pendingGsupReqs,
              imsiOf p ≠ imsiOf ptr := by
            intro p hp hne
            rw [State.createOrUpdate, pending_createOrUpdate] at hp
            obtain ⟨addr, haddr, -⟩ := h p hp
            rw [hne, hnone] at haddr
            cases haddr
          have h' : NotStranded lib (s.createOrUpdate env.now new) := by
            intro p hp
            have hne := hnobody p hp
            rw [State.createOrUpdate, pending_createOrUpdate] at hp
            exact (h p hp).createOrUpdate env.now fun hp => hne (hp.symm.trans hcreated.imsi_eq)
          split
          next hgateway =>
              exact notStranded_forwardToGateway env hcreated.links hcreated.armed h' hcreated.get
                hcreated.zero hgateway
          next =>
              split
              · exact h'
              · exact notStranded_lookUpHlr env hcreated.links h' hcreated.get hnobody

theorem notStranded_readCb_iff (env : Env) (ptr : ReqPtr) (hlinks : LinksDistinct lib s)
    (harmed : Armed lib s) (h : NotStranded lib s) :
    NotStranded lib (readCb lib env s ptr).1 ↔ ¬Hopeless lib s env ptr.req := by
  unfold readCb
  split
  next henv =>
      have hchecked := notStranded_dgsmCheckForwardGsupMsg_iff ptr hlinks harmed h henv
      simp only
      split
      · exact hchecked
      · exact hchecked
  next henv => exact ⟨fun _ hhopeless => henv hhopeless.1, fun _ => h⟩

/-- A lookup cannot be requested, and the proxy has the request already. -/
def Undispatched (lib : ProxyLib) (s : State) (env : Env) (req : GsupReq) : Prop :=
  env.mslookupClientActive = true ∧ lib.sockaddrStrIsNonzero env.gsupGatewayProxy = false ∧
    env.dbSubscrExistsByImsi req.gsup.imsi ≠ 0 ∧ addrOf s.proxy req.gsup.imsi = none ∧
    req.sourceName.type = .ipaName ∧ env.mslookupClientRequest (hlrQuery req.gsup.imsi) = 0

/-- D-GSM leaves no request to the local HLR that the proxy has received. -/
def HandsOver (lib : ProxyLib) (s : State) : Input → Prop
  | .rx req env =>
      let checked :=
        dgsmCheckForwardGsupMsg lib env { s with allocs := s.allocs + 1 } ⟨s.allocs, req⟩
      checked.1 = false → receivedOf checked.2.2 = []
  | _ => True

theorem forward_eq_zero_iff (lib : ProxyLib) (env : Env) (s : State) (subscr : ProxySubscr)
    (ptr : ReqPtr) :
    (proxySubscrForwardToRemoteHlr lib env s subscr ptr).1 = 0 ↔
      ptr.req.sourceName.type = .ipaName := by
  rw [← acknowledgeTo_eq_zero_iff lib env.now s.proxy subscr ptr.req]
  unfold proxySubscrForwardToRemoteHlr
  simp only
  split
  next hne => exact Iff.rfl
  next heq => exact ⟨fun _ => Decidable.not_not.1 heq, fun _ => rfl⟩

theorem lookUpHlr_eq_false_iff (lib : ProxyLib) (env : Env) (s : State) (subscr : ProxySubscr)
    (ptr : ReqPtr) :
    (lookUpHlr lib env s subscr ptr).1 = false ↔
      ptr.req.sourceName.type = .ipaName ∧
        env.mslookupClientRequest (hlrQuery (imsiOf ptr)) = 0 := by
  rw [← forward_eq_zero_iff lib env s subscr ptr]
  unfold lookUpHlr
  simp only
  split
  next hne => exact ⟨fun h => (by cases h), fun h => absurd h.1 hne⟩
  next heq =>
      split
      next hrequest => exact ⟨fun _ => ⟨Decidable.not_not.1 heq, hrequest⟩, fun _ => rfl⟩
      next hrequest => exact ⟨fun h => (by cases h), fun h => absurd h.2 hrequest⟩

/-- **A request that the proxy has received is left to the local HLR exactly if its lookup cannot be
requested.** -/
theorem handsOver_iff (env : Env) (ptr : ReqPtr) (hlinks : LinksDistinct lib s)
    (harmed : Armed lib s) :
    ((dgsmCheckForwardGsupMsg lib env s ptr).1 = false →
      receivedOf (dgsmCheckForwardGsupMsg lib env s ptr).2.2 = []) ↔
      ¬Undispatched lib s env ptr.req := by
  unfold dgsmCheckForwardGsupMsg
  split
  next hdb => exact ⟨fun _ h => h.2.2.1 hdb, fun _ _ => rfl⟩
  next hdb =>
      cases hget : proxySubscrGetByImsi s.proxy (imsiOf ptr) with
      | some subscr =>
          refine iff_of_true (fun h => (by cases h)) fun h => ?_
          exact absurd ((addrOf_eq_some hget).symm.trans h.2.2.2.1) (by simp)
      | none =>
          simp only
          split
          next hgateway =>
              refine iff_of_true (fun h => (by cases h)) fun h => ?_
              exact absurd (hgateway.symm.trans h.2.1) (by decide)
          next hgateway =>
              split
              next hactive =>
                  refine iff_of_true (fun _ => rfl) fun h => ?_
                  rw [h.1] at hactive
                  cases hactive
              next hactive =>
                  have hcreated := created_ofImsi hlinks harmed env.now (imsiOf ptr)
                  generalize ProxySubscr.ofImsi (imsiOf ptr) = new at hcreated
                  have hreceived := (keeps_lookUpHlr env hcreated.links hcreated.armed
                    hcreated.get).flows.received
                  rw [hreceived, lookUpHlr_eq_false_iff]
                  have hnone : addrOf s.proxy (imsiOf ptr) = none := by rw [addrOf, hget]; rfl
                  constructor
                  · rintro hhands ⟨-, -, -, -, hlocal⟩
                    exact absurd (hhands hlocal) (by simp)
                  · intro hnot hlocal
                    exact (hnot ⟨by simpa using hactive, by simpa using hgateway, hdb, hnone,
                      hlocal⟩).elim

/-! ## Lookups -/

/-- The address that a lookup gives. -/
def resultAddr (lib : ProxyLib) (result : Mslookup.Result) : Option SockaddrStr :=
  if result.rc ≠ .result then none
  else if lib.sockaddrStrIsNonzero result.hostV4 then some result.hostV4
  else if lib.sockaddrStrIsNonzero result.hostV6 then some result.hostV6
  else none

theorem nonzero_of_resultAddr {result : Mslookup.Result} (h : resultAddr lib result = some addr) :
    lib.sockaddrStrIsNonzero addr = true := by
  unfold resultAddr at h
  split at h
  · cases h
  · split at h
    next hv4 => exact Option.some.inj h ▸ hv4
    next =>
        split at h
        next hv6 => exact Option.some.inj h ▸ hv6
        next => cases h

theorem resolveHlrResultCb_eq (env : Env) {query : Mslookup.Query} (hquery : query.id = .imsi imsi)
    (s : State) (result : Mslookup.Result) :
    resolveHlrResultCb lib env s query result =
      match resultAddr lib result with
      | none => s.onProxy (proxySubscrDel lib s.proxy imsi)
      | some addr =>
          match proxySubscrGetByImsi s.proxy imsi with
          | none => (s, [])
          | some proxySubscr => proxySubscrRemoteHlrResolved lib env s proxySubscr addr := by
  unfold resolveHlrResultCb resultAddr
  rw [hquery]
  simp only
  split <;> rfl

/-- A lookup that has its result only tells the address that is known already. -/
def Repeats (lib : ProxyLib) (s : State) (imsi : CStr) (result : Mslookup.Result) : Prop :=
  ∃ a addr, resultAddr lib result = some a ∧ addrOf s.proxy imsi = some addr ∧
    lib.sockaddrStrIsNonzero addr = true ∧ lib.sockaddrStrCmp a addr = 0

/-- Somebody waits for a result that tells nothing new, and neither is another lookup open nor can a
link be expected. -/
def Disappoints (lib : ProxyLib) (s : State) (query : Mslookup.Query) (result : Mslookup.Result) :
    Prop :=
  query ∈ s.lookups ∧ ∃ imsi, query.id = .imsi imsi ∧ Repeats lib s imsi result ∧
    proxyDeferredGsupReqWaiting s.proxy imsi = true ∧
    ¬Expects lib { s with lookups := s.lookups.erase query } imsi

theorem Expects.erase (h : Expects lib s imsi) {query : Mslookup.Query}
    (hquery : query.id ≠ .imsi imsi) :
    Expects lib { s with lookups := s.lookups.erase query } imsi := by
  obtain ⟨addr, haddr, hexpects⟩ := h
  refine ⟨addr, haddr, hexpects.imp_left fun ⟨other, hother, hid⟩ => ⟨other, ?_, hid⟩⟩
  exact (List.mem_erase_of_ne fun heq : other = query => hquery (heq ▸ hid)).2 hother

theorem not_disappoints {query : Mslookup.Query} {result : Mslookup.Result}
    (hquery : query.id = .imsi imsi) (h : ¬Repeats lib s imsi result) :
    ¬Disappoints lib s query result := by
  rintro ⟨-, imsi', hid, hrepeats, -⟩
  obtain rfl : imsi = imsi' := Mslookup.Id.imsi.inj (hquery.symm.trans hid)
  exact h hrepeats

theorem notStranded_resolveHlrResultCb_iff (env : Env) {query : Mslookup.Query}
    (hquery : query.id = .imsi imsi) (hlinks : LinksDistinct lib s) (h : NotStranded lib s)
    (hmem : query ∈ s.lookups) (result : Mslookup.Result) :
    NotStranded lib (resolveHlrResultCb lib env { s with lookups := s.lookups.erase query } query
      result).1 ↔ ¬Disappoints lib s query result := by
  have hothers : ∀ p ∈ s.proxy.pendingGsupReqs, imsiOf p ≠ imsi →
      Expects lib { s with lookups := s.lookups.erase query } (imsiOf p) := by
    intro p hp hne
    refine (h p hp).erase fun hid => hne ?_
    exact (Mslookup.Id.imsi.inj (hquery.symm.trans hid)).symm
  rw [resolveHlrResultCb_eq env hquery]
  cases haddr : resultAddr lib result with
  | none =>
      refine iff_of_true (notStranded_del hothers) (not_disappoints hquery ?_)
      rintro ⟨a, addr, ha, -⟩
      rw [haddr] at ha
      cases ha
  | some a =>
      simp only
      cases hget : proxySubscrGetByImsi s.proxy imsi with
      | none =>
          have hnone : addrOf s.proxy imsi = none := by rw [addrOf, hget]; rfl
          refine iff_of_true ?_ (not_disappoints hquery ?_)
          · intro p hp
            refine hothers p hp fun hp' => ?_
            obtain ⟨addr, haddr, -⟩ := h p hp
            rw [hp', hnone] at haddr
            cases haddr
          · rintro ⟨-, addr, -, haddr, -⟩
            rw [hnone] at haddr
            cases haddr
      | some subscr =>
          have hsubscr := addrOf_eq_some hget
          have himsi := imsi_of_proxySubscrGetByImsi hget
          by_cases hsame : lib.sockaddrStrIsNonzero subscr.remoteHlrAddr = true ∧
              lib.sockaddrStrCmp a subscr.remoteHlrAddr = 0
          · simp only [proxySubscrRemoteHlrResolved, if_pos hsame]
            constructor
            · rintro hnot ⟨-, imsi', hid, -, hwaiting, hstranded⟩
              obtain rfl : imsi = imsi' := Mslookup.Id.imsi.inj (hquery.symm.trans hid)
              obtain ⟨p, hp, rfl⟩ := waiting_iff.1 hwaiting
              exact hstranded (hnot p hp)
            · intro hnot p hp
              by_cases hne : imsiOf p = imsi
              · by_contra hstranded
                rw [hne] at hstranded
                exact hnot ⟨hmem, imsi, hquery, ⟨a, _, haddr, hsubscr, hsame⟩,
                  waiting_iff.2 ⟨p, hp, hne⟩, hstranded⟩
              · exact hothers p hp hne
          · rw [← himsi] at hothers
            refine iff_of_true (notStranded_resolved env (hlinks.of_eq rfl (Nat.le_refl _))
              hothers (nonzero_of_resultAddr haddr) hsame) (not_disappoints hquery ?_)
            rintro ⟨b, addr, hb, haddr', hrepeats⟩
            obtain rfl := Option.some.inj (haddr.symm.trans hb)
            obtain rfl := Option.some.inj (hsubscr.symm.trans haddr')
            exact hsame hrepeats

/-- **Who waits for a lookup is not stranded unless it disappoints.** -/
theorem notStranded_result_iff (hlinks : LinksDistinct lib s) (h : NotStranded lib s)
    (query : Mslookup.Query) (result : Mslookup.Result) (env : Env) :
    NotStranded lib (step lib s (.result query result env)).1 ↔
      ¬Disappoints lib s query result := by
  rw [step]
  split
  next hmem =>
      by_cases hid : ∃ imsi, query.id = .imsi imsi
      · obtain ⟨imsi, hid⟩ := hid
        exact notStranded_resolveHlrResultCb_iff env hid hlinks h hmem result
      · have hnothing : resolveHlrResultCb lib env { s with lookups := s.lookups.erase query } query
            result = ({ s with lookups := s.lookups.erase query }, []) := by
          unfold resolveHlrResultCb
          split
          next imsi himsi => exact absurd ⟨imsi, himsi⟩ hid
          next => rfl
        rw [hnothing]
        refine iff_of_true (fun p hp => (h p hp).erase fun himsi => hid ⟨_, himsi⟩) ?_
        rintro ⟨-, imsi, himsi, -⟩
        exact hid ⟨imsi, himsi⟩
  next hmem => exact ⟨fun _ hdisappoints => hmem hdisappoints.1, fun _ => h⟩

/-! ## Links -/

/-- A link is the only one to which somebody waits, and no lookup is open for his IMSI. -/
def Abandons (lib : ProxyLib) (s : State) (ref : Nat) : Prop :=
  ∃ rh ∈ s.remoteHlrs, rh.ref = ref ∧ ∃ p ∈ s.proxy.pendingGsupReqs, ∃ addr,
    addrOf s.proxy (imsiOf p) = some addr ∧ lib.sockaddrStrCmp rh.addr addr = 0 ∧
      ¬LookupOpen s.lookups (imsiOf p)

/-- **A link that goes down leaves everybody in vain who waits for it.** -/
theorem notStranded_down_iff (hlinks : LinksDistinct lib s) (h : NotStranded lib s)
    (hrh : rh ∈ s.remoteHlrs) :
    NotStranded lib (gsupClientUpdownCb lib s rh false).1 ↔ ¬Abandons lib s rh.ref := by
  rw [gsupClientUpdownCb_down]
  constructor
  · rintro hnot ⟨x, hx, href, p, hp, addr, haddr, hcmp, hclosed⟩
    obtain rfl := List.inj_on_of_nodup_map hlinks.refs hx hrh href
    obtain ⟨a, ha, hexpects⟩ := hnot p hp
    obtain rfl := Option.some.inj (haddr.symm.trans ha)
    obtain ⟨-, y, hy, hcmp', -⟩ := hexpects.resolve_left hclosed
    obtain ⟨hy, hne⟩ := Keyed.mem_remove.1 hy
    have hxy := hlinks.eq_of_cmp hy hx
      (lib.cmp_equivalence.trans hcmp' (lib.cmp_equivalence.symm hcmp))
    exact hne (congrArg _ hxy)
  · intro hnot p hp
    obtain ⟨addr, haddr, hexpects⟩ := h p hp
    refine ⟨addr, haddr, ?_⟩
    rcases hexpects with hopen | ⟨hnonzero, x, hx, hcmp, hx'⟩
    · exact Or.inl hopen
    · by_cases href : x.ref = rh.ref
      · refine Or.inl ?_
        by_contra hclosed
        exact hnot ⟨x, hx, href, p, hp, addr, haddr, hcmp, hclosed⟩
      · exact Or.inr ⟨hnonzero, x, Keyed.mem_remove.2 ⟨hx, href⟩, hcmp, hx'⟩

/-- A link that comes up can be expected by everybody who waits for it. -/
theorem notStranded_up (hlinks : LinksDistinct lib s) (h : NotStranded lib s)
    (hrh : rh ∈ s.remoteHlrs) : NotStranded lib (gsupClientUpdownCb lib s rh true).1 := by
  rw [gsupClientUpdownCb_up]
  generalize hnew : ({ rh with isConnected := true, pendingUpCallbacks := 0 } : RemoteHlr) = new
  have href : new.ref = rh.ref := hnew ▸ rfl
  have haddr : new.addr = rh.addr := hnew ▸ rfl
  have hup : new.isConnected = true := hnew ▸ rfl
  intro p hp
  obtain ⟨addr, ha, hexpects⟩ := h p (of_mem_pending_upCallbacks hp).1
  refine ⟨addr, (addrOf_congr (subscrList_upCallbacks _ _ _) (imsiOf p)).trans ha, ?_⟩
  exact hexpects.imp_right fun ⟨hnonzero, hlink⟩ => ⟨hnonzero,
    linkExpected_setRemoteHlr hlinks hrh href haddr (fun _ => Or.inr hup) hlink⟩

/-- Who waits for a link that is lost has left a callback there. -/
theorem notStranded_lost (hlinks : LinksDistinct lib s) (harmed : Armed lib s)
    (h : NotStranded lib s) (hrh : rh ∈ s.remoteHlrs) :
    NotStranded lib (gsupClientLost s rh) := by
  intro p hp
  obtain ⟨addr, haddr, hexpects⟩ := h p hp
  refine ⟨addr, haddr, hexpects.imp_right fun ⟨hnonzero, x, hx, hcmp, _⟩ => ⟨hnonzero, ?_⟩⟩
  have hcalls := (harmed p hp addr haddr hnonzero x hx hcmp).2
  by_cases href : x.ref = rh.ref
  · obtain rfl := List.inj_on_of_nodup_map hlinks.refs hx hrh href
    exact ⟨_, (mem_setRemoteHlr { x with isConnected := false } hx rfl).2 (Or.inl rfl), hcmp,
      Or.inl hcalls⟩
  · exact ⟨x, (mem_setRemoteHlr { rh with isConnected := false } hrh rfl).2 (Or.inr ⟨hx, href⟩),
      hcmp, Or.inl hcalls⟩

/-! ## Garbage collection -/

/-- An entry expires for whose IMSI a request waits. -/
def Expires (s : State) (now : Int) : Prop :=
  ∃ p ∈ s.proxy.pendingGsupReqs, ∃ e, proxyGetByImsi s.proxy (imsiOf p) = some e ∧
    isFresh now s.proxy.freshTime e = false

/-- **Garbage collection leaves everybody in vain who waits for an IMSI whose entry expires.** -/
theorem notStranded_cleanup_iff (h : NotStranded lib s) (now : Int) (gcPeriod : UInt32)
    (gcTimer : Bool) :
    NotStranded lib { s with
      proxy := proxyCleanup now { s.proxy with gcPeriod := gcPeriod, gcTimer := gcTimer } } ↔
      ¬Expires s now := by
  have hget : ∀ imsi, addrOf (proxyCleanup now { s.proxy with
      gcPeriod := gcPeriod, gcTimer := gcTimer }) imsi =
        (((proxyGetByImsi s.proxy imsi).filter (isFresh now s.proxy.freshTime)).map
          ProxySubscrListentry.data).map ProxySubscr.remoteHlrAddr :=
    fun imsi => congrArg _ (proxySubscrGetByImsi_filter s.proxy imsi _)
  constructor
  · rintro hnot ⟨p, hp, e, he, hstale⟩
    obtain ⟨addr, haddr, -⟩ := hnot p hp
    have haddr := (hget _).symm.trans haddr
    rw [he, Option.filter_some, hstale] at haddr
    cases haddr
  · intro hnot p hp
    obtain ⟨addr, haddr, hexpects⟩ := h p hp
    refine ⟨addr, ?_, hexpects⟩
    obtain ⟨subscr, hsubscr, rfl⟩ := Option.map_eq_some_iff.1 haddr
    obtain ⟨e, he, rfl⟩ := Option.map_eq_some_iff.1 hsubscr
    have hfresh : isFresh now s.proxy.freshTime e = true := by
      by_contra hstale
      exact hnot ⟨p, hp, e, he, by simpa using hstale⟩
    refine (hget _).trans ?_
    rw [he, Option.filter_some, if_pos hfresh]
    rfl

/-! ## Runs -/

/-- A step that takes from nobody what he waits for. -/
def Spares (lib : ProxyLib) (s : State) : Input → Prop
  | .rx req env => ¬Hopeless lib s env req
  | .result query result _ => ¬Disappoints lib s query result
  | .updown ref false => ¬Abandons lib s ref
  | .gcTimer now => s.proxy.gcTimer = true → ¬Expires s now
  | .setGcPeriod _ now => ¬Expires s now
  | _ => True

/-- A step that requests no lookup in vain. -/
def Dispatches (lib : ProxyLib) (s : State) : Input → Prop
  | .rx req env => ¬Undispatched lib s env req
  | _ => True

theorem handsOver_step_iff (hlinks : LinksDistinct lib s) (harmed : Armed lib s) (input : Input) :
    HandsOver lib s input ↔ Dispatches lib s input := by
  cases input with
  | rx req env =>
      have hlinks' : LinksDistinct lib { s with allocs := s.allocs + 1 } :=
        hlinks.of_eq rfl (Nat.le_succ _)
      exact handsOver_iff env ⟨s.allocs, req⟩ hlinks' harmed
  | _ => exact Iff.rfl

/-- **Exactly the steps that spare those who wait leave nobody stranded.** -/
theorem notStranded_step_iff (hlinks : LinksDistinct lib s) (harmed : Armed lib s)
    (h : NotStranded lib s) (input : Input) :
    NotStranded lib (step lib s input).1 ↔ Spares lib s input := by
  cases input with
  | rx req env =>
      have hlinks' : LinksDistinct lib { s with allocs := s.allocs + 1 } :=
        hlinks.of_eq rfl (Nat.le_succ _)
      exact notStranded_readCb_iff env ⟨s.allocs, req⟩ hlinks' harmed h
  | result query result env => exact notStranded_result_iff hlinks h query result env
  | updown ref up =>
      rw [step, onRemoteHlr]
      cases hfind : Keyed.find RemoteHlr.ref s.remoteHlrs ref with
      | none =>
          refine iff_of_true h ?_
          cases up with
          | true => trivial
          | false =>
              rintro ⟨rh, hrh, href, -⟩
              exact Keyed.find_eq_none_iff.1 hfind rh hrh href
      | some rh =>
          obtain ⟨hrh, rfl⟩ := (Keyed.find_eq_some_iff hlinks.refs).1 hfind
          cases up with
          | true => exact iff_of_true (notStranded_up hlinks h hrh) trivial
          | false => exact notStranded_down_iff hlinks h hrh
  | lost ref =>
      refine iff_of_true ?_ trivial
      rw [step, onRemoteHlr]
      split
      · exact h
      next rh hfind =>
          exact notStranded_lost hlinks harmed h ((Keyed.find_eq_some_iff hlinks.refs).1 hfind).1
  | remoteRx ref msg env =>
      refine iff_of_true ?_ trivial
      rw [step, onRemoteHlr]
      split
      · exact h
      next rh _ =>
          obtain ⟨proxy, hproxy, hsame⟩ := sameAddrs_remoteHlrRx lib env s rh msg
          rw [hproxy]
          exact fun p hp => (h p (hsame.pending ▸ hp)).frame (.sameAddrs hsame)
  | gcTimer now =>
      rw [step]
      split
      next htimer =>
          exact (notStranded_cleanup_iff h now s.proxy.gcPeriod false).trans
            ⟨fun hnot _ => hnot, fun hnot => hnot htimer⟩
      next htimer => exact iff_of_true h fun hnot => absurd hnot htimer
  | setGcPeriod gcPeriod now => exact notStranded_cleanup_iff h now gcPeriod s.proxy.gcTimer
  | subscrDel imsi => exact iff_of_true (notStranded_del fun p hp _ => h p hp) trivial

/-- **A request that the proxy has received is concluded at most once by it, and waits in one place
until then; and in a run nobody ever waits in vain, and no request is left to the local HLR as well,
if and only if all steps spare those who wait and request no lookup in vain.** -/
theorem no_request_stranded_iff (lib : ProxyLib) (inputs : List Input) :
    (∀ ptr ∈ receivedOf ((machine lib).run State.init inputs).2,
      Accounted lib ((machine lib).run State.init inputs).1
        ((machine lib).run State.init inputs).2 ptr) ∧
      ((machine lib).Guarded
          (fun s input => NotStranded lib (step lib s input).1 ∧ HandsOver lib s input)
          State.init inputs ↔
        (machine lib).Guarded (fun s input => Spares lib s input ∧ Dispatches lib s input)
          State.init inputs) := by
  refine ⟨fun ptr hptr => (ran_run lib inputs).accounted hptr, ?_⟩
  have hinit := ran_init lib
  refine (machine lib).guarded_congr
    (P := fun s => LinksDistinct lib s ∧ Armed lib s ∧ NotStranded lib s) (H := fun _ => True)
    ?_
    (fun s input hs _ => and_congr (notStranded_step_iff hs.1 hs.2.1 hs.2.2 input)
      (handsOver_step_iff hs.1 hs.2.1 input))
    ⟨hinit.links, hinit.armed, fun _ hp => (by cases hp)⟩ (fun _ _ => trivial)
  intro s input hs _ hnot
  obtain ⟨_, -, hkeeps⟩ := keeps_step hs.1 hs.2.1 input
  exact ⟨hkeeps.links, hkeeps.armed, hnot.1⟩

/-- A request waits for the link to the home HLR, which cannot be connected. -/
theorem request_stranded :
    ¬NotStranded Host.proxyLib ((machine Host.proxyLib).run State.init
      [.rx (Host.updateLocation "msc" .cs) Host.dgsmEnv, Host.hlrFound, .updown 1 false]).1 := by
  generalize hres : (machine Host.proxyLib).run State.init
    [.rx (Host.updateLocation "msc" .cs) Host.dgsmEnv, Host.hlrFound, .updown 1 false] = res
  have hpending : res.1.proxy.pendingGsupReqs = [⟨0, Host.updateLocation "msc" .cs⟩] := by
    rw [← hres]
    decide +kernel
  have hlookups : res.1.lookups = [] := by
    rw [← hres]
    decide +kernel
  have hlinks : res.1.remoteHlrs = [] := by
    rw [← hres]
    decide +kernel
  intro hnot
  have hexpects := hnot ⟨0, Host.updateLocation "msc" .cs⟩ (hpending ▸ List.mem_cons_self)
  rcases hexpects with ⟨addr, -, ⟨query, hquery, -⟩ | ⟨-, rh, hrh, -⟩⟩
  · rw [hlookups] at hquery
    cases hquery
  · rw [hlinks] at hrh
    cases hrh

end Dgsm
end OsmoHlr
