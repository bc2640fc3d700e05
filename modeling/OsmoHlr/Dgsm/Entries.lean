import OsmoHlr.Dgsm.Dgsm
import OsmoHlr.Lib.SharedQueue

/-!
# Entries, requests that wait, and links

What each operation does to the entries of the proxy, as seen by who asks for an IMSI; to
the requests that wait; and to the links, of which there is one for each address.

* `proxySubscrGetByImsi_createOrUpdate`, `proxySubscrGetByImsi_del` — entries.
* `mem_pending_connectResult` — which requests still wait after a link has come up.
* `LinksDistinct` — no two links lead to the same address, in any run.
-/

namespace OsmoHlr
namespace Dgsm

open CString CniPeerId Gsup

variable {lib : ProxyLib} {env : Env} {now : Int} {proxy proxy' : Proxy} {s s' : State}
  {subscr : ProxySubscr} {imsi : CStr} {ptr : ReqPtr} {rh : RemoteHlr} {addr : SockaddrStr}

/-! ## Entries -/

/-- What is found for an IMSI has it. -/
theorem imsi_of_proxySubscrGetByImsi (h : proxySubscrGetByImsi proxy imsi = some subscr) :
    subscr.imsi = imsi := by
  obtain ⟨e, hfind, rfl⟩ := Option.map_eq_some_iff.1 h
  exact ((Keyed.find_eq_some_iff proxy.subscrList.imsis_nodup).1 hfind).2

/-- **What is stored is found, and what is stored for other IMSIs stays.** -/
theorem proxySubscrGetByImsi_createOrUpdate (now : Int) (proxy : Proxy) (subscr : ProxySubscr)
    (imsi : CStr) :
    proxySubscrGetByImsi (proxySubscrCreateOrUpdate now proxy subscr) imsi =
      if subscr.imsi = imsi then some subscr else proxySubscrGetByImsi proxy imsi := by
  have hkey : ProxySubscrListentry.imsi ⟨now, subscr⟩ = subscr.imsi := rfl
  unfold proxySubscrCreateOrUpdate proxySubscrGetByImsi proxyGetByImsi
  simp only [hkey]
  split
  next hnone =>
      simp only [SubscrList.add, Keyed.find_cons, hkey]
      by_cases himsi : subscr.imsi = imsi
      · rw [if_pos himsi, if_pos himsi]
        rfl
      · rw [if_neg himsi, if_neg himsi]
  next hsome =>
      simp only [SubscrList.set, Keyed.find_set, hkey]
      by_cases himsi : subscr.imsi = imsi
      · rw [if_pos himsi, if_pos himsi]
        rw [himsi] at hsome
        obtain ⟨e, he⟩ := Option.ne_none_iff_exists'.1 hsome
        rw [he]
        rfl
      · rw [if_neg himsi, if_neg himsi]

theorem proxySubscrGetByImsi_filter (proxy : Proxy) (imsi : CStr)
    (keep : ProxySubscrListentry → Bool) :
    proxySubscrGetByImsi { proxy with subscrList := proxy.subscrList.filter keep } imsi =
      ((proxyGetByImsi proxy imsi).filter keep).map ProxySubscrListentry.data := by
  unfold proxySubscrGetByImsi proxyGetByImsi
  exact congrArg _ (Keyed.find_filter proxy.subscrList.imsis_nodup keep)

/-- Entries that are left were there before. -/
theorem proxySubscrGetByImsi_of_filter {keep : ProxySubscrListentry → Bool}
    (h : proxySubscrGetByImsi { proxy with subscrList := proxy.subscrList.filter keep } imsi =
      some subscr) : proxySubscrGetByImsi proxy imsi = some subscr := by
  rw [proxySubscrGetByImsi_filter] at h
  obtain ⟨e, he, rfl⟩ := Option.map_eq_some_iff.1 h
  obtain ⟨hfind, -⟩ := Option.filter_eq_some_iff.1 he
  exact congrArg _ hfind

/-- **An entry that is deleted is gone, and all others stay.** -/
theorem proxySubscrGetByImsi_del (lib : ProxyLib) (proxy : Proxy) (imsi imsi' : CStr) :
    proxySubscrGetByImsi (proxySubscrDel lib proxy imsi).1 imsi' =
      if imsi' = imsi then none else proxySubscrGetByImsi proxy imsi' := by
  have hfilter := proxySubscrGetByImsi_filter (proxyDeferredGsupReqPop lib proxy imsi none).1 imsi'
    fun e => decide (e.imsi ≠ imsi)
  rw [proxySubscrDel]
  refine hfilter.trans ?_
  have hget : proxyGetByImsi (proxyDeferredGsupReqPop lib proxy imsi none).1 imsi' =
      proxyGetByImsi proxy imsi' := rfl
  rw [hget]
  cases hfind : proxyGetByImsi proxy imsi' with
  | none => simp [proxySubscrGetByImsi, hfind]
  | some e =>
      have himsi : e.imsi = imsi' :=
        ((Keyed.find_eq_some_iff proxy.subscrList.imsis_nodup).1 hfind).2
      by_cases h : imsi' = imsi
      · simp [himsi, h]
      · simp [himsi, h, proxySubscrGetByImsi, hfind]

/-- The address of the home HLR of an IMSI, if there is an entry. -/
def addrOf (proxy : Proxy) (imsi : CStr) : Option SockaddrStr :=
  (proxySubscrGetByImsi proxy imsi).map ProxySubscr.remoteHlrAddr

theorem addrOf_eq_some (h : proxySubscrGetByImsi proxy imsi = some subscr) :
    addrOf proxy imsi = some subscr.remoteHlrAddr := congrArg _ h

theorem addrOf_del (lib : ProxyLib) (proxy : Proxy) (imsi imsi' : CStr) :
    addrOf (proxySubscrDel lib proxy imsi).1 imsi' =
      if imsi' = imsi then none else addrOf proxy imsi' := by
  rw [addrOf, proxySubscrGetByImsi_del]
  split <;> rfl

theorem addrOf_createOrUpdate (now : Int) (proxy : Proxy) (subscr : ProxySubscr) (imsi : CStr) :
    addrOf (proxySubscrCreateOrUpdate now proxy subscr) imsi =
      if subscr.imsi = imsi then some subscr.remoteHlrAddr else addrOf proxy imsi := by
  rw [addrOf, proxySubscrGetByImsi_createOrUpdate]
  split <;> rfl

@[simp] theorem pending_createOrUpdate (now : Int) (proxy : Proxy) (subscr : ProxySubscr) :
    (proxySubscrCreateOrUpdate now proxy subscr).pendingGsupReqs = proxy.pendingGsupReqs := by
  unfold proxySubscrCreateOrUpdate
  simp only
  split <;> rfl

/-- The same requests wait, and home HLRs are at the same addresses. -/
structure SameAddrs (proxy proxy' : Proxy) : Prop where
  pending : proxy'.pendingGsupReqs = proxy.pendingGsupReqs
  addrs : ∀ imsi, addrOf proxy' imsi = addrOf proxy imsi

theorem SameAddrs.refl (proxy : Proxy) : SameAddrs proxy proxy := ⟨rfl, fun _ => rfl⟩

theorem sameAddrs_createOrUpdate {new : ProxySubscr}
    (h : proxySubscrGetByImsi proxy imsi = some subscr) (himsi : new.imsi = imsi)
    (haddr : new.remoteHlrAddr = subscr.remoteHlrAddr) :
    SameAddrs proxy (proxySubscrCreateOrUpdate now proxy new) := by
  refine ⟨pending_createOrUpdate now proxy new, ?_⟩
  intro imsi'
  rw [addrOf_createOrUpdate]
  split
  next heq =>
      obtain rfl := himsi.symm.trans heq
      rw [haddr, addrOf_eq_some h]
  next => rfl

theorem setPreliminary_frame (subscr : ProxySubscr) (req : GsupReq) :
    (subscr.setPreliminary req).imsi = subscr.imsi ∧
      (subscr.setPreliminary req).msisdn = subscr.msisdn ∧
      (subscr.setPreliminary req).remoteHlrAddr = subscr.remoteHlrAddr := by
  unfold ProxySubscr.setPreliminary
  split <;> exact ⟨rfl, rfl, rfl⟩

/-- **Requests leave entries at their addresses.** -/
theorem sameAddrs_acknowledgeTo (lib : ProxyLib) (now : Int)
    (h : proxySubscrGetByImsi proxy imsi = some subscr) (req : GsupReq) :
    SameAddrs proxy (proxyAcknowledgeGsupToRemoteHlr lib now proxy subscr req).2 := by
  have himsi := imsi_of_proxySubscrGetByImsi h
  obtain ⟨hframe, -, haddr⟩ := setPreliminary_frame subscr req
  unfold proxyAcknowledgeGsupToRemoteHlr
  split
  · exact SameAddrs.refl proxy
  · split
    · simp only
      split
      · exact SameAddrs.refl proxy
      · exact sameAddrs_createOrUpdate h (hframe.trans himsi) haddr
    · exact SameAddrs.refl proxy

/-- **So do messages from remote HLRs.** -/
theorem sameAddrs_acknowledgeFrom (lib : ProxyLib) (now : Int)
    (h : proxySubscrGetByImsi proxy imsi = some subscr) (gsup : GsupMessage)
    (destination viaPeer : IpaName) :
    SameAddrs proxy
      (proxyAcknowledgeGsupFromRemoteHlr lib now proxy subscr gsup destination viaPeer).2 := by
  have himsi := imsi_of_proxySubscrGetByImsi h
  unfold proxyAcknowledgeGsupFromRemoteHlr
  simp only
  split
  · unfold storeMsisdn
    split
    · exact SameAddrs.refl proxy
    · split
      · exact SameAddrs.refl proxy
      · split
        · exact SameAddrs.refl proxy
        · split
          · exact SameAddrs.refl proxy
          · exact sameAddrs_createOrUpdate h himsi rfl
  · split
    · unfold storeLu
      simp only
      split
      · exact SameAddrs.refl proxy
      · exact sameAddrs_createOrUpdate h himsi rfl
    · exact SameAddrs.refl proxy

/-- A message from a remote HLR changes entries only, and leaves them at their addresses. -/
theorem sameAddrs_forwardToVlr (lib : ProxyLib) (env : Env) {gsup : GsupMessage}
    (h : proxySubscrGetByImsi s.proxy gsup.imsi = some subscr) :
    ∃ proxy, (proxySubscrForwardToVlr lib env s subscr gsup).2.1 = { s with proxy := proxy } ∧
      SameAddrs s.proxy proxy := by
  unfold proxySubscrForwardToVlr
  simp only
  split
  · exact ⟨s.proxy, rfl, .refl _⟩
  · split
    · exact ⟨s.proxy, rfl, .refl _⟩
    next conn _ =>
        have hsame := sameAddrs_acknowledgeFrom lib env.now h gsup
          (ipaNameSet IpaName.zero gsup.destinationName).2 (env.peerName conn)
        split
        · exact ⟨_, rfl, hsame⟩
        · split <;> exact ⟨_, rfl, hsame⟩

theorem sameAddrs_remoteHlrRx (lib : ProxyLib) (env : Env) (s : State) (rh : RemoteHlr)
    (msg : List UInt8) :
    ∃ proxy, (remoteHlrRx lib env s rh msg).1 = { s with proxy := proxy } ∧
      SameAddrs s.proxy proxy := by
  unfold remoteHlrRx
  split
  · exact ⟨s.proxy, rfl, .refl _⟩
  · split
    · exact ⟨s.proxy, rfl, .refl _⟩
    · split
      · exact ⟨s.proxy, rfl, .refl _⟩
      next subscr hget =>
          have hsame := sameAddrs_forwardToVlr lib env hget
          simp only
          split <;> exact hsame

/-! ## Requests that wait -/

theorem waiting_iff :
    proxyDeferredGsupReqWaiting proxy imsi = true ↔
      ∃ p ∈ proxy.pendingGsupReqs, imsiOf p = imsi := by
  simp [proxyDeferredGsupReqWaiting]

/-- Only the queue is touched. -/
theorem popEntries_frame (lib : ProxyLib) (addr : SockaddrStr) (rh : Option RemoteHlr)
    (entries : List ProxySubscrListentry) (proxy : Proxy) :
    (popEntries lib addr rh entries proxy).1 =
      { proxy with
        pendingGsupReqs := (popEntries lib addr rh entries proxy).1.pendingGsupReqs } := by
  induction entries generalizing proxy with
  | nil => rfl
  | cons e entries ih =>
      rw [popEntries]
      split
      · simp only
        rw [ih]
        rfl
      · exact ih proxy

theorem mem_pending_popEntries (rh : Option RemoteHlr) (entries : List ProxySubscrListentry) :
    ptr ∈ (popEntries lib addr rh entries proxy).1.pendingGsupReqs ↔
      ptr ∈ proxy.pendingGsupReqs ∧ ∀ e ∈ entries,
        lib.sockaddrStrCmp addr e.data.remoteHlrAddr = 0 → imsiOf ptr ≠ e.data.imsi := by
  induction entries generalizing proxy with
  | nil => simp [popEntries]
  | cons e entries ih =>
      rw [popEntries]
      split
      next hcmp =>
          simp only
          rw [ih]
          simp only [proxyDeferredGsupReqPop, List.mem_filter, decide_eq_true_eq,
            List.forall_mem_cons, hcmp, forall_const]
          exact and_assoc
      next hcmp =>
          rw [ih]
          simp only [List.forall_mem_cons, hcmp, false_imp_iff, true_and]

/-- **After the result of a connection attempt exactly those wait whose home HLR is not at that
address.** -/
theorem mem_pending_connectResult (rh : Option RemoteHlr) :
    ptr ∈ (proxyRemoteHlrConnectResultCb lib proxy addr rh).1.pendingGsupReqs ↔
      ptr ∈ proxy.pendingGsupReqs ∧
        ∀ a, addrOf proxy (imsiOf ptr) = some a → lib.sockaddrStrCmp addr a ≠ 0 := by
  rw [proxyRemoteHlrConnectResultCb, mem_pending_popEntries]
  refine and_congr_right fun _ => ⟨?_, ?_⟩
  · intro h a ha hcmp
    obtain ⟨subscr, hget, rfl⟩ := Option.map_eq_some_iff.1 ha
    obtain ⟨e, hfind, rfl⟩ := Option.map_eq_some_iff.1 hget
    obtain ⟨he, himsi⟩ := (Keyed.find_eq_some_iff proxy.subscrList.imsis_nodup).1 hfind
    exact h e he hcmp himsi.symm
  · intro h e he hcmp himsi
    have hfind : proxyGetByImsi proxy (imsiOf ptr) = some e :=
      (Keyed.find_eq_some_iff proxy.subscrList.imsis_nodup).2 ⟨he, himsi.symm⟩
    refine h e.data.remoteHlrAddr ?_ hcmp
    rw [addrOf, proxySubscrGetByImsi, hfind]
    rfl

theorem connectResult_frame (lib : ProxyLib) (proxy : Proxy) (addr : SockaddrStr)
    (rh : Option RemoteHlr) :
    (proxyRemoteHlrConnectResultCb lib proxy addr rh).1 =
      { proxy with pendingGsupReqs :=
          (proxyRemoteHlrConnectResultCb lib proxy addr rh).1.pendingGsupReqs } :=
  popEntries_frame lib addr rh proxy.subscrList.entries proxy

theorem addrOf_connectResult (rh : Option RemoteHlr) (imsi : CStr) :
    addrOf (proxyRemoteHlrConnectResultCb lib proxy addr rh).1 imsi = addrOf proxy imsi := by
  rw [connectResult_frame]
  rfl

@[simp] theorem subscrList_connectResult (rh : Option RemoteHlr) :
    (proxyRemoteHlrConnectResultCb lib proxy addr rh).1.subscrList = proxy.subscrList := by
  rw [connectResult_frame]

theorem addrOf_congr (h : proxy'.subscrList = proxy.subscrList) (imsi : CStr) :
    addrOf proxy' imsi = addrOf proxy imsi := by
  rw [addrOf, addrOf, proxySubscrGetByImsi, proxySubscrGetByImsi, proxyGetByImsi, proxyGetByImsi, h]

theorem addrOf_of_filter (proxy : Proxy) {keep : ProxySubscrListentry → Bool}
    (h : addrOf { proxy with subscrList := proxy.subscrList.filter keep } imsi = some addr) :
    addrOf proxy imsi = some addr := by
  obtain ⟨subscr, hget, rfl⟩ := Option.map_eq_some_iff.1 h
  exact addrOf_eq_some (proxySubscrGetByImsi_of_filter hget)

/-- Asking for a link leaves the entries alone. -/
theorem subscrList_getOrConnect (s : State) (addr : SockaddrStr) (connect cb : Bool) :
    (remoteHlrGetOrConnect lib env s addr connect cb).2.1.proxy.subscrList =
      s.proxy.subscrList := by
  have hcb : ∀ (s : State) (rh : Option RemoteHlr),
      (connectResultCb lib s addr rh cb).1.proxy.subscrList = s.proxy.subscrList := by
    intro s rh
    unfold connectResultCb
    split
    · exact subscrList_connectResult rh
    · rfl
  have hadd : ∀ (s : State) (rh : RemoteHlr),
      (addResultCb lib s addr rh cb).1.proxy.subscrList = s.proxy.subscrList := by
    intro s rh
    unfold addResultCb
    split
    · rfl
    · split
      · exact hcb s (some rh)
      · rfl
  unfold remoteHlrGetOrConnect
  split
  · exact hadd s _
  · split
    · exact hcb s none
    · split
      · exact hcb s none
      · exact hadd _ _

theorem getOrConnect_fst (s : State) (addr : SockaddrStr) :
    (remoteHlrGetOrConnect lib env s addr false false).1 =
      remoteHlrFind lib s.remoteHlrs addr := by
  unfold remoteHlrGetOrConnect
  split
  next rh hfind => exact hfind.symm
  next hfind => exact hfind.symm

/-- An entry that gets an address is still there, and has one. -/
theorem proxySubscrGetByImsi_resolved (lib : ProxyLib) (env : Env)
    (h : proxySubscrGetByImsi s.proxy imsi = some subscr) (addr : SockaddrStr) :
    ∃ new, proxySubscrGetByImsi (proxySubscrRemoteHlrResolved lib env s subscr addr).1.proxy imsi =
      some new ∧ (lib.sockaddrStrIsNonzero addr = true →
        lib.sockaddrStrIsNonzero new.remoteHlrAddr = true) := by
  have himsi := imsi_of_proxySubscrGetByImsi h
  have hstored : proxySubscrGetByImsi (s.createOrUpdate env.now
      { subscr with remoteHlrAddr := addr }).proxy imsi =
        some { subscr with remoteHlrAddr := addr } := by
    rw [State.createOrUpdate, proxySubscrGetByImsi_createOrUpdate, if_pos himsi]
  unfold proxySubscrRemoteHlrResolved
  split
  next hsame => exact ⟨subscr, h, fun _ => hsame.1⟩
  · simp only
    split
    · refine ⟨{ subscr with remoteHlrAddr := addr }, ?_, id⟩
      rw [proxySubscrGetByImsi, proxyGetByImsi, subscrList_getOrConnect]
      exact hstored
    · exact ⟨_, hstored, id⟩

theorem subscrList_upCallbacks (rh : RemoteHlr) (n : Nat) (proxy : Proxy) :
    (upCallbacks lib rh n proxy).1.subscrList = proxy.subscrList := by
  induction n generalizing proxy with
  | zero => rfl
  | succ n ih =>
      rw [upCallbacks]
      exact (ih _).trans (subscrList_connectResult (some rh))

/-- Who still waits after a link has come up has waited before, and not for this link if there was
a callback. -/
theorem of_mem_pending_upCallbacks {n : Nat}
    (h : ptr ∈ (upCallbacks lib rh n proxy).1.pendingGsupReqs) :
    ptr ∈ proxy.pendingGsupReqs ∧ (0 < n →
      ∀ a, addrOf proxy (imsiOf ptr) = some a → lib.sockaddrStrCmp rh.addr a ≠ 0) := by
  induction n generalizing proxy with
  | zero => exact ⟨h, fun hn => absurd hn (Nat.lt_irrefl 0)⟩
  | succ n ih =>
      obtain ⟨hptr, hother⟩ := (mem_pending_connectResult (some rh)).1 (ih h).1
      exact ⟨hptr, fun _ => hother⟩

/-! ## Links -/

/-- No two links lead to the same address, and allocations tell them apart. -/
structure LinksDistinct (lib : ProxyLib) (s : State) : Prop where
  refs : (s.remoteHlrs.map RemoteHlr.ref).Nodup
  ref_lt : ∀ rh ∈ s.remoteHlrs, rh.ref < s.allocs
  addrs : s.remoteHlrs.Pairwise fun a b => lib.sockaddrStrCmp a.addr b.addr ≠ 0

theorem remoteHlrFind_eq_some {remoteHlrs : List RemoteHlr}
    (h : remoteHlrFind lib remoteHlrs addr = some rh) :
    rh ∈ remoteHlrs ∧ lib.sockaddrStrCmp rh.addr addr = 0 :=
  ⟨List.mem_of_find?_eq_some h, by simpa using List.find?_some h⟩

theorem remoteHlrFind_eq_none {remoteHlrs : List RemoteHlr}
    (h : remoteHlrFind lib remoteHlrs addr = none) :
    ∀ rh ∈ remoteHlrs, lib.sockaddrStrCmp rh.addr addr ≠ 0 := by
  simpa [remoteHlrFind, List.find?_eq_none] using h

/-- There is one link to an address at most. -/
theorem LinksDistinct.eq_of_cmp (h : LinksDistinct lib s) {a b : RemoteHlr}
    (ha : a ∈ s.remoteHlrs) (hb : b ∈ s.remoteHlrs) (hcmp : lib.sockaddrStrCmp a.addr b.addr = 0) :
    a = b := by
  by_contra hne
  have hsymm : Std.Symm fun a b : RemoteHlr => lib.sockaddrStrCmp a.addr b.addr ≠ 0 :=
    ⟨fun _ _ h hyx => h (lib.cmp_equivalence.symm hyx)⟩
  exact h.addrs.forall ha hb hne hcmp

/-- The links are the same. -/
theorem LinksDistinct.of_eq (h : LinksDistinct lib s) (hlinks : s'.remoteHlrs = s.remoteHlrs)
    (hallocs : s.allocs ≤ s'.allocs) : LinksDistinct lib s' where
  refs := hlinks ▸ h.refs
  ref_lt := fun rh hrh => Nat.lt_of_lt_of_le (h.ref_lt rh (hlinks ▸ hrh)) hallocs
  addrs := hlinks ▸ h.addrs

theorem mem_setRemoteHlr (rh : RemoteHlr) {old x : RemoteHlr} (hold : old ∈ s.remoteHlrs)
    (href : rh.ref = old.ref) :
    x ∈ (s.setRemoteHlr rh).remoteHlrs ↔ x = rh ∨ x ∈ s.remoteHlrs ∧ x.ref ≠ old.ref :=
  Keyed.mem_set hold href

theorem LinksDistinct.setRemoteHlr (h : LinksDistinct lib s) {old : RemoteHlr}
    (hold : old ∈ s.remoteHlrs) (href : rh.ref = old.ref) (haddr : rh.addr = old.addr) :
    LinksDistinct lib (s.setRemoteHlr rh) where
  refs := by
    rw [State.setRemoteHlr, Keyed.map_key_set]
    exact h.refs
  ref_lt := by
    intro x hx
    rcases (mem_setRemoteHlr rh hold href).1 hx with rfl | ⟨hx, -⟩
    · rw [href]
      exact h.ref_lt old hold
    · exact h.ref_lt x hx
  addrs := by
    have hmap : (s.setRemoteHlr rh).remoteHlrs.map RemoteHlr.addr =
        s.remoteHlrs.map RemoteHlr.addr :=
      Keyed.map_set RemoteHlr.addr h.refs hold href haddr
    have haddrs : (s.remoteHlrs.map RemoteHlr.addr).Pairwise
        fun a b => lib.sockaddrStrCmp a b ≠ 0 := List.pairwise_map.2 h.addrs
    rw [← hmap] at haddrs
    exact List.pairwise_map.1 haddrs

theorem LinksDistinct.destroy (h : LinksDistinct lib s) (rh : RemoteHlr) :
    LinksDistinct lib (remoteHlrDestroy s rh) where
  refs := Keyed.nodup_remove h.refs
  ref_lt := fun x hx => h.ref_lt x (Keyed.mem_remove.1 hx).1
  addrs := h.addrs.sublist List.filter_sublist

/-- A link to an address to which there is none yet. -/
theorem LinksDistinct.connect (h : LinksDistinct lib s)
    (hnone : remoteHlrFind lib s.remoteHlrs addr = none) :
    LinksDistinct lib { s with
      remoteHlrs := ⟨s.allocs, addr, false, 0⟩ :: s.remoteHlrs
      allocs := s.allocs + 1 } where
  refs := by
    rw [List.map_cons, List.nodup_cons]
    refine ⟨fun hmem => ?_, h.refs⟩
    obtain ⟨x, hx, href⟩ := List.mem_map.1 hmem
    exact absurd (h.ref_lt x hx) (by rw [href]; exact Nat.lt_irrefl _)
  ref_lt := by
    intro x hx
    rcases List.mem_cons.1 hx with rfl | hx
    · exact Nat.lt_succ_self _
    · exact Nat.lt_succ_of_lt (h.ref_lt x hx)
  addrs := by
    refine List.pairwise_cons.2 ⟨fun x hx hcmp => ?_, h.addrs⟩
    exact remoteHlrFind_eq_none hnone x hx (lib.cmp_equivalence.symm hcmp)

end Dgsm
end OsmoHlr
