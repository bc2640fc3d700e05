import OsmoHlr.Main.HeldRequests
import OsmoHlr.Main.RecordRuns

/-!
# Who owns a request, in the HLR as a whole

A message that `osmo_gsup_conn_rx` makes a request of is forwarded and freed, answered and freed,
or else held: by an LU, by a session or in the queue of the proxy, until that answers it.

* `Tidy` — what holds between two inputs; no request is held twice.
* `Tends` — a step holds the requests there are, or has released them.
* `FreesRequest` — the messages for which there is room, and which their handlers free.
* `requests_accounted_iff` — in any run, requests are held once or released once, exactly as long
  as all messages are such.
* `never_after_free` — in any run at all, nothing is done with a request that has been freed.
-/

namespace OsmoHlr
namespace Main

open CString CniPeerId Gsup Db Ownership

/-! ## Requests -/

/-- What happens to requests. -/
def reqEvents (out : List Out) : List ReqEvent :=
  out.filterMap fun
    | .req event => some event
    | .lu (.req event) => some event
    | .ss (.req event) => some event
    | .dgsm (.req event) => some event
    | _ => none

/-- What is done with the request at an address. -/
def usesOf (out : List Out) (ref : Nat) : List ReqUse :=
  (callsTo (reqEvents out) ref).map ReqUse.ofCall

/-- The requests that are stored as `update_location_req`, with a session or in the queue of the
proxy. -/
def Hlr.requests (s : Hlr) : List ReqPtr :=
  s.lus.lus.filterMap LuFsm.Lu.updateLocationReq ++ s.ss.stored ++
    s.node.dgsm.proxy.pendingGsupReqs

/-- The request is held once and has not been freed, or it is not held, and it has been freed after
everything else that was done with it. -/
def OwnedOnce (s : Hlr) (ptr : ReqPtr) (uses : List ReqUse) : Prop :=
  (s.requests.map ReqPtr.ref).count ptr.ref = 1 ∧ Kept ReqUse.isFree uses ∨
    ptr.ref ∉ s.requests.map ReqPtr.ref ∧ Released ReqUse.isFree uses

variable {Ω : Type} (lib : MainLib Ω) (myName : CStr)

/-- The request that `osmo_gsup_conn_rx` returns. -/
def handed : Except Ended Hlr → Input lib → List ReqPtr
  | .ok s, .rx ref l2 _ =>
      match s.peers.gs.lookup ref with
      | none => []
      | some conn =>
          (osmoGsupConnRx lib.toGsupLib s.peers.gs conn l2).req.toList.map (ReqPtr.mk s.allocs)
  | _, _ => []

/-- All requests of a run. -/
def received (t : Tables) (inputs : List (Input lib)) : List ReqPtr :=
  (machine lib myName).view (handed lib) (.ok (Hlr.start t)) inputs

/-- The process is alive, and every request is owned once. -/
def RequestsOwned (t : Tables) (inputs : List (Input lib)) : Prop :=
  match (machine lib myName).run (.ok (Hlr.start t)) inputs with
  | (.error _, _) => False
  | (.ok s, out) => ∀ ptr ∈ received lib myName t inputs, OwnedOnce s ptr (usesOf out ptr.ref)

/-! ## Which messages are freed -/

/-- A message is for another peer, whether it says where it comes from or not. -/
def ForPeer (myName : IpaName) (gsup : GsupMessage) : Prop :=
  gsup.destinationName ≠ [] ∧ gsup.destinationName.length ≤ ipaNameSize ∧
    gsup.destinationName ≠ myName.val

/-- D-GSM is not in use, or the subscriber is in the database. -/
def LeftHere (env : RxEnv lib) (s : Hlr) (imsi : CStr) : Prop :=
  (Dgsm.clientActive s.node.client ∨ lib.sockaddrStrIsNonzero env.dgsm.gsupGatewayProxy) →
    dbSubscrExistsByImsi env.dgsm.existsByImsi s.tables imsi = 0

/-- The handler of the message frees it or holds it. -/
def HandlerFrees (s : Hlr) (ptr : ReqPtr) : Prop :=
  match handlerOf lib ptr.req.gsup.messageType with
  | .rxProcSsReq =>
      ¬Ussd.EndsUnknown lib.toSsLib s.ss ptr.req ∧ ¬Ussd.Confuses lib.toSsLib s.ss ptr ∧
        ¬Ussd.AsksFreed lib.toSsLib s.ss ptr
  | .rxProcSsError => False
  | .luRxGsup => ¬LuFsm.IsErrorForLu lib.toGsupProtocol s.lus ptr.req
  | _ => True

/-- There is room for a message that is forwarded to another peer, and the handler of one that is
left here frees it or holds it. -/
def FreesRequest : Except Ended Hlr → Input lib → Prop
  | .ok s, .rx ref l2 env =>
      ∀ ptr ∈ handed lib (.ok s) (.rx ref l2 env),
        (Dgsm.ForOther (ipaNameSetStr myName) ptr.req.gsup → l2.length ≤ Dgsm.gsupTailroom) ∧
          (¬ForPeer (ipaNameSetStr myName) ptr.req.gsup → LeftHere lib env s ptr.req.gsup.imsi →
            HandlerFrees lib s ptr)
  | _, _ => True

/-! ## What holds between two inputs -/

/-- The addresses of LUs, of sessions, and of what waits in the queue of the proxy. -/
def Hlr.refs (s : Hlr) : List Nat := s.lus.refs ++ s.ss.refs ++ s.node.dgsm.refs

/-- All parts are in order, and no two of them hold a request at the same address. -/
structure Tidy (s : Hlr) : Prop where
  lus : LuFsm.Tidy lib.toGsupProtocol s.lus
  ss : Ussd.WellFormed s.onHeapSs
  stores : Ussd.Stores s.ss
  links : Dgsm.LinksDistinct lib.toProxyLib s.onHeapNode.dgsm
  armed : Dgsm.Armed lib.toProxyLib s.onHeapNode.dgsm
  pending : s.node.dgsm.refs.Nodup
  ref_lt : ∀ n ∈ s.refs, n < s.allocs
  lus_ss : ∀ n ∈ s.lus.refs, n ∉ s.ss.refs
  lus_pending : ∀ n ∈ s.lus.refs, n ∉ s.node.dgsm.refs
  ss_pending : ∀ n ∈ s.ss.refs, n ∉ s.node.dgsm.refs

/-- A new request is allocated, and nobody holds it yet. -/
structure New (s : Hlr) (ptr : ReqPtr) : Prop where
  lt : ptr.ref < s.allocs
  notMem : ptr.ref ∉ s.refs

/-- All parts are in order afterwards, and requests are held or released. -/
structure Tends (s : Hlr) (new : Nat → Prop) (res : Hlr × List Out) : Prop where
  tidy : Tidy lib res.1
  allocs_le : s.allocs ≤ res.1.allocs
  balanced : Balanced ReqUse.isFree (fun n => n ∈ s.refs ∨ new n) (· ∈ res.1.refs) (usesOf res.2)

variable {lib} {myName} {s : Hlr} {conn : Conn} {ptr : ReqPtr} {new : Nat → Prop} {n : Nat}

theorem mem_refs : n ∈ s.refs ↔ n ∈ s.lus.refs ∨ n ∈ s.ss.refs ∨ n ∈ s.node.dgsm.refs := by
  rw [Hlr.refs, List.mem_append, List.mem_append, or_assoc]

/-- What is held is held at the addresses of those who hold it. -/
theorem Tidy.map_ref (h : Tidy lib s) : s.requests.map ReqPtr.ref = s.refs := by
  have hlus : (s.lus.lus.filterMap LuFsm.Lu.updateLocationReq).map ReqPtr.ref = s.lus.refs := by
    have howns := h.lus.owns
    rw [LuFsm.AllLu.refs]
    generalize s.lus.lus = lus at howns ⊢
    induction lus with
    | nil => rfl
    | cons lu lus ih =>
        obtain ⟨⟨req, hreq, -⟩, hrest⟩ := List.forall_mem_cons.1 howns
        rw [List.filterMap_cons, hreq, List.map_cons, List.map_cons, ih hrest]
  rw [Hlr.requests, List.map_append, List.map_append, hlus, h.stores.map_ref]
  rfl

theorem Tidy.refs_nodup (h : Tidy lib s) : s.refs.Nodup := by
  rw [Hlr.refs, List.nodup_append, List.nodup_append]
  refine ⟨⟨h.lus.nodup, h.ss.refs, ?_⟩, h.pending, ?_⟩
  · rintro n hn _ hm rfl
    exact h.lus_ss n hn hm
  · rintro n hn _ hm rfl
    exact (List.mem_append.1 hn).elim (fun hn => h.lus_pending n hn hm)
      fun hn => h.ss_pending n hn hm

/-- Tables and peers have nothing to do with it. -/
theorem Tidy.of_parts (h : Tidy lib s) (t : Tables) (peers : UpdateNotify.Peers) :
    Tidy lib { s with tables := t, peers := peers } :=
  ⟨h.lus, h.ss, h.stores, h.links, h.armed, h.pending, h.ref_lt, h.lus_ss, h.lus_pending,
    h.ss_pending⟩

/-- Sessions are in order after others have allocated something. -/
theorem wellFormed_onHeap {hlr : Ussd.Hlr} (h : Ussd.WellFormed hlr) {allocs : Nat}
    (hle : hlr.allocs ≤ allocs) : Ussd.WellFormed { hlr with allocs := allocs } :=
  ⟨h.refs, fun ref href => Nat.lt_of_lt_of_le (h.ref_lt ref href) hle, h.ids, h.routes, h.not_iuse⟩

theorem Tidy.onHeapLus (h : Tidy lib s) : LuFsm.Tidy lib.toGsupProtocol s.onHeapLus :=
  ⟨h.lus.owns, h.lus.waiting, h.lus.nodup⟩

/-- Room for a request is allocated. -/
theorem Tidy.alloc (h : Tidy lib s) : Tidy lib { s with allocs := s.allocs + 1 } where
  lus := h.lus
  ss := h.ss.alloc
  stores := h.stores
  links := h.links.of_eq rfl (Nat.le_succ _)
  armed := h.armed
  pending := h.pending
  ref_lt n hn := Nat.lt_succ_of_lt (h.ref_lt n hn)
  lus_ss := h.lus_ss
  lus_pending := h.lus_pending
  ss_pending := h.ss_pending

theorem New.lt_of_eq (hnew : New s ptr) : ∀ n, n = ptr.ref → n < s.allocs := by
  rintro n rfl
  exact hnew.lt

theorem New.notMem_of_eq (hnew : New s ptr) : ∀ n, n = ptr.ref → n ∉ s.refs := by
  rintro n rfl
  exact hnew.notMem

theorem tidy_start (lib : MainLib Ω) (t : Tables) : Tidy lib (Hlr.start t) where
  lus := ⟨fun _ h => (by cases h), fun _ h => (by cases h), List.nodup_nil⟩
  ss := Ussd.wellFormed_init
  stores := fun _ h => by cases h
  links := (Dgsm.ran_init lib.toProxyLib).links
  armed := (Dgsm.ran_init lib.toProxyLib).armed
  pending := List.nodup_nil
  ref_lt := fun _ h => by cases h
  lus_ss := fun _ h => by cases h
  lus_pending := fun _ h => by cases h
  ss_pending := fun _ h => by cases h

/-! ## What the parts put out -/

theorem reqEvents_append (out out' : List Out) :
    reqEvents (out ++ out') = reqEvents out ++ reqEvents out' := List.filterMap_append

@[simp] theorem reqEvents_sent (sent : List Sent) : reqEvents (sent.map Out.sent) = [] := by
  simp [reqEvents]

theorem usesOf_append (out out' : List Out) (ref : Nat) :
    usesOf (out ++ out') ref = usesOf out ref ++ usesOf out' ref := by
  simp [usesOf, reqEvents_append]

@[simp] theorem usesOf_nil (ref : Nat) : usesOf [] ref = [] := rfl

@[simp] theorem usesOf_sent (sent : List Sent) (ref : Nat) :
    usesOf (sent.map Out.sent) ref = [] := by
  simp [usesOf]

@[simp] theorem usesOf_lu (out : List LuFsm.Out) : usesOf (out.map Out.lu) = LuFsm.usesOf out := by
  have hevents : reqEvents (out.map Out.lu) = LuFsm.reqEvents out := by
    rw [reqEvents, List.filterMap_map]
    exact List.filterMap_congr fun o _ => by cases o <;> rfl
  funext ref
  rw [usesOf, hevents, LuFsm.usesOf]

@[simp] theorem usesOf_ss (out : List Ussd.Out) : usesOf (out.map Out.ss) = Ussd.usesOf out := by
  have hevents : reqEvents (out.map Out.ss) = Ussd.reqEvents out := by
    rw [reqEvents, List.filterMap_map]
    exact List.filterMap_congr fun o _ => by cases o <;> rfl
  funext ref
  rw [usesOf, hevents, Ussd.usesOf]

@[simp] theorem usesOf_dgsm (out : List Dgsm.Out) :
    usesOf (out.map Out.dgsm) = Dgsm.usesOf out := by
  have hevents : reqEvents (out.map Out.dgsm) = Dgsm.reqEvents out := by
    rw [reqEvents, List.filterMap_map]
    exact List.filterMap_congr fun o _ => by cases o <;> rfl
  funext ref
  rw [usesOf, hevents, Dgsm.usesOf]

theorem reqEvents_reqOut (ptr : ReqPtr) (calls : List ReqCall) :
    reqEvents (reqOut ptr calls) = ptr.events calls := by
  simp [reqEvents, reqOut, List.filterMap_map]

theorem usesOf_reqOut_self (ptr : ReqPtr) (calls : List ReqCall) :
    usesOf (reqOut ptr calls) ptr.ref = calls.map ReqUse.ofCall := by
  rw [usesOf, reqEvents_reqOut, callsTo_events_self]

theorem usesOf_reqOut_of_ne {ref : Nat} (h : ref ≠ ptr.ref) (calls : List ReqCall) :
    usesOf (reqOut ptr calls) ref = [] := by
  rw [usesOf, reqEvents_reqOut, callsTo_events_of_ne h.symm, List.map_nil]

/-! ## One part changes -/

section Part

variable (h : Tidy lib s) (hlt : ∀ n, new n → n < s.allocs) (hnew : ∀ n, new n → n ∉ s.refs)
include h hlt hnew

/-- **LUs change**, and tables and peers with them. -/
theorem tends_leaveLus (t : Tables) (peers : UpdateNotify.Peers)
    {res : LuFsm.AllLu × List LuFsm.Out}
    (hres : LuFsm.Leaves lib.toGsupProtocol s.onHeapLus new res) :
    Tends lib s new (Hlr.leaveLus { s with tables := t, peers := peers } res) := by
  have hlus : Balanced ReqUse.isFree (fun n => n ∈ s.lus.refs ∨ new n) (· ∈ res.1.refs)
      (LuFsm.usesOf res.2) := hres.balanced
  have hothers : ∀ n, (n ∈ s.ss.refs ∨ n ∈ s.node.dgsm.refs) → n ∉ s.lus.refs ∧ ¬new n := by
    intro n hn
    refine ⟨fun hlu => hn.elim (h.lus_ss n hlu) (h.lus_pending n hlu), fun hn' => ?_⟩
    exact hnew n hn' (mem_refs.2 (Or.inr hn))
  have hdisjoint := hlus.disjoint hothers
  have hbalanced : Balanced ReqUse.isFree (fun n => n ∈ s.refs ∨ new n)
      (· ∈ (Hlr.leaveLus { s with tables := t, peers := peers } res).1.refs)
      (usesOf (res.2.map Out.lu)) := by
    rw [usesOf_lu]
    exact (hlus.part hothers).congr (fun n => or_congr_left mem_refs) fun n => mem_refs
  refine ⟨⟨hres.tidy, h.ss, h.stores, h.links, h.armed, h.pending, fun n hn => ?_,
    fun n hn hn' => hdisjoint n (Or.inl hn') hn, fun n hn hn' => hdisjoint n (Or.inr hn') hn,
    h.ss_pending⟩, Nat.le_refl _, hbalanced⟩
  exact (hbalanced.live_of_held hn).elim (h.ref_lt n) (hlt n)

/-- **Sessions change, and nothing else.** -/
theorem tends_leaveSs {res : Ussd.Hlr × List Ussd.Out} (hwf : Ussd.WellFormed res.1)
    (hstores : Ussd.Stores res.1) (hallocs : s.allocs ≤ res.1.allocs)
    (hres : Balanced ReqUse.isFree (fun n => n ∈ s.ss.refs ∨ new n) (· ∈ res.1.refs)
      (Ussd.usesOf res.2)) : Tends lib s new (s.leaveSs res) := by
  have hothers : ∀ n, (n ∈ s.lus.refs ∨ n ∈ s.node.dgsm.refs) → n ∉ s.ss.refs ∧ ¬new n := by
    intro n hn
    refine ⟨fun hss => hn.elim (fun hlu => h.lus_ss n hlu hss) (h.ss_pending n hss), fun hn' => ?_⟩
    exact hnew n hn' (mem_refs.2 (hn.imp_right Or.inr))
  have hdisjoint := hres.disjoint hothers
  have hmem : ∀ {a b c : Prop}, a ∨ b ∨ c ↔ b ∨ a ∨ c := or_left_comm
  have hbalanced : Balanced ReqUse.isFree (fun n => n ∈ s.refs ∨ new n)
      (· ∈ (s.leaveSs res).1.refs) (usesOf (s.leaveSs res).2) := by
    show Balanced _ _ _ (usesOf (res.2.map Out.ss))
    rw [usesOf_ss]
    exact (hres.part hothers).congr (fun n => or_congr_left (mem_refs.trans hmem))
      fun n => mem_refs.trans hmem
  refine ⟨⟨h.lus, hwf, hstores, h.links.of_eq rfl hallocs, h.armed, h.pending, fun n hn => ?_,
    fun n hn => hdisjoint n (Or.inl hn), h.lus_pending,
    fun n hn hn' => hdisjoint n (Or.inr hn') hn⟩, hallocs, hbalanced⟩
  exact Nat.lt_of_lt_of_le ((hbalanced.live_of_held hn).elim (h.ref_lt n) (hlt n)) hallocs

/-- **D-GSM changes, and nothing else.** -/
theorem tends_leaveNode {res : Dgsm.Node × List Dgsm.Out} {received : List ReqPtr}
    (hres : Dgsm.KeepsNode lib.toProxyLib received s.onHeapNode.dgsm res)
    (hreceived : ∀ n, new n ↔ n ∈ received.map ReqPtr.ref)
    (hnodup : (received.map ReqPtr.ref).Nodup) : Tends lib s new (s.leaveNode res) := by
  have hqueue : ((s.onHeapNode.dgsm.proxy.pendingGsupReqs ++ received).map ReqPtr.ref).Nodup := by
    rw [List.map_append, List.nodup_append]
    refine ⟨h.pending, hnodup, ?_⟩
    rintro n hn _ hm rfl
    exact hnew n ((hreceived n).2 hm) (mem_refs.2 (Or.inr (Or.inr hn)))
  obtain ⟨hpending, hkeeps⟩ := hres.balanced hqueue
  have hkeeps : Balanced ReqUse.isFree (fun n => n ∈ s.node.dgsm.refs ∨ new n)
      (· ∈ res.1.dgsm.refs) (Dgsm.usesOf res.2) :=
    hkeeps.congr (fun n => or_congr_right (hreceived n)) fun _ => Iff.rfl
  have hothers : ∀ n, (n ∈ s.lus.refs ∨ n ∈ s.ss.refs) → n ∉ s.node.dgsm.refs ∧ ¬new n := by
    intro n hn
    refine ⟨fun hwaits => hn.elim (fun hlu => h.lus_pending n hlu hwaits)
      fun hss => h.ss_pending n hss hwaits, fun hn' => ?_⟩
    exact hnew n hn' (mem_refs.2 (hn.imp_right Or.inl))
  have hdisjoint := hkeeps.disjoint hothers
  have hmem : ∀ {a b c : Prop}, a ∨ b ∨ c ↔ c ∨ a ∨ b := or_assoc.symm.trans or_comm
  have hbalanced : Balanced ReqUse.isFree (fun n => n ∈ s.refs ∨ new n)
      (· ∈ (s.leaveNode res).1.refs) (usesOf (s.leaveNode res).2) := by
    show Balanced _ _ _ (usesOf (res.2.map Out.dgsm))
    rw [usesOf_dgsm]
    exact (hkeeps.part hothers).congr (fun n => or_congr_left (mem_refs.trans hmem))
      fun n => mem_refs.trans hmem
  have hallocs : s.allocs ≤ res.1.dgsm.allocs := hres.allocs_le
  refine ⟨⟨h.lus, wellFormed_onHeap h.ss hallocs, h.stores, hres.links, hres.armed, hpending,
    fun n hn => ?_, h.lus_ss, fun n hn => hdisjoint n (Or.inl hn), fun n hn => hdisjoint n (Or.inr hn)⟩,
    hallocs, hbalanced⟩
  exact Nat.lt_of_lt_of_le ((hbalanced.live_of_held hn).elim (h.ref_lt n) (hlt n)) hallocs

end Part

/-! ## Handlers -/

/-- A request is answered or freed, and nothing else changes but tables. -/
theorem tends_of_released (h : Tidy lib s) (hnew : New s ptr) (t : Tables) {out : List Out}
    (hself : Released ReqUse.isFree (usesOf out ptr.ref))
    (hother : ∀ n, n ≠ ptr.ref → usesOf out n = []) :
    Tends lib s (· = ptr.ref) ({ s with tables := t }, out) :=
  ⟨h.of_parts t s.peers, Nat.le_refl _, .of_released hnew.notMem hself hother⟩

theorem tends_reqOut (h : Tidy lib s) (hnew : New s ptr) (t : Tables) {calls : List ReqCall}
    (hcalls : Released ReqUse.isFree (calls.map ReqUse.ofCall)) :
    Tends lib s (· = ptr.ref) ({ s with tables := t }, reqOut ptr calls) := by
  refine tends_of_released h hnew t ?_ fun n hn => usesOf_reqOut_of_ne hn calls
  rw [usesOf_reqOut_self]
  exact hcalls

/-- A final response frees the request. -/
theorem released_final (lib : GsupLib) (req : GsupReq) (response : GsupMessage) (error : Bool) :
    Released ReqUse.isFree
      ((osmoGsupReqRespond lib req response error true).2.map ReqUse.ofCall) :=
  (released_cons isFree_access).1 (released_respond lib req response error)

theorem released_error (lib : GsupLib) (req : GsupReq) (cause : UInt8) :
    Released ReqUse.isFree ((osmoGsupReqRespondErr lib req cause).map ReqUse.ofCall) :=
  (released_cons isFree_access).1 (released_respondErr lib req cause)

variable (lib) in
theorem released_rxSendAuthInfo (config : Config lib.toLibosmocore) (env : SaiEnv Ω) (t : Tables)
    (auc3gInd : UInt32) (req : GsupReq) (ies : Ies) : Released ReqUse.isFree
      ((rxSendAuthInfo lib config env t auc3gInd req ies).calls.map ReqUse.ofCall) := by
  unfold rxSendAuthInfo
  simp only
  split
  · exact released_error lib.toGsupLib req _
  · exact released_final lib.toGsupLib req _ false

theorem released_rxPurgeMsReq (f : Faults) (t : Tables) (req : GsupReq) :
    Released ReqUse.isFree ((rxPurgeMsReq lib f t req).2.map ReqUse.ofCall) := by
  unfold rxPurgeMsReq
  simp only
  split
  · exact released_final lib.toGsupLib req _ _
  · split
    · exact released_error lib.toGsupLib req _
    · exact released_error lib.toGsupLib req _

theorem released_rxCheckImeiReq (config : Config lib.toLibosmocore) (env : CheckImeiEnv)
    (t : Tables) (req : GsupReq) (ies : Ies) : Released ReqUse.isFree
      ((rxCheckImeiReq lib config env t req ies).2.map ReqUse.ofCall) := by
  unfold rxCheckImeiReq
  simp only
  split
  · exact released_error lib.toGsupLib req _
  · simp only
    split
    · exact released_final lib.toGsupLib req _ false
    · exact released_error lib.toGsupLib req _

section Handle

variable {env : RxEnv lib} {ies : Ies} (h : Tidy lib s) (hnew : New s ptr)
include h hnew

/-- A message to the LUs is held or released. -/
theorem tends_luRxGsup (env : LuEnv) (t t' : Tables) (peers : UpdateNotify.Peers)
    (hcb : ptr.req.sendResponseCb = true)
    (herror : ¬LuFsm.IsErrorForLu lib.toGsupProtocol s.lus ptr.req) :
    Tends lib s (· = ptr.ref) (Hlr.leaveLus { s with tables := t', peers := peers }
      (luRxGsup lib env t s.onHeapLus ptr).2) := by
  have hlus : LuFsm.AllLu.New s.onHeapLus ptr := fun lu hlu href =>
    hnew.notMem (mem_refs.2 (Or.inl (List.mem_map.2 ⟨lu, hlu, href⟩)))
  have hleaves := LuFsm.luRxGsup_leaves (env.toEnv lib t) h.onHeapLus hlus hcb herror
  exact tends_leaveLus h hnew.lt_of_eq hnew.notMem_of_eq t' peers hleaves

/-- A message to supplementary services is held or released. -/
theorem tends_rxProcSsReq (get : Faults)
    (hfrees : ¬Ussd.EndsUnknown lib.toSsLib s.ss ptr.req ∧ ¬Ussd.Confuses lib.toSsLib s.ss ptr ∧
      ¬Ussd.AsksFreed lib.toSsLib s.ss ptr) :
    ∃ res, Ussd.rxProcSsReq lib.toSsLib (s.ssEnv lib get) s.onHeapSs ptr = .ok res ∧
      Tends lib s (· = ptr.ref) (s.leaveSs res) := by
  obtain ⟨hends, hconfuses, hfreed⟩ := hfrees
  have hss : ptr.ref ∉ s.onHeapSs.refs := fun hmem =>
    hnew.notMem (mem_refs.2 (Or.inr (Or.inl hmem)))
  cases hrx : Ussd.rxProcSsReq lib.toSsLib (s.ssEnv lib get) s.onHeapSs ptr with
  | error fault =>
      rcases Ussd.rx_error h.ss hss hrx with ⟨-, hasks⟩ | ⟨-, hconfused⟩
      · exact (hfreed ((Ussd.asksFreed_allocs s.allocs).1 hasks)).elim
      · exact (hconfuses ((Ussd.confuses_allocs s.allocs).1 hconfused)).elim
  | ok res =>
      obtain ⟨hstores, hallocs, -⟩ := Ussd.rx_stores h.ss h.stores hss hrx
      have hends' : ¬Ussd.EndsUnknown lib.toSsLib s.onHeapSs ptr.req := fun hends' =>
        hends ((Ussd.endsUnknown_allocs s.allocs).1 hends')
      have hbalanced := Ussd.rx_balanced h.ss h.stores hss hrx hends'
      have hwf := Ussd.WellFormed.okCases h.ss hss hnew.lt (Ussd.rx_ok h.ss hss hrx)
      exact ⟨res, rfl, tends_leaveSs h hnew.lt_of_eq hnew.notMem_of_eq hwf hstores
        (Nat.le_of_eq hallocs.symm) hbalanced⟩

/-- **A handler answers and frees a message, or has it held.** -/
theorem handle_tends (env : RxEnv lib) (conn : Conn) (ies : Ies)
    (hcb : ptr.req.sendResponseCb = true) (hfrees : HandlerFrees lib s ptr) :
    ∃ res, handle lib env s conn ptr ies = .ok res ∧ Tends lib s (· = ptr.ref) res := by
  unfold HandlerFrees at hfrees
  unfold handle
  cases hhandler : handlerOf lib ptr.req.gsup.messageType with
  | rxSendAuthInfo =>
      refine ⟨_, rfl, tends_of_released h hnew _ ?_ fun n hn => usesOf_reqOut_of_ne hn _⟩
      have hreleased := released_rxSendAuthInfo lib env.config env.sai s.tables
        (UInt32.ofNat conn.auc3gInd) ptr.req ies
      rw [← usesOf_reqOut_self] at hreleased
      exact hreleased
  | rxUpdLocReq =>
      refine ⟨_, rfl, tends_luRxGsup h hnew env.lu _ _ _ hcb ?_⟩
      rintro ⟨htype, -⟩
      rw [htype] at hhandler
      revert hhandler
      simp [handlerOf, lib.msgt_eq_iff]
  | rxPurgeMsReq => exact ⟨_, rfl, tends_reqOut h hnew _ (released_rxPurgeMsReq _ _ _)⟩
  | rxProcSsReq =>
      rw [hhandler] at hfrees
      obtain ⟨res, hres, htends⟩ := tends_rxProcSsReq h hnew env.ssGet hfrees
      simp only [hres]
      exact ⟨_, rfl, htends⟩
  | rxProcSsError =>
      rw [hhandler] at hfrees
      exact hfrees.elim
  | luRxGsup =>
      rw [hhandler] at hfrees
      exact ⟨_, rfl, tends_luRxGsup h hnew env.lu _ _ s.peers hcb hfrees⟩
  | rxCheckImeiReq => exact ⟨_, rfl, tends_reqOut h hnew _ (released_rxCheckImeiReq _ _ _ _ _)⟩
  | osmoGsupReqFree =>
      exact ⟨_, rfl, tends_reqOut h hnew s.tables ((released_cons_free rfl).2 rfl)⟩

omit hnew in
/-- Sessions are not touched. -/
theorem tends_leaveSs_self : Tends lib s (fun _ => False) (s.leaveSs (s.onHeapSs, [])) :=
  tends_leaveSs h (fun _ hn => False.elim hn) (fun _ hn => False.elim hn) h.ss h.stores (Nat.le_refl _)
    ((Balanced.refl _ _).congr (fun _ => or_iff_left id) fun _ => Iff.rfl)

omit hnew in
/-- **And otherwise it does not**: what it does is about other requests. -/
theorem handle_leaks (env : RxEnv lib) (conn : Conn) (ies : Ies)
    (hfrees : ¬HandlerFrees lib s ptr) {res : Hlr × List Out}
    (hres : handle lib env s conn ptr ies = .ok res) : Tends lib s (fun _ => False) res := by
  unfold HandlerFrees at hfrees
  unfold handle at hres
  cases hhandler : handlerOf lib ptr.req.gsup.messageType with
  | rxProcSsReq =>
      simp only [hhandler] at hfrees hres
      by_cases hends : Ussd.EndsUnknown lib.toSsLib s.ss ptr.req
      · have hends' : Ussd.EndsUnknown lib.toSsLib s.onHeapSs ptr.req :=
          (Ussd.endsUnknown_allocs s.allocs).2 hends
        have hnothing := Ussd.rx_endsUnknown lib.toSsLib (s.ssEnv lib env.ssGet) ptr hends'
        have hnothing : Ussd.rxProcSsReq lib.toSsLib (s.ssEnv lib env.ssGet) s.onHeapSs ptr =
            .ok (s.onHeapSs, []) := hnothing
        rw [hnothing] at hres
        cases hres
        exact tends_leaveSs_self h
      · have hundefined : Ussd.Confuses lib.toSsLib s.onHeapSs ptr ∨
            Ussd.AsksFreed lib.toSsLib s.onHeapSs ptr := by
          by_contra hnot
          obtain ⟨hconfuses, hasks⟩ := not_or.1 hnot
          exact hfrees ⟨hends, fun hc => hconfuses ((Ussd.confuses_allocs s.allocs).2 hc),
            fun ha => hasks ((Ussd.asksFreed_allocs s.allocs).2 ha)⟩
        obtain ⟨fault, hfault⟩ := Ussd.rx_undefined h.ss (s.ssEnv lib env.ssGet) hundefined
        rw [hfault] at hres
        cases hres
  | rxProcSsError =>
      simp only [hhandler] at hres
      cases hres
      exact tends_leaveSs_self h
  | luRxGsup =>
      simp only [hhandler, not_not] at hfrees hres
      cases hres
      have hleaves := LuFsm.luRxGsup_of_isErrorForLu (g := s.onHeapLus)
        (env.lu.toEnv lib s.tables) h.onHeapLus hfrees
      exact tends_leaveLus h (fun _ hn => False.elim hn) (fun _ hn => False.elim hn) _ s.peers
        hleaves
  | _ =>
      simp only [hhandler] at hfrees
      exact absurd trivial hfrees

end Handle

/-! ## Messages -/

theorem readCbDestination_of_not_forPeer {lib : GsupLib} {name : IpaName} {req : GsupReq}
    (h : ¬ForPeer name req.gsup) (routes : RouteTable) (l2 : List UInt8) :
    Dgsm.readCbDestination lib name routes req l2 = .ok none := by
  unfold Dgsm.readCbDestination
  refine if_neg fun hother => h ?_
  obtain ⟨hne, hset, hcmp⟩ := hother
  refine ⟨hne, (Dgsm.ipaNameSet_eq_zero_iff IpaName.zero _).1 hset, fun hname => hcmp ?_⟩
  exact ipaNameCmp_eq_zero_iff.2 (IpaName.ext ((ipaNameSet_eq_zero hset).trans hname))

/-- **A message for another peer is freed**, if there is room for it. -/
theorem readCbDestination_of_forPeer {lib : GsupLib} {name : IpaName} {req : GsupReq}
    {l2 : List UInt8} (h : ForPeer name req.gsup)
    (hfits : Dgsm.ForOther name req.gsup → l2.length ≤ Dgsm.gsupTailroom) (routes : RouteTable) :
    ∃ rc sent calls,
      Dgsm.readCbDestination lib name routes req l2 = .ok (some (rc, sent, calls)) ∧
        Released ReqUse.isFree (calls.map ReqUse.ofCall) := by
  obtain ⟨hne, hlen, hname⟩ := h
  have hset := (Dgsm.ipaNameSet_eq_zero_iff IpaName.zero _).2 hlen
  have hcmp : ipaNameCmp (ipaNameSet IpaName.zero req.gsup.destinationName).2 name ≠ 0 :=
    fun hcmp => hname ((ipaNameSet_eq_zero hset).symm.trans
      (congrArg IpaName.val (ipaNameCmp_eq_zero_iff.1 hcmp)))
  have herror := released_final lib req { GsupMessage.zero with
    messageType := lib.msgtRoutingError
    sourceName := req.gsup.destinationName } true
  unfold Dgsm.readCbDestination
  simp only
  rw [if_pos ⟨hne, hset, hcmp⟩]
  unfold Dgsm.readCbForward
  split
  · exact ⟨_, _, _, rfl, herror⟩
  next hsource =>
      have hsource := (not_or.1 hsource).1
      simp only [hset, ne_eq, not_true_eq_false, if_false, Dgsm.msgbPut,
        if_pos (hfits ⟨hsource, hne, hlen, hname⟩)]
      simp only [bind, Except.bind]
      split
      next hsent =>
          split at hsent
          · cases hsent
          · cases hsent
      next forwarded hsent =>
          split at hsent
          · cases hsent
            exact ⟨_, _, _, rfl, herror⟩
          · cases hsent
            exact ⟨_, _, _, rfl, (released_cons_free rfl).2 rfl⟩

/-- D-GSM has left a message to the handlers, and all that they look at is as it was. -/
structure PassedOn (lib : MainLib Ω) (s here : Hlr) : Prop where
  tidy : Tidy lib here
  lus : here.lus = s.lus
  ss : here.ss = s.ss
  refs : here.refs = s.refs
  allocs : here.allocs = s.allocs
  tables : here.tables = s.tables

theorem PassedOn.tends {here : Hlr} (hpassed : PassedOn lib s here) {res : Hlr × List Out}
    (hres : Tends lib here new res) : Tends lib s new res :=
  ⟨hres.tidy, hpassed.allocs ▸ hres.allocs_le, hpassed.refs ▸ hres.balanced⟩

theorem PassedOn.isNew {here : Hlr} (hpassed : PassedOn lib s here) (hnew : New s ptr) :
    New here ptr :=
  ⟨hpassed.allocs ▸ hnew.lt, hpassed.refs ▸ hnew.notMem⟩

theorem PassedOn.handlerFrees_iff {here : Hlr} (hpassed : PassedOn lib s here) :
    HandlerFrees lib here ptr ↔ HandlerFrees lib s ptr := by
  rw [HandlerFrees, HandlerFrees, hpassed.lus, hpassed.ss]

/-- Nothing comes before it. -/
theorem Res.after_nil (res : Res) : res.after [] = res := by
  cases res <;> rfl

section ReadCb

variable {env : RxEnv lib} {l2 : List UInt8} {ies : Ies} (h : Tidy lib s)
include h

/-- Nothing is done with any request. -/
theorem Tidy.idle (t : Tables) (peers : UpdateNotify.Peers) {out : List Out}
    (hout : ∀ n, usesOf out n = []) :
    Tends lib s (fun _ => False) ({ s with tables := t, peers := peers }, out) := by
  refine ⟨h.of_parts t peers, Nat.le_refl _, .of_kept (fun n => (or_iff_left id).symm) ?_ ?_⟩
  · intro n
    rw [hout]
    exact kept_nil
  · exact fun n _ => hout n

/-- D-GSM leaves a message for a subscriber of its own as it is. -/
theorem readCbHere_of_leftHere (conn : Conn) (ies : Ies)
    (hleft : LeftHere lib env s ptr.req.gsup.imsi) :
    ∃ here, PassedOn lib s here ∧
      readCbHere lib env s conn ptr ies = handle lib env here conn ptr ies := by
  unfold readCbHere
  split
  next hactive =>
      have hknown : (s.dgsmEnv env.dgsm).dbSubscrExistsByImsi (Dgsm.imsiOf ptr) = 0 :=
        hleft hactive
      have hnothing : s.onHeapNode.dgsmCheckForwardGsupMsg lib.toProxyLib (s.dgsmEnv env.dgsm)
          env.dgsm.resultTimeoutMilliseconds ptr = (false, s.onHeapNode, []) := if_pos hknown
      have hkeeps : Dgsm.KeepsNode lib.toProxyLib [] s.onHeapNode.dgsm (s.onHeapNode, []) :=
        .refl h.links h.armed
      have htends : Tends lib s (fun _ => False) (s.leaveNode (s.onHeapNode, [])) :=
        tends_leaveNode h (fun _ hn => False.elim hn) (fun _ hn => False.elim hn) hkeeps
          (fun n => (iff_false_right List.not_mem_nil).2 id) List.nodup_nil
      refine ⟨_, ⟨htends.tidy, rfl, rfl, rfl, rfl, rfl⟩, ?_⟩
      rw [hnothing]
      show Res.after [] (handle lib env (s.leaveNode (s.onHeapNode, [])).1 conn ptr ies) = _
      exact Res.after_nil _
  next => exact ⟨s, ⟨h, rfl, rfl, rfl, rfl, rfl⟩, rfl⟩

/-- **A message that is not for another peer is held or released.** -/
theorem readCbHere_tends (hnew : New s ptr) (conn : Conn) (ies : Ies)
    (himsi : lib.imsiStrValid ptr.req.gsup.imsi = true) (hcb : ptr.req.sendResponseCb = true)
    (hfrees : LeftHere lib env s ptr.req.gsup.imsi → HandlerFrees lib s ptr) :
    ∃ res, readCbHere lib env s conn ptr ies = .ok res ∧ Tends lib s (· = ptr.ref) res := by
  by_cases hleft : LeftHere lib env s ptr.req.gsup.imsi
  · obtain ⟨here, hpassed, hhere⟩ := readCbHere_of_leftHere h conn ies hleft
    obtain ⟨res, hres, htends⟩ := handle_tends hpassed.tidy (hpassed.isNew hnew) env conn ies hcb
      (hpassed.handlerFrees_iff.2 (hfrees hleft))
    exact ⟨res, hhere.trans hres, hpassed.tends htends⟩
  · obtain ⟨hactive, hunknown⟩ := Classical.not_imp.1 hleft
    have htaken : (s.onHeapNode.dgsmCheckForwardGsupMsg lib.toProxyLib (s.dgsmEnv env.dgsm)
        env.dgsm.resultTimeoutMilliseconds ptr).1 = true :=
      Dgsm.dgsmCheckForwardGsupMsg_of_unknown himsi hactive hunknown
    obtain ⟨received, -, hkeeps, hreceived⟩ := Dgsm.keepsNode_dgsmCheckForwardGsupMsg
      (s.dgsmEnv env.dgsm) env.dgsm.resultTimeoutMilliseconds h.links h.armed ptr
    obtain rfl := hreceived htaken
    unfold readCbHere
    rw [if_pos hactive]
    simp only [htaken, if_true]
    exact ⟨_, rfl, tends_leaveNode h hnew.lt_of_eq hnew.notMem_of_eq hkeeps
      (fun n => List.mem_singleton.symm) (List.nodup_singleton _)⟩

/-- **A message is forwarded to another peer, held or released.** -/
theorem readCbReq_tends (hnew : New s ptr) (conn : Conn) (l2 : List UInt8)
    (himsi : lib.imsiStrValid ptr.req.gsup.imsi = true) (hcb : ptr.req.sendResponseCb = true)
    (hfits : Dgsm.ForOther (ipaNameSetStr myName) ptr.req.gsup → l2.length ≤ Dgsm.gsupTailroom)
    (hfrees : ¬ForPeer (ipaNameSetStr myName) ptr.req.gsup →
      LeftHere lib env s ptr.req.gsup.imsi → HandlerFrees lib s ptr) :
    ∃ res, readCbReq lib myName env s conn ptr l2 = .ok res ∧ Tends lib s (· = ptr.ref) res := by
  unfold readCbReq
  by_cases hpeer : ForPeer (ipaNameSetStr myName) ptr.req.gsup
  · obtain ⟨rc, sent, calls, hforward, hreleased⟩ : ∃ rc sent calls,
        Dgsm.readCbDestination lib.toGsupLib (ipaNameSetStr myName) s.peers.gs.routes ptr.req l2 =
            .ok (some (rc, sent, calls)) ∧
          Released ReqUse.isFree (calls.map ReqUse.ofCall) :=
      readCbDestination_of_forPeer hpeer hfits s.peers.gs.routes
    rw [hforward]
    refine ⟨_, rfl, tends_of_released h hnew s.tables ?_ fun n hn => ?_⟩
    · rw [usesOf_append, usesOf_sent, List.nil_append, usesOf_reqOut_self]
      exact hreleased
    · rw [usesOf_append, usesOf_sent, List.nil_append, usesOf_reqOut_of_ne hn]
  · rw [readCbDestination_of_not_forPeer hpeer]
    exact readCbHere_tends h hnew conn _ himsi hcb (hfrees hpeer)

/-- **And otherwise it is neither.** -/
theorem readCbReq_leaks (conn : Conn) (l2 : List UInt8)
    (hnot : ¬((Dgsm.ForOther (ipaNameSetStr myName) ptr.req.gsup →
        l2.length ≤ Dgsm.gsupTailroom) ∧
      (¬ForPeer (ipaNameSetStr myName) ptr.req.gsup →
        LeftHere lib env s ptr.req.gsup.imsi → HandlerFrees lib s ptr)))
    {res : Hlr × List Out} (hres : readCbReq lib myName env s conn ptr l2 = .ok res) :
    Tends lib s (fun _ => False) res := by
  unfold readCbReq at hres
  by_cases hfits : Dgsm.ForOther (ipaNameSetStr myName) ptr.req.gsup →
      l2.length ≤ Dgsm.gsupTailroom
  · obtain ⟨hpeer, hrest⟩ := Classical.not_imp.1 fun hfrees => hnot ⟨hfits, hfrees⟩
    obtain ⟨hleft, hfrees⟩ := Classical.not_imp.1 hrest
    obtain ⟨here, hpassed, hhere⟩ := readCbHere_of_leftHere h conn (lib.ies l2) hleft
    rw [readCbDestination_of_not_forPeer hpeer] at hres
    exact hpassed.tends (handle_leaks hpassed.tidy env conn (lib.ies l2)
      (fun hfrees' => hfrees (hpassed.handlerFrees_iff.1 hfrees')) (hhere.symm.trans hres))
  · have habort := not_not.1 (mt (Dgsm.readCbDestination_fits_iff lib.toGsupLib
      (ipaNameSetStr myName) s.peers.gs.routes ptr.req l2).1 hfits)
    rw [habort] at hres
    cases hres

end ReadCb

/-! ## Steps -/

theorem eq_of_connRxReq {server : GsupServer} {req new : GsupReq} {calls : List ReqCall}
    (h : (connRxReq lib.toGsupLib server conn new calls).req = some req) : new = req := by
  unfold connRxReq at h
  split at h
  · exact Option.some.inj h
  · split at h
    · cases h
    · simp only at h
      split at h
      · cases h
      · exact Option.some.inj h

/-- A request of `osmo_gsup_conn_rx` has a valid IMSI, and can be responded to. -/
theorem request_of_osmoGsupConnRx {server : GsupServer} {l2 : List UInt8} {req : GsupReq}
    (h : (osmoGsupConnRx lib.toGsupLib server conn l2).req = some req) :
    lib.imsiStrValid req.gsup.imsi = true ∧ req.sendResponseCb = true := by
  refine ⟨?_, ?_⟩
  · unfold osmoGsupConnRx at h
    simp only at h
    split at h
    · cases h
    next new hnew => exact eq_of_connRxReq h ▸ Dgsm.imsi_of_osmoGsupReqNew hnew
  · obtain ⟨gsup, source, -, rfl⟩ := requestOf_of_rx h
    rfl

/-- What `read_cb` goes on with when there is a request. -/
def Hlr.withRequest (s : Hlr) (server : GsupServer) : Hlr :=
  { s with peers := { s.peers with gs := server }, allocs := s.allocs + 1 }

theorem Tidy.withRequest (h : Tidy lib s) (server : GsupServer) : Tidy lib (s.withRequest server) :=
  h.alloc.of_parts s.tables { s.peers with gs := server }

theorem isNew_withRequest (h : Tidy lib s) (server : GsupServer) (req : GsupReq) :
    New (s.withRequest server) ⟨s.allocs, req⟩ :=
  ⟨Nat.lt_succ_self _, fun hmem => Nat.lt_irrefl _ (h.ref_lt _ hmem)⟩

/-- A message comes over a connection that is open. -/
structure Comes (lib : MainLib Ω) (s : Hlr) (ref : Nat) (l2 : List UInt8) (req : GsupReq)
    (conn : Conn) : Prop where
  lookup : s.peers.gs.lookup ref = some conn
  request : (osmoGsupConnRx lib.toGsupLib s.peers.gs conn l2).req = some req

section Rx

variable {ref : Nat} {l2 : List UInt8} {req : GsupReq} (env : RxEnv lib)
  (hcomes : Comes lib s ref l2 req conn)
include hcomes

theorem handed_of_comes :
    handed lib (.ok s) (.rx ref l2 env) = [⟨s.allocs, req⟩] := by
  simp [handed, hcomes.lookup, hcomes.request]

theorem freesRequest_of_comes : FreesRequest lib myName (.ok s) (.rx ref l2 env) ↔
    (Dgsm.ForOther (ipaNameSetStr myName) req.gsup → l2.length ≤ Dgsm.gsupTailroom) ∧
      (¬ForPeer (ipaNameSetStr myName) req.gsup → LeftHere lib env s req.gsup.imsi →
        HandlerFrees lib s ⟨s.allocs, req⟩) := by
  have hhanded := handed_of_comes env hcomes
  simp only [FreesRequest, hhanded, List.mem_singleton, forall_eq]

/-- The request is handed to the rest of `read_cb`. -/
theorem apply_of_comes (myName : CStr) : apply lib myName s (.rx ref l2 env) =
    (readCbReq lib myName env
      (s.withRequest (osmoGsupConnRx lib.toGsupLib s.peers.gs conn l2).server) conn
      ⟨s.allocs, req⟩ l2).after
        ((osmoGsupConnRx lib.toGsupLib s.peers.gs conn l2).sent.map Out.sent) := by
  simp only [apply, hcomes.lookup, readCb, hcomes.request, Hlr.withRequest]

omit hcomes in
/-- What has been done before the request came has to do with no request. -/
theorem tends_of_withRequest (server : GsupServer) {sent : List Sent} {res : Hlr × List Out}
    (hres : Tends lib (s.withRequest server) new res) :
    Tends lib s new (res.1, sent.map Out.sent ++ res.2) := by
  have huses : usesOf (sent.map Out.sent ++ res.2) = usesOf res.2 :=
    funext fun n => by rw [usesOf_append, usesOf_sent, List.nil_append]
  refine ⟨hres.tidy, Nat.le_trans (Nat.le_succ _) hres.allocs_le, ?_⟩
  rw [huses]
  exact hres.balanced

end Rx

/-- An input brings a request, or none. -/
theorem comes_or (lib : MainLib Ω) (s : Hlr) (ref : Nat) (l2 : List UInt8) :
    (∃ req conn, Comes lib s ref l2 req conn) ∨
      (∀ env, handed lib (.ok s) (.rx ref l2 env) = []) ∧
        ∀ env (myName : CStr), ∃ peers, ∃ sent : List Sent, apply lib myName s (.rx ref l2 env) =
          .ok ({ s with peers := peers }, sent.map Out.sent) := by
  cases hconn : s.peers.gs.lookup ref with
  | none =>
      refine Or.inr ⟨fun env => by simp [handed, hconn], fun env myName => ⟨s.peers, [], ?_⟩⟩
      simp [apply, hconn]
  | some conn =>
      cases hreq : (osmoGsupConnRx lib.toGsupLib s.peers.gs conn l2).req with
      | some req => exact Or.inl ⟨req, conn, hconn, hreq⟩
      | none =>
          refine Or.inr ⟨fun env => by simp [handed, hconn, hreq], fun env myName =>
            ⟨{ s.peers with gs := (osmoGsupConnRx lib.toGsupLib s.peers.gs conn l2).server },
              (osmoGsupConnRx lib.toGsupLib s.peers.gs conn l2).sent, ?_⟩⟩
          simp only [apply, hconn, readCb, hreq]

/-- What comes of one input: requests are held or released. -/
structure Steps (lib : MainLib Ω) (s : Hlr) (input : Input lib) (res : Hlr × List Out) : Prop where
  tends : Tends lib s (· ∈ (handed lib (.ok s) input).map ReqPtr.ref) res
  new : ∀ ptr ∈ handed lib (.ok s) input, ptr.ref = s.allocs ∧ ptr.ref < res.1.allocs

/-- No request is handed over. -/
theorem Steps.of_none {input : Input lib} {res : Hlr × List Out}
    (hnone : handed lib (.ok s) input = []) (hres : Tends lib s (fun _ => False) res) :
    Steps lib s input res := by
  refine ⟨⟨hres.tidy, hres.allocs_le, hres.balanced.congr (fun n => ?_) fun _ => Iff.rfl⟩, ?_⟩
  · rw [hnone, List.map_nil]
    exact or_congr_right (iff_of_false List.not_mem_nil id)
  · rw [hnone]
    exact fun _ hptr => absurd hptr List.not_mem_nil

/-- **What D-GSM does when no request comes.** -/
theorem keepsNode_stepNode {n : Dgsm.Node} (hlinks : Dgsm.LinksDistinct lib.toProxyLib n.dgsm)
    (harmed : Dgsm.Armed lib.toProxyLib n.dgsm) {input : Dgsm.NodeInput}
    (hrx : ∀ req env timeout, input ≠ .rx req env timeout) :
    Dgsm.KeepsNode lib.toProxyLib [] n.dgsm (Dgsm.stepNode lib.toProxyLib n input) := by
  cases input with
  | rx req env timeout => exact absurd rfl (hrx req env timeout)
  | rxResult requestHandle result env => exact Dgsm.keeps_resultCbs env _ hlinks harmed
  | timeout ref env => exact Dgsm.keeps_resultCbs env _ hlinks harmed
  | methods lookupMethods => exact .refl hlinks harmed
  | other input =>
      cases input with
      | rx req env => exact .refl hlinks harmed
      | result query result env => exact .refl hlinks harmed
      | _ => exact Dgsm.keepsNode_onDgsm hlinks harmed _ rfl

/-- **What the LUs do when no message comes.** -/
theorem apply_lu (h : Tidy lib s) (myName : CStr) {input : LuFsm.Input}
    (hrx : ∀ req env, input ≠ .rxGsup req env) :
    ∃ res, apply lib myName s (.lu input) = .ok res ∧ Tends lib s (fun _ => False) res := by
  have happly : apply lib myName s (.lu input) =
      .ok (s.leaveLus (LuFsm.step lib.toGsupProtocol s.onHeapLus input)) := by
    cases input with
    | rxGsup req env => exact absurd rfl (hrx req env)
    | _ => rfl
  exact ⟨_, happly, tends_leaveLus h (fun _ hn => False.elim hn) (fun _ hn => False.elim hn)
    s.tables s.peers (LuFsm.step_leaves h.onHeapLus hrx)⟩

/-- **What supplementary services do when no message comes.** -/
theorem apply_ss (h : Tidy lib s) (myName : CStr) {input : Ussd.Input}
    (hrx : ∀ req env, input ≠ .rx req env) :
    ∃ res, apply lib myName s (.ss input) = .ok res ∧ Tends lib s (fun _ => False) res := by
  have hstores : Ussd.Stores s.onHeapSs := h.stores
  obtain ⟨next, out, hnext, hstores', hallocs, -, hbalanced⟩ :=
    Ussd.apply_settled lib.toSsLib hstores hrx
  have happly : apply lib myName s (.ss input) = .ok (s.leaveSs (next, out)) := by
    cases input with
    | rx req env => exact absurd rfl (hrx req env)
    | _ => simp only [apply, hnext]
  exact ⟨_, happly, tends_leaveSs h (fun _ hn => False.elim hn) (fun _ hn => False.elim hn)
    (Ussd.WellFormed.apply h.ss hnext) hstores' hallocs
    (hbalanced.congr (fun _ => or_iff_left id) fun _ => Iff.rfl)⟩

/-- **An input has requests held or released.** -/
theorem apply_steps (h : Tidy lib s) {input : Input lib}
    (hfrees : FreesRequest lib myName (.ok s) input) :
    ∃ res, apply lib myName s input = .ok res ∧ Steps lib s input res := by
  have hnothing : Tends lib s (fun _ => False) (s, []) := h.idle s.tables s.peers usesOf_nil
  cases input with
  | rx ref l2 env =>
      rcases comes_or lib s ref l2 with ⟨req, conn, hcomes⟩ | ⟨hnone, happly⟩
      · obtain ⟨hfits, hhandler⟩ := (freesRequest_of_comes env hcomes).1 hfrees
        obtain ⟨himsi, hcb⟩ := request_of_osmoGsupConnRx hcomes.request
        have hhanded := handed_of_comes env hcomes
        have happly := apply_of_comes env hcomes myName
        generalize (osmoGsupConnRx lib.toGsupLib s.peers.gs conn l2).server = server at happly
        obtain ⟨res, hres, htends⟩ := readCbReq_tends (h.withRequest server)
          (isNew_withRequest h server req) conn l2 himsi hcb hfits hhandler
        refine ⟨_, happly.trans (congrArg (Res.after _) hres), ?_, ?_⟩
        · rw [hhanded]
          exact tends_of_withRequest _ ⟨htends.tidy, htends.allocs_le,
            htends.balanced.congr (fun n => or_congr_right List.mem_singleton) fun _ => Iff.rfl⟩
        · rw [hhanded]
          intro ptr hptr
          obtain rfl := List.mem_singleton.1 hptr
          exact ⟨rfl, htends.allocs_le⟩
      · obtain ⟨peers, sent, hres⟩ := happly env myName
        exact ⟨_, hres, .of_none (hnone env) (h.idle s.tables peers fun n => usesOf_sent _ n)⟩
  | lu input =>
      by_cases hrx : ∃ req env, input = .rxGsup req env
      · obtain ⟨req, env, rfl⟩ := hrx
        exact ⟨_, rfl, .of_none rfl hnothing⟩
      · obtain ⟨res, hres, htends⟩ :=
          apply_lu h myName fun req env hinput => hrx ⟨req, env, hinput⟩
        exact ⟨res, hres, .of_none rfl htends⟩
  | ss input =>
      rcases input.rx_or with ⟨req, env, rfl⟩ | hrx
      · exact ⟨_, rfl, .of_none rfl hnothing⟩
      · obtain ⟨res, hres, htends⟩ := apply_ss h myName hrx
        exact ⟨res, hres, .of_none rfl htends⟩
  | dgsm env input =>
      simp only [apply]
      split
      · exact ⟨_, rfl, .of_none rfl hnothing⟩
      next hrx =>
          have hkeeps := keepsNode_stepNode h.links h.armed hrx
          exact ⟨_, rfl, .of_none rfl (tends_leaveNode h (fun _ hn => False.elim hn)
            (fun _ hn => False.elim hn) hkeeps (fun n => (iff_false_right List.not_mem_nil).2 id)
            List.nodup_nil)⟩
  | _ => exact ⟨_, rfl, .of_none rfl (h.idle s.tables _ usesOf_nil)⟩

/-- **Otherwise the process ends, or a request is neither held nor released.** -/
theorem apply_leaks (h : Tidy lib s) {input : Input lib}
    (hnot : ¬FreesRequest lib myName (.ok s) input) {res : Hlr × List Out}
    (hres : apply lib myName s input = .ok res) :
    Tends lib s (fun _ => False) res ∧ ∃ ptr, handed lib (.ok s) input = [ptr] ∧
      ptr.ref = s.allocs ∧ ptr.ref < res.1.allocs := by
  cases input with
  | rx ref l2 env =>
      rcases comes_or lib s ref l2 with ⟨req, conn, hcomes⟩ | ⟨hnone, -⟩
      · have happly := apply_of_comes env hcomes myName
        rw [freesRequest_of_comes env hcomes] at hnot
        rw [happly] at hres
        generalize (osmoGsupConnRx lib.toGsupLib s.peers.gs conn l2).server = server at hres
        obtain ⟨out, hrest, hout⟩ := Res.after_eq_ok hres
        have htends := readCbReq_leaks (h.withRequest server) conn l2 hnot hrest
        refine ⟨?_, ⟨s.allocs, req⟩, handed_of_comes env hcomes, rfl, htends.allocs_le⟩
        obtain ⟨s', out'⟩ := res
        subst hout
        exact tends_of_withRequest server htends
      · refine absurd ?_ hnot
        rintro ptr hptr
        rw [hnone env] at hptr
        cases hptr
  | _ => exact absurd trivial hnot

/-! ## Runs -/

/-- What the HLR has to do with requests. -/
def books (lib : MainLib Ω) : Books (Except Ended Hlr) (Input lib) Out ReqUse where
  isFree := ReqUse.isFree
  handed s input := (handed lib s input).map ReqPtr.ref
  held
    | .ok s => (· ∈ s.refs)
    | .error _ => fun _ => False
  next
    | .ok s => s.allocs
    | .error _ => 0
  uses := usesOf
  uses_nil := usesOf_nil
  uses_append := usesOf_append

/-- What is known of a run that goes on; requests that have leaked are out of sight. -/
structure Known (lib : MainLib Ω) (myName : CStr) (t : Tables) (seen : Nat → Prop)
    (inputs : List (Input lib)) (s : Hlr) : Prop where
  run : ((machine lib myName).run (.ok (Hlr.start t)) inputs).1 = .ok s
  tidy : Tidy lib s
  settled : (books lib).Settled (machine lib myName) seen (.ok (Hlr.start t)) inputs

section Runs

variable {t : Tables} {inputs : List (Input lib)} {input : Input lib} {seen : Nat → Prop}

theorem known_nil (lib : MainLib Ω) (myName : CStr) (t : Tables) :
    Known lib myName t (fun _ => False) [] (Hlr.start t) where
  run := rfl
  tidy := tidy_start lib t
  settled := Books.settled_nil fun n hn => by cases hn

theorem step_of_apply {res : Hlr × List Out} (hres : apply lib myName s input = .ok res) :
    (machine lib myName).step (.ok s) input = (.ok res.1, res.2) := by
  show step lib myName (.ok s) input = _
  simp only [step, hres]

theorem step_of_error {ended : Ended} (hres : apply lib myName s input = .error ended) :
    (machine lib myName).step (.ok s) input = (.error ended, []) := by
  show step lib myName (.ok s) input = _
  simp only [step, hres]

/-- **One more step.** -/
theorem Known.concat (h : Known lib myName t seen inputs s) {res : Hlr × List Out}
    (hres : apply lib myName s input = .ok res) (htends : Tends lib s new res)
    (hhanded : ∀ n, new n → n ∈ (handed lib (.ok s) input).map ReqPtr.ref)
    (hnew : ∀ ptr ∈ handed lib (.ok s) input, ptr.ref = s.allocs ∧ ptr.ref < res.1.allocs) :
    Known lib myName t (fun n => seen n ∨ new n) (inputs ++ [input]) res.1 := by
  have hstep := step_of_apply hres
  refine ⟨?_, htends.tidy, h.settled.concat ?_⟩
  · rw [Machine.run_concat, h.run, hstep]
  · rw [h.run]
    refine ⟨hhanded, fun n hn => ?_, ?_, ?_⟩
    · obtain ⟨ptr, hptr, rfl⟩ := List.mem_map.1 hn
      obtain ⟨href, hlt⟩ := hnew ptr hptr
      rw [hstep]
      exact ⟨Nat.le_of_eq href.symm, hlt⟩
    · rw [hstep]
      exact htends.allocs_le
    · rw [hstep]
      exact htends.balanced

/-- All requests of a run are in sight. -/
def AllKnown (lib : MainLib Ω) (myName : CStr) (t : Tables) (inputs : List (Input lib)) : Prop :=
  ∃ s seen, Known lib myName t seen inputs s ∧
    ∀ n ∈ (received lib myName t inputs).map ReqPtr.ref, seen n

theorem allKnown_nil (lib : MainLib Ω) (myName : CStr) (t : Tables) : AllKnown lib myName t [] :=
  ⟨_, _, known_nil lib myName t, fun _ hn => by cases hn⟩

theorem AllKnown.concat (h : AllKnown lib myName t inputs)
    (hfrees : FreesRequest lib myName
      ((machine lib myName).run (.ok (Hlr.start t)) inputs).1 input) :
    AllKnown lib myName t (inputs ++ [input]) := by
  obtain ⟨s, seen, hknown, hall⟩ := h
  rw [hknown.run] at hfrees
  obtain ⟨res, hres, hsteps⟩ := apply_steps hknown.tidy hfrees
  refine ⟨_, _, hknown.concat hres hsteps.tends (fun _ hn => hn) hsteps.new, fun n hn => ?_⟩
  rw [received, Machine.view_concat, hknown.run, List.map_append] at hn
  exact (List.mem_append.1 hn).imp_left (hall n)

/-- What is in sight is owned once. -/
theorem AllKnown.requestsOwned (h : AllKnown lib myName t inputs) :
    RequestsOwned lib myName t inputs := by
  obtain ⟨s, seen, ⟨hs, htidy, hsettled⟩, hall⟩ := h
  have hbalanced := hsettled.balanced
  rcases hrun : (machine lib myName).run (.ok (Hlr.start t)) inputs with ⟨s', out⟩
  rw [hrun] at hs hbalanced
  obtain rfl : s' = .ok s := hs
  rw [RequestsOwned, hrun]
  intro ptr hptr
  rw [OwnedOnce, htidy.map_ref]
  rcases (hbalanced ptr.ref).1 (hall _ (List.mem_map_of_mem hptr)) with
    ⟨hheld, hkept⟩ | ⟨hgone, hreleased⟩
  · exact Or.inl ⟨List.count_eq_one_of_mem htidy.refs_nodup hheld, hkept⟩
  · exact Or.inr ⟨hgone, hreleased⟩

/-- A request that has just come is neither held nor used yet. -/
theorem Known.notMem (h : Known lib myName t seen inputs s) (hptr : ptr.ref = s.allocs) :
    ptr.ref ∉ s.refs ∧
      usesOf ((machine lib myName).run (.ok (Hlr.start t)) inputs).2 ptr.ref = [] := by
  have hlt := h.settled.lt_next ptr.ref
  rw [h.run] at hlt
  refine ⟨fun hmem => Nat.lt_irrefl _ (hptr ▸ h.tidy.ref_lt ptr.ref hmem), ?_⟩
  exact h.settled.balanced.quiet fun hseen =>
    Nat.lt_irrefl _ (hptr ▸ hlt (h.settled.handed _ hseen))

/-- **A step that leaks a request leaves it without an owner.** -/
theorem AllKnown.freesRequest (h : AllKnown lib myName t inputs)
    (howned : RequestsOwned lib myName t (inputs ++ [input])) :
    FreesRequest lib myName ((machine lib myName).run (.ok (Hlr.start t)) inputs).1 input := by
  obtain ⟨s, seen, hknown, -⟩ := h
  rw [hknown.run]
  by_contra hnot
  rw [RequestsOwned, Machine.run_concat, hknown.run] at howned
  cases hres : apply lib myName s input with
  | error ended =>
      rw [step_of_error hres] at howned
      exact howned
  | ok res =>
      obtain ⟨htends, ptr, hhanded, href, -⟩ := apply_leaks hknown.tidy hnot hres
      rw [step_of_apply hres] at howned
      have hreceived : ptr ∈ received lib myName t (inputs ++ [input]) := by
        rw [received, Machine.view_concat, hknown.run, hhanded]
        exact List.mem_append_right _ (List.mem_singleton_self ptr)
      obtain ⟨hnew, hquiet⟩ := hknown.notMem href
      have hdead : ¬(ptr.ref ∈ s.refs ∨ False) := fun hor => hnew (or_iff_left id |>.1 hor)
      rcases howned ptr hreceived with ⟨hcount, -⟩ | ⟨-, hreleased⟩
      · rw [htends.tidy.map_ref] at hcount
        have hmem : ptr.ref ∈ res.1.refs := List.count_pos_iff.1 (by omega)
        exact hdead (htends.balanced.live_of_held hmem)
      · rw [usesOf_append, hquiet, htends.balanced.quiet hdead] at hreleased
        exact released_nil hreleased

end Runs

/-- **All along a run of the HLR, every request is held once, by an LU, a session or the queue of the
proxy, or has been freed once, as the last that was done with it, exactly as long as there is room
for all messages that are forwarded to other peers, and of those that are left here none is an
error of supplementary services, an END for an unknown session or an Insert Data Error for an
LU, and none uses a handler that is not there.** -/
theorem requests_accounted_iff (lib : MainLib Ω) (myName : CStr) (t : Tables)
    (inputs : List (Input lib)) :
    (∀ pre, pre <+: inputs → RequestsOwned lib myName t pre) ↔
      (machine lib myName).Guarded (FreesRequest lib myName) (.ok (Hlr.start t)) inputs :=
  (machine lib myName).forall_prefix_iff_guarded_of (P := AllKnown lib myName t)
    (allKnown_nil lib myName t) (fun _ h => h.requestsOwned) (fun _ _ h hfrees => h.concat hfrees)
    (fun _ _ h howned => h.freesRequest howned) inputs

/-! ## Whatever comes -/

/-- Nothing is done with a request after it was freed; it is held at most once, and only if it has
not been freed. -/
structure NeverAfterFree (s : Except Ended Hlr) (ref : Nat) (uses : List ReqUse) : Prop where
  kept_or_released : Kept ReqUse.isFree uses ∨ Released ReqUse.isFree uses
  held : ∀ hlr, s = .ok hlr → (hlr.requests.map ReqPtr.ref).count ref ≤ 1 ∧
    (ref ∈ hlr.requests.map ReqPtr.ref → Kept ReqUse.isFree uses)

/-- A run goes on, or its outputs are those of a run that did. -/
theorem known_or_ended (lib : MainLib Ω) (myName : CStr) (t : Tables) (inputs : List (Input lib)) :
    (∃ s seen, Known lib myName t seen inputs s) ∨
      ∃ ended pre s seen, Known lib myName t seen pre s ∧
        (machine lib myName).run (.ok (Hlr.start t)) inputs =
          (.error ended, ((machine lib myName).run (.ok (Hlr.start t)) pre).2) := by
  induction inputs using List.reverseRecOn with
  | nil => exact Or.inl ⟨_, _, known_nil lib myName t⟩
  | append_singleton inputs input ih =>
      rcases ih with ⟨s, seen, hknown⟩ | ⟨ended, pre, s, seen, hknown, hrun⟩
      · cases hres : apply lib myName s input with
        | error ended =>
            refine Or.inr ⟨ended, inputs, s, seen, hknown, ?_⟩
            rw [Machine.run_concat, hknown.run, step_of_error hres, List.append_nil]
        | ok res =>
            left
            by_cases hfrees : FreesRequest lib myName (.ok s) input
            · obtain ⟨res', hres', hsteps⟩ := apply_steps hknown.tidy hfrees
              obtain rfl := Except.ok.inj (hres'.symm.trans hres)
              exact ⟨_, _, hknown.concat hres hsteps.tends (fun _ hn => hn) hsteps.new⟩
            · obtain ⟨htends, ptr, hhanded, hnew⟩ := apply_leaks hknown.tidy hfrees hres
              refine ⟨_, _, hknown.concat hres htends (fun _ hn => hn.elim) fun p hp => ?_⟩
              rw [hhanded] at hp
              exact List.mem_singleton.1 hp ▸ hnew
      · refine Or.inr ⟨ended, pre, s, seen, hknown, ?_⟩
        rw [Machine.run_concat, hrun]
        exact congrArg (Prod.mk _) (List.append_nil _)

/-- What is done with a request keeps it or releases it. -/
theorem kept_or_released_run (lib : MainLib Ω) (myName : CStr) (t : Tables)
    (inputs : List (Input lib)) (ref : Nat) :
    Kept ReqUse.isFree (usesOf ((machine lib myName).run (.ok (Hlr.start t)) inputs).2 ref) ∨
      Released ReqUse.isFree
        (usesOf ((machine lib myName).run (.ok (Hlr.start t)) inputs).2 ref) := by
  rcases known_or_ended lib myName t inputs with
    ⟨s, seen, hknown⟩ | ⟨ended, pre, s, seen, hknown, hrun⟩
  · exact hknown.settled.kept_or_released ref
  · rw [hrun]
    exact hknown.settled.kept_or_released ref

/-- **Whatever comes, no request is used after it was freed, freed twice, held twice, or held after
it was freed.** -/
theorem never_after_free (lib : MainLib Ω) (myName : CStr) (t : Tables) (inputs : List (Input lib))
    (ref : Nat) :
    NeverAfterFree ((machine lib myName).run (.ok (Hlr.start t)) inputs).1 ref
      (usesOf ((machine lib myName).run (.ok (Hlr.start t)) inputs).2 ref) := by
  refine ⟨kept_or_released_run lib myName t inputs ref, fun hlr hs => ?_⟩
  rcases known_or_ended lib myName t inputs with
    ⟨s, seen, hknown⟩ | ⟨ended, pre, s, seen, hknown, hrun⟩
  · obtain rfl : s = hlr := Except.ok.inj (hknown.run.symm.trans hs)
    rw [hknown.tidy.map_ref]
    refine ⟨List.nodup_iff_count_le_one.1 hknown.tidy.refs_nodup ref, fun hmem => ?_⟩
    refine hknown.settled.kept_of_held ?_
    rw [hknown.run]
    exact hmem
  · rw [hrun] at hs
    cases hs

end Main
end OsmoHlr
