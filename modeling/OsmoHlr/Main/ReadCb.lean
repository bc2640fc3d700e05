import OsmoHlr.Dgsm.CheckForward
import OsmoHlr.Dgsm.ForwardSize
import OsmoHlr.Main.Handlers
import OsmoHlr.UpdateNotify
import OsmoHlr.Ussd.SsRequests

/-!
# The HLR as a whole

`read_cb` of `src/hlr.c`, and all that happens between two messages: connections come and go,
timers expire, lookups have results.  A message goes to another peer, to the home HLR of its
subscriber by way of D-GSM, or to the handler for its type.

There is one heap: what a part allocates is counted for all of them.  Log messages are left out,
and so are commands that change subscribers.  What the proxy sends to remote HLRs is taken to fit;
see `Dgsm.remoteHlrForward_fits_iff`.

* `readCb` — one message.
* `machine` — everything, one after the other; it ends with a message for which there is no room,
  or with what is undefined.
-/

namespace OsmoHlr
namespace Main

open CString CniPeerId Gsup Db Auc

/-! ## State -/

/-- `g_hlr`, `lu_global` and `remote_hlrs`. -/
structure Hlr where
  tables : Tables
  /-- `g_hlr->gs` -/
  peers : UpdateNotify.Peers
  lus : LuFsm.AllLu
  ss : Ussd.Hlr
  /-- D-GSM and its client. -/
  node : Dgsm.Node
  /-- How many allocations there have been. -/
  allocs : Nat

/-- The state in which `main` leaves it, with the tables of a database. -/
def Hlr.start (t : Tables) : Hlr where
  tables := t
  peers := UpdateNotify.Peers.start
  lus := LuFsm.AllLu.init
  ss := Ussd.Hlr.init
  node := Dgsm.Node.init []
  allocs := 0

/-- What ends the process, or the meaning of it. -/
inductive Ended where
  | aborted (abort : Dgsm.Abort)
  | undefined (fault : Ussd.Fault)
  deriving DecidableEq

/-- What is put out. -/
inductive Out where
  | sent (sent : Sent)
  /-- What happens to a request. -/
  | req (event : ReqEvent)
  /-- The vectors for an IMSI that go with the response to a request. -/
  | authVectors (ref : Nat) (imsi : CStr) (vectors : List AuthVector)
  | lu (out : LuFsm.Out)
  | ss (out : Ussd.Out)
  | dgsm (out : Dgsm.Out)

/-- What an operation comes to. -/
abbrev Res := Except Ended (Hlr × List Out)

/-- What happens to a request. -/
def reqOut (ptr : ReqPtr) (calls : List ReqCall) : List Out := (ptr.events calls).map Out.req

variable {Ω : Type} (lib : MainLib Ω)

/-- What is around when something happens to D-GSM. -/
structure DgsmEnv where
  now : Int
  /-- What goes wrong with `db_subscr_exists_by_imsi`. -/
  existsByImsi : CodedFaults
  /-- `g_hlr->mslookup.client.gsup_gateway_proxy` -/
  gsupGatewayProxy : SockaddrStr
  /-- `g_hlr->mslookup.client.result_timeout_milliseconds` -/
  resultTimeoutMilliseconds : UInt32
  /-- Whether `osmo_gsup_client_create3` gives a client for an address. -/
  gsupClientCreate3 : SockaddrStr → Bool

/-- What is around when a message comes in. -/
structure RxEnv where
  /-- What is configured by then. -/
  config : Config lib.toLibosmocore
  dgsm : DgsmEnv
  sai : SaiEnv Ω
  onDemand : OnDemandEnv
  lu : LuEnv
  /-- What goes wrong with `db_subscr_purge`. -/
  purge : Faults
  checkImei : CheckImeiEnv
  /-- What goes wrong with `db_subscr_get_by_imsi` for supplementary services. -/
  ssGet : Faults

/-- `conn->peer_name` -/
def Hlr.peerName (s : Hlr) (ref : Nat) : IpaName :=
  ((s.peers.gs.lookup ref).map Conn.peerName).getD IpaName.zero

/-- What D-GSM sees.  It is not asked for what the client does. -/
def Hlr.dgsmEnv (s : Hlr) (env : DgsmEnv) : Dgsm.Env where
  now := env.now
  routes := s.peers.gs.routes
  peerName := s.peerName
  dbSubscrExistsByImsi := dbSubscrExistsByImsi env.existsByImsi s.tables
  gsupGatewayProxy := env.gsupGatewayProxy
  mslookupClientActive := Dgsm.clientActive s.node.client
  mslookupClientRequest _ := 0
  gsupClientCreate3 := env.gsupClientCreate3

/-- What supplementary services see. -/
def Hlr.ssEnv (s : Hlr) (get : Faults) : Ussd.Env := ⟨s.peers.gs.routes, dbGet lib get s.tables⟩

/-! ## Parts, and the heap -/

/-- The LUs, as they allocate next. -/
def Hlr.onHeapLus (s : Hlr) : LuFsm.AllLu := { s.lus with received := s.allocs }

/-- Supplementary services, as they allocate next. -/
def Hlr.onHeapSs (s : Hlr) : Ussd.Hlr := { s.ss with allocs := s.allocs }

/-- D-GSM, as it allocates next. -/
def Hlr.onHeapNode (s : Hlr) : Dgsm.Node :=
  { s.node with dgsm := { s.node.dgsm with allocs := s.allocs } }

/-- What the LUs leave; they allocate nothing but what they are handed. -/
def Hlr.leaveLus (s : Hlr) (res : LuFsm.AllLu × List LuFsm.Out) : Hlr × List Out :=
  ({ s with lus := res.1 }, res.2.map Out.lu)

/-- What supplementary services leave. -/
def Hlr.leaveSs (s : Hlr) (res : Ussd.Hlr × List Ussd.Out) : Hlr × List Out :=
  ({ s with ss := res.1, allocs := res.1.allocs }, res.2.map Out.ss)

/-- What D-GSM leaves. -/
def Hlr.leaveNode (s : Hlr) (res : Dgsm.Node × List Dgsm.Out) : Hlr × List Out :=
  ({ s with node := res.1, allocs := res.1.dgsm.allocs }, res.2.map Out.dgsm)

/-! ## Handlers -/

/-- What `read_cb` does with a message for this HLR. -/
inductive Handler where
  | rxSendAuthInfo
  | rxUpdLocReq
  | rxPurgeMsReq
  | rxProcSsReq
  | rxProcSsError
  | luRxGsup
  | rxCheckImeiReq
  /-- The message is only freed. -/
  | osmoGsupReqFree
  deriving DecidableEq

/-- The `switch` of `read_cb`. -/
def handlerOf (messageType : UInt8) : Handler :=
  if messageType = lib.msgt .sendAuthInfo .request then .rxSendAuthInfo
  else if messageType = lib.msgt .updateLocation .request then .rxUpdLocReq
  else if messageType = lib.msgt .purgeMs .request then .rxPurgeMsReq
  else if messageType = lib.msgt .deleteData .error then .osmoGsupReqFree
  else if messageType = lib.msgt .deleteData .result then .osmoGsupReqFree
  else if messageType = lib.msgt .procSs .request ∨ messageType = lib.msgt .procSs .result then
    .rxProcSsReq
  else if messageType = lib.msgt .procSs .error then .rxProcSsError
  else if messageType = lib.msgt .insertData .error ∨
      messageType = lib.msgt .insertData .result ∨
      messageType = lib.msgt .locationCancel .error ∨
      messageType = lib.msgt .locationCancel .result then .luRxGsup
  else if messageType = lib.msgt .checkImei .request then .rxCheckImeiReq
  else .osmoGsupReqFree

/-- What the handler does that a message goes to. -/
def handle (env : RxEnv lib) (s : Hlr) (conn : Conn) (ptr : ReqPtr) (ies : Ies) : Res :=
  match handlerOf lib ptr.req.gsup.messageType with
  | .rxSendAuthInfo =>
      let sai := rxSendAuthInfo lib env.config env.sai s.tables (UInt32.ofNat conn.auc3gInd)
        ptr.req ies
      .ok ({ s with tables := sai.tables },
        .authVectors ptr.ref ptr.req.gsup.imsi sai.vectors :: reqOut ptr sai.calls)
  | .rxUpdLocReq =>
      let t := (subscrCreateOnDemand lib.toDbLib env.config.toOnDemand env.onDemand s.tables
        ptr.req.gsup.imsi).2
      let started := luRxGsup lib env.lu t s.onHeapLus ptr
      .ok (Hlr.leaveLus
        { s with
          tables := started.1
          peers := UpdateNotify.rxUpdLocReq s.peers conn ptr.req.gsup.cnDomain } started.2)
  | .rxPurgeMsReq =>
      let purged := rxPurgeMsReq lib env.purge s.tables ptr.req
      .ok ({ s with tables := purged.1 }, reqOut ptr purged.2)
  | .rxProcSsReq =>
      match Ussd.rxProcSsReq lib.toSsLib (s.ssEnv lib env.ssGet) s.onHeapSs ptr with
      | .error fault => .error (.undefined fault)
      | .ok res => .ok (s.leaveSs res)
  | .rxProcSsError =>
      let res := Ussd.rxProcSsError s.onHeapSs ptr
      .ok (s.leaveSs res)
  | .luRxGsup =>
      let received := luRxGsup lib env.lu s.tables s.onHeapLus ptr
      .ok (Hlr.leaveLus { s with tables := received.1 } received.2)
  | .rxCheckImeiReq =>
      let checked := rxCheckImeiReq lib env.config env.checkImei s.tables ptr.req ies
      .ok ({ s with tables := checked.1 }, reqOut ptr checked.2)
  | .osmoGsupReqFree => .ok (s, reqOut ptr [.free ptr.req])

/-- What comes after what has been put out. -/
def Res.after (out : List Out) (res : Res) : Res := res.map fun r => (r.1, out ++ r.2)

/-- The part of `read_cb` from D-GSM on. -/
def readCbHere (env : RxEnv lib) (s : Hlr) (conn : Conn) (ptr : ReqPtr) (ies : Ies) : Res :=
  if Dgsm.clientActive s.node.client ∨
      lib.sockaddrStrIsNonzero env.dgsm.gsupGatewayProxy then
    let checked := s.onHeapNode.dgsmCheckForwardGsupMsg lib.toProxyLib (s.dgsmEnv env.dgsm)
      env.dgsm.resultTimeoutMilliseconds ptr
    let left := s.leaveNode checked.2
    if checked.1 then .ok left else (handle lib env left.1 conn ptr ies).after left.2
  else handle lib env s conn ptr ies

/-- The part of `read_cb` from the Destination Name IE on.  The name of this HLR is given. -/
def readCbReq (myName : CStr) (env : RxEnv lib) (s : Hlr) (conn : Conn) (ptr : ReqPtr)
    (l2 : List UInt8) : Res :=
  match Dgsm.readCbDestination lib.toGsupLib (ipaNameSetStr myName) s.peers.gs.routes ptr.req l2 with
  | .error abort => .error (.aborted abort)
  | .ok (some (_, sent, calls)) => .ok (s, sent.map Out.sent ++ reqOut ptr calls)
  | .ok none => readCbHere lib env s conn ptr (lib.ies l2)

/-- `read_cb` -/
def readCb (myName : CStr) (env : RxEnv lib) (s : Hlr) (conn : Conn) (l2 : List UInt8) : Res :=
  let rx := osmoGsupConnRx lib.toGsupLib s.peers.gs conn l2
  let s := { s with peers := { s.peers with gs := rx.server } }
  match rx.req with
  | none => .ok (s, rx.sent.map Out.sent)
  | some req =>
      (readCbReq lib myName env { s with allocs := s.allocs + 1 } conn ⟨s.allocs, req⟩ l2).after
        (rx.sent.map Out.sent)

/-! ## The machine -/

/-- What may happen. -/
inductive Input where
  | accept
  | ccm (ref : Nat) (sernr : Option (List UInt8))
  | closed (ref : Nat)
  /-- A message comes over a connection. -/
  | rx (ref : Nat) (l2 : List UInt8) (env : RxEnv lib)
  /-- A timer of an LU expires, or it is terminated. -/
  | lu (input : LuFsm.Input)
  /-- A timer of a session expires, or there is a command. -/
  | ss (input : Ussd.Input)
  /-- A lookup has a result, a link comes up or has a message and the like. -/
  | dgsm (env : DgsmEnv) (input : Dgsm.Env → Dgsm.NodeInput)

/-- A message to the server that is not one for `read_cb`. -/
def Hlr.server (s : Hlr) (action : Action) : Hlr :=
  { s with peers := (UpdateNotify.step lib.toGsupProtocol s.peers (.gsup action)).1 }

/-- One of them.  Messages come as `rx` only; nothing comes over a connection that is not open. -/
def apply (myName : CStr) (s : Hlr) : Input lib → Res
  | .accept => .ok (s.server lib .accept, [])
  | .ccm ref sernr => .ok (s.server lib (.ccm ref sernr), [])
  | .closed ref => .ok (s.server lib (.closed ref), [])
  | .rx ref l2 env =>
      match s.peers.gs.lookup ref with
      | none => .ok (s, [])
      | some conn => readCb lib myName env s conn l2
  | .lu (.rxGsup _ _) => .ok (s, [])
  | .lu input => .ok (s.leaveLus (LuFsm.step lib.toGsupProtocol s.onHeapLus input))
  | .ss (.rx _ _) => .ok (s, [])
  | .ss input =>
      match Ussd.apply lib.toSsLib s.onHeapSs input with
      | .error fault => .error (.undefined fault)
      | .ok res => .ok (s.leaveSs res)
  | .dgsm env input =>
      match input (s.dgsmEnv env) with
      | .rx _ _ _ => .ok (s, [])
      | input => .ok (s.leaveNode (Dgsm.stepNode lib.toProxyLib s.onHeapNode input))

/-- One of them, unless it has ended before. -/
def step (myName : CStr) (s : Except Ended Hlr) (input : Input lib) :
    Except Ended Hlr × List Out :=
  match s with
  | .error ended => (.error ended, [])
  | .ok s =>
      match apply lib myName s input with
      | .error ended => (.error ended, [])
      | .ok (s, out) => (.ok s, out)

/-- The HLR as a machine. -/
def machine (myName : CStr) : Machine (Except Ended Hlr) (Input lib) Out := ⟨step lib myName⟩

/-! ## What a step can do -/

/-- The vectors that go with responses for an IMSI. -/
def vectorsOf (imsi : CStr) (out : List Out) : List AuthVector :=
  out.flatMap fun
    | .authVectors _ i vectors => if i = imsi then vectors else []
    | _ => []

theorem vectorsOf_append (imsi : CStr) (out out' : List Out) :
    vectorsOf imsi (out ++ out') = vectorsOf imsi out ++ vectorsOf imsi out' := List.flatMap_append

/-- No vectors are put out. -/
def NoVectors (out : List Out) : Prop := ∀ imsi, vectorsOf imsi out = []

theorem noVectors_map {α : Type} {f : α → Out} (h : ∀ x ref imsi vs, f x ≠ .authVectors ref imsi vs)
    (l : List α) : NoVectors (l.map f) := by
  intro imsi
  refine List.flatMap_eq_nil_iff.2 fun o ho => ?_
  obtain ⟨x, -, rfl⟩ := List.mem_map.1 ho
  cases hx : f x with
  | authVectors ref i vs => exact absurd hx (h x ref i vs)
  | _ => rfl

theorem noVectors_reqOut (ptr : ReqPtr) (calls : List ReqCall) : NoVectors (reqOut ptr calls) :=
  noVectors_map (fun _ _ _ _ h => by cases h) _

theorem noVectors_lu (out : List LuFsm.Out) : NoVectors (out.map Out.lu) :=
  noVectors_map (fun _ _ _ _ h => by cases h) _

theorem noVectors_ss (out : List Ussd.Out) : NoVectors (out.map Out.ss) :=
  noVectors_map (fun _ _ _ _ h => by cases h) _

theorem noVectors_dgsm (out : List Dgsm.Out) : NoVectors (out.map Out.dgsm) :=
  noVectors_map (fun _ _ _ _ h => by cases h) _

theorem noVectors_sent (out : List Sent) : NoVectors (out.map Out.sent) :=
  noVectors_map (fun _ _ _ _ h => by cases h) _

variable {lib} {myName : CStr} {env : RxEnv lib} {s s' : Hlr} {conn : Conn} {ptr : ReqPtr}
  {l2 : List UInt8} {ies : Ies} {out : List Out}

theorem NoVectors.append {out' : List Out} (h : NoVectors out) (h' : NoVectors out') :
    NoVectors (out ++ out') := by
  intro imsi
  rw [vectorsOf_append, h imsi, h' imsi, List.append_nil]

theorem Res.after_eq_ok {res : Res} {r : Hlr × List Out} (h : res.after out = .ok r) :
    ∃ out', res = .ok (r.1, out') ∧ r.2 = out ++ out' := by
  obtain ⟨⟨s, out'⟩, hres, rfl⟩ := Except.map_eq_ok.1 h
  exact ⟨out', hres, rfl⟩

/-- A message goes to its handler, in a state with the same tables. -/
structure Handles (lib : MainLib Ω) (env : RxEnv lib) (s s' : Hlr) (conn : Conn) (ptr : ReqPtr)
    (ies : Ies) (out : List Out) : Prop where
  handled : ∃ mid pre post, mid.tables = s.tables ∧ NoVectors pre ∧ out = pre ++ post ∧
    handle lib env mid conn ptr ies = .ok (s', post)

/-- Tables stay, and there are no vectors. -/
structure Leaves (s s' : Hlr) (out : List Out) : Prop where
  tables : s'.tables = s.tables
  vectors : NoVectors out

theorem readCbHere_cases (h : readCbHere lib env s conn ptr ies = .ok (s', out)) :
    Leaves s s' out ∨ Handles lib env s s' conn ptr ies out := by
  unfold readCbHere at h
  split at h
  · simp only at h
    split at h
    · cases h
      exact Or.inl ⟨rfl, noVectors_dgsm _⟩
    · obtain ⟨post, hhandle, hout⟩ := Res.after_eq_ok h
      refine Or.inr ⟨_, _, post, ?_, noVectors_dgsm _, hout, hhandle⟩
      rfl
  · exact Or.inr ⟨s, [], out, rfl, fun _ => rfl, rfl, h⟩

theorem readCbReq_cases (h : readCbReq lib myName env s conn ptr l2 = .ok (s', out)) :
    Leaves s s' out ∨ Handles lib env s s' conn ptr (lib.ies l2) out := by
  unfold readCbReq at h
  split at h
  · cases h
  · cases h
    exact Or.inl ⟨rfl, (noVectors_sent _).append (noVectors_reqOut ptr _)⟩
  · exact readCbHere_cases h

/-- **Only a message that is handled here changes tables or is answered with vectors.** -/
theorem apply_cases {input : Input lib} (h : apply lib myName s input = .ok (s', out)) :
    Leaves s s' out ∨
      ∃ ref l2 env conn req, input = .rx ref l2 env ∧ s.peers.gs.lookup ref = some conn ∧
        (osmoGsupConnRx lib.toGsupLib s.peers.gs conn l2).req = some req ∧
        Handles lib env s s' conn ⟨s.allocs, req⟩ (lib.ies l2) out := by
  cases input with
  | rx ref l2 env =>
      simp only [apply] at h
      split at h
      · cases h
        exact Or.inl ⟨rfl, fun _ => rfl⟩
      next conn hconn =>
          unfold readCb at h
          simp only at h
          split at h
          · cases h
            exact Or.inl ⟨rfl, noVectors_sent _⟩
          next req hreq =>
              obtain ⟨rest, hrx, rfl⟩ := Res.after_eq_ok h
              have hsent := noVectors_sent (osmoGsupConnRx lib.toGsupLib s.peers.gs conn l2).sent
              rcases readCbReq_cases hrx with ⟨htables, hvectors⟩ |
                ⟨mid, pre, post, hmid, hpre, hout, hhandle⟩
              · exact Or.inl ⟨htables, hsent.append hvectors⟩
              · refine Or.inr ⟨ref, l2, env, conn, req, rfl, hconn, hreq, mid, _, post, hmid,
                  hsent.append hpre, ?_, hhandle⟩
                have hout : rest = pre ++ post := hout
                rw [hout, List.append_assoc]
  | lu input =>
      left
      cases input with
      | rxGsup req env =>
          cases h
          exact ⟨rfl, fun _ => rfl⟩
      | _ =>
          cases h
          exact ⟨rfl, noVectors_lu _⟩
  | ss input =>
      left
      cases input with
      | rx req env =>
          cases h
          exact ⟨rfl, fun _ => rfl⟩
      | _ =>
          simp only [apply] at h
          split at h
          · cases h
          · cases h
            exact ⟨rfl, noVectors_ss _⟩
  | dgsm env input =>
      left
      simp only [apply] at h
      split at h
      · cases h
        exact ⟨rfl, fun _ => rfl⟩
      · cases h
        exact ⟨rfl, noVectors_dgsm _⟩
  | _ =>
      cases h
      exact Or.inl ⟨rfl, fun _ => rfl⟩

/-- A run that has not ended has not ended before. -/
theorem step_eq_ok {input : Input lib} {s₀ : Except Ended Hlr}
    (h : (step lib myName s₀ input).1 = .ok s') :
    ∃ s out, s₀ = .ok s ∧ apply lib myName s input = .ok (s', out) ∧
      (step lib myName s₀ input).2 = out := by
  unfold step at h ⊢
  split at h
  · cases h
  next s =>
      cases happly : apply lib myName s input with
      | error ended => simp [happly] at h
      | ok res =>
          simp only [happly] at h ⊢
          cases h
          exact ⟨s, res.2, rfl, happly, rfl⟩

end Main
end OsmoHlr
