import OsmoHlr.Gsup.Req
import OsmoHlr.Gsup.Router
import OsmoHlr.Lib.Machine

/-!
# The GSUP server

`src/gsup_server.c`: connections are accepted, say who they are (CCM), send GSUP
messages and are closed, in any order.  A message on its way out is the GSUP
message itself, without the IPA headers in front of it.

* `osmoGsupConnRx`, `gsupServerSendReqResponse` — requests come in, responses go
  out.
* `machine` — all that can happen to the server, one event after the other.
* `WellFormed` — what holds between two events, for any run (`wellFormed_run`).
-/

namespace OsmoHlr
namespace Gsup

open CniPeerId

/-- `struct osmo_gsup_conn` -/
structure Conn where
  /-- Which allocation the record is. -/
  ref : Nat
  /-- The `IPAC_IDTAG_SERNR` entry of `ccm`. -/
  ccmSernr : Option (List UInt8)
  auc3gInd : Nat
  peerName : IpaName
  deriving DecidableEq

/-- `struct osmo_gsup_server` -/
structure GsupServer where
  clients : List Conn
  routes : RouteTable
  /-- How many connections have been allocated. -/
  accepted : Nat

/-- `osmo_gsup_server_create` -/
def GsupServer.create : GsupServer := ⟨[], RouteTable.empty, 0⟩

/-- A GSUP message that is sent over a connection. -/
structure Sent where
  conn : Nat
  msg : List UInt8
  deriving DecidableEq

/-- The connection with the given address, if it is open. -/
def GsupServer.lookup (server : GsupServer) (ref : Nat) : Option Conn :=
  Keyed.find Conn.ref server.clients ref

/-- Whether the connection with the given address is open. -/
def GsupServer.Open (server : GsupServer) (ref : Nat) : Prop :=
  ∃ conn ∈ server.clients, conn.ref = ref

instance (server : GsupServer) (ref : Nat) : Decidable (server.Open ref) :=
  inferInstanceAs (Decidable (∃ conn ∈ server.clients, conn.ref = ref))

/-- `gsup_route_add` of a connection of the server. -/
def GsupServer.addRoute (server : GsupServer) (ref : Nat) (addr : List UInt8) : GsupServer :=
  { server with routes := (gsupRouteAdd server.routes ref addr).2 }

/-- Writing to a connection of the server. -/
def GsupServer.setConn (server : GsupServer) (conn : Conn) : GsupServer :=
  { server with clients := Keyed.set Conn.ref server.clients conn }

/-! ## Connections come and go -/

/-- The search for a gap behind `prevConn`, the first of the clients that are given. -/
def addConnBehind (conn prevConn : Conn) : List Conn → List Conn
  | [] => [prevConn, { conn with auc3gInd := prevConn.auc3gInd + 1 }]
  | c :: clients =>
      if c.auc3gInd > prevConn.auc3gInd + 1 then
        prevConn :: { conn with auc3gInd := prevConn.auc3gInd + 1 } :: c :: clients
      else prevConn :: addConnBehind conn c clients

/-- `osmo_gsup_server_add_conn` -/
def osmoGsupServerAddConn (clients : List Conn) (conn : Conn) : List Conn :=
  match clients with
  | [] => [{ conn with auc3gInd := 0 }]
  | c :: rest =>
      if c.auc3gInd > 0 then { conn with auc3gInd := 0 } :: clients
      else addConnBehind conn c rest

/-- `osmo_gsup_server_accept_cb` -/
def osmoGsupServerAcceptCb (server : GsupServer) : GsupServer :=
  { server with
    clients := osmoGsupServerAddConn server.clients ⟨server.accepted, none, 0, IpaName.zero⟩
    accepted := server.accepted + 1 }

/-- `clnt` with the name that it identifies itself by. -/
def Conn.setPeerName (clnt : Conn) (addr : List UInt8) : Conn :=
  { clnt with ccmSernr := some addr, peerName := (ipaNameSet clnt.peerName addr).2 }

@[simp] theorem Conn.ref_setPeerName (clnt : Conn) (addr : List UInt8) :
    (clnt.setPeerName addr).ref = clnt.ref := rfl

/-- `osmo_gsup_server_ccm_cb`, by the `IPAC_IDTAG_SERNR` of the message.  The return code of
`gsup_route_add_ipa_name` is dropped. -/
def osmoGsupServerCcmCb (server : GsupServer) (clnt : Conn) (sernr : Option (List UInt8)) :
    Int × GsupServer :=
  match sernr with
  | none => (einval, server.setConn { clnt with ccmSernr := none })
  | some addr =>
      if addr = [] then (einval, server.setConn { clnt with ccmSernr := some [] })
      else
        let clnt := clnt.setPeerName addr
        (0, (server.setConn clnt).addRoute clnt.ref clnt.peerName.val)

/-- `osmo_gsup_conn_free` -/
def osmoGsupConnFree (server : GsupServer) (conn : Conn) : GsupServer :=
  { server with
    clients := Keyed.remove Conn.ref server.clients conn.ref
    routes := (gsupRouteDelConn server.routes conn.ref).2 }

/-! ## Requests and responses -/

variable (lib : GsupLib)

/-- The peer that `gsup_server_send_req_response` sends to. -/
def responseRouting (req : GsupReq) (response : GsupMessage) : PeerId :=
  if response.messageType = lib.msgtRoutingError ∧ ¬cniPeerIdIsEmpty req.viaProxy then req.viaProxy
  else req.sourceName

/-- The connection that `gsup_server_send_req_response` finds for it. -/
def responseConn (routes : RouteTable) (req : GsupReq) (response : GsupMessage) : Option Nat :=
  let routing := responseRouting lib req response
  match routing.type with
  | .ipaName => gsupRouteFindByIpaName routes routing.ipaName
  | .empty => none

/-- `gsup_server_send_req_response` -/
def gsupServerSendReqResponse (routes : RouteTable) (req : GsupReq) (response : GsupMessage) :
    List Sent :=
  match responseConn lib routes req response with
  | none => []
  | some conn =>
      match lib.gsupEncode response with
      | none => []
      | some msg => [⟨conn, msg⟩]

/-- The messages that the server sends for a request. -/
def sentFor (routes : RouteTable) (calls : List ReqCall) : List Sent :=
  calls.flatMap fun
    | .sendResponseCb req response => gsupServerSendReqResponse lib routes req response
    | .free _ => []

/-- What comes of `osmo_gsup_conn_rx`. -/
structure Rx where
  server : GsupServer
  sent : List Sent
  /-- The request that is returned. -/
  req : Option GsupReq

/-- A request that is answered with a routing error, and not returned. -/
def rxNotRoutable (server : GsupServer) (req : GsupReq) : Rx :=
  ⟨server,
    sentFor lib server.routes (osmoGsupReqRespondMsgt lib req lib.msgtRoutingError true).2, none⟩

/-- `osmo_gsup_conn_rx`, from what `osmo_gsup_req_new` returns on. -/
def connRxReq (server : GsupServer) (conn : Conn) (req : GsupReq) (calls : List ReqCall) : Rx :=
  if cniPeerIdIsEmpty req.viaProxy then ⟨server, sentFor lib server.routes calls, some req⟩
  else
    match req.viaProxy.type with
    | .empty => rxNotRoutable lib server req
    | .ipaName =>
        -- responses to that source go back over this connection
        let added := gsupRouteAddIpaName server.routes conn.ref req.sourceName.ipaName
        let server := { server with routes := added.2 }
        if added.1 ≠ 0 then rxNotRoutable lib server req
        else ⟨server, sentFor lib server.routes calls, some req⟩

/-- `osmo_gsup_conn_rx` -/
def osmoGsupConnRx (server : GsupServer) (conn : Conn) (l2 : List UInt8) : Rx :=
  let new := osmoGsupReqNew lib (some (.ofIpaName conn.peerName)) l2 true
  match new.1 with
  | none => ⟨server, sentFor lib server.routes new.2, none⟩
  | some req => connRxReq lib server conn req new.2

/-! ## One event after the other -/

/-- What happens to the server. -/
inductive Action where
  | accept
  | ccm (ref : Nat) (sernr : Option (List UInt8))
  | rx (ref : Nat) (l2 : List UInt8)
  | closed (ref : Nat)
  deriving DecidableEq

/-- What an event does; nothing happens to a connection that is not open. -/
def step (server : GsupServer) : Action → GsupServer × List Sent
  | .accept => (osmoGsupServerAcceptCb server, [])
  | .ccm ref sernr =>
      match server.lookup ref with
      | none => (server, [])
      | some clnt => ((osmoGsupServerCcmCb server clnt sernr).2, [])
  | .rx ref l2 =>
      match server.lookup ref with
      | none => (server, [])
      | some conn =>
          let rx := osmoGsupConnRx lib server conn l2
          (rx.server, rx.sent)
  | .closed ref =>
      match server.lookup ref with
      | none => (server, [])
      | some conn => (osmoGsupConnFree server conn, [])

/-- The server as a machine. -/
def machine : Machine GsupServer Action Sent := ⟨step lib⟩

/-! ## What the operations do -/

theorem addConnBehind_perm (conn prevConn : Conn) (clients : List Conn) :
    ∃ ind, (addConnBehind conn prevConn clients).Perm
      ({ conn with auc3gInd := ind } :: prevConn :: clients) := by
  induction clients generalizing prevConn with
  | nil => exact ⟨_, List.Perm.swap _ _ _⟩
  | cons c clients ih =>
      rw [addConnBehind]
      split
      · exact ⟨_, List.Perm.swap _ _ _⟩
      · obtain ⟨ind, hperm⟩ := ih c
        exact ⟨ind, (hperm.cons prevConn).trans (List.Perm.swap _ _ _)⟩

/-- A new connection joins the others, with an index of its own choice. -/
theorem osmoGsupServerAddConn_perm (clients : List Conn) (conn : Conn) :
    ∃ ind,
      (osmoGsupServerAddConn clients conn).Perm ({ conn with auc3gInd := ind } :: clients) := by
  unfold osmoGsupServerAddConn
  split
  next => exact ⟨0, List.Perm.refl _⟩
  next c rest =>
      split
      · exact ⟨0, List.Perm.refl _⟩
      · exact addConnBehind_perm conn c rest

theorem osmoGsupServerAcceptCb_perm (server : GsupServer) :
    ∃ ind, (osmoGsupServerAcceptCb server).clients.Perm
      (⟨server.accepted, none, ind, IpaName.zero⟩ :: server.clients) :=
  osmoGsupServerAddConn_perm server.clients ⟨server.accepted, none, 0, IpaName.zero⟩

variable {lib} {server : GsupServer} {conn : Conn} {l2 : List UInt8}

theorem connRxReq_of_isEmpty (lib : GsupLib) (server : GsupServer) (conn : Conn) {req : GsupReq}
    (calls : List ReqCall) (h : cniPeerIdIsEmpty req.viaProxy = true) :
    connRxReq lib server conn req calls =
      ⟨server, sentFor lib server.routes calls, some req⟩ := if_pos h

/-- A request via a proxy is returned exactly if its source can be routed over the connection. -/
theorem connRxReq_of_proxy {req : GsupReq} {calls : List ReqCall} {source peer : IpaName}
    (hsource : req.sourceName = .ofIpaName source) (hvia : req.viaProxy = .ofIpaName peer)
    (hpeer : peer.val ≠ []) :
    (connRxReq lib server conn req calls).server = server.addRoute conn.ref source.val ∧
      (connRxReq lib server conn req calls).req =
        if Registry.Granted (gsupRouteFind server.routes) source.val conn.ref then some req
        else none := by
  have hempty : cniPeerIdIsEmpty (.ofIpaName peer) = false := by
    rw [Bool.eq_false_iff]
    exact fun h => hpeer (cniPeerIdIsEmpty_ofIpaName_iff.1 h)
  unfold connRxReq
  rw [hvia, hsource, hempty]
  by_cases hgranted : Registry.Granted (gsupRouteFind server.routes) source.val conn.ref
  · have hrc := gsupRouteAdd_eq_zero_iff.2 hgranted
    simp [PeerId.ofIpaName, gsupRouteAddIpaName, hrc, hgranted, GsupServer.addRoute]
  · have hrc : (gsupRouteAdd server.routes conn.ref source.val).1 ≠ 0 := fun h =>
      hgranted (gsupRouteAdd_eq_zero_iff.1 h)
    simp [PeerId.ofIpaName, gsupRouteAddIpaName, hrc, hgranted, GsupServer.addRoute, rxNotRoutable]

/-- The request of a message from `source` that comes in on a connection. -/
def requestOf (conn : Conn) (gsup : GsupMessage) (source : IpaName) : GsupReq :=
  ⟨gsup, .ofIpaName source,
    if source = conn.peerName then PeerId.zero else .ofIpaName conn.peerName, true⟩

theorem viaProxy_requestOf_isEmpty_iff {gsup : GsupMessage} {source : IpaName} :
    cniPeerIdIsEmpty (requestOf conn gsup source).viaProxy = true ↔
      source = conn.peerName ∨ conn.peerName.val = [] := by
  unfold requestOf
  by_cases hpeer : source = conn.peerName
  · simp [hpeer]
  · simp [hpeer, cniPeerIdIsEmpty_ofIpaName_iff]

/-- **What comes of a message.**  A source other than the peer is to be routed over the connection,
but only if the peer has a name. -/
theorem osmoGsupConnRx_cases (lib : GsupLib) (server : GsupServer) (conn : Conn)
    (l2 : List UInt8) :
    ((osmoGsupConnRx lib server conn l2).server = server ∧
      (osmoGsupConnRx lib server conn l2).req = none) ∨
    ∃ gsup source,
      lib.gsupDecode l2 = some gsup ∧
      source.val = (if gsup.sourceName = [] then conn.peerName.val else gsup.sourceName) ∧
      ((source = conn.peerName ∨ conn.peerName.val = []) ∧
          (osmoGsupConnRx lib server conn l2).server = server ∧
          (osmoGsupConnRx lib server conn l2).req = some (requestOf conn gsup source) ∨
        source ≠ conn.peerName ∧ conn.peerName.val ≠ [] ∧
          (osmoGsupConnRx lib server conn l2).server = server.addRoute conn.ref source.val ∧
          (osmoGsupConnRx lib server conn l2).req =
            if Registry.Granted (gsupRouteFind server.routes) source.val conn.ref then
              some (requestOf conn gsup source)
            else none) := by
  unfold osmoGsupConnRx
  rcases hnew : osmoGsupReqNew lib (some (.ofIpaName conn.peerName)) l2 true with ⟨_ | req, calls⟩
  · exact Or.inl ⟨rfl, rfl⟩
  · obtain ⟨gsup, source, hgsup, hsource, rfl⟩ := osmoGsupReqNew_spec (congrArg Prod.fst hnew)
    refine Or.inr ⟨gsup, source, hgsup, hsource, ?_⟩
    by_cases hdirect : source = conn.peerName ∨ conn.peerName.val = []
    · have hempty : cniPeerIdIsEmpty (requestOf conn gsup source).viaProxy = true :=
        viaProxy_requestOf_isEmpty_iff.2 hdirect
      have hrx := connRxReq_of_isEmpty lib server conn calls hempty
      exact Or.inl ⟨hdirect, congrArg Rx.server hrx, congrArg Rx.req hrx⟩
    · rw [not_or] at hdirect
      have hvia : (requestOf conn gsup source).viaProxy = .ofIpaName conn.peerName :=
        if_neg hdirect.1
      exact Or.inr ⟨hdirect.1, hdirect.2, connRxReq_of_proxy rfl hvia hdirect.2⟩

/-! ## Between two events -/

/-- Addresses tell the connections apart, every route leads to one of them, and a connection
without a name is not reached by any. -/
structure WellFormed (server : GsupServer) : Prop where
  refs : (server.clients.map Conn.ref).Nodup
  ref_lt : ∀ conn ∈ server.clients, conn.ref < server.accepted
  route_open : ∀ addr ref, gsupRouteFind server.routes addr = some ref → server.Open ref
  unnamed : ∀ conn ∈ server.clients, conn.peerName.val = [] → ∀ addr,
    gsupRouteFind server.routes addr = some conn.ref → addr = []

/-- A name that is set is empty only if it was. -/
theorem eq_nil_of_setPeerName_eq_nil {addr : List UInt8} (haddr : addr ≠ [])
    (h : (conn.setPeerName addr).peerName.val = []) : conn.peerName.val = [] := by
  rcases ipaNameSet_cases conn.peerName addr with hval | heq
  · exact absurd (hval.symm.trans h) haddr
  · exact heq ▸ h

theorem wellFormed_create : WellFormed GsupServer.create where
  refs := List.nodup_nil
  ref_lt := fun _ h => by cases h
  route_open := fun _ _ h => by cases h
  unnamed := fun _ h => by cases h

namespace WellFormed

/-- No route leads to the next connection yet. -/
theorem route_ne_accepted (h : WellFormed server) (addr : List UInt8) :
    gsupRouteFind server.routes addr ≠ some server.accepted := by
  intro haddr
  obtain ⟨x, hx, hxacc⟩ := h.route_open addr server.accepted haddr
  exact absurd (h.ref_lt x hx) (by omega)

/-- Routes over an open connection may be added, but for one without a name none with a name. -/
theorem addRoute (h : WellFormed server) (hconn : conn ∈ server.clients) {addr : List UInt8}
    (haddr : conn.peerName.val = [] → addr = []) :
    WellFormed (server.addRoute conn.ref addr) where
  refs := h.refs
  ref_lt := h.ref_lt
  route_open := by
    intro a ref ha
    rw [GsupServer.addRoute, gsupRouteFind_add] at ha
    rcases Registry.of_claim_eq_some ha with ha | ⟨-, rfl, -⟩
    · exact h.route_open a ref ha
    · exact ⟨conn, hconn, rfl⟩
  unnamed := by
    intro x hx hname a ha
    rw [GsupServer.addRoute, gsupRouteFind_add] at ha
    rcases Registry.of_claim_eq_some ha with ha | ⟨rfl, href, -⟩
    · exact h.unnamed x hx hname a ha
    · obtain rfl := List.inj_on_of_nodup_map h.refs hx hconn href
      exact haddr hname

/-- A connection may be written to as long as it keeps having a name. -/
theorem setConn (h : WellFormed server) (hconn : conn ∈ server.clients) {conn' : Conn}
    (href : conn'.ref = conn.ref)
    (hname : conn'.peerName.val = [] → conn.peerName.val = []) :
    WellFormed (server.setConn conn') where
  refs := by
    rw [GsupServer.setConn, Keyed.map_set Conn.ref h.refs hconn href href]
    exact h.refs
  ref_lt := by
    intro x hx
    rcases (Keyed.mem_set hconn href).1 hx with rfl | ⟨hx, -⟩
    · exact href ▸ h.ref_lt conn hconn
    · exact h.ref_lt x hx
  route_open := by
    intro addr ref haddr
    obtain ⟨x, hx, rfl⟩ := h.route_open addr ref haddr
    by_cases hxr : x.ref = conn.ref
    · exact ⟨conn', (Keyed.mem_set hconn href).2 (Or.inl rfl), href.trans hxr.symm⟩
    · exact ⟨x, (Keyed.mem_set hconn href).2 (Or.inr ⟨hx, hxr⟩), rfl⟩
  unnamed := by
    intro x hx hempty addr haddr
    rcases (Keyed.mem_set hconn href).1 hx with rfl | ⟨hx, -⟩
    · exact h.unnamed conn hconn (hname hempty) addr (href ▸ haddr)
    · exact h.unnamed x hx hempty addr haddr

theorem accept (h : WellFormed server) : WellFormed (osmoGsupServerAcceptCb server) := by
  obtain ⟨ind, hperm⟩ := osmoGsupServerAcceptCb_perm server
  have hnew : server.accepted ∉ server.clients.map Conn.ref := by
    intro hacc
    obtain ⟨x, hx, hxacc⟩ := List.mem_map.1 hacc
    exact absurd (h.ref_lt x hx) (by omega)
  refine ⟨?_, ?_, ?_, ?_⟩
  · rw [(hperm.map Conn.ref).nodup_iff, List.map_cons, List.nodup_cons]
    exact ⟨hnew, h.refs⟩
  · intro x hx
    rcases List.mem_cons.1 (hperm.mem_iff.1 hx) with rfl | hx
    · exact Nat.lt_succ_self _
    · exact Nat.lt_succ_of_lt (h.ref_lt x hx)
  · intro addr ref haddr
    obtain ⟨x, hx, rfl⟩ := h.route_open addr ref haddr
    exact ⟨x, hperm.mem_iff.2 (List.mem_cons_of_mem _ hx), rfl⟩
  · intro x hx hname addr haddr
    rcases List.mem_cons.1 (hperm.mem_iff.1 hx) with rfl | hx
    · exact absurd haddr (h.route_ne_accepted addr)
    · exact h.unnamed x hx hname addr haddr

/-- A name, once set, stays one. -/
theorem ccm (h : WellFormed server) (hconn : conn ∈ server.clients)
    (sernr : Option (List UInt8)) : WellFormed (osmoGsupServerCcmCb server conn sernr).2 := by
  unfold osmoGsupServerCcmCb
  split
  next => exact h.setConn hconn rfl id
  next addr =>
      split
      next => exact h.setConn hconn rfl id
      next haddr =>
          have hset : WellFormed (server.setConn (conn.setPeerName addr)) :=
            h.setConn hconn rfl (eq_nil_of_setPeerName_eq_nil haddr)
          exact hset.addRoute (Keyed.mem_set_self hconn (conn.setPeerName addr) rfl) id

theorem rx (h : WellFormed server) (hconn : conn ∈ server.clients) (lib : GsupLib)
    (l2 : List UInt8) : WellFormed (osmoGsupConnRx lib server conn l2).server := by
  rcases osmoGsupConnRx_cases lib server conn l2 with
    ⟨hs, -⟩ | ⟨_, _, -, -, ⟨-, hs, -⟩ | ⟨-, hname, hs, -⟩⟩
  · rw [hs]
    exact h
  · rw [hs]
    exact h
  · rw [hs]
    exact h.addRoute hconn fun hempty => absurd hempty hname

theorem closed (h : WellFormed server) : WellFormed (osmoGsupConnFree server conn) where
  refs := Keyed.nodup_remove h.refs
  ref_lt := fun x hx => h.ref_lt x (Keyed.mem_remove.1 hx).1
  route_open := by
    intro addr ref haddr
    rw [osmoGsupConnFree, gsupRouteFind_delConn, Registry.release_eq_some_iff] at haddr
    obtain ⟨x, hx, rfl⟩ := h.route_open addr ref haddr.1
    exact ⟨x, Keyed.mem_remove.2 ⟨hx, haddr.2⟩, rfl⟩
  unnamed := by
    intro x hx hname addr haddr
    rw [osmoGsupConnFree, gsupRouteFind_delConn, Registry.release_eq_some_iff] at haddr
    exact h.unnamed x (Keyed.mem_remove.1 hx).1 hname addr haddr.1

theorem lookup_eq_some_iff (h : WellFormed server) {ref : Nat} :
    server.lookup ref = some conn ↔ conn ∈ server.clients ∧ conn.ref = ref :=
  Keyed.find_eq_some_iff h.refs

theorem step (h : WellFormed server) (lib : GsupLib) (action : Action) :
    WellFormed (Gsup.step lib server action).1 := by
  cases action with
  | accept => exact h.accept
  | ccm ref sernr =>
      simp only [Gsup.step]
      split
      next => exact h
      next hl => exact h.ccm (h.lookup_eq_some_iff.1 hl).1 sernr
  | rx ref l2 =>
      simp only [Gsup.step]
      split
      next => exact h
      next hl => exact h.rx (h.lookup_eq_some_iff.1 hl).1 lib l2
  | closed ref =>
      simp only [Gsup.step]
      split
      next => exact h
      next hl => exact h.closed

end WellFormed

/-- **The server is well formed whatever happens to it.** -/
theorem wellFormed_run (lib : GsupLib) (actions : List Action) :
    WellFormed ((machine lib).run GsupServer.create actions).1 :=
  (machine lib).run_invariant (fun _ action h => h.step lib action) wellFormed_create actions

/-! ## As long as a connection is open -/

/-- `next` comes after `server`: a connection that is still open was open then, and has kept its
routes. -/
structure Continues (server next : GsupServer) : Prop where
  accepted_le : server.accepted ≤ next.accepted
  was_open : ∀ ref < server.accepted, next.Open ref → server.Open ref
  keeps : ∀ ref < server.accepted, next.Open ref →
    Registry.Keeps ref (gsupRouteFind server.routes) (gsupRouteFind next.routes)

namespace Continues

theorem refl (server : GsupServer) : Continues server server :=
  ⟨Nat.le_refl _, fun _ _ h => h, fun ref _ _ => Registry.Keeps.refl ref _⟩

theorem trans {s₁ s₂ s₃ : GsupServer} (h : Continues s₁ s₂) (h' : Continues s₂ s₃) :
    Continues s₁ s₃ where
  accepted_le := Nat.le_trans h.accepted_le h'.accepted_le
  was_open := fun ref hlt hopen =>
    h.was_open ref hlt (h'.was_open ref (Nat.lt_of_lt_of_le hlt h.accepted_le) hopen)
  keeps := by
    intro ref hlt hopen
    have hlt₂ := Nat.lt_of_lt_of_le hlt h.accepted_le
    exact (h.keeps ref hlt (h'.was_open ref hlt₂ hopen)).trans (h'.keeps ref hlt₂ hopen)

theorem addRoute (server : GsupServer) (ref : Nat) (addr : List UInt8) :
    Continues server (server.addRoute ref addr) where
  accepted_le := Nat.le_refl _
  was_open := fun _ _ h => h
  keeps := by
    intro r _ _
    rw [GsupServer.addRoute, gsupRouteFind_add]
    exact Registry.keeps_claim

theorem setConn (hconn : conn ∈ server.clients) {conn' : Conn} (href : conn'.ref = conn.ref) :
    Continues server (server.setConn conn') where
  accepted_le := Nat.le_refl _
  was_open := by
    rintro ref - ⟨x, hx, rfl⟩
    rcases (Keyed.mem_set hconn href).1 hx with rfl | ⟨hx, -⟩
    · exact ⟨conn, hconn, href.symm⟩
    · exact ⟨x, hx, rfl⟩
  keeps := fun ref _ _ => Registry.Keeps.refl ref _

theorem accept (server : GsupServer) : Continues server (osmoGsupServerAcceptCb server) where
  accepted_le := Nat.le_succ _
  was_open := by
    rintro ref hlt ⟨x, hx, rfl⟩
    obtain ⟨ind, hperm⟩ := osmoGsupServerAcceptCb_perm server
    rcases List.mem_cons.1 (hperm.mem_iff.1 hx) with rfl | hx
    · exact absurd hlt (Nat.lt_irrefl _)
    · exact ⟨x, hx, rfl⟩
  keeps := fun ref _ _ => Registry.Keeps.refl ref _

theorem ccm (hconn : conn ∈ server.clients) (sernr : Option (List UInt8)) :
    Continues server (osmoGsupServerCcmCb server conn sernr).2 := by
  unfold osmoGsupServerCcmCb
  split
  next => exact setConn hconn rfl
  next addr =>
      split
      next => exact setConn hconn rfl
      next => exact (setConn hconn (conn.ref_setPeerName addr)).trans (addRoute _ _ _)

theorem rx (server : GsupServer) (conn : Conn) (lib : GsupLib) (l2 : List UInt8) :
    Continues server (osmoGsupConnRx lib server conn l2).server := by
  rcases osmoGsupConnRx_cases lib server conn l2 with
    ⟨hs, -⟩ | ⟨_, _, -, -, ⟨-, hs, -⟩ | ⟨-, -, hs, -⟩⟩
  · rw [hs]
    exact refl server
  · rw [hs]
    exact refl server
  · rw [hs]
    exact addRoute _ _ _

theorem closed (server : GsupServer) (conn : Conn) :
    Continues server (osmoGsupConnFree server conn) where
  accepted_le := Nat.le_refl _
  was_open := by
    rintro ref - ⟨x, hx, rfl⟩
    exact ⟨x, (Keyed.mem_remove.1 hx).1, rfl⟩
  keeps := by
    rintro ref - ⟨x, hx, rfl⟩
    rw [osmoGsupConnFree, gsupRouteFind_delConn]
    exact Registry.keeps_release (Keyed.mem_remove.1 hx).2

theorem step (h : WellFormed server) (lib : GsupLib) (action : Action) :
    Continues server (Gsup.step lib server action).1 := by
  cases action with
  | accept => exact accept server
  | ccm ref sernr =>
      simp only [Gsup.step]
      split
      next => exact refl server
      next hl => exact ccm (h.lookup_eq_some_iff.1 hl).1 sernr
  | rx ref l2 =>
      simp only [Gsup.step]
      split
      next => exact refl server
      next => exact rx server _ lib l2
  | closed ref =>
      simp only [Gsup.step]
      split
      next => exact refl server
      next => exact closed server _

end Continues

/-- **A connection keeps its routes until it is closed.** -/
theorem continues_run (h : WellFormed server) (lib : GsupLib) (actions : List Action) :
    Continues server ((machine lib).run server actions).1 := by
  induction actions generalizing server with
  | nil => exact Continues.refl server
  | cons action actions ih => exact (Continues.step h lib action).trans (ih (h.step lib action))

end Gsup
end OsmoHlr
