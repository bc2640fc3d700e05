import OsmoHlr.Gsup.GsupLibHost
import OsmoHlr.Gsup.Server

/-!
# Where responses go

A request is returned from `osmo_gsup_conn_rx` and answered later, by its source
name: the route of that name says over which connection.  The run is watched for
this: which connections were granted the name they identified themselves by
(`osmo_gsup_server_ccm_cb` does not look at that), and which requests are returned.

* `reply_routing` — the responses to a request go back over its connection exactly
  if the connection was granted its name and, in case that it has none, the message
  names no source; and they do so for as long as the connection is open.
* `reply_to_namesake` — what happens otherwise.
-/

namespace OsmoHlr
namespace Gsup

open CniPeerId

variable (lib : GsupLib)

/-! ## Watching a run -/

/-- The server, and what was seen of its run. -/
structure Watched where
  server : GsupServer
  /-- The connections for which `gsup_route_add_ipa_name` returned 0 when they last identified
  themselves. -/
  granted : List Nat
  /-- The requests that `osmo_gsup_conn_rx` returned, each with its connection. -/
  requests : List (Nat × GsupReq)

/-- Before anything happens. -/
def Watched.create : Watched := ⟨GsupServer.create, [], []⟩

/-- The connections that were granted their name, after `clnt` identified itself as `addr`. -/
def grantedAs (server : GsupServer) (granted : List Nat) (clnt : Conn) (addr : List UInt8) :
    List Nat :=
  if addr = [] then granted
  else if (gsupRouteAddIpaName server.routes clnt.ref (clnt.setPeerName addr).peerName).1 = 0 then
    clnt.ref :: granted
  else granted.filter (· ≠ clnt.ref)

/-- The connections that were granted their name, after an event. -/
def grantedAfter (server : GsupServer) (granted : List Nat) : Action → List Nat
  | .ccm ref (some addr) =>
      match server.lookup ref with
      | none => granted
      | some clnt => grantedAs server granted clnt addr
  | .closed ref => granted.filter (· ≠ ref)
  | _ => granted

/-- The requests that are returned in an event. -/
def returned (server : GsupServer) : Action → List (Nat × GsupReq)
  | .rx ref l2 =>
      match server.lookup ref with
      | none => []
      | some conn => (osmoGsupConnRx lib server conn l2).req.toList.map (ref, ·)
  | _ => []

/-- The server under watch. -/
def watchedStep (w : Watched) (action : Action) : Watched × List Sent :=
  let next := step lib w.server action
  (⟨next.1, grantedAfter w.server w.granted action, w.requests ++ returned lib w.server action⟩, next.2)

/-- The server under watch as a machine. -/
def watched : Machine Watched Action Sent := ⟨watchedStep lib⟩

/-- Watching changes nothing. -/
theorem watched_run (w : Watched) (actions : List Action) :
    ((watched lib).run w actions).1.server = ((machine lib).run w.server actions).1 ∧
      ((watched lib).run w actions).2 = ((machine lib).run w.server actions).2 := by
  induction actions generalizing w with
  | nil => exact ⟨rfl, rfl⟩
  | cons action actions ih =>
      obtain ⟨hserver, hout⟩ := ih ((watched lib).step w action).1
      rw [Machine.run_cons, Machine.run_cons, hserver, hout]
      exact ⟨rfl, rfl⟩

/-! ## Responses that go back -/

/-- Responses to a request go to the connection `ref` and to no other one. -/
structure Bound (routes : RouteTable) (ref : Nat) (req : GsupReq) : Prop where
  route : gsupRouteFindByIpaName routes req.sourceName.ipaName = some ref
  conn : ∀ response, responseConn lib routes req response = some ref
  sent : ∀ response,
    gsupServerSendReqResponse lib routes req response =
      (lib.gsupEncode response).toList.map (Sent.mk ref)

/-- Whether the responses to a message will find their way back: the connection was granted its
name, and if it has none, then the message names no source. -/
def Watched.answerable (w : Watched) (conn : Conn) (l2 : List UInt8) : Bool :=
  match lib.gsupDecode l2 with
  | none => true
  | some gsup => decide (conn.ref ∈ w.granted ∧ (gsup.sourceName = [] ∨ conn.peerName.val ≠ []))

/-- The events in which no message comes in whose responses get lost. -/
def Watched.Careful (w : Watched) : Action → Prop
  | .rx ref l2 => ∀ conn ∈ w.server.lookup ref, w.answerable lib conn l2 = true
  | _ => True

instance (w : Watched) : (action : Action) → Decidable (w.Careful lib action)
  | .accept => .isTrue trivial
  | .ccm _ _ => .isTrue trivial
  | .rx ref l2 =>
      inferInstanceAs (Decidable (∀ conn ∈ w.server.lookup ref, w.answerable lib conn l2 = true))
  | .closed _ => .isTrue trivial

variable {lib}

/-- What is sent is sent over the connection that is found. -/
theorem gsupServerSendReqResponse_eq {routes : RouteTable} {ref : Nat} {req : GsupReq}
    {response : GsupMessage} (h : responseConn lib routes req response = some ref) :
    gsupServerSendReqResponse lib routes req response =
      (lib.gsupEncode response).toList.map (Sent.mk ref) := by
  unfold gsupServerSendReqResponse
  rw [h]
  cases lib.gsupEncode response with
  | none => rfl
  | some msg => rfl

theorem responseConn_of_ipaName {routes : RouteTable} {req : GsupReq} {response : GsupMessage}
    {routing : IpaName} (h : responseRouting lib req response = .ofIpaName routing) :
    responseConn lib routes req response = gsupRouteFind routes routing.val := by
  unfold responseConn
  rw [h]
  rfl

/-- Responses find their way as long as the connection keeps its routes. -/
theorem Bound.mono {routes routes' : RouteTable} {ref : Nat} {req : GsupReq}
    (h : Bound lib routes ref req)
    (hk : Registry.Keeps ref (gsupRouteFind routes) (gsupRouteFind routes')) :
    Bound lib routes' ref req := by
  have hconn : ∀ response, responseConn lib routes' req response = some ref := by
    intro response
    have hc := h.conn response
    unfold responseConn at hc ⊢
    simp only at hc ⊢
    split at hc
    next => exact hk _ hc
    next => cases hc
  exact ⟨hk _ h.route, hconn, fun response => gsupServerSendReqResponse_eq (hconn response)⟩

/-- Where the responses to a request go: to the source, but routing errors to the proxy. -/
theorem responseConn_requestOf {routes : RouteTable} {conn : Conn} {gsup : GsupMessage}
    {source : IpaName} (response : GsupMessage) :
    responseConn lib routes (requestOf conn gsup source) response =
      if response.messageType = lib.msgtRoutingError ∧
          ¬(source = conn.peerName ∨ conn.peerName.val = []) then
        gsupRouteFind routes conn.peerName.val
      else gsupRouteFind routes source.val := by
  have hrouting : responseRouting lib (requestOf conn gsup source) response =
      if response.messageType = lib.msgtRoutingError ∧
          ¬(source = conn.peerName ∨ conn.peerName.val = []) then
        .ofIpaName conn.peerName
      else .ofIpaName source := by
    simp only [responseRouting, viaProxy_requestOf_isEmpty_iff]
    split
    next h => exact if_neg (not_or.1 h.2).1
    next => rfl
  split
  next h => exact responseConn_of_ipaName (hrouting.trans (if_pos h))
  next h => exact responseConn_of_ipaName (hrouting.trans (if_neg h))

/-- What it takes for the responses to a request to go back. -/
theorem bound_iff {routes : RouteTable} {ref : Nat} {conn : Conn} {gsup : GsupMessage}
    {source : IpaName} :
    Bound lib routes ref (requestOf conn gsup source) ↔
      gsupRouteFind routes source.val = some ref ∧
        (source = conn.peerName ∨ conn.peerName.val = [] ∨
          gsupRouteFind routes conn.peerName.val = some ref) := by
  constructor
  · intro h
    refine ⟨h.route, or_assoc.1 ?_⟩
    by_cases hdirect : source = conn.peerName ∨ conn.peerName.val = []
    · exact Or.inl hdirect
    · -- a routing error goes to the proxy
      have herror := h.conn { GsupMessage.zero with messageType := lib.msgtRoutingError }
      rw [responseConn_requestOf, if_pos ⟨rfl, hdirect⟩] at herror
      exact Or.inr herror
  · rintro ⟨hsource, hproxy⟩
    have hall : ∀ response,
        responseConn lib routes (requestOf conn gsup source) response = some ref := by
      intro response
      rw [responseConn_requestOf]
      split
      next h => exact (or_assoc.2 hproxy).resolve_left h.2
      next => exact hsource
    exact ⟨hsource, hall, fun response => gsupServerSendReqResponse_eq (hall response)⟩

/-! ## What is seen is so -/

/-- What the run was watched for: a connection was granted its name exactly if the name is routed
over it. -/
structure Tracks (server : GsupServer) (granted : List Nat) : Prop extends WellFormed server where
  granted_lt : ∀ ref ∈ granted, ref < server.accepted
  granted_iff : ∀ conn ∈ server.clients, conn.ref ∈ granted ↔
    gsupRouteFind server.routes conn.peerName.val = some conn.ref

theorem tracks_create : Tracks GsupServer.create [] where
  toWellFormed := wellFormed_create
  granted_lt := fun _ h => by cases h
  granted_iff := fun _ h => by cases h

section Tracks

variable {server : GsupServer} {granted : List Nat} {conn clnt : Conn}

theorem mem_grantedAs {addr : List UInt8} (haddr : addr ≠ []) {ref : Nat} :
    ref ∈ grantedAs server granted clnt addr ↔
      if ref = clnt.ref then
        Registry.Granted (gsupRouteFind server.routes) (clnt.setPeerName addr).peerName.val clnt.ref
      else ref ∈ granted := by
  rw [grantedAs, if_neg haddr, gsupRouteAddIpaName, ← gsupRouteAdd_eq_zero_iff]
  by_cases href : ref = clnt.ref
  · subst href
    split <;> simp_all
  · split <;> simp [href]

theorem Tracks.accept (h : Tracks server granted) :
    Tracks (osmoGsupServerAcceptCb server) granted where
  toWellFormed := h.toWellFormed.accept
  granted_lt := fun ref href => Nat.lt_succ_of_lt (h.granted_lt ref href)
  granted_iff := by
    intro x hx
    obtain ⟨ind, hperm⟩ := osmoGsupServerAcceptCb_perm server
    rcases List.mem_cons.1 (hperm.mem_iff.1 hx) with rfl | hx
    · refine iff_of_false (fun hid => ?_) (h.route_ne_accepted _)
      exact absurd (h.granted_lt _ hid) (Nat.lt_irrefl _)
    · exact h.granted_iff x hx

/-- Nothing changes as long as the names stay what they are. -/
theorem Tracks.setConn (h : Tracks server granted) (hconn : conn ∈ server.clients)
    {conn' : Conn} (href : conn'.ref = conn.ref) (hname : conn'.peerName = conn.peerName) :
    Tracks (server.setConn conn') granted where
  toWellFormed := h.toWellFormed.setConn hconn href fun hnil => hname ▸ hnil
  granted_lt := h.granted_lt
  granted_iff := by
    intro x hx
    rcases (Keyed.mem_set hconn href).1 hx with rfl | ⟨hx, -⟩
    · rw [href, hname]
      exact h.granted_iff conn hconn
    · exact h.granted_iff x hx

theorem Tracks.ccm (h : Tracks server granted) (hclnt : clnt ∈ server.clients)
    (addr : List UInt8) :
    Tracks (osmoGsupServerCcmCb server clnt (some addr)).2
      (grantedAs server granted clnt addr) := by
  by_cases haddr : addr = []
  · rw [osmoGsupServerCcmCb, grantedAs, if_pos haddr]
    simp only [if_pos haddr]
    exact h.setConn hclnt rfl rfl
  · refine ⟨h.toWellFormed.ccm hclnt (some addr), ?_, ?_⟩
    · intro ref href
      rw [osmoGsupServerCcmCb]
      simp only [if_neg haddr]
      have hmem := (mem_grantedAs haddr).1 href
      split at hmem
      next heq => exact heq ▸ h.ref_lt clnt hclnt
      next => exact h.granted_lt ref hmem
    · intro x hx
      rw [osmoGsupServerCcmCb] at hx ⊢
      simp only [if_neg haddr] at hx ⊢
      rw [mem_grantedAs haddr, GsupServer.addRoute, gsupRouteFind_add]
      have hx : x ∈ Keyed.set Conn.ref server.clients (clnt.setPeerName addr) := hx
      rcases (Keyed.mem_set hclnt (clnt.ref_setPeerName addr)).1 hx with rfl | ⟨hx, hne⟩
      · -- it is granted the name exactly if it owns it afterwards
        rw [if_pos (clnt.ref_setPeerName addr)]
        exact Registry.granted_iff_claim
      · rw [if_neg hne, h.granted_iff x hx]
        exact (Registry.claim_eq_some_iff_of_ne hne).symm

theorem Tracks.rx (h : Tracks server granted) (hconn : conn ∈ server.clients) (lib : GsupLib)
    (l2 : List UInt8) : Tracks (osmoGsupConnRx lib server conn l2).server granted := by
  rcases osmoGsupConnRx_cases lib server conn l2 with
    ⟨hs, -⟩ | ⟨_, source, -, -, ⟨-, hs, -⟩ | ⟨hne, hname, hs, -⟩⟩
  · rw [hs]
    exact h
  · rw [hs]
    exact h
  · rw [hs]
    refine ⟨h.toWellFormed.addRoute hconn fun hnil => absurd hnil hname, h.granted_lt, ?_⟩
    intro x hx
    rw [h.granted_iff x hx, GsupServer.addRoute, gsupRouteFind_add]
    by_cases href : x.ref = conn.ref
    · -- the route that is added is not that of its own name
      obtain rfl := List.inj_on_of_nodup_map h.refs hx hconn href
      rw [Registry.claim_other fun heq => hne (IpaName.ext heq.symm)]
    · exact (Registry.claim_eq_some_iff_of_ne href).symm

theorem Tracks.closed (h : Tracks server granted) (conn : Conn) :
    Tracks (osmoGsupConnFree server conn) (granted.filter (· ≠ conn.ref)) where
  toWellFormed := h.toWellFormed.closed
  granted_lt := fun ref href => h.granted_lt ref (List.mem_filter.1 href).1
  granted_iff := by
    intro x hx
    obtain ⟨hx, hne⟩ := Keyed.mem_remove.1 hx
    rw [osmoGsupConnFree, gsupRouteFind_delConn, Registry.release_eq_some_iff,
      ← h.granted_iff x hx, List.mem_filter]
    simp

theorem Tracks.step (h : Tracks server granted) (lib : GsupLib) (action : Action) :
    Tracks (step lib server action).1 (grantedAfter server granted action) := by
  cases action with
  | accept => exact h.accept
  | ccm ref sernr =>
      simp only [Gsup.step]
      cases hl : server.lookup ref with
      | none => cases sernr <;> simp only [grantedAfter, hl] <;> exact h
      | some clnt =>
          have hclnt := (h.lookup_eq_some_iff.1 hl).1
          cases sernr with
          | none => exact h.setConn hclnt rfl rfl
          | some addr =>
              simp only [grantedAfter, hl]
              exact h.ccm hclnt addr
  | rx ref l2 =>
      simp only [Gsup.step]
      cases hl : server.lookup ref with
      | none => exact h
      | some conn => exact h.rx (h.lookup_eq_some_iff.1 hl).1 lib l2
  | closed ref =>
      simp only [Gsup.step]
      cases hl : server.lookup ref with
      | none =>
          refine ⟨h.toWellFormed, fun r hr => h.granted_lt r (List.mem_filter.1 hr).1, ?_⟩
          intro x hx
          have hne := Keyed.find_eq_none_iff.1 hl x hx
          simp only [grantedAfter, List.mem_filter, h.granted_iff x hx]
          simp [hne]
      | some conn =>
          obtain ⟨-, rfl⟩ := h.lookup_eq_some_iff.1 hl
          exact h.closed conn

end Tracks

/-! ## Responses to requests -/

/-- **When the responses to a request find their way.** -/
theorem bound_iff_answerable {w : Watched} (h : Tracks w.server w.granted) {conn : Conn}
    (hconn : conn ∈ w.server.clients) {l2 : List UInt8} {req : GsupReq}
    (hreq : (osmoGsupConnRx lib w.server conn l2).req = some req) :
    Bound lib (osmoGsupConnRx lib w.server conn l2).server.routes conn.ref req ↔
      w.answerable lib conn l2 = true := by
  rcases osmoGsupConnRx_cases lib w.server conn l2 with
    ⟨-, hnone⟩ | ⟨gsup, source, hgsup, hsource, hrx⟩
  · rw [hnone] at hreq
    cases hreq
  rw [Watched.answerable, hgsup]
  simp only [decide_eq_true_eq]
  rw [h.granted_iff conn hconn]
  rcases hrx with ⟨hdirect, hs, hr⟩ | ⟨hne, hname, hs, hr⟩
  · obtain rfl := Option.some.inj (hr.symm.trans hreq)
    rw [hs, bound_iff]
    by_cases heq : source = conn.peerName
    · have hname : gsup.sourceName = [] ∨ conn.peerName.val ≠ [] := by
        by_cases hie : gsup.sourceName = []
        · exact Or.inl hie
        · rw [if_neg hie, heq] at hsource
          exact Or.inr (hsource ▸ hie)
      simp [heq, hname]
    · -- a name that is taken from the message, and no route is added for it
      have hnil := hdirect.resolve_left heq
      have hie : gsup.sourceName ≠ [] := fun hie =>
        heq (IpaName.ext (hsource.trans (if_pos hie)))
      have hlost : gsupRouteFind w.server.routes source.val ≠ some conn.ref := fun hroute =>
        hie ((hsource.trans (if_neg hie)).symm.trans (h.unnamed conn hconn hnil _ hroute))
      exact iff_of_false (fun hb => hlost hb.1) fun hc => hc.2.elim hie fun hne => hne hnil
  · rw [hr] at hreq
    split at hreq
    next hgranted =>
        obtain rfl := Option.some.inj hreq
        rw [hs, bound_iff, GsupServer.addRoute, gsupRouteFind_add,
          Registry.claim_other fun heq => hne (IpaName.ext heq.symm)]
        have hsource := Registry.granted_iff_claim.1 hgranted
        simp [hsource, hne, hname]
    next => cases hreq

/-- What the run was watched for, and that the requests which were returned can be answered. -/
structure Answers (lib : GsupLib) (w : Watched) : Prop extends Tracks w.server w.granted where
  requests_lt : ∀ p ∈ w.requests, p.1 < w.server.accepted
  requests_bound : ∀ p ∈ w.requests, w.server.Open p.1 → Bound lib w.server.routes p.1 p.2

theorem answers_create (lib : GsupLib) : Answers lib Watched.create where
  toTracks := tracks_create
  requests_lt := fun _ h => by cases h
  requests_bound := fun _ h => by cases h

/-- A request that is returned comes from an open connection, and can be answered if care is
taken. -/
theorem bound_of_mem_returned {w : Watched} (h : Tracks w.server w.granted) {action : Action}
    (hcareful : w.Careful lib action) {p : Nat × GsupReq}
    (hp : p ∈ returned lib w.server action) :
    p.1 < w.server.accepted ∧ Bound lib (step lib w.server action).1.routes p.1 p.2 := by
  cases action with
  | rx ref l2 =>
      simp only [returned, step] at hp ⊢
      cases hl : w.server.lookup ref with
      | none =>
          rw [hl] at hp
          cases hp
      | some conn =>
          rw [hl] at hp
          obtain ⟨hconn, rfl⟩ := h.lookup_eq_some_iff.1 hl
          obtain ⟨req, hreq, rfl⟩ := List.mem_map.1 hp
          exact ⟨h.ref_lt conn hconn,
            (bound_iff_answerable h hconn (Option.mem_toList.1 hreq)).2 (hcareful conn hl)⟩
  | accept => cases hp
  | ccm ref sernr => cases hp
  | closed ref => cases hp

theorem Answers.step {w : Watched} (h : Answers lib w) {action : Action}
    (hcareful : w.Careful lib action) : Answers lib (watchedStep lib w action).1 := by
  have hcont := Continues.step h.toWellFormed lib action
  refine ⟨h.toTracks.step lib action, ?_, ?_⟩
  · intro p hp
    rcases List.mem_append.1 hp with hp | hp
    · exact Nat.lt_of_lt_of_le (h.requests_lt p hp) hcont.accepted_le
    · exact Nat.lt_of_lt_of_le (bound_of_mem_returned h.toTracks hcareful hp).1 hcont.accepted_le
  · intro p hp hopen
    rcases List.mem_append.1 hp with hp | hp
    · have hlt := h.requests_lt p hp
      exact (h.requests_bound p hp (hcont.was_open _ hlt hopen)).mono (hcont.keeps _ hlt hopen)
    · exact (bound_of_mem_returned h.toTracks hcareful hp).2

theorem tracks_run (lib : GsupLib) (actions : List Action) :
    Tracks ((watched lib).run Watched.create actions).1.server
      ((watched lib).run Watched.create actions).1.granted :=
  (watched lib).run_invariant (P := fun w => Tracks w.server w.granted)
    (fun _ action h => h.step lib action) tracks_create actions

/-- **Replies go back where the request came from** exactly if the connection was granted the name
that it identified itself by and, in case that it has none, the message names no source; and they
do so for as long as the connection is open. -/
theorem reply_routing (lib : GsupLib) (actions : List Action) :
    let w := ((watched lib).run Watched.create actions).1
    (∀ conn ∈ w.server.clients, ∀ l2 req, (osmoGsupConnRx lib w.server conn l2).req = some req →
      (Bound lib (osmoGsupConnRx lib w.server conn l2).server.routes conn.ref req ↔
        w.answerable lib conn l2 = true)) ∧
    ((watched lib).Guarded (Watched.Careful lib) Watched.create actions →
      ∀ p ∈ w.requests, w.server.Open p.1 → Bound lib w.server.routes p.1 p.2) := by
  intro w
  constructor
  · intro conn hconn l2 req hreq
    exact bound_iff_answerable (tracks_run lib actions) hconn hreq
  · intro hcareful
    have hrun : Answers lib w := (watched lib).run_invariant_of_guarded
      (fun _ _ h hc => h.step hc) (answers_create lib) hcareful
    exact hrun.requests_bound

/-- The unit name of a peer. -/
def unitName (name : String) : List UInt8 := (CString.CStr.lit name).bytes ++ [0]

/-- An Update Location Request. -/
def updateLocation : List UInt8 := [0x04, 0x01, 0x08, 0x62, 0x42, 0x02, 0, 0, 0, 0, 0xf1]

/-- A Source Name IE. -/
def sourceNameIe (name : String) : List UInt8 := Host.ie .sourceName (unitName name)

/-- A peer is a proxy for another one, and a third one speaks for itself. -/
def proxyRun : List Action :=
  [.accept, .ccm 0 (some (unitName "hlr")), .accept, .ccm 1 (some (unitName "msc")),
    .rx 0 (updateLocation ++ sourceNameIe "sgsn"), .rx 1 updateLocation]

theorem reply_routing_proxy :
    let w := ((watched Host.gsupLib).run Watched.create proxyRun).1
    w.requests.map Prod.fst = [0, 1] ∧
      (∀ p ∈ w.requests, Bound Host.gsupLib w.server.routes p.1 p.2) ∧
      ∀ conn ∈ w.server.clients, ∀ req,
        (osmoGsupConnRx Host.gsupLib w.server conn updateLocation).req = some req →
          Bound Host.gsupLib (osmoGsupConnRx Host.gsupLib w.server conn updateLocation).server.routes
            conn.ref req := by
  intro w
  have hopen : ∀ p ∈ w.requests, w.server.Open p.1 := by decide +kernel
  have hanswerable : ∀ conn ∈ w.server.clients,
      w.answerable Host.gsupLib conn updateLocation = true := by decide +kernel
  refine ⟨by decide +kernel, ?_, ?_⟩
  · intro p hp
    exact (reply_routing Host.gsupLib proxyRun).2 (by decide +kernel) p hp (hopen p hp)
  · intro conn hconn req hreq
    exact ((reply_routing Host.gsupLib proxyRun).1 conn hconn updateLocation req hreq).2
      (hanswerable conn hconn)

/-- An Update Location Result. -/
def updateLocationResult : GsupMessage :=
  { GsupMessage.zero with messageType := 0x06, imsi := CString.CStr.lit "262420000000001" }

/-- The result as it is sent. -/
def updateLocationResultMsg : List UInt8 := [0x06, 0x01, 0x08, 0x62, 0x42, 0x02, 0, 0, 0, 0, 0xf1]

/-- A peer has the name of another one, which is connected already. -/
def namesakeRun : List Action :=
  [.accept, .ccm 0 (some (unitName "msc")), .accept, .ccm 1 (some (unitName "msc")),
    .rx 1 updateLocation]

/-- A peer has not said who it is, and names another one as the source. -/
def unidentifiedRun : List Action :=
  [.accept, .ccm 0 (some (unitName "msc")), .accept, .rx 1 (updateLocation ++ sourceNameIe "msc")]

/-- For each request of a run: its connection, that of its source name, and what is sent for the
result. -/
def repliesOf (lib : GsupLib) (actions : List Action) : List (Nat × Option Nat × List Sent) :=
  let w := ((watched lib).run Watched.create actions).1
  w.requests.map fun p =>
    (p.1, gsupRouteFindByIpaName w.server.routes p.2.sourceName.ipaName,
      gsupServerSendReqResponse lib w.server.routes p.2 updateLocationResult)

theorem reply_to_namesake :
    repliesOf Host.gsupLib namesakeRun = [(1, some 0, [⟨0, updateLocationResultMsg⟩])] ∧
      repliesOf Host.gsupLib unidentifiedRun = [(1, some 0, [⟨0, updateLocationResultMsg⟩])] := by
  constructor
  · decide +kernel
  · decide +kernel

end Gsup
end OsmoHlr
