import Mathlib.Data.Set.Finite.List
import OsmoHlr.Gsup.Server

/-!
# The routes as a map

`src/gsup_router.c` over whole runs: connections come, are given routes by either
of the two functions that add them, are looked up, and go.  A connection that is
gone is not called for any more.

* `routing_simulates` — the routes answer every call as a registry of addresses
  does, one call after the other.
* `route_table_refines_map` — so they are one, in any run, and what a further call
  does to it.
-/

namespace OsmoHlr
namespace Gsup

open CniPeerId

/-! ## Runs -/

/-- What is called for a connection or for an address. -/
inductive RouteCall where
  /-- `osmo_gsup_server_accept_cb` -/
  | accept
  | routeAdd (conn : Nat) (addr : List UInt8)
  | routeAddIpaName (conn : Nat) (ipaName : IpaName)
  /-- `osmo_gsup_conn_free` -/
  | connFree (conn : Nat)
  | routeFind (addr : List UInt8)
  | routeFindByIpaName (ipaName : IpaName)
  | routeFindByConn (conn : Nat)

/-- What is returned. -/
inductive RouteAnswer where
  | rc (rc : Int)
  | conn (conn : Option Nat)
  | route (route : Option Route)

/-- The server with the routes that are left by a function that adds one, and its return code. -/
def routeAdded (server : GsupServer) (added : Int × RouteTable) : GsupServer × List RouteAnswer :=
  ({ server with routes := added.2 }, [.rc added.1])

/-- One call; there are none for a connection that is not open. -/
def routeStep (server : GsupServer) : RouteCall → GsupServer × List RouteAnswer
  | .accept => (osmoGsupServerAcceptCb server, [])
  | .routeAdd conn addr =>
      if server.Open conn then routeAdded server (gsupRouteAdd server.routes conn addr)
      else (server, [])
  | .routeAddIpaName conn ipaName =>
      if server.Open conn then routeAdded server (gsupRouteAddIpaName server.routes conn ipaName)
      else (server, [])
  | .connFree conn =>
      match server.lookup conn with
      | none => (server, [])
      | some clnt => (osmoGsupConnFree server clnt, [])
  | .routeFind addr => (server, [.conn (gsupRouteFind server.routes addr)])
  | .routeFindByIpaName ipaName => (server, [.conn (gsupRouteFindByIpaName server.routes ipaName)])
  | .routeFindByConn conn =>
      if server.Open conn then (server, [.route (gsupRouteFindByConn server.routes conn)])
      else (server, [])

/-- The calls as a machine. -/
def routing : Machine GsupServer RouteCall RouteAnswer := ⟨routeStep⟩

/-! ## The map behind the table -/

/-- A call as one to the registry of addresses. -/
def registryCall (server : GsupServer) : RouteCall → List (Registry.Call (List UInt8) Nat)
  | .accept => []
  | .routeAdd conn addr => if server.Open conn then [.claim addr conn] else []
  | .routeAddIpaName conn ipaName => if server.Open conn then [.claim ipaName.val conn] else []
  | .connFree conn => if server.Open conn then [.release conn] else []
  | .routeFind addr => [.owner addr]
  | .routeFindByIpaName ipaName => [.owner ipaName.val]
  | .routeFindByConn conn => if server.Open conn then [.owns conn] else []

/-- An answer as one of the registry. -/
def registryAnswer : RouteAnswer → Registry.Answer Nat
  | .rc rc => .granted (rc = 0)
  | .conn conn => .owner conn
  | .route route => .owns (route.isSome = true)

/-- What is in the table is what is in the registry. -/
def IsRegistry (server : GsupServer) (reg : Registry (List UInt8) Nat) : Prop :=
  gsupRouteFind server.routes = reg

theorem lookup_eq_none_iff {server : GsupServer} {conn : Nat} :
    server.lookup conn = none ↔ ¬server.Open conn := by
  rw [GsupServer.lookup, Keyed.find_eq_none_iff]
  simp [GsupServer.Open]

theorem lookup_ref {server : GsupServer} {conn : Nat} {clnt : Conn}
    (h : server.lookup conn = some clnt) : clnt.ref = conn := by
  simpa using List.find?_some h

/-- Adding a route answers as the registry does. -/
theorem registryAnswer_added (server : GsupServer) (conn : Nat) (addr : List UInt8) :
    registryAnswer (.rc (gsupRouteAdd server.routes conn addr).1) =
      .granted (Registry.Granted (gsupRouteFind server.routes) addr conn) :=
  congrArg Registry.Answer.granted (propext gsupRouteAdd_eq_zero_iff)

/-- What one call comes to. -/
theorem routeStep_spec (server : GsupServer) (call : RouteCall) :
    gsupRouteFind (routeStep server call).1.routes =
        (Registry.machine.run (gsupRouteFind server.routes) (registryCall server call)).1 ∧
      (routeStep server call).2.map registryAnswer =
        (Registry.machine.run (gsupRouteFind server.routes) (registryCall server call)).2 := by
  cases call with
  | accept => exact ⟨rfl, rfl⟩
  | routeAdd conn addr =>
      simp only [routeStep, registryCall]
      split
      · rw [Machine.run_singleton]
        exact ⟨gsupRouteFind_add _ _ _, congrArg (· :: []) (registryAnswer_added server conn addr)⟩
      · exact ⟨rfl, rfl⟩
  | routeAddIpaName conn ipaName =>
      simp only [routeStep, registryCall]
      split
      · rw [Machine.run_singleton]
        exact ⟨gsupRouteFind_add _ _ _,
          congrArg (· :: []) (registryAnswer_added server conn ipaName.val)⟩
      · exact ⟨rfl, rfl⟩
  | connFree conn =>
      simp only [routeStep, registryCall]
      cases hlookup : server.lookup conn with
      | none =>
          rw [if_neg (lookup_eq_none_iff.1 hlookup)]
          exact ⟨rfl, rfl⟩
      | some clnt =>
          have hopen : server.Open conn := by
            by_contra hclosed
            rw [lookup_eq_none_iff.2 hclosed] at hlookup
            cases hlookup
          rw [if_pos hopen, Machine.run_singleton]
          obtain rfl := lookup_ref hlookup
          exact ⟨gsupRouteFind_delConn _ _, rfl⟩
  | routeFind addr => exact ⟨rfl, rfl⟩
  | routeFindByIpaName ipaName => exact ⟨rfl, rfl⟩
  | routeFindByConn conn =>
      simp only [routeStep, registryCall]
      split
      · rw [Machine.run_singleton]
        refine ⟨rfl, congrArg (· :: []) ?_⟩
        exact congrArg Registry.Answer.owns (propext gsupRouteFindByConn_isSome_iff)
      · exact ⟨rfl, rfl⟩

/-- **The routes answer every call as the registry does.** -/
theorem routing_simulates :
    routing.Simulates Registry.machine IsRegistry registryCall (fun answer => [registryAnswer answer])
      (fun answer => [answer]) where
  state := by
    rintro server reg call rfl
    exact (routeStep_spec server call).1
  output := by
    rintro server reg call rfl
    have hout := (routeStep_spec server call).2
    simp only [List.flatMap_singleton', ← List.map_eq_flatMap]
    exact hout

/-! ## No route to a connection that is gone -/

/-- Every connection that a route leads to is open. -/
def RoutesOpen (server : GsupServer) : Prop := ∀ gr ∈ server.routes.routes, server.Open gr.conn

theorem RoutesOpen.added {server : GsupServer} (h : RoutesOpen server) {conn : Nat}
    (hopen : server.Open conn) (addr : List UInt8) :
    RoutesOpen (routeAdded server (gsupRouteAdd server.routes conn addr)).1 := by
  intro gr hgr
  cases hfind : gsupRouteFind server.routes addr with
  | some x =>
      rw [gsupRouteAdd_of_eq_some hfind] at hgr
      exact h gr hgr
  | none =>
      have hroutes : (gsupRouteAdd server.routes conn addr).2.routes = _ :=
        (gsupRouteAdd_of_eq_none hfind).2
      rw [routeAdded, hroutes, List.mem_append, List.mem_singleton] at hgr
      rcases hgr with hgr | rfl
      · exact h gr hgr
      · exact hopen

theorem RoutesOpen.closed {server : GsupServer} (h : RoutesOpen server) (clnt : Conn) :
    RoutesOpen (osmoGsupConnFree server clnt) := by
  intro gr hgr
  obtain ⟨hmem, hne⟩ := List.mem_filter.1 hgr
  obtain ⟨x, hx, hxr⟩ := h gr hmem
  refine ⟨x, Keyed.mem_remove.2 ⟨hx, ?_⟩, hxr⟩
  rw [hxr]
  exact of_decide_eq_true hne

theorem RoutesOpen.step {server : GsupServer} (h : RoutesOpen server) (call : RouteCall) :
    RoutesOpen (routeStep server call).1 := by
  cases call with
  | accept =>
      intro gr hgr
      obtain ⟨x, hx, hxr⟩ := h gr hgr
      obtain ⟨ind, hperm⟩ := osmoGsupServerAcceptCb_perm server
      exact ⟨x, hperm.mem_iff.2 (List.mem_cons_of_mem _ hx), hxr⟩
  | routeAdd conn addr =>
      simp only [routeStep]
      split
      next hopen => exact h.added hopen addr
      next => exact h
  | routeAddIpaName conn ipaName =>
      simp only [routeStep]
      split
      next hopen => exact h.added hopen ipaName.val
      next => exact h
  | connFree conn =>
      simp only [routeStep]
      split
      next => exact h
      next clnt _ => exact h.closed clnt
  | routeFind addr => exact h
  | routeFindByIpaName ipaName => exact h
  | routeFindByConn conn =>
      simp only [routeStep]
      split <;> exact h

/-! ## What the next call does -/

/-- The routes as a map from addresses to connections. -/
structure RoutesAsMap (server : GsupServer) : Prop where
  finite : {addr | gsupRouteFind server.routes addr ≠ none}.Finite
  addrs_nodup : (server.routes.routes.map Route.addr).Nodup
  route_open : ∀ gr ∈ server.routes.routes, server.Open gr.conn
  add_other : ∀ addr other conn, gsupRouteFind server.routes addr = some other → other ≠ conn →
    gsupRouteAdd server.routes conn addr = (eexist, server.routes)
  add_same : ∀ addr conn, gsupRouteFind server.routes addr = some conn →
    gsupRouteAdd server.routes conn addr = (0, server.routes)
  add_new : ∀ addr conn, gsupRouteFind server.routes addr = none →
    (gsupRouteAdd server.routes conn addr).1 = 0 ∧
      ∀ a, gsupRouteFind (gsupRouteAdd server.routes conn addr).2 a =
        if a = addr then some conn else gsupRouteFind server.routes a
  add_ipa_name : ∀ ipaName conn,
    gsupRouteAddIpaName server.routes conn ipaName = gsupRouteAdd server.routes conn ipaName.val
  free : ∀ clnt ∈ server.clients,
    ¬(osmoGsupConnFree server clnt).Open clnt.ref ∧
      (∀ gr ∈ (osmoGsupConnFree server clnt).routes.routes, gr.conn ≠ clnt.ref) ∧
      ∀ addr, gsupRouteFind server.routes addr ≠ some clnt.ref →
        gsupRouteFind (osmoGsupConnFree server clnt).routes addr =
          gsupRouteFind server.routes addr
  find_by_conn : ∀ conn,
    (gsupRouteFindByConn server.routes conn).isSome = true ↔
      ∃ addr, gsupRouteFind server.routes addr = some conn

theorem RoutesAsMap.of_open {server : GsupServer} (h : RoutesOpen server) :
    RoutesAsMap server where
  finite := by
    refine (List.finite_toSet (server.routes.routes.map Route.addr)).subset ?_
    intro addr haddr
    by_contra hmem
    exact haddr (gsupRouteFind_eq_none_iff.2 hmem)
  addrs_nodup := server.routes.addrs_nodup
  route_open := h
  add_other := by
    intro addr other conn hfind hne
    rw [gsupRouteAdd_of_eq_some hfind, if_pos hne]
  add_same := by
    intro addr conn hfind
    rw [gsupRouteAdd_of_eq_some hfind, if_neg (not_not.2 rfl)]
  add_new := by
    intro addr conn hfind
    refine ⟨(gsupRouteAdd_of_eq_none hfind).1, fun a => ?_⟩
    rw [gsupRouteFind_add]
    split
    next ha =>
        rw [ha]
        exact Registry.claim_of_eq_none hfind
    next ha => exact Registry.claim_other ha
  add_ipa_name := fun _ _ => rfl
  free := by
    refine fun clnt _ => ⟨?_, ?_, ?_⟩
    · rintro ⟨x, hx, hxr⟩
      exact (Keyed.mem_remove.1 hx).2 hxr
    · intro gr hgr
      exact of_decide_eq_true (List.mem_filter.1 hgr).2
    · intro addr haddr
      rw [osmoGsupConnFree, gsupRouteFind_delConn]
      exact Registry.release_of_ne haddr
  find_by_conn := fun _ => gsupRouteFindByConn_isSome_iff

/-- **The routes are a map from addresses to connections**: in any run they answer every call as
the registry of addresses does, and so they will answer the next one. -/
theorem route_table_refines_map (calls : List RouteCall) :
    let server := (routing.run GsupServer.create calls).1
    let reg := Registry.machine.run (fun _ => none)
      (routing.view registryCall GsupServer.create calls)
    gsupRouteFind server.routes = reg.1 ∧
      (routing.run GsupServer.create calls).2.map registryAnswer = reg.2 ∧
      RoutesAsMap server := by
  have hempty : IsRegistry GsupServer.create (fun _ => none) := rfl
  obtain ⟨hstate, hout⟩ := routing_simulates.run hempty calls
  have hopen : RoutesOpen (routing.run GsupServer.create calls).1 :=
    routing.run_invariant (P := RoutesOpen) (fun _ call h => h.step call) (fun _ hgr => by cases hgr)
      calls
  refine ⟨hstate, ?_, RoutesAsMap.of_open hopen⟩
  simpa only [List.flatMap_singleton', ← List.map_eq_flatMap] using hout

end Gsup
end OsmoHlr
