import OsmoHlr.Gsup.PeerId
import OsmoHlr.Lib.Keyed
import OsmoHlr.Lib.Registry

/-!
# GSUP routes

`src/gsup_router.c`: the routes say over which connection a peer is reached, in
the order in which they were added.  A connection is named by the number of its
allocation, which stands for its address.

No address has two routes; `RouteTable` keeps that as an invariant.

* `gsupRouteFind_add`, `gsupRouteFind_delConn` — the routes are a registry of
  addresses: adding a route is a claim, which is granted exactly if the return
  code is 0, and closing a connection gives up all that it was granted.
-/

namespace OsmoHlr
namespace Gsup

open CniPeerId Memcmp

/-- `-EEXIST` -/
def eexist : Int := -17

/-- `struct gsup_route` -/
structure Route where
  addr : List UInt8
  conn : Nat
  deriving DecidableEq

/-- `gs->routes` -/
structure RouteTable where
  routes : List Route
  addrs_nodup : (routes.map Route.addr).Nodup

/-- `INIT_LLIST_HEAD(&gsups->routes)` -/
def RouteTable.empty : RouteTable := ⟨[], List.nodup_nil⟩

/-- `gsup_route_find` -/
def gsupRouteFind (gs : RouteTable) (addr : List UInt8) : Option Nat :=
  (gs.routes.find? fun gr =>
    gr.addr.length = addr.length ∧ memcmp addr.length gr.addr addr = 0).map Route.conn

/-- `gsup_route_find_by_ipa_name` -/
def gsupRouteFindByIpaName (gs : RouteTable) (ipaName : IpaName) : Option Nat :=
  gsupRouteFind gs ipaName.val

/-- `gsup_route_find_by_conn` -/
def gsupRouteFindByConn (gs : RouteTable) (conn : Nat) : Option Route :=
  gs.routes.find? fun gr => gr.conn = conn

theorem gsupRouteFind_eq_find (gs : RouteTable) (addr : List UInt8) :
    gsupRouteFind gs addr = (Keyed.find Route.addr gs.routes addr).map Route.conn := by
  have hpred : (fun gr : Route => decide (gr.addr.length = addr.length ∧
      memcmp addr.length gr.addr addr = 0)) = fun gr => decide (gr.addr = addr) := by
    funext gr
    refine decide_eq_decide.2 ⟨fun h => (memcmp_length_eq_zero_iff h.1).1 h.2, fun h => ?_⟩
    subst h
    exact ⟨rfl, (memcmp_length_eq_zero_iff rfl).2 rfl⟩
  rw [gsupRouteFind, hpred, Keyed.find]

theorem gsupRouteFind_eq_some_iff {gs : RouteTable} {addr : List UInt8} {conn : Nat} :
    gsupRouteFind gs addr = some conn ↔ ⟨addr, conn⟩ ∈ gs.routes := by
  rw [gsupRouteFind_eq_find, Option.map_eq_some_iff]
  constructor
  · rintro ⟨gr, hfind, rfl⟩
    obtain ⟨hmem, rfl⟩ := (Keyed.find_eq_some_iff gs.addrs_nodup).1 hfind
    exact hmem
  · intro hmem
    exact ⟨⟨addr, conn⟩, (Keyed.find_eq_some_iff gs.addrs_nodup).2 ⟨hmem, rfl⟩, rfl⟩

theorem gsupRouteFind_eq_none_iff {gs : RouteTable} {addr : List UInt8} :
    gsupRouteFind gs addr = none ↔ addr ∉ gs.routes.map Route.addr := by
  rw [gsupRouteFind_eq_find, Option.map_eq_none_iff, Keyed.find_eq_none_iff]
  simp

/-- What is found for a connection is a route over it. -/
theorem gsupRouteFindByConn_eq_some {gs : RouteTable} {conn : Nat} {gr : Route}
    (h : gsupRouteFindByConn gs conn = some gr) :
    gr.conn = conn ∧ gsupRouteFind gs gr.addr = some conn := by
  have hconn : gr.conn = conn := by simpa using List.find?_some h
  refine ⟨hconn, gsupRouteFind_eq_some_iff.2 ?_⟩
  rw [← hconn]
  exact List.mem_of_find?_eq_some h

/-- A route is found for a connection exactly if some address leads to it. -/
theorem gsupRouteFindByConn_isSome_iff {gs : RouteTable} {conn : Nat} :
    (gsupRouteFindByConn gs conn).isSome = true ↔ ∃ addr, gsupRouteFind gs addr = some conn := by
  constructor
  · intro h
    obtain ⟨gr, hgr⟩ := Option.isSome_iff_exists.1 h
    exact ⟨gr.addr, (gsupRouteFindByConn_eq_some hgr).2⟩
  · rintro ⟨addr, haddr⟩
    rw [gsupRouteFindByConn, List.find?_isSome]
    exact ⟨_, gsupRouteFind_eq_some_iff.1 haddr, by simp⟩

/-! ## Adding and removing -/

/-- `gsup_route_add`: its return code, and the routes. -/
def gsupRouteAdd (gs : RouteTable) (conn : Nat) (addr : List UInt8) : Int × RouteTable :=
  match h : gsupRouteFind gs addr with
  | some existsOnConn => if existsOnConn ≠ conn then (eexist, gs) else (0, gs)
  | none => (0, ⟨gs.routes ++ [⟨addr, conn⟩], by
      rw [List.map_append, List.map_singleton, List.nodup_append]
      refine ⟨gs.addrs_nodup, by simp, ?_⟩
      rintro a ha b hb rfl
      rw [List.mem_singleton.1 hb] at ha
      exact gsupRouteFind_eq_none_iff.1 h ha⟩)

/-- `gsup_route_add_ipa_name` -/
def gsupRouteAddIpaName (gs : RouteTable) (conn : Nat) (ipaName : IpaName) : Int × RouteTable :=
  gsupRouteAdd gs conn ipaName.val

/-- `gsup_route_del_conn`: how many routes were deleted, and the others. -/
def gsupRouteDelConn (gs : RouteTable) (conn : Nat) : Nat × RouteTable :=
  (gs.routes.countP fun gr => gr.conn = conn,
    ⟨gs.routes.filter fun gr => gr.conn ≠ conn,
      (List.filter_sublist.map Route.addr).nodup gs.addrs_nodup⟩)

section Add

variable {gs : RouteTable} {conn : Nat} {addr : List UInt8}

theorem gsupRouteAdd_of_eq_none (h : gsupRouteFind gs addr = none) :
    (gsupRouteAdd gs conn addr).1 = 0 ∧
      (gsupRouteAdd gs conn addr).2.routes = gs.routes ++ [⟨addr, conn⟩] := by
  unfold gsupRouteAdd
  split
  next hsome => rw [h] at hsome; cases hsome
  next => exact ⟨rfl, rfl⟩

theorem gsupRouteAdd_of_eq_some {x : Nat} (h : gsupRouteFind gs addr = some x) :
    gsupRouteAdd gs conn addr = (if x ≠ conn then eexist else 0, gs) := by
  unfold gsupRouteAdd
  split
  next hsome =>
      obtain rfl := Option.some.inj (h.symm.trans hsome)
      split <;> rfl
  next hnone => rw [h] at hnone; cases hnone

/-- Adding a route succeeds exactly if the address is granted to the connection. -/
theorem gsupRouteAdd_eq_zero_iff :
    (gsupRouteAdd gs conn addr).1 = 0 ↔ Registry.Granted (gsupRouteFind gs) addr conn := by
  unfold Registry.Granted
  cases h : gsupRouteFind gs addr with
  | none => simp [gsupRouteAdd_of_eq_none h]
  | some x =>
      rw [gsupRouteAdd_of_eq_some h]
      by_cases hx : x = conn
      · simp [hx]
      · simp [hx, eexist]

/-- **Adding a route is a claim.** -/
theorem gsupRouteFind_add (gs : RouteTable) (conn : Nat) (addr : List UInt8) :
    gsupRouteFind (gsupRouteAdd gs conn addr).2 = Registry.claim (gsupRouteFind gs) addr conn := by
  cases h : gsupRouteFind gs addr with
  | some x =>
      have hne : gsupRouteFind gs addr ≠ none := by simp [h]
      rw [gsupRouteAdd_of_eq_some h, Registry.claim_of_ne_none hne]
  | none =>
      funext a
      ext x
      rw [gsupRouteFind_eq_some_iff, (gsupRouteAdd_of_eq_none h).2, List.mem_append,
        ← gsupRouteFind_eq_some_iff, List.mem_singleton, Route.mk.injEq]
      constructor
      · rintro (hx | ⟨rfl, rfl⟩)
        · exact Registry.keeps_claim a hx
        · exact Registry.claim_of_eq_none h
      · intro hx
        rcases Registry.of_claim_eq_some hx with hx | ⟨ha, hx, -⟩
        · exact Or.inl hx
        · exact Or.inr ⟨ha, hx⟩

end Add

/-- **A connection that is closed gives up its addresses.** -/
theorem gsupRouteFind_delConn (gs : RouteTable) (conn : Nat) :
    gsupRouteFind (gsupRouteDelConn gs conn).2 = Registry.release (gsupRouteFind gs) conn := by
  funext a
  ext x
  rw [Registry.release_eq_some_iff, gsupRouteFind_eq_some_iff, gsupRouteFind_eq_some_iff]
  simp [gsupRouteDelConn]

end Gsup
end OsmoHlr
