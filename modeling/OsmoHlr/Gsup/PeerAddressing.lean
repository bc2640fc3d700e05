import OsmoHlr.Gsup.RouteRuns
import OsmoHlr.Gsup.Send

/-!
# Two ways to address a peer

Responses find their connection by the name as it is
(`gsup_route_find_by_ipa_name`), messages that are forwarded by the name with a NUL
at its end (`osmo_gsup_send_to_ipa_name`).  A route is added for the name as it is.

* `keeps_routes` — a connection keeps its routes until it is closed.
* `reachedBothWays_iff` — when both ways lead to the same connection.
* `reachedBothWays_run_iff` — and so it stays.
-/

namespace OsmoHlr
namespace Gsup

open CniPeerId

/-- The name ends in a NUL. -/
def NulTerminated (name : IpaName) : Prop := name.val.getLastD 0 = 0

instance (name : IpaName) : Decidable (NulTerminated name) :=
  inferInstanceAs (Decidable (name.val.getLastD 0 = 0))

/-- Both ways of addressing a peer lead to the connection. -/
structure ReachedBothWays (routes : RouteTable) (conn : Nat) (name : IpaName) : Prop where
  find : gsupRouteFindByIpaName routes name = some conn
  send : ∀ msg, osmoGsupSendToIpaName routes name msg = (0, [⟨conn, msg⟩])

section Ways

variable {routes : RouteTable} {conn : Nat} {name : IpaName}

/-- A message is sent over the route of its address. -/
theorem osmoGsupAddrSend_eq_iff {addr : List UInt8} :
    (∀ msg, osmoGsupAddrSend routes addr msg = (0, [⟨conn, msg⟩])) ↔
      gsupRouteFind routes addr = some conn := by
  unfold osmoGsupAddrSend
  cases gsupRouteFind routes addr with
  | none => simp [enodev]
  | some x => simp

/-- A name without a NUL is completed, if there is room for it. -/
theorem osmoGsupSendToIpaName_eq (hlen : name.val.length < ipaNameSize) (msg : List UInt8) :
    osmoGsupSendToIpaName routes name msg =
      if NulTerminated name then osmoGsupAddrSend routes name.val msg
      else osmoGsupAddrSend routes (name.val ++ [0]) msg := by
  unfold osmoGsupSendToIpaName
  by_cases hnul : NulTerminated name
  · have hlast : ¬name.val.getLastD 0 ≠ 0 := not_not.2 hnul
    rw [if_neg hlast, if_pos hnul]
  · have hroom : ¬ipaNameSize ≤ name.len := Nat.not_le.2 hlen
    have hlast : name.val.getLastD 0 ≠ 0 := hnul
    rw [if_pos hlast, if_neg hroom, if_neg hnul]

/-- **When both ways lead to the same connection**: the name is routed there, and if it has no NUL
at its end, then so is the name with one. -/
theorem reachedBothWays_iff (hlen : name.val.length < ipaNameSize) :
    ReachedBothWays routes conn name ↔
      gsupRouteFind routes name.val = some conn ∧
        (NulTerminated name ∨ gsupRouteFind routes (name.val ++ [0]) = some conn) := by
  by_cases hnul : NulTerminated name
  · have hsend : (∀ msg, osmoGsupSendToIpaName routes name msg = (0, [⟨conn, msg⟩])) ↔
        gsupRouteFind routes name.val = some conn := by
      simp only [osmoGsupSendToIpaName_eq hlen, if_pos hnul]
      exact osmoGsupAddrSend_eq_iff
    exact ⟨fun h => ⟨h.find, Or.inl hnul⟩, fun h => ⟨h.1, hsend.2 h.1⟩⟩
  · have hsend : (∀ msg, osmoGsupSendToIpaName routes name msg = (0, [⟨conn, msg⟩])) ↔
        gsupRouteFind routes (name.val ++ [0]) = some conn := by
      simp only [osmoGsupSendToIpaName_eq hlen, if_neg hnul]
      exact osmoGsupAddrSend_eq_iff
    exact ⟨fun h => ⟨h.find, Or.inr (hsend.1 h.send)⟩,
      fun h => ⟨h.1, hsend.2 (h.2.resolve_left hnul)⟩⟩

end Ways

/-! ## Until the connection is closed -/

section Runs

variable {server : GsupServer} {conn : Nat}

/-- Only closing a connection is a leave. -/
theorem release_not_mem_registryCall {call : RouteCall} (h : call ≠ .connFree conn) :
    .release conn ∉ registryCall server call := by
  cases call with
  | connFree other =>
      simp only [registryCall]
      split
      · rw [List.mem_singleton]
        rintro ⟨⟩
        exact h rfl
      · exact List.not_mem_nil
  | _ =>
      simp only [registryCall]
      try split
      all_goals simp

/-- **A connection keeps its routes until it is closed.** -/
theorem keeps_routes {calls : List RouteCall} (h : .connFree conn ∉ calls) (server : GsupServer) :
    Registry.Keeps conn (gsupRouteFind server.routes)
      (gsupRouteFind (routing.run server calls).1.routes) := by
  induction calls generalizing server with
  | nil => exact Registry.Keeps.refl conn _
  | cons call calls ih =>
      obtain ⟨hcall, hcalls⟩ := not_or.1 (mt List.mem_cons.2 h)
      have hstep : Registry.Keeps conn (gsupRouteFind server.routes)
          (gsupRouteFind (routeStep server call).1.routes) := by
        rw [(routeStep_spec server call).1]
        exact Registry.keeps_run (release_not_mem_registryCall (Ne.symm hcall)) _
      exact hstep.trans (ih hcalls _)

/-- **When both ways lead to a connection for as long as it is open**, once a route was added for
the name: the name ends in a NUL, or the name with a NUL had been routed there before.  The table
is that of any run. -/
theorem reachedBothWays_run_iff (calls : List RouteCall) (conn : Nat) (name : IpaName)
    (_ : name.val ≠ []) (hlen : name.val.length ≤ 127)
    (hopen : (routing.run GsupServer.create calls).1.Open conn)
    (hadded : (gsupRouteAddIpaName (routing.run GsupServer.create calls).1.routes conn name).1 = 0) :
    (∀ later : List RouteCall, .connFree conn ∉ later →
      ReachedBothWays
        (routing.run GsupServer.create (calls ++ .routeAddIpaName conn name :: later)).1.routes
        conn name) ↔
      NulTerminated name ∨
        gsupRouteFind (routing.run GsupServer.create calls).1.routes (name.val ++ [0]) =
          some conn := by
  simp only [Machine.run_append, Machine.run_cons]
  generalize (routing.run GsupServer.create calls).1 = server at hopen hadded ⊢
  have hroom : name.val.length < ipaNameSize := Nat.lt_succ_of_le hlen
  have hadd : gsupRouteFind (routing.step server (.routeAddIpaName conn name)).1.routes =
      Registry.claim (gsupRouteFind server.routes) name.val conn := by
    simp only [routing, routeStep, if_pos hopen]
    exact gsupRouteFind_add _ _ _
  have hclaimed := Registry.granted_iff_claim.1 (gsupRouteAdd_eq_zero_iff.1 hadded)
  -- the name with a NUL is another one
  have hother : Registry.claim (gsupRouteFind server.routes) name.val conn (name.val ++ [0]) =
      gsupRouteFind server.routes (name.val ++ [0]) := Registry.claim_other (by simp)
  constructor
  · intro h
    have hafter := ((reachedBothWays_iff hroom).1 (h [] List.not_mem_nil)).2
    rwa [Machine.run_nil, hadd, hother] at hafter
  · intro h later hlater
    have hkept := keeps_routes hlater (routing.step server (.routeAddIpaName conn name)).1
    rw [hadd] at hkept
    refine (reachedBothWays_iff hroom).2 ⟨hkept _ hclaimed, h.imp_right fun hnul => ?_⟩
    exact hkept _ (hother.trans hnul)

/-- "a" with a NUL, and another connection that is closed: both ways lead to the connection "a" is
routed to. -/
theorem reachedBothWays_run_a :
    ReachedBothWays
      (routing.run GsupServer.create
        ([.accept, .accept] ++ .routeAddIpaName 0 ⟨[0x61, 0], by decide⟩ :: [.connFree 1])).1.routes
      0 ⟨[0x61, 0], by decide⟩ :=
  (reachedBothWays_run_iff [.accept, .accept] 0 ⟨[0x61, 0], by decide⟩ (by decide) (by decide)
    (by decide) (by decide)).2 (Or.inl (by decide)) [.connFree 1] (by simp)

/-- "a" without a NUL is routed to one connection, and "a" with a NUL to another one. -/
theorem reachedBothWays_run_not_always :
    ¬∀ (calls : List RouteCall) (conn : Nat) (name : IpaName), name.val ≠ [] →
      name.val.length ≤ 127 → (routing.run GsupServer.create calls).1.Open conn →
      (gsupRouteAddIpaName (routing.run GsupServer.create calls).1.routes conn name).1 = 0 →
      ∀ later : List RouteCall, .connFree conn ∉ later →
        ReachedBothWays
          (routing.run GsupServer.create (calls ++ .routeAddIpaName conn name :: later)).1.routes
          conn name := by
  intro h
  have hboth := h [.accept, .accept, .routeAddIpaName 1 ⟨[0x61, 0], by decide⟩] 0
    ⟨[0x61], by decide⟩ (by decide) (by decide) (by decide) (by decide) [] (by simp)
  have hsent : (osmoGsupSendToIpaName _ _ []).2 = [⟨0, []⟩] :=
    congrArg Prod.snd (hboth.send [])
  revert hsent
  decide

end Runs

end Gsup
end OsmoHlr
