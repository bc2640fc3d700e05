import OsmoHlr.Lib.LongestMatch
import OsmoHlr.Ussd.UssdLibHost

/-!
# Which route a USSD code takes

`ussd_route_lookup_7bit` takes the first route whose prefix the code has, in the order
in which the routes were configured.

* `enterRoutes_eq` — what is configured.
* `beginSession_handler` — what a session of the MS is handled by.
* `mostSpecific_iff` — when that is the most specific route, whatever the order.
-/

namespace OsmoHlr
namespace Ussd

open CString CniPeerId Gsup LongestMatch

/-- What handles the USSD of a session. -/
def SsSession.handler (ss : SsSession) : Bool × UssdPtr := (ss.isExternal, ss.u)

/-- What a route leads to. -/
def UssdRoute.handler (rt : UssdRoute) : Bool × UssdPtr := (rt.isExternal, rt.u)

/-- The characters of the prefix. -/
def UssdRoute.pfxBytes (rt : UssdRoute) : List UInt8 := rt.pfx.bytes

/-- The default route: an EUSE, or nothing. -/
def Hlr.defaultHandler (hlr : Hlr) : Bool × UssdPtr :=
  match hlr.euseDefault with
  | some ref => (true, .euse ref)
  | none => (false, .null)

/-- Routes are configured, one after the other. -/
def enterRoutes (hlr : Hlr) (rts : List UssdRoute) : Hlr := rts.foldl ussdRoutePrefixAlloc hlr

variable (lib : SsLib)

/-- The handler of a session that the MS begins, once the routes are configured in some order. -/
def handlerFor (hlr : Hlr) (order : List UssdRoute) (ptr : ReqPtr) (req : SsRequest) :
    Bool × UssdPtr :=
  (beginSession lib (enterRoutes { hlr with ussdRoutes := [] } order) ptr false req).handler

/-- The same, once a route is deleted and configured again. -/
def handlerReentered (hlr : Hlr) (order : List UssdRoute) (rt : UssdRoute) (ptr : ReqPtr)
    (req : SsRequest) : Bool × UssdPtr :=
  let entered := enterRoutes { hlr with ussdRoutes := [] } order
  (beginSession lib (ussdRoutePrefixAlloc (ussdRouteDel entered rt) rt) ptr false req).handler

/-- A route has a prefix of the code. -/
abbrev RouteMatches (req : SsRequest) (rt : UssdRoute) : Prop :=
  Matches UssdRoute.pfxBytes req.ussdText.bytes rt

/-- USSD codes take the most specific route. -/
structure MostSpecific (hlr : Hlr) (rts : List UssdRoute) (ptr : ReqPtr) (req : SsRequest) :
    Prop where
  /-- The handler is that of the longest prefix. -/
  longest : ∀ order rt, order.Perm rts → IsLongest UssdRoute.pfxBytes req.ussdText.bytes rts rt →
    handlerFor lib hlr order ptr req = rt.handler
  /-- No route is taken exactly if no prefix matches, and then it is the default. -/
  default : ∀ order, order.Perm rts →
    (ussdRouteLookup7bit (enterRoutes { hlr with ussdRoutes := [] } order) req.ussdText = none ↔
      ∀ rt ∈ rts, ¬RouteMatches req rt) ∧
    ((∀ rt ∈ rts, ¬RouteMatches req rt) → handlerFor lib hlr order ptr req = hlr.defaultHandler)
  /-- The order does not matter. -/
  order : ∀ order order', order.Perm rts → order'.Perm rts →
    handlerFor lib hlr order ptr req = handlerFor lib hlr order' ptr req
  /-- Deleting a route and configuring it again changes nothing. -/
  reentered : ∀ order rt, order.Perm rts → rt ∈ rts →
    handlerReentered lib hlr order rt ptr req = handlerFor lib hlr order ptr req

variable {lib} {hlr : Hlr} {rts order : List UssdRoute} {ptr : ReqPtr} {req : SsRequest}

/-! ## What is configured -/

/-- **Routes with different prefixes are all configured**, in their order. -/
theorem enterRoutes_eq (h : ((hlr.ussdRoutes ++ rts).map UssdRoute.pfx).Nodup) :
    enterRoutes hlr rts = { hlr with ussdRoutes := hlr.ussdRoutes ++ rts } := by
  unfold enterRoutes
  induction rts generalizing hlr with
  | nil => simp
  | cons rt rts ih =>
      have hnone : ussdRouteFindPrefix hlr rt.pfx = none := by
        rw [ussdRouteFindPrefix, List.find?_eq_none]
        intro x hx
        rw [List.map_append, List.map_cons, List.nodup_append] at h
        simpa using h.2.2 x.pfx (List.mem_map_of_mem hx) rt.pfx List.mem_cons_self
      have halloc : ussdRoutePrefixAlloc hlr rt =
          { hlr with ussdRoutes := hlr.ussdRoutes ++ [rt] } := by
        rw [ussdRoutePrefixAlloc, hnone]
      rw [List.foldl_cons, halloc, ih]
      · simp
      · simpa using h

theorem enterRoutes_perm (hnodup : (rts.map UssdRoute.pfx).Nodup) (hperm : order.Perm rts) :
    enterRoutes { hlr with ussdRoutes := [] } order = { hlr with ussdRoutes := order } := by
  rw [enterRoutes_eq]
  · rfl
  · exact (hperm.map UssdRoute.pfx).nodup_iff.2 hnodup

/-- A route that is deleted and configured again is the last one. -/
theorem reenter_eq (hnodup : (order.map UssdRoute.pfx).Nodup) {rt : UssdRoute} (hrt : rt ∈ order) :
    ussdRoutePrefixAlloc (ussdRouteDel { hlr with ussdRoutes := order } rt) rt =
      { hlr with ussdRoutes := order.erase rt ++ [rt] } := by
  have hperm : (order.erase rt ++ [rt]).Perm order :=
    List.perm_append_comm.trans (List.perm_cons_erase hrt).symm
  have hnodup' : (((ussdRouteDel { hlr with ussdRoutes := order } rt).ussdRoutes ++
      [rt]).map UssdRoute.pfx).Nodup := (hperm.map UssdRoute.pfx).nodup_iff.2 hnodup
  exact enterRoutes_eq hnodup'

/-! ## What handles a session -/

/-- The first route that matches handles a USSD session of the MS, and without one the default
does. -/
theorem beginSession_handler (hussd : ssOpIsUssd lib req.opcode = true) :
    (beginSession lib hlr ptr false req).handler =
      ((first UssdRoute.pfxBytes req.ussdText.bytes hlr.ussdRoutes).map UssdRoute.handler).getD
        hlr.defaultHandler := by
  have hlookup : ussdRouteLookup7bit hlr req.ussdText =
      first UssdRoute.pfxBytes req.ussdText.bytes hlr.ussdRoutes := rfl
  unfold beginSession SsSession.setHandler
  simp only [hussd, hlookup, ↓reduceIte, Bool.false_eq_true]
  cases first UssdRoute.pfxBytes req.ussdText.bytes hlr.ussdRoutes with
  | some rt => rfl
  | none =>
      unfold Hlr.defaultHandler
      cases hlr.euseDefault <;> rfl

/-- What handles a session, with the routes in some order. -/
theorem handlerFor_eq (hussd : ssOpIsUssd lib req.opcode = true)
    (hnodup : (rts.map UssdRoute.pfx).Nodup) (hperm : order.Perm rts) :
    handlerFor lib hlr order ptr req =
      ((first UssdRoute.pfxBytes req.ussdText.bytes order).map UssdRoute.handler).getD
        hlr.defaultHandler := by
  rw [handlerFor, enterRoutes_perm hnodup hperm, beginSession_handler hussd]
  rfl

/-- A route that is deleted and configured again is as good as in its new place. -/
theorem handlerReentered_eq (lib : SsLib) (hlr : Hlr) (ptr : ReqPtr) (req : SsRequest)
    (hnodup : (rts.map UssdRoute.pfx).Nodup) (hperm : order.Perm rts)
    {rt : UssdRoute} (hrt : rt ∈ rts) :
    ∃ order', order'.Perm rts ∧
      handlerReentered lib hlr order rt ptr req = handlerFor lib hlr order' ptr req := by
  have hmem : rt ∈ order := hperm.mem_iff.2 hrt
  have hperm' : (order.erase rt ++ [rt]).Perm rts :=
    (List.perm_append_comm.trans (List.perm_cons_erase hmem).symm).trans hperm
  refine ⟨order.erase rt ++ [rt], hperm', ?_⟩
  rw [handlerFor, enterRoutes_perm hnodup hperm', handlerReentered,
    enterRoutes_perm hnodup hperm, reenter_eq ((hperm.map UssdRoute.pfx).nodup_iff.2 hnodup) hmem]

/-- Where all routes that match lead to the same handler, it does not matter which is the first. -/
theorem handlerFor_congr (hussd : ssOpIsUssd lib req.opcode = true)
    (hnodup : (rts.map UssdRoute.pfx).Nodup) {order' : List UssdRoute} (hperm : order.Perm rts)
    (hperm' : order'.Perm rts)
    (hsame : ∀ a ∈ rts, ∀ b ∈ rts, RouteMatches req a → RouteMatches req b →
      a.handler = b.handler) :
    handlerFor lib hlr order ptr req = handlerFor lib hlr order' ptr req := by
  rw [handlerFor_eq hussd hnodup hperm, handlerFor_eq hussd hnodup hperm']
  by_cases hmatch : ∃ rt ∈ rts, RouteMatches req rt
  · obtain ⟨rt, hrt, hmatches⟩ := hmatch
    obtain ⟨longest, hlongest⟩ := exists_isLongest hrt hmatches
    have hfirst := (find_congr_iff UssdRoute.handler).2 hsame
    rw [hfirst order longest hperm hlongest, hfirst order' longest hperm' hlongest]
  · have hnone : ∀ l : List UssdRoute, l.Perm rts →
        first UssdRoute.pfxBytes req.ussdText.bytes l = none := fun l hl =>
      first_eq_none_iff.2 fun rt hrt hmatches => hmatch ⟨rt, hl.mem_iff.1 hrt, hmatches⟩
    rw [hnone order hperm, hnone order' hperm']

/-- **When USSD codes take the most specific route**, whatever the order in which the routes are
configured: all routes whose prefix the code has lead to the same handler. -/
theorem mostSpecific_iff (lib : SsLib) (hlr : Hlr) (rts : List UssdRoute)
    (hnodup : (rts.map UssdRoute.pfx).Nodup) (ptr : ReqPtr) (req : SsRequest)
    (hussd : ssOpIsUssd lib req.opcode = true) :
    MostSpecific lib hlr rts ptr req ↔
      ∀ a ∈ rts, ∀ b ∈ rts, RouteMatches req a → RouteMatches req b → a.handler = b.handler := by
  constructor
  · intro h
    refine (find_congr_iff UssdRoute.handler).1 fun order rt hperm hrt => ?_
    have hhandler := h.longest order rt hperm hrt
    rw [handlerFor_eq hussd hnodup hperm] at hhandler
    cases hfirst : first UssdRoute.pfxBytes req.ussdText.bytes order with
    | none =>
        exact absurd hrt.isMatch (first_eq_none_iff.1 hfirst rt (hperm.mem_iff.2 hrt.mem))
    | some x =>
        rw [hfirst] at hhandler
        exact congrArg some hhandler
  · intro hsame
    refine ⟨fun order rt hperm hrt => ?_, fun order hperm => ⟨?_, fun hnone => ?_⟩,
      fun order order' hperm hperm' => handlerFor_congr hussd hnodup hperm hperm' hsame,
      fun order rt hperm hrt => ?_⟩
    · rw [handlerFor_eq hussd hnodup hperm,
        (find_congr_iff UssdRoute.handler).2 hsame order rt hperm hrt]
      rfl
    · rw [enterRoutes_perm hnodup hperm]
      refine first_eq_none_iff.trans ?_
      exact ⟨fun h rt hrt => h rt (hperm.mem_iff.2 hrt), fun h rt hrt => h rt (hperm.mem_iff.1 hrt)⟩
    · rw [handlerFor_eq hussd hnodup hperm,
        first_eq_none_iff.2 fun rt hrt => hnone rt (hperm.mem_iff.1 hrt)]
      rfl
    · obtain ⟨order', hperm', heq⟩ := handlerReentered_eq lib hlr ptr req hnodup hperm hrt
      rw [heq]
      exact handlerFor_congr hussd hnodup hperm' hperm hsame

/-- The codes of two services. -/
def apartRoutes : List UssdRoute :=
  [⟨CStr.lit "*#100#", false, .iuse .ownMsisdn⟩, ⟨CStr.lit "*#101#", false, .iuse .ownImsi⟩]

theorem mostSpecific_apart :
    MostSpecific Host.ssLib Hlr.init apartRoutes
      ⟨0, Host.procSs "msc" .stateBegin (Host.invokeUssd 1 0x3b "*#101#")⟩
      ⟨0x3b, 1, CStr.lit "*#101#"⟩ :=
  (mostSpecific_iff Host.ssLib Hlr.init apartRoutes (by decide +kernel) _ _ (by decide)).2
    (by decide +kernel)

/-- All codes of an EUSE, and those of another one among them. -/
def nestedRoutes : List UssdRoute :=
  [⟨CStr.lit "*1", true, .euse 0⟩, ⟨CStr.lit "*123", true, .euse 1⟩]

/-- `*123#` goes to the route that was configured first. -/
theorem mostSpecific_not_always :
    ¬∀ (lib : SsLib) (hlr : Hlr) (rts : List UssdRoute), (rts.map UssdRoute.pfx).Nodup →
      ∀ (ptr : ReqPtr) (req : SsRequest), ssOpIsUssd lib req.opcode = true →
      MostSpecific lib hlr rts ptr req := by
  intro h
  have horder := (h Host.ssLib Hlr.init nestedRoutes (by decide +kernel)
    ⟨0, Host.procSs "msc" .stateBegin (Host.invokeUssd 1 0x3b "*123#")⟩
    ⟨0x3b, 1, CStr.lit "*123#"⟩ (by decide)).order nestedRoutes nestedRoutes.reverse
    (List.Perm.refl _) (List.reverse_perm _)
  revert horder
  decide +kernel

end Ussd
end OsmoHlr
