import OsmoHlr.Ussd.Sessions
import OsmoHlr.Ussd.UssdLibHost

/-!
# Who holds an EUSE

Routes, the default route and sessions hold pointers to EUSEs.  `no euse NAME` looks at the
default route before it frees an EUSE, but not at the others.

* `no_dangling_euse_iff` — no pointer dangles exactly as long as no EUSE is deleted that a
  prefix route or an external session still holds.
* `dangling_route` — what happens otherwise.
-/

namespace OsmoHlr
namespace Ussd

open CString CniPeerId Gsup

/-- A pointer to an EUSE of the list. -/
def PointsTo (euseList : List Euse) (u : UssdPtr) : Prop := ∃ euse ∈ euseList, u = .euse euse.ref

instance (euseList : List Euse) (u : UssdPtr) : Decidable (PointsTo euseList u) :=
  inferInstanceAs (Decidable (∃ euse ∈ euseList, u = .euse euse.ref))

/-- Whoever holds an EUSE holds one of the list. -/
structure EusesHeld (hlr : Hlr) : Prop where
  routes : ∀ rt ∈ hlr.ussdRoutes, rt.isExternal = true → PointsTo hlr.euseList rt.u
  default : ∀ ref ∈ hlr.euseDefault, PointsTo hlr.euseList (.euse ref)
  sessions : ∀ ss ∈ hlr.ssSessions, ss.isExternal = true → PointsTo hlr.euseList ss.u

instance (hlr : Hlr) : Decidable (EusesHeld hlr) :=
  decidable_of_iff
    ((∀ rt ∈ hlr.ussdRoutes, rt.isExternal = true → PointsTo hlr.euseList rt.u) ∧
      (∀ ref ∈ hlr.euseDefault, PointsTo hlr.euseList (.euse ref)) ∧
      ∀ ss ∈ hlr.ssSessions, ss.isExternal = true → PointsTo hlr.euseList ss.u)
    ⟨fun h => ⟨h.1, h.2.1, h.2.2⟩, fun h => ⟨h.routes, h.default, h.sessions⟩⟩

/-- No pointer to an EUSE dangles, and none that did has been used. -/
def NoDangling : Except Fault Hlr → Prop
  | .ok hlr => EusesHeld hlr
  | .error fault => fault ≠ .euseFreed

instance : (s : Except Fault Hlr) → Decidable (NoDangling s)
  | .ok hlr => inferInstanceAs (Decidable (EusesHeld hlr))
  | .error fault => inferInstanceAs (Decidable (fault ≠ .euseFreed))

/-- A prefix route or an external session holds an EUSE. -/
def IsHeld (hlr : Hlr) (ref : Nat) : Prop :=
  (∃ rt ∈ hlr.ussdRoutes, rt.isExternal = true ∧ rt.u = .euse ref) ∨
    ∃ ss ∈ hlr.ssSessions, ss.isExternal = true ∧ ss.u = .euse ref

/-- The input does not delete an EUSE that is held: it is the default route, so that it is not
deleted, or nobody holds it. -/
def DeletesUnheld : Except Fault Hlr → Input → Prop
  | .ok hlr, .noEuse name =>
      ∀ euse, euseFind hlr name = some euse →
        hlr.euseDefault = some euse.ref ∨ ¬IsHeld hlr euse.ref
  | _, _ => True

variable {lib : SsLib} {env : Env} {hlr next : Hlr} {ss : SsSession} {ptr : ReqPtr}
  {out : List Out}

/-! ## Pointers -/

theorem PointsTo.mono {l l' : List Euse} (h : l ⊆ l') {u : UssdPtr} (hu : PointsTo l u) :
    PointsTo l' u := by
  obtain ⟨euse, hmem, rfl⟩ := hu
  exact ⟨euse, h hmem, rfl⟩

theorem pointsTo_of_find {name : CStr} {euse : Euse} (h : euseFind hlr name = some euse) :
    PointsTo hlr.euseList (.euse euse.ref) := ⟨euse, List.mem_of_find?_eq_some h, rfl⟩

/-- Without an EUSE, all pointers but those to it are still pointers to the rest. -/
theorem pointsTo_euseDel_iff {euse : Euse} {u : UssdPtr} (hu : PointsTo hlr.euseList u) :
    PointsTo (euseDel hlr euse).euseList u ↔ u ≠ .euse euse.ref := by
  obtain ⟨x, hx, rfl⟩ := hu
  constructor
  · rintro ⟨y, hy, heq⟩ hdel
    have hyref : y.ref = euse.ref := UssdPtr.euse.inj (heq.symm.trans hdel)
    exact (Keyed.mem_remove.1 hy).2 hyref
  · intro hne
    exact ⟨x, Keyed.mem_remove.2 ⟨hx, fun href => hne (congrArg UssdPtr.euse href)⟩, rfl⟩

theorem find_ne_none_of_pointsTo {ref : Nat} (h : PointsTo hlr.euseList (.euse ref)) :
    Keyed.find Euse.ref hlr.euseList ref ≠ none := by
  obtain ⟨euse, hmem, href⟩ := h
  intro hnone
  exact Keyed.find_eq_none_iff.1 hnone euse hmem (UssdPtr.euse.inj href).symm

/-! ## Messages -/

theorem setHandler_pointsTo (h : EusesHeld hlr) (hexternal : ss.isExternal = false) {isEuse : Bool}
    {source : PeerId} {ussdText : CStr}
    (hss : (ss.setHandler hlr isEuse source ussdText).isExternal = true) :
    PointsTo hlr.euseList (ss.setHandler hlr isEuse source ussdText).u := by
  unfold SsSession.setHandler at hss ⊢
  split at hss
  · rw [hexternal] at hss
    cases hss
  next heuse =>
      rw [if_neg heuse]
      split at hss
      next rt hrt => exact h.routes rt (List.mem_of_find?_eq_some hrt) hss
      next =>
          split at hss
          next ref href => exact h.default ref href
          next =>
              rw [hexternal] at hss
              cases hss

/-- An external session that is begun holds an EUSE of the list. -/
theorem beginSession_pointsTo (h : EusesHeld hlr) {isEuse : Bool} {ssReq : SsRequest}
    (hss : (beginSession lib hlr ptr isEuse ssReq).isExternal = true) :
    PointsTo hlr.euseList (beginSession lib hlr ptr isEuse ssReq).u := by
  unfold beginSession at hss ⊢
  simp only at hss ⊢
  split at hss
  next hussd =>
      rw [if_pos hussd]
      refine setHandler_pointsTo h ?_ hss
      cases isEuse <;> rfl
  next hussd => cases isEuse <;> cases hss

theorem EusesHeld.kept (h : EusesHeld hlr) (hkept : Kept hlr next) : EusesHeld next where
  routes := hkept.ussdRoutes ▸ hkept.euseList ▸ h.routes
  default := hkept.euseDefault ▸ hkept.euseList ▸ h.default
  sessions := by
    rw [hkept.euseList]
    exact hkept.forall (P := fun ss => ss.isExternal = true → PointsTo hlr.euseList ss.u)
      (fun _ => Iff.rfl) h.sessions

/-- **No message makes a pointer dangle.** -/
theorem EusesHeld.okCases (h : EusesHeld hlr) (hcases : OkCases lib env hlr ptr next out) :
    EusesHeld next := by
  cases hcases with
  | kept hkept hend => exact h.kept hkept
  | begun ssReq ss hss hbegins hkept hu hend =>
      have hadded : EusesHeld (hlr.addSession ss) := by
        refine ⟨h.routes, h.default, ?_⟩
        intro x hx hexternal
        rcases List.mem_append.1 hx with hx | hx
        · exact h.sessions x hx hexternal
        · obtain rfl := List.mem_singleton.1 hx
          subst hss
          exact beginSession_pointsTo h hexternal
      exact hadded.kept hkept
  | handled ssReq ss hss hbegins hkept heuse hend => exact h.kept hkept
  | ended ssReq ss hstate hconcerns hkept hend =>
      have hremoved : EusesHeld (hlr.removeSession ss.ref) :=
        ⟨h.routes, h.default, fun x hx => h.sessions x (Keyed.mem_remove.1 hx).1⟩
      exact hremoved.kept hkept

/-- As long as no pointer dangles, no message is for an EUSE that was freed. -/
theorem not_asksFreed (h : EusesHeld hlr) : ¬AsksFreed lib hlr ptr := by
  rintro ⟨ssReq, ss, hdispatched, -, -, hexternal, ref, hu, hfind⟩
  refine find_ne_none_of_pointsTo ?_ hfind
  rw [← hu]
  rcases hdispatched with ⟨-, rfl⟩ | ⟨hconcerns, -⟩
  · exact beginSession_pointsTo h hexternal
  · exact h.sessions ss hconcerns.mem hexternal

theorem EusesHeld.rx (h : EusesHeld hlr) (hwf : WellFormed hlr) (hnew : ptr.ref ∉ hlr.refs) :
    NoDangling ((rxProcSsReq lib env hlr ptr).map Prod.fst) := by
  cases hrx : rxProcSsReq lib env hlr ptr with
  | ok p => exact h.okCases (rx_ok hwf hnew hrx)
  | error fault =>
      rcases rx_error hwf hnew hrx with ⟨-, hfreed⟩ | ⟨rfl, -⟩
      · exact absurd hfreed (not_asksFreed h)
      · exact fun hfault => by cases hfault

/-! ## Commands -/

/-- **`no euse NAME` makes a pointer dangle exactly if the EUSE is held.** -/
theorem cfgNoEuse_held_iff (h : EusesHeld hlr) (name : CStr) :
    EusesHeld (cfgNoEuse hlr name) ↔ DeletesUnheld (.ok hlr) (.noEuse name) := by
  unfold cfgNoEuse DeletesUnheld
  simp only
  split
  next hnone => simpa [hnone] using h
  next euse hfind =>
      simp only [hfind, Option.some.injEq, forall_eq']
      split
      next hdefault => exact iff_of_true h (Or.inl hdefault)
      next hdefault =>
          rw [or_iff_right hdefault]
          constructor
          · rintro hheld (⟨rt, hrt, hexternal, hu⟩ | ⟨ss, hss, hexternal, hu⟩)
            · exact (pointsTo_euseDel_iff (h.routes rt hrt hexternal)).1
                (hheld.routes rt hrt hexternal) hu
            · exact (pointsTo_euseDel_iff (h.sessions ss hss hexternal)).1
                (hheld.sessions ss hss hexternal) hu
          · intro hunheld
            refine ⟨?_, ?_, ?_⟩
            · intro rt hrt hexternal
              exact (pointsTo_euseDel_iff (h.routes rt hrt hexternal)).2
                fun hu => hunheld (Or.inl ⟨rt, hrt, hexternal, hu⟩)
            · intro ref href
              refine (pointsTo_euseDel_iff (h.default ref href)).2 fun hu => hdefault ?_
              rw [← UssdPtr.euse.inj hu]
              exact href
            · intro ss hss hexternal
              exact (pointsTo_euseDel_iff (h.sessions ss hss hexternal)).2
                fun hu => hunheld (Or.inr ⟨ss, hss, hexternal, hu⟩)

theorem EusesHeld.addRoute (h : EusesHeld hlr) {rt : UssdRoute}
    (hrt : rt.isExternal = true → PointsTo hlr.euseList rt.u) :
    EusesHeld (ussdRoutePrefixAlloc hlr rt) := by
  unfold ussdRoutePrefixAlloc
  split
  · exact h
  · refine ⟨?_, h.default, h.sessions⟩
    intro x hx
    rcases List.mem_append.1 hx with hx | hx
    · exact h.routes x hx
    · obtain rfl := List.mem_singleton.1 hx
      exact hrt

theorem EusesHeld.addEuse (h : EusesHeld hlr) (name : CStr) : EusesHeld (cfgEuse hlr name) := by
  unfold cfgEuse euseAlloc
  split
  · exact h
  · have hsub := List.subset_append_left hlr.euseList [⟨hlr.allocs, name⟩]
    exact ⟨fun rt hrt hexternal => (h.routes rt hrt hexternal).mono hsub,
      fun ref href => (h.default ref href).mono hsub,
      fun ss hss hexternal => (h.sessions ss hss hexternal).mono hsub⟩

/-- **One input makes a pointer dangle exactly if it deletes an EUSE that is held.** -/
theorem step_noDangling_iff {s : Except Fault Hlr} (hs : Sound s) (h : NoDangling s)
    (input : Input) : NoDangling (step lib s input).1 ↔ DeletesUnheld s input := by
  cases s with
  | error fault => exact iff_of_true h trivial
  | ok hlr =>
      rw [step_fst]
      cases input with
      | rx req env =>
          have hheld : EusesHeld { hlr with allocs := hlr.allocs + 1 } :=
            ⟨h.routes, h.default, h.sessions⟩
          exact iff_of_true (hheld.rx (hs hlr rfl).alloc (hs hlr rfl).allocs_notMem) trivial
      | timeout ref =>
          refine iff_of_true ?_ trivial
          simp only [apply, ssSessionTimeout, ssSessionFree]
          split
          · exact h
          · split
            · split
              · exact fun hfault => by cases hfault
              · exact ⟨h.routes, h.default, fun x hx => h.sessions x (Keyed.mem_remove.1 hx).1⟩
            · exact h
      | euse name => exact iff_of_true (h.addEuse name) trivial
      | noEuse name => exact cfgNoEuse_held_iff h name
      | routeInt pfx iuse => exact iff_of_true (h.addRoute fun hext => by cases hext) trivial
      | routeExt pfx name =>
          refine iff_of_true ?_ trivial
          simp only [apply, cfgUssdRoutePfxExt]
          split
          · exact h
          next euse hfind => exact h.addRoute fun _ => pointsTo_of_find hfind
      | noRoute pfx =>
          refine iff_of_true ?_ trivial
          simp only [apply, cfgUssdNoRoutePfx]
          split
          · exact h
          · exact ⟨fun x hx => h.routes x (List.mem_of_mem_erase hx), h.default, h.sessions⟩
      | defaultRoute name =>
          refine iff_of_true ?_ trivial
          simp only [apply, cfgUssdDefaultroute]
          split
          · exact h
          next euse hfind =>
              refine ⟨h.routes, ?_, h.sessions⟩
              intro ref href
              rw [← Option.some.inj href]
              exact pointsTo_of_find hfind
      | noDefaultRoute =>
          exact iff_of_true ⟨h.routes, fun ref href => (by cases href), h.sessions⟩ trivial
      | guardTimeout timeout =>
          exact iff_of_true ⟨h.routes, h.default, h.sessions⟩ trivial

/-- **No pointer to an EUSE dangles in any state of a run exactly as long as no EUSE is deleted
that a prefix route or an external session holds.** -/
theorem no_dangling_euse_iff (lib : SsLib) (inputs : List Input) :
    (machine lib).Guarded (fun s input => NoDangling (step lib s input).1) (.ok Hlr.init) inputs ↔
      (machine lib).Guarded DeletesUnheld (.ok Hlr.init) inputs := by
  refine (machine lib).guarded_congr (P := fun s => Sound s ∧ NoDangling s)
    (H := fun _ => True) ?_ ?_ ⟨sound_init, ?_⟩ fun _ _ => trivial
  · rintro s input ⟨hs, -⟩ - hheld
    exact ⟨hs.step input, hheld⟩
  · rintro s input ⟨hs, hheld⟩ -
    exact step_noDangling_iff hs hheld input
  · exact ⟨fun _ h => (nomatch h), fun _ h => (nomatch h), fun _ h => (nomatch h)⟩

/-- An EUSE has a prefix route, and is deleted. -/
def heldEuseRun : List Input :=
  [.euse (CStr.lit "foo"), .routeExt (CStr.lit "*#200#") (CStr.lit "foo"),
    .noEuse (CStr.lit "foo")]

theorem dangling_route :
    ¬∀ inputs : List Input, (machine Host.ssLib).Guarded
      (fun s input => NoDangling (step Host.ssLib s input).1) (.ok Hlr.init) inputs := by
  intro h
  have hrun : ¬(machine Host.ssLib).Guarded
      (fun s input => NoDangling (step Host.ssLib s input).1) (.ok Hlr.init) heldEuseRun := by
    decide +kernel
  exact hrun (h heldEuseRun)

end Ussd
end OsmoHlr
