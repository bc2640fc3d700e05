import OsmoHlr.Ussd.Sessions
import OsmoHlr.Ussd.UssdLibHost

/-!
# When a session ends

A session that is handled internally is released after its answer, and END releases
one, too.  A BEGIN or CONTINUE that the HLR itself rejects is answered with session
state END as well, but its session stays until the guard timer expires, if there is one.

* `session_ends_when_answered` — what the HLR has ended is gone, in every run without such
  a message.
* `session_left_after_end` — what happens otherwise.
-/

namespace OsmoHlr
namespace Ussd

open CString CniPeerId Gsup

/-- The session that the HLR has answered with END is gone. -/
def Out.HasEnded (hlr : Hlr) : Out → Prop
  | .answeredEnd imsi sessionId => ssSessionFind hlr imsi sessionId = none
  | _ => True

instance (hlr : Hlr) : (o : Out) → Decidable (o.HasEnded hlr)
  | .answeredEnd imsi sessionId =>
      inferInstanceAs (Decidable (ssSessionFind hlr imsi sessionId = none))
  | .req _ => .isTrue trivial
  | .sent _ => .isTrue trivial

/-- Nothing undefined has happened, so that no session was freed twice or used after that, no two
sessions have the same ids, and what the HLR has answered with END is gone. -/
def SessionsEnd : Except Fault Hlr × List Out → Prop
  | (.error _, _) => False
  | (.ok hlr, out) =>
      (hlr.ssSessions.map fun ss => (ss.imsi, ss.sessionId)).Nodup ∧ ∀ o ∈ out, o.HasEnded hlr

instance : (res : Except Fault Hlr × List Out) → Decidable (SessionsEnd res)
  | (.error _, _) => .isFalse id
  | (.ok hlr, out) =>
      inferInstanceAs (Decidable ((hlr.ssSessions.map fun ss => (ss.imsi, ss.sessionId)).Nodup ∧
        ∀ o ∈ out, o.HasEnded hlr))

/-- A BEGIN or CONTINUE that the HLR itself rejects, to an MS that it can answer. -/
def LeavesSession (lib : SsLib) (env : Env) (hlr : Hlr) (ptr : ReqPtr) : Prop :=
  ptr.req.gsup.sessionState ≠ .stateEnd ∧ ∃ ssReq ss, DispatchedTo lib hlr ptr ssReq ss ∧
    Rejects lib env hlr ss (peerNameIsEuse ptr.req.sourceName) ssReq ∧ CanAnswer lib env ss

/-- The input is none of those that leave a session behind, or use a handler that is not there. -/
def NothingLeft (lib : SsLib) : Except Fault Hlr → Input → Prop
  | .ok hlr, .rx req env =>
      ¬LeavesSession lib env hlr ⟨hlr.allocs, req⟩ ∧ ¬Confuses lib hlr ⟨hlr.allocs, req⟩ ∧
        ¬AsksFreed lib hlr ⟨hlr.allocs, req⟩
  | _, _ => True

variable {lib : SsLib} {env : Env} {hlr next : Hlr} {ss : SsSession} {ptr : ReqPtr}
  {out : List Out}

/-! ## Sessions that are not there -/

theorem NoEnd.hasEnded (h : NoEnd out) (hlr : Hlr) : ∀ o ∈ out, o.HasEnded hlr := by
  intro o ho
  cases o with
  | answeredEnd imsi sessionId => exact absurd ho (h imsi sessionId)
  | req event => trivial
  | sent sent => trivial

theorem NoOtherEnd.hasEnded (h : NoOtherEnd ss out)
    (hnone : ssSessionFind hlr ss.imsi ss.sessionId = none) : ∀ o ∈ out, o.HasEnded hlr := by
  intro o ho
  cases o with
  | answeredEnd imsi sessionId =>
      obtain ⟨rfl, rfl⟩ := h imsi sessionId ho
      exact hnone
  | req event => trivial
  | sent sent => trivial

theorem Kept.ssSessionFind_eq_none (h : Kept hlr next) {imsi : CStr} {sessionId : UInt32}
    (hnone : ssSessionFind hlr imsi sessionId = none) :
    ssSessionFind next imsi sessionId = none := by
  rw [ssSessionFind_eq_none_iff] at hnone ⊢
  exact h.forall (P := fun ss => (ss.imsi, ss.sessionId) ≠ (imsi, sessionId)) (fun _ => Iff.rfl)
    hnone

/-- A session that is removed is not found any more. -/
theorem ssSessionFind_removeSession (hwf : WellFormed hlr) (hss : ss ∈ hlr.ssSessions) :
    ssSessionFind (hlr.removeSession ss.ref) ss.imsi ss.sessionId = none := by
  rw [ssSessionFind_eq_none_iff]
  intro x hx hid
  obtain ⟨hx, hne⟩ := Keyed.mem_remove.1 hx
  have hxss : x = ss := List.inj_on_of_nodup_map hwf.ids hx hss hid
  exact hne (congrArg SsSession.ref hxss)

/-! ## Steps -/

/-- **A message leaves no session that it has ended, unless it is one of those.** -/
theorem rx_sessionsEnd (hwf : WellFormed hlr) (hnew : ptr.ref ∉ hlr.refs)
    (hleaves : ¬LeavesSession lib env hlr ptr)
    (h : rxProcSsReq lib env hlr ptr = .ok (next, out)) : ∀ o ∈ out, o.HasEnded next := by
  cases rx_ok hwf hnew h with
  | kept hkept hend =>
      rcases hend with hend | ⟨ssReq, ss, hstate, hconcerns, hrejects, hanswer⟩
      · exact hend.hasEnded next
      · exact absurd ⟨by simp [hstate], ssReq, ss, Or.inr ⟨hconcerns, Or.inl hstate⟩, hrejects,
          hanswer⟩ hleaves
  | begun ssReq ss hss hbegins hkept hu hend =>
      rcases hend with hend | ⟨hrejects, hanswer⟩
      · exact hend.hasEnded next
      · exact absurd ⟨by simp [hbegins.state], ssReq, ss, Or.inl ⟨hbegins, hss⟩, hrejects, hanswer⟩
          hleaves
  | handled ssReq ss hss hbegins hkept heuse hend =>
      obtain ⟨-, himsi, hid⟩ := beginSession_ids lib hlr ptr _ ssReq
      rw [← hss] at himsi hid
      refine hend.hasEnded (hkept.ssSessionFind_eq_none ?_)
      rw [himsi, hid]
      exact hbegins.unused
  | ended ssReq ss hstate hconcerns hkept hend =>
      exact hend.hasEnded
        (hkept.ssSessionFind_eq_none (ssSessionFind_removeSession hwf hconcerns.mem))

theorem step_sessionsEnd (hwf : WellFormed hlr) {input : Input}
    (h : NothingLeft lib (.ok hlr) input) : SessionsEnd (step lib (.ok hlr) input) := by
  rcases input.rx_or with ⟨req, env, rfl⟩ | hne
  · obtain ⟨hleaves, hconfuses, hfreed⟩ := h
    cases happly : apply lib hlr (.rx req env) with
    | error fault =>
        rcases rx_error hwf.alloc hwf.allocs_notMem happly with ⟨-, h⟩ | ⟨-, h⟩
        · obtain ⟨ssReq, ss, hdispatched, hrest⟩ := h
          exact absurd ⟨ssReq, ss, (dispatchedTo_allocs _).1 hdispatched, hrest⟩ hfreed
        · obtain ⟨ssReq, ss, hdispatched, hrest⟩ := h
          exact absurd ⟨ssReq, ss, (dispatchedTo_allocs _).1 hdispatched, hrest⟩ hconfuses
    | ok p =>
        rw [step_of_ok happly]
        refine ⟨(hwf.apply happly).ids, rx_sessionsEnd hwf.alloc hwf.allocs_notMem ?_ happly⟩
        rintro ⟨hstate, ssReq, ss, hdispatched, hrest⟩
        exact hleaves ⟨hstate, ssReq, ss, (dispatchedTo_allocs _).1 hdispatched, hrest⟩
  · obtain ⟨next, out, happly, -, hend⟩ := apply_of_ne_rx lib hlr hne
    rw [step_of_ok happly]
    exact ⟨(hwf.apply happly).ids, hend.hasEnded next⟩

/-- **In every run without a message that leaves a session behind, no two sessions have the same
ids, none is freed twice or used after that, and a session that the HLR has answered with END is
gone.** -/
theorem session_ends_when_answered (lib : SsLib) (inputs : List Input)
    (h : (machine lib).Guarded (NothingLeft lib) (.ok Hlr.init) inputs) :
    (machine lib).Guarded (fun s input => SessionsEnd (step lib s input)) (.ok Hlr.init)
      inputs := by
  refine (machine lib).guarded_imp (P := fun s => ∃ hlr, s = .ok hlr ∧ WellFormed hlr) ?_
    ⟨Hlr.init, rfl, wellFormed_init⟩ h
  rintro _ input ⟨hlr, rfl, hwf⟩ hleft
  have hend := step_sessionsEnd hwf hleft
  refine ⟨?_, hend⟩
  cases hstep : step lib (.ok hlr) input with
  | mk s out =>
      cases s with
      | error fault =>
          rw [hstep] at hend
          exact absurd hend id
      | ok next =>
          obtain ⟨_, hok, happly⟩ := step_cases hstep
          cases hok
          exact ⟨next, congrArg Prod.fst hstep, hwf.apply happly⟩

/-- The MS asks for its own IMSI. -/
def askOwnImsi : GsupReq := Host.procSs "msc" .stateBegin (Host.invokeUssd 1 0x3b "*#100#")

/-- It does so when there is a route for that. -/
def ownImsiRun : List Input :=
  [.routeInt (CStr.lit "*#100#") .ownImsi, .rx askOwnImsi Host.ussdEnv]

theorem session_ends_own_imsi :
    (machine Host.ssLib).Guarded (fun s input => SessionsEnd (step Host.ssLib s input))
      (.ok Hlr.init) ownImsiRun := by
  refine session_ends_when_answered Host.ssLib ownImsiRun ⟨trivial, ?_, trivial⟩
  have hhandled : ∀ ssReq ss, DispatchedTo Host.ssLib
      (cfgUssdRoutePfxInt Hlr.init (CStr.lit "*#100#") .ownImsi) ⟨0, askOwnImsi⟩ ssReq ss →
      ssOpIsUssd Host.ssLib ssReq.opcode = true ∧ ss.u = .iuse .ownImsi := by
    rintro ssReq ss (⟨hbegins, rfl⟩ | ⟨hconcerns, -⟩)
    · have hrequest : ssRequest Host.ssLib askOwnImsi.gsup =
          some ⟨0x3b, 1, CStr.lit "*#100#"⟩ := by decide +kernel
      obtain rfl := Option.some.inj (hrequest.symm.trans hbegins.request)
      decide +kernel
    · exact absurd hconcerns.mem List.not_mem_nil
  refine ⟨?_, ?_, ?_⟩
  · rintro ⟨-, ssReq, ss, hdispatched, hrejects, -⟩
    obtain ⟨hussd, hu⟩ := hhandled ssReq ss hdispatched
    simp [Rejects, hussd, hu] at hrejects
  · rintro ⟨ssReq, ss, hdispatched, -, -, -, ref, hu⟩
    rw [(hhandled ssReq ss hdispatched).2] at hu
    cases hu
  · rintro ⟨ssReq, ss, hdispatched, -, -, -, ref, hu, -⟩
    rw [(hhandled ssReq ss hdispatched).2] at hu
    cases hu

/-- The MS asks for a code that nobody handles, and there is no guard timer. -/
def unknownCodeRun : List Input :=
  [.guardTimeout 0,
    .rx (Host.procSs "msc" .stateBegin (Host.invokeUssd 1 0x3b "*#101#")) Host.ussdEnv]

theorem session_left_after_end :
    ¬∀ inputs : List Input, (machine Host.ssLib).Guarded
      (fun s input => SessionsEnd (step Host.ssLib s input)) (.ok Hlr.init) inputs := by
  intro h
  have hrun : ¬(machine Host.ssLib).Guarded
      (fun s input => SessionsEnd (step Host.ssLib s input)) (.ok Hlr.init) unknownCodeRun := by
    decide +kernel
  exact hrun (h unknownCodeRun)

end Ussd
end OsmoHlr
