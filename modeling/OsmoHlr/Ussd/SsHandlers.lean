import OsmoHlr.Ussd.Sessions
import OsmoHlr.Ussd.UssdLibHost

/-!
# What handles a session

`struct ss_session` says by `is_external` which member of its union `u` is valid.  A BEGIN
from the MS sets both.  A BEGIN from an EUSE sets `u.euse` and leaves `is_external`
false.

* `handlers_typed_iff` — so sessions are what they say, and nothing is called through
  the wrong member, exactly as long as no EUSE that is configured begins a USSD session.
* `handlers_confused` — what happens otherwise.
-/

namespace OsmoHlr
namespace Ussd

open CString CniPeerId Gsup

/-- The member of the union is the one that `is_external` says, or it is null. -/
def SsSession.WellTyped (ss : SsSession) : Prop :=
  match ss.u with
  | .null => True
  | .euse _ => ss.isExternal = true
  | .iuse _ => ss.isExternal = false

instance (ss : SsSession) : Decidable ss.WellTyped := by
  unfold SsSession.WellTyped
  split <;> infer_instance

/-- All sessions are what they say, and none has been used as what it is not. -/
def HandlersTyped : Except Fault Hlr → Prop
  | .ok hlr => ∀ ss ∈ hlr.ssSessions, ss.WellTyped
  | .error fault => fault ≠ .iuseIsEuse ∧ fault ≠ .euseIsIuse

instance : (s : Except Fault Hlr) → Decidable (HandlersTyped s)
  | .ok hlr => inferInstanceAs (Decidable (∀ ss ∈ hlr.ssSessions, ss.WellTyped))
  | .error fault => inferInstanceAs (Decidable (fault ≠ .iuseIsEuse ∧ fault ≠ .euseIsIuse))

/-- An EUSE that is configured begins a new session, which is about USSD. -/
def EuseBegins (lib : SsLib) (hlr : Hlr) (req : GsupReq) : Prop :=
  ∃ ssReq, Begins lib hlr req ssReq ∧ ssOpIsUssd lib ssReq.opcode = true ∧
    ∃ euse, euseByName hlr req.sourceName = some euse

/-- No EUSE that is configured begins a USSD session. -/
def NoEuseBegins (lib : SsLib) : Except Fault Hlr → Input → Prop
  | .ok hlr, .rx req _ => ¬EuseBegins lib hlr req
  | _, _ => True

variable {lib : SsLib} {env : Env} {hlr next : Hlr} {ss : SsSession} {req : GsupReq}
  {out : List Out}

theorem noEuseBegins_of_ne_rx {s : Except Fault Hlr} {input : Input}
    (h : ∀ req env, input ≠ .rx req env) : NoEuseBegins lib s input := by
  unfold NoEuseBegins
  split
  · exact absurd rfl (h _ _)
  · trivial

/-- How many allocations there have been does not matter. -/
theorem euseBegins_alloc (n : Nat) :
    EuseBegins lib { hlr with allocs := n } req ↔ EuseBegins lib hlr req := by
  constructor
  · rintro ⟨ssReq, ⟨hstate, hsource, hrequest, hunused⟩, hrest⟩
    exact ⟨ssReq, ⟨hstate, hsource, hrequest, hunused⟩, hrest⟩
  · rintro ⟨ssReq, ⟨hstate, hsource, hrequest, hunused⟩, hrest⟩
    exact ⟨ssReq, ⟨hstate, hsource, hrequest, hunused⟩, hrest⟩

theorem wellTyped_core (ss : SsSession) : ss.core.WellTyped ↔ ss.WellTyped := Iff.rfl

theorem isEuse_of_euseByName {source : PeerId} {euse : Euse}
    (h : euseByName hlr source = some euse) : peerNameIsEuse source = true := by
  unfold euseByName at h
  split at h
  · assumption
  · cases h

/-- The session that an EUSE begins. -/
theorem beginSession_euse (hlr : Hlr) (ptr : ReqPtr) {ssReq : SsRequest}
    (hussd : ssOpIsUssd lib ssReq.opcode = true) :
    (beginSession lib hlr ptr true ssReq).isExternal = false ∧
      (beginSession lib hlr ptr true ssReq).u =
        (euseByName hlr ptr.req.sourceName).elim .null fun euse => .euse euse.ref := by
  unfold beginSession
  simp only [hussd]
  exact ⟨rfl, rfl⟩

/-- A session that is begun is what it says unless an EUSE that is configured begins it. -/
theorem beginSession_wellTyped (hwf : WellFormed hlr) {ptr : ReqPtr} {ssReq : SsRequest}
    (hbegins : Begins lib hlr ptr.req ssReq) (hno : ¬EuseBegins lib hlr ptr.req) :
    (beginSession lib hlr ptr (peerNameIsEuse ptr.req.sourceName) ssReq).WellTyped := by
  have htyped := beginSession_typed lib hwf.routes ptr (peerNameIsEuse ptr.req.sourceName) ssReq
  unfold SsSession.WellTyped
  split
  next => trivial
  next ref hu =>
      rw [htyped.2 ref hu]
      cases heuse : peerNameIsEuse ptr.req.sourceName with
      | false => rfl
      | true =>
          rw [heuse] at hu
          cases hussd : ssOpIsUssd lib ssReq.opcode with
          | false =>
              rw [beginSession_of_not_ussd hussd] at hu
              cases hu
          | true =>
              rw [(beginSession_euse hlr ptr hussd).2] at hu
              cases hname : euseByName hlr ptr.req.sourceName with
              | none =>
                  rw [hname] at hu
                  cases hu
              | some euse => exact absurd ⟨ssReq, hbegins, hussd, euse, hname⟩ hno
  next iuse hu => exact (htyped.1 iuse hu).2

/-! ## Steps -/

theorem rx_typed {ptr : ReqPtr} (hwf : WellFormed hlr) (hnew : ptr.ref ∉ hlr.refs)
    (htyped : ∀ ss ∈ hlr.ssSessions, ss.WellTyped) (hno : ¬EuseBegins lib hlr ptr.req)
    (h : rxProcSsReq lib env hlr ptr = .ok (next, out)) :
    ∀ ss ∈ next.ssSessions, ss.WellTyped := by
  cases rx_ok hwf hnew h with
  | kept hkept hend => exact hkept.forall wellTyped_core htyped
  | begun ssReq ss hss hbegins hkept hu hend =>
      refine hkept.forall wellTyped_core ?_
      intro x hx
      rcases List.mem_append.1 hx with hx | hx
      · exact htyped x hx
      · obtain rfl := List.mem_singleton.1 hx
        rw [hss]
        exact beginSession_wellTyped hwf hbegins hno
  | handled ssReq ss hss hbegins hkept heuse hend => exact hkept.forall wellTyped_core htyped
  | ended ssReq ss hstate hconcerns hkept hend =>
      exact hkept.forall wellTyped_core fun x hx => htyped x (Keyed.mem_remove.1 hx).1

/-- A session that an EUSE begins stays, and is not what it says. -/
theorem rx_untyped (env : Env) {ptr : ReqPtr} (hwf : WellFormed hlr) (hnew : ptr.ref ∉ hlr.refs)
    (hbegins : EuseBegins lib hlr ptr.req) :
    ∃ next out, rxProcSsReq lib env hlr ptr = .ok (next, out) ∧
      ∃ ss ∈ next.ssSessions, ¬ss.WellTyped := by
  obtain ⟨ssReq, hbegins, hussd, euse, hname⟩ := hbegins
  have heuse := isEuse_of_euseByName hname
  have hids := beginSession_ids lib hlr ptr true ssReq
  obtain ⟨hexternal, hu⟩ := beginSession_euse hlr ptr hussd
  rw [hname] at hu
  generalize hss : beginSession lib hlr ptr true ssReq = ss at hids hexternal hu
  have hrefs := addSession_refs_nodup hwf.refs (hids.1 ▸ hnew)
  have hhas : Has (hlr.addSession ss) ss :=
    Has.of_mem (List.mem_append_right _ (List.mem_singleton_self _))
  have hrx : rxProcSsReq lib env hlr ptr =
      .ok (ssGsupSendToMs lib env (hlr.addSession ss) ss ptr.req.gsup) := by
    have hnull : ss.u ≠ .null := by simp [hu]
    simp only [rxProcSsReq, hbegins.source, hbegins.request, hbegins.state, heuse, rxBegin,
      hbegins.unused, hss, dispatch, hussd, handleUssd, hnull]
    rfl
  have hkept := (ssGsupSendToMs_kept lib env hrefs hhas ptr.req.gsup).1
  obtain ⟨x, hx, hcore⟩ := hkept.has_iff.2 hhas
  refine ⟨_, _, hrx, x, hx, fun htyped => ?_⟩
  rw [← wellTyped_core, hcore, wellTyped_core, SsSession.WellTyped, hu] at htyped
  rw [hexternal] at htyped
  cases htyped

/-- A session that is used as what it is not was not what it says before. -/
theorem confuses_not_wellTyped {ptr : ReqPtr} (hwf : WellFormed hlr)
    (h : Confuses lib hlr ptr) : ∃ ss ∈ hlr.ssSessions, ¬ss.WellTyped := by
  obtain ⟨ssReq, ss, hdispatched, -, heuse, hexternal, ref, hu⟩ := h
  rcases hdispatched with ⟨-, rfl⟩ | ⟨hconcerns, -⟩
  · have hexternal' := (beginSession_typed lib hwf.routes ptr _ ssReq).2 ref hu
    rw [hexternal, heuse] at hexternal'
    cases hexternal'
  · refine ⟨ss, hconcerns.mem, fun htyped => ?_⟩
    rw [SsSession.WellTyped, hu] at htyped
    rw [hexternal] at htyped
    cases htyped

theorem rx_typed_iff (ptr : ReqPtr) (hwf : WellFormed hlr) (hnew : ptr.ref ∉ hlr.refs)
    (htyped : ∀ ss ∈ hlr.ssSessions, ss.WellTyped) :
    HandlersTyped ((rxProcSsReq lib env hlr ptr).map Prod.fst) ↔ ¬EuseBegins lib hlr ptr.req := by
  constructor
  · intro h hbegins
    obtain ⟨next, out, hrx, ss, hss, hnot⟩ := rx_untyped env hwf hnew hbegins
    rw [hrx] at h
    exact hnot (h ss hss)
  · intro hno
    cases hrx : rxProcSsReq lib env hlr ptr with
    | error fault =>
        rcases rx_error hwf hnew hrx with ⟨rfl, -⟩ | ⟨-, hconfuses⟩
        · exact ⟨by decide, by decide⟩
        · obtain ⟨ss, hss, hnot⟩ := confuses_not_wellTyped hwf hconfuses
          exact absurd (htyped ss hss) hnot
    | ok p => exact rx_typed hwf hnew htyped hno hrx

/-- **One input leaves the sessions what they say unless an EUSE begins one by it.** -/
theorem step_typed_iff {s : Except Fault Hlr} (hs : Sound s) (htyped : HandlersTyped s)
    (input : Input) : HandlersTyped (step lib s input).1 ↔ NoEuseBegins lib s input := by
  cases s with
  | error fault => exact iff_of_true htyped trivial
  | ok hlr =>
      have hwf := hs hlr rfl
      rcases input.rx_or with ⟨req, env, rfl⟩ | hne
      · rw [step_fst, NoEuseBegins, ← euseBegins_alloc]
        exact rx_typed_iff ⟨hlr.allocs, req⟩ hwf.alloc hwf.allocs_notMem htyped
      · refine iff_of_true ?_ (noEuseBegins_of_ne_rx hne)
        obtain ⟨next, out, happly, hsub, -⟩ := apply_of_ne_rx lib hlr hne
        rw [step_of_ok happly]
        exact fun ss hss => htyped ss (hsub.subset hss)

/-- **Sessions are what they say, and none is used as what it is not, in every state of a run,
exactly as long as no EUSE that is configured begins a USSD session.** -/
theorem handlers_typed_iff (lib : SsLib) (inputs : List Input) :
    (machine lib).Guarded (fun s input => HandlersTyped (step lib s input).1) (.ok Hlr.init)
        inputs ↔
      (machine lib).Guarded (NoEuseBegins lib) (.ok Hlr.init) inputs := by
  refine (machine lib).guarded_congr (P := fun s => Sound s ∧ HandlersTyped s)
    (H := fun _ => True) ?_ ?_ ⟨sound_init, fun _ h => by cases h⟩ fun _ _ => trivial
  · rintro s input ⟨hs, -⟩ - htyped
    exact ⟨hs.step input, htyped⟩
  · rintro s input ⟨hs, htyped⟩ -
    exact step_typed_iff hs htyped input

/-- An EUSE begins a session, and the MS answers. -/
def euseBeginsRun : List Input :=
  [.euse (CStr.lit "foo"),
    .rx (Host.procSs "EUSE-foo" .stateBegin (Host.invokeUssd 1 0x3c "PIN?")) Host.ussdEnv,
    .rx (Host.procSs "msc" .stateContinue (Host.genUssdResp7bit 1 (CStr.lit "1234"))) Host.ussdEnv]

theorem handlers_confused :
    ¬(machine Host.ssLib).Guarded (fun s input => HandlersTyped (step Host.ssLib s input).1)
        (.ok Hlr.init) euseBeginsRun ∧
      ((machine Host.ssLib).run (.ok Hlr.init) euseBeginsRun).1 = .error .iuseIsEuse := by
  decide +kernel

end Ussd
end OsmoHlr
