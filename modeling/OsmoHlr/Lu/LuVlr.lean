import OsmoHlr.Lu.LuAnswers

/-!
# Who completes an LU

`lu_rx_gsup` hands an Insert Data Result or Error to the first LU of its IMSI,
whoever sent it.  New LUs come first in `g_all_lu`.

* `completed_by_own_vlr_iff` — so LUs are completed by their own VLRs exactly as long as
  the answers come from the VLR of the LU that was started last for the IMSI.
* `completed_by_other_vlr` — what happens otherwise.
-/

namespace OsmoHlr
namespace LuFsm

open CString CniPeerId Gsup

variable (lib : GsupProtocol)

/-- An LU is completed by an Insert Data Result of its VLR, and fails by an Insert Data Error of
it. -/
def OwnVlrOut : Input → Out → Prop
  | .rxGsup req _, .success lu =>
      req.gsup.messageType = lib.msgt .insertData .result ∧ req.sourceName = lu.vlrName
  | .rxGsup req _, .failure lu .rxInsertDataError =>
      req.gsup.messageType = lib.msgt .insertData .error ∧ req.sourceName = lu.vlrName
  | _, .success _ => False
  | _, .failure _ .rxInsertDataError => False
  | _, _ => True

instance (input : Input) (out : Out) : Decidable (OwnVlrOut lib input out) := by
  unfold OwnVlrOut
  split <;> infer_instance

/-- In an input no LU is completed but by its own VLR. -/
def OwnVlr (g : AllLu) (input : Input) : Prop :=
  ∀ out ∈ (step lib g input).2, OwnVlrOut lib input out

instance (g : AllLu) (input : Input) : Decidable (OwnVlr lib g input) :=
  inferInstanceAs (Decidable (∀ out ∈ (step lib g input).2, OwnVlrOut lib input out))

/-- The LU that was started last of those with the IMSI. -/
def Newest (g : AllLu) (imsi : CStr) (lu : Lu) : Prop :=
  lu ∈ g.lus ∧ lu.subscr.imsi = imsi ∧ ∀ x ∈ g.lus, x.subscr.imsi = imsi → x.ref ≤ lu.ref

/-- An Insert Data Result or Error comes from the VLR of the LU that was started last for its
IMSI. -/
def FromNewestVlr (g : AllLu) : Input → Prop
  | .rxGsup req _ =>
      req.gsup.messageType = lib.msgt .insertData .result ∨
          req.gsup.messageType = lib.msgt .insertData .error →
        ∀ lu, Newest g req.gsup.imsi lu → req.sourceName = lu.vlrName
  | _ => True

variable {lib} {g : AllLu} {lu : Lu}

theorem find?_eq_some_iff_newest {msgs : List GsupReq} {out : List Out}
    (h : AnsweredOnce lib msgs g out) {imsi : CStr} :
    (g.lus.find? fun lu => lu.subscr.imsi = imsi) = some lu ↔ Newest g imsi lu := by
  rw [Keyed.find?_eq_some_iff_of_sorted h.newest_first]
  simp [Newest]

/-! ## Outputs that complete nothing -/

/-- Nothing that an LU is completed by, or fails by an Insert Data Error. -/
def Incomplete (out : List Out) : Prop :=
  ∀ lu, Out.success lu ∉ out ∧ Out.failure lu .rxInsertDataError ∉ out

theorem Incomplete.append {a b : List Out} (ha : Incomplete a) (hb : Incomplete b) :
    Incomplete (a ++ b) := by
  intro lu
  simp [(ha lu).1, (ha lu).2, (hb lu).1, (hb lu).2]

theorem incomplete_nil : Incomplete [] := fun _ => by simp

theorem incomplete_reqOut (ptr : ReqPtr) (calls : List ReqCall) :
    Incomplete (reqOut ptr calls) := by
  simp [Incomplete, reqOut]

theorem luForgetAndTerm_snd (g : AllLu) (lu : Lu) : (luForgetAndTerm lib g lu).2 = [] :=
  congrArg Prod.snd (luForgetAndTerm_eq g lu)

theorem luSuccess_snd (lib : GsupProtocol) (g : AllLu) (lu : Lu) :
    ∃ rest, (luSuccess lib g lu).2 = .success lu :: rest ∧ Incomplete rest := by
  simp only [luSuccess, luForgetAndTerm_snd, List.append_nil]
  split
  · exact ⟨_, rfl, incomplete_nil⟩
  · exact ⟨_, rfl, incomplete_reqOut _ _⟩

theorem luFailure_snd (lib : GsupProtocol) (g : AllLu) (lu : Lu) (cause : Cause)
    (why : Failure) :
    ∃ rest, (luFailure lib g lu cause why).2 = .failure lu why :: rest ∧ Incomplete rest := by
  simp only [luFailure, luForgetAndTerm_snd, List.append_nil]
  split
  · exact ⟨_, rfl, incomplete_nil⟩
  · exact ⟨_, rfl, incomplete_reqOut _ _⟩

/-- A failure for any other reason. -/
theorem incomplete_luFailure (g : AllLu) (lu : Lu) (cause : Cause) {why : Failure}
    (hwhy : why ≠ .rxInsertDataError) : Incomplete (luFailure lib g lu cause why).2 := by
  intro x
  obtain ⟨rest, hout, hrest⟩ := luFailure_snd lib g lu cause why
  simp [hout, (hrest x).1, (hrest x).2, Ne.symm hwhy]

theorem incomplete_onenter (env : Env) (g : AllLu) (lu : Lu) :
    Incomplete (luFsmWaitInsertDataResultOnenter lib env g lu).2 := by
  unfold luFsmWaitInsertDataResultOnenter
  split
  · exact incomplete_luFailure _ _ _ (by decide)
  · split
    · simp [Incomplete]
    · simp only
      split
      · exact (incomplete_reqOut _ _).append (incomplete_luFailure _ _ _ (by decide))
      · exact incomplete_reqOut _ _

theorem incomplete_luStateChg (env : Env) (g : AllLu) (lu : Lu) (state : State) :
    Incomplete (luStateChg lib env g lu state).2 := by
  unfold luStateChg onenter
  split
  · simp only
    split
    · exact incomplete_onenter env _ _
    · exact incomplete_nil
  · exact incomplete_nil

theorem incomplete_luStore (env : Env) (g : AllLu) (lu : Lu) :
    Incomplete (luStore lib env g lu).2 := by
  rw [luStore]
  generalize env.dbSubscrLu _ _ _ _ = rc
  split
  · exact incomplete_luFailure _ _ _ (by decide)
  · split
    · exact incomplete_luFailure _ _ _ (by decide)
    · split
      · exact incomplete_luFailure _ _ _ (by decide)
      · exact incomplete_luStateChg env _ _ _

/-- An LU that is started is not completed yet. -/
theorem incomplete_luStart (env : Env) (g : AllLu) (ptr : ReqPtr) :
    Incomplete (luStart lib env g ptr).2 := by
  unfold luStart
  simp only
  split
  · exact incomplete_luFailure _ _ _ (by decide)
  · split
    · exact incomplete_luFailure _ _ _ (by decide)
    · split
      · exact incomplete_luFailure _ _ _ (by decide)
      · split
        · exact incomplete_luFailure _ _ _ (by decide)
        · exact incomplete_luStore env _ _

/-! ## Steps -/

theorem Incomplete.ownVlrOut {out : List Out} (h : Incomplete out) (input : Input) :
    ∀ o ∈ out, OwnVlrOut lib input o := by
  intro o ho
  unfold OwnVlrOut
  split
  next lu => exact absurd ho (h lu).1
  next lu => exact absurd ho (h lu).2
  next lu _ => exact absurd ho (h lu).1
  next lu _ => exact absurd ho (h lu).2
  next => trivial

/-- One output counts among others that complete nothing. -/
theorem forall_ownVlrOut_iff {pre rest : List Out} {o : Out} {input : Input}
    (hpre : Incomplete pre) (hrest : Incomplete rest) :
    (∀ x ∈ pre ++ o :: rest, OwnVlrOut lib input x) ↔ OwnVlrOut lib input o := by
  constructor
  · exact fun h => h o (by simp)
  · intro h x hx
    rcases List.mem_append.1 hx with hx | hx
    · exact hpre.ownVlrOut input x hx
    · rcases List.mem_cons.1 hx with rfl | hx
      · exact h
      · exact hrest.ownVlrOut input x hx

/-- An answer to a message of an LU that waits for it. -/
theorem luFsmWaitInsertDataResult_ownVlr (g : AllLu) (lu : Lu) (ptr : ReqPtr) (env : Env) :
    (∀ out ∈ (luFsmWaitInsertDataResult lib g lu ptr).2, OwnVlrOut lib (.rxGsup ptr.req env) out) ↔
      (ptr.req.gsup.messageType = lib.msgt .insertData .result ∨
          ptr.req.gsup.messageType = lib.msgt .insertData .error →
        ptr.req.sourceName = lu.vlrName) := by
  unfold luFsmWaitInsertDataResult
  split
  next hresult =>
      obtain ⟨rest, hout, hrest⟩ := luSuccess_snd lib g lu
      simp only [hout]
      rw [forall_ownVlrOut_iff (incomplete_reqOut _ _) hrest]
      simp [OwnVlrOut, hresult]
  next hresult =>
      split
      next herror =>
          obtain ⟨rest, hout, hrest⟩ := luFailure_snd lib g lu .gmmNetFail
            .rxInsertDataError
          rw [hout]
          refine (forall_ownVlrOut_iff incomplete_nil hrest).trans ?_
          simp [OwnVlrOut, herror]
      next herror =>
          simp only [hresult, herror, or_self, false_implies, iff_true]
          exact (incomplete_reqOut _ _).ownVlrOut _

/-- **What it takes for one input.** -/
theorem ownVlr_iff {msgs : List GsupReq} {out : List Out} (h : AnsweredOnce lib msgs g out)
    (input : Input) : OwnVlr lib g input ↔ FromNewestVlr lib g input := by
  cases input with
  | rxGsup req env =>
      simp only [OwnVlr, FromNewestVlr, step, luRxGsup]
      split
      next htype =>
          refine iff_of_true ((incomplete_luStart env _ _).ownVlrOut _) fun hanswer => ?_
          rw [htype, lib.msgt_eq_iff, lib.msgt_eq_iff] at hanswer
          simp at hanswer
      next htype =>
          split
          next hfind =>
              refine iff_of_true ((incomplete_reqOut _ _).ownVlrOut _) ?_
              intro _ lu hlu
              rw [← find?_eq_some_iff_newest h, hfind] at hlu
              cases hlu
          next lu hfind =>
              have hstate := h.waiting lu (List.mem_of_find?_eq_some hfind)
              have hdispatch : osmoFsmInstDispatch lib { g with received := g.received + 1 } lu
                  .rxGsup ⟨g.received, req⟩ = (0, luFsmWaitInsertDataResult lib
                    { g with received := g.received + 1 } lu ⟨g.received, req⟩) := by
                simp [osmoFsmInstDispatch, action, hstate, inEventMask]
              simp only [hdispatch, ne_eq, not_true_eq_false, ↓reduceIte, List.append_nil]
              have hnewest : ∀ x, Newest g req.gsup.imsi x ↔ x = lu := by
                intro x
                rw [← find?_eq_some_iff_newest h, hfind, Option.some.injEq, eq_comm]
              simp only [hnewest, forall_eq]
              exact luFsmWaitInsertDataResult_ownVlr _ lu ⟨g.received, req⟩ env
  | timer ref =>
      refine iff_of_true ?_ trivial
      simp only [OwnVlr, step]
      split
      · exact incomplete_nil.ownVlrOut _
      · split
        · exact (incomplete_luFailure _ _ _ (by decide)).ownVlrOut _
        · exact incomplete_nil.ownVlrOut _
  | term ref =>
      refine iff_of_true ?_ trivial
      simp only [OwnVlr, step]
      split
      · exact incomplete_nil.ownVlrOut _
      · unfold osmoFsmInstTerm luFsmCleanup
        split
        · exact incomplete_nil.ownVlrOut _
        · exact (incomplete_reqOut _ _).ownVlrOut _

/-- **LUs are completed by their own VLRs exactly as long as** Insert Data Results and Errors come
from the VLR of the LU that was started last for their IMSI. -/
theorem completed_by_own_vlr_iff (lib : GsupProtocol) (inputs : List Input)
    (hcb : ∀ input ∈ inputs, ∀ req ∈ handed input, req.sendResponseCb = true) :
    (machine lib).Guarded (OwnVlr lib) AllLu.init inputs ↔
      (machine lib).Guarded (FromNewestVlr lib) AllLu.init inputs := by
  refine (machine lib).guarded_congr (P := fun g => ∃ msgs out, AnsweredOnce lib msgs g out)
    (H := fun input => ∀ req ∈ handed input, req.sendResponseCb = true) ?_ ?_
    ⟨[], [], AnsweredOnce.init lib⟩ hcb
  · rintro g input ⟨msgs, out, h⟩ hinput -
    exact ⟨_, _, h.step hinput⟩
  · rintro g input ⟨msgs, out, h⟩ -
    exact ownVlr_iff h input

theorem completed_by_own_vlr_vlr :
    (machine Host.gsupProtocol).Guarded (OwnVlr Host.gsupProtocol) AllLu.init vlrRun := by
  refine (completed_by_own_vlr_iff Host.gsupProtocol vlrRun (by decide +kernel)).2 ?_
  refine ⟨fun h => ?_, fun _ lu hlu => ?_, fun h => ?_, trivial⟩
  · exact absurd h (by decide)
  · obtain ⟨hmem, -⟩ := hlu
    have hlus : ∀ lu ∈ ((machine Host.gsupProtocol).step AllLu.init
        (.rxGsup (msgFrom "vlr" 0x04 .cs) hostEnv)).1.lus,
        lu.vlrName = (msgFrom "vlr" 0x12 .absent).sourceName := by decide +kernel
    exact (hlus lu hmem).symm
  · exact absurd h (by decide)

/-- A VLR and an SGSN start an LU each, and the VLR acknowledges the subscriber's data. -/
def vlrAndSgsnRun : List Input :=
  [.rxGsup (msgFrom "vlr" 0x04 .cs) hostEnv, .rxGsup (msgFrom "sgsn" 0x04 .ps) hostEnv,
    .rxGsup (msgFrom "vlr" 0x12 .absent) hostEnv]

theorem completed_by_other_vlr :
    ¬∀ inputs : List Input, (∀ input ∈ inputs, ∀ req ∈ handed input, req.sendResponseCb = true) →
      (machine Host.gsupProtocol).Guarded (OwnVlr Host.gsupProtocol) AllLu.init inputs := by
  intro h
  have hrun : ¬(machine Host.gsupProtocol).Guarded (OwnVlr Host.gsupProtocol) AllLu.init
      vlrAndSgsnRun := by decide +kernel
  exact hrun (h vlrAndSgsnRun (by decide +kernel))

end LuFsm
end OsmoHlr
