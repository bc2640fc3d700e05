import OsmoHlr.Db.KeyOrigin
import OsmoHlr.Main.RecordRuns
import OsmoHlr.Subscr.HlrVtySubscr

/-!
# The HLR and its operator

The database is changed from three sides: by messages of peers, by commands at the VTY, and by
commands over CTRL.  They come in any order, and any statement may fail.

* `machine` — the HLR of `Main.machine`, with the commands of an operator.
* `tables_sound` — whatever comes, all that is stored is valid, and keys can be read.
* `keys_typed` — no key is stored that an operator has not typed, and it is stored for the
  subscriber that the command has named.
* `typed_keys_read` — keys that an operator has typed are those that are read from then on.
-/

namespace OsmoHlr

/-! ## What messages do to the database -/

namespace Main

open CString CniPeerId Gsup Db Auc

variable {Ω : Type} {lib : MainLib Ω}

theorem wrote_createOnDemand (lib : DbLib) (hlr : OnDemand lib.toLibosmocore) (env : OnDemandEnv)
    (t : Tables) (imsi : CStr) :
    Wrote lib Op.LeavesKeys t (subscrCreateOnDemand lib hlr env t imsi).2 := by
  have hcreated : Wrote lib Op.LeavesKeys t
      (dbSubscrCreate lib env.create env.found t imsi hlr.subscrCreateOnDemandFlags).2 :=
    wrote_op lib t (.create env.create env.found imsi hlr.subscrCreateOnDemandFlags) trivial
  unfold subscrCreateOnDemand
  split
  · exact .refl
  · split
    · exact .refl
    · split
      · exact hcreated
      · split
        · exact .refl
        next msisdn hgen =>
            simp only
            split
            · exact hcreated
            · exact hcreated.trans
                (wrote_op lib _ (.updateMsisdnByImsi env.msisdn imsi (some msisdn)) trivial)

theorem wrote_dbGetAuc (dbLib : DbLib) (lib : AucLib Ω) (env : GetEnv Ω) (t : Tables) (imsi : CStr)
    (auc3gInd : UInt32) (vec : Nat → AuthVector) (vtmp : AuthVector) (numVec : UInt32)
    (randAuts auts : Option (List UInt8)) (separationBit : Bool) :
    Wrote dbLib Op.LeavesKeys t
      (dbGetAuc lib env t imsi auc3gInd vec vtmp numVec randAuts auts separationBit).tables := by
  unfold dbGetAuc
  split
  · exact .refl
  · simp only
    split
    · exact .refl
    · exact .single (.sqn _ _ _)

theorem wrote_sendAuthInfo (hlr : Config lib.toLibosmocore) (env : SaiEnv Ω) (t : Tables)
    (auc3gInd : UInt32) (req : GsupReq) (ies : Ies) :
    Wrote lib.toDbLib Op.LeavesKeys t (rxSendAuthInfo lib hlr env t auc3gInd req ies).tables := by
  rw [rxSendAuthInfo_tables]
  exact (wrote_createOnDemand lib.toDbLib hlr.toOnDemand env.onDemand t req.gsup.imsi).trans
    (wrote_dbGetAuc lib.toDbLib lib.auc _ _ _ _ _ _ _ _ _ _)

theorem wrote_luRxGsup (env : LuEnv) (t : Tables) (g : LuFsm.AllLu) (ptr : ReqPtr) :
    Wrote lib.toDbLib Op.LeavesKeys t (luRxGsup lib env t g ptr).1 := by
  unfold luRxGsup
  simp only
  split
  · exact .refl
  next call hcall =>
      exact wrote_op lib.toDbLib t (.lu env.lu call.subscrId (nameStr env.behind call.vlrName)
        call.isPs (call.proxyStr env.behind)) trivial

theorem wrote_checkImei (hlr : Config lib.toLibosmocore) (env : CheckImeiEnv) (t : Tables)
    (req : GsupReq) (ies : Ies) :
    Wrote lib.toDbLib Op.LeavesKeys t (rxCheckImeiReq lib hlr env t req ies).1 := by
  unfold rxCheckImeiReq
  simp only
  split
  · exact .refl
  next imei himei =>
      refine (wrote_createOnDemand lib.toDbLib hlr.toOnDemand env.onDemand t req.gsup.imsi).trans ?_
      simp only
      unfold storeImei
      split
      · exact wrote_op lib.toDbLib _
          (.updateImeiByImsi env.update req.gsup.imsi (some imei)) trivial
      · split <;> exact .refl

/-- **A handler does nothing to the database but its operations, and stores no keys.** -/
theorem wrote_handle {env : RxEnv lib} {s s' : Hlr} {conn : Conn} {ptr : ReqPtr} {ies : Ies}
    {out : List Out} (h : handle lib env s conn ptr ies = .ok (s', out)) :
    Wrote lib.toDbLib Op.LeavesKeys s.tables s'.tables := by
  unfold handle at h
  split at h
  next =>
      cases h
      exact wrote_sendAuthInfo env.config env.sai s.tables _ ptr.req ies
  next =>
      cases h
      exact (wrote_createOnDemand lib.toDbLib env.config.toOnDemand env.onDemand s.tables
        ptr.req.gsup.imsi).trans (wrote_luRxGsup env.lu _ s.onHeapLus ptr)
  next =>
      cases h
      exact wrote_op lib.toDbLib s.tables
        (.purge env.purge ptr.req.gsup.imsi true (reqIsPs ptr.req)) trivial
  next =>
      split at h
      · cases h
      · cases h
        exact .refl
  next =>
      cases h
      exact .refl
  next =>
      cases h
      exact wrote_luRxGsup env.lu s.tables s.onHeapLus ptr
  next =>
      cases h
      exact wrote_checkImei env.config env.checkImei s.tables ptr.req ies
  next =>
      cases h
      exact .refl

theorem wrote_apply {myName : CStr} {s s' : Hlr} {out : List Out} {input : Input lib}
    (h : apply lib myName s input = .ok (s', out)) :
    Wrote lib.toDbLib Op.LeavesKeys s.tables s'.tables := by
  rcases apply_cases h with hleaves | ⟨ref, l2, env, conn, req, -, -, -, mid, pre, post, hmid, -, -,
    hhandle⟩
  · rw [hleaves.tables]
  · rw [← hmid]
    exact wrote_handle hhandle

end Main

/-! ## The machine -/

namespace Operator

open CString CniPeerId Gsup Db Auc Main NetworkAccess

/-- What else is called, also by commands. -/
structure OperatedLib (Ω : Type) extends MainLib Ω, VtyLib

variable {Ω : Type} (lib : OperatedLib Ω)

/-- What ends the process, or the meaning of it. -/
inductive Ended where
  | hlr (ended : Main.Ended)
  /-- The number of a VLR or SGSN is a format that wants arguments. -/
  | format

/-- What is put out. -/
inductive Out where
  | hlr (out : Main.Out)
  /-- What a command at the VTY comes to. -/
  | vty (success : Bool) (lines : List CStr)
  /-- What a command over CTRL comes to. -/
  | ctrl (result : Ctrl.CmdResult) (reply : Option CStr)
  | sent (sent : Sent)
  | notice (notice : UpdateNotify.Notice)

/-- What may happen. -/
inductive Input where
  /-- A message, a timer, a lookup and the like. -/
  | hlr (input : Main.Input lib.toMainLib)
  /-- A command about a subscriber at the VTY; `env` encodes what peers are told. -/
  | vty (f : Subscr.CmdFaults) (env : LuFsm.Env) (cmd : Subscr.Cmd)
  /-- A command about a subscriber over CTRL. -/
  | ctrl (f : Ctrl.CmdFaults) (bySelector : CStr) (cmd : Ctrl.Cmd)

/-- One of them. -/
def apply (myName : CStr) (s : Hlr) : Input lib → Except Ended (Hlr × List Out)
  | .hlr input =>
      match Main.apply lib.toMainLib myName s input with
      | .error ended => .error (.hlr ended)
      | .ok res => .ok (res.1, res.2.map Out.hlr)
  | .vty f env cmd =>
      let ran := cmd.run lib.toVtyLib lib.toGsupProtocol s.peers.gs.routes f s.tables
      match ran.sent with
      | none => .error .format
      | some sent =>
          .ok ({ s with tables := ran.tables },
            sent.map Out.sent ++
              (ran.notify.flatMap fun subscr =>
                (UpdateNotify.osmoHlrSubscriberUpdateNotify lib.toGsupProtocol env (some s.peers)
                  subscr).map Out.notice) ++
              [.vty ran.success ran.lines])
  | .ctrl f bySelector cmd =>
      let handled := cmd.handle lib.toCtrlLib lib.auc f s.tables bySelector
      .ok ({ s with tables := handled.tables }, [.ctrl handled.result handled.reply])

/-- One of them, unless it has ended before. -/
def step (myName : CStr) (s : Except Ended Hlr) (input : Input lib) :
    Except Ended Hlr × List Out :=
  match s with
  | .error ended => (.error ended, [])
  | .ok s =>
      match apply lib myName s input with
      | .error ended => (.error ended, [])
      | .ok (s, out) => (.ok s, out)

/-- The HLR and its operator as a machine. -/
def machine (myName : CStr) : Machine (Except Ended Hlr) (Input lib) Out := ⟨step lib myName⟩

variable {lib} {myName : CStr} {s s' : Hlr} {out : List Out}

theorem step_eq_ok {input : Input lib} {s₀ : Except Ended Hlr}
    (h : (step lib myName s₀ input).1 = .ok s') :
    ∃ s out, s₀ = .ok s ∧ apply lib myName s input = .ok (s', out) := by
  unfold step at h
  split at h
  · cases h
  next s =>
      split at h
      · cases h
      next s'' out happly =>
          cases h
          exact ⟨s, out, rfl, happly⟩

/-! ## One step -/

theorem wrote_ctrl (f : Ctrl.CmdFaults) (t : Tables) (bySelector : CStr) (cmd : Ctrl.Cmd) :
    Wrote lib.toDbLib Op.LeavesKeys t (cmd.handle lib.toCtrlLib lib.auc f t bySelector).tables := by
  have hset : ∀ imsi value isPs, Wrote lib.toDbLib Op.LeavesKeys t
      (Ctrl.setSubscrCsPsEnabled f.stmt t imsi value isPs).tables := by
    intro imsi value isPs
    unfold Ctrl.setSubscrCsPsEnabled
    split
    · exact .refl
    next imsi =>
        have hnam : Wrote lib.toDbLib Op.LeavesKeys t
            (dbSubscrNam f.stmt t imsi (value = CStr.lit "1") isPs).2 :=
          wrote_op lib.toDbLib t (.nam f.stmt imsi (value = CStr.lit "1") isPs) trivial
        simp only
        split <;> exact hnam
  unfold Ctrl.Cmd.handle
  cases cmd with
  | infoAud =>
      have hread : (Ctrl.getSubscrInfoAud lib.toCtrlLib lib.auc f.stmt t
          (Ctrl.getSubscriberImsi lib.toCtrlLib f.lookup t bySelector)).tables = t := by
        unfold Ctrl.getSubscrInfoAud
        split
        · rfl
        · split
          · rfl
          · split <;> rfl
      rw [Ctrl.Cmd.handleImsi, hread]
  | setCsEnabled value => exact hset _ value false
  | setPsEnabled value => exact hset _ value true

/-- The operations of an input on the database. -/
def Does (t : Tables) : Input lib → Op → Prop
  | .vty f _ cmd => cmd.Does lib.toVtyLib f t
  | _ => Op.LeavesKeys

/-- **Whatever comes does nothing to the database but its operations**, and only commands at the VTY
delete subscribers or are about keys. -/
theorem wrote_apply {input : Input lib} (h : apply lib myName s input = .ok (s', out)) :
    Wrote lib.toDbLib (Does s.tables input) s.tables s'.tables := by
  cases input with
  | hlr input =>
      simp only [apply] at h
      split at h
      · cases h
      next res happly =>
          cases h
          exact Main.wrote_apply happly
  | vty f env cmd =>
      simp only [apply] at h
      split at h
      · cases h
      · cases h
        have hran : Wrote lib.toVtyLib.toDbLib (cmd.Does lib.toVtyLib f s.tables) s.tables
            (cmd.run lib.toVtyLib lib.toGsupProtocol s.peers.gs.routes f s.tables).tables :=
          Subscr.wrote_run s.peers.gs.routes f s.tables cmd
        exact hran
  | ctrl f bySelector cmd =>
      cases h
      exact wrote_ctrl f s.tables bySelector cmd

end Operator

/-! ## A run -/

namespace Host

open CString Db Operator NetworkAccess

/-- **The assumed functions.** -/
def operatedLib : OperatedLib Unit where
  toMainLib := mainLib
  authAlgName := hostVtyLib.authAlgName
  hexdumpNospc := hostVtyLib.hexdumpNospc
  imeiStrValidChk := hostVtyLib.imeiStrValidChk

/-- Keys for Milenage. -/
def newKeys : SubAuthDataStr :=
  { noAud .umts with
    algo := .milenage
    k := CStr.lit "000102030405060708090a0b0c0d0e0f"
    opc := CStr.lit "101112131415161718191A1B1C1D1E1F"
    indBitlen := 5 }

/-- The command that sets them. -/
def rekey : Subscr.Cmd := .aud3g .imsi usimImsi newKeys.k (CStr.lit "opc") newKeys.opc none

/-- An operator creates a subscriber and gives it keys. -/
def provision : List (Input operatedLib) :=
  [.create usimImsi, rekey].map (.vty Subscr.CmdFaults.none LuFsm.hostEnv)

/-- Then an SGSN asks for vectors. -/
def provisionAndAsk : List (Input operatedLib) :=
  provision ++ askTwice.map fun input => .hlr input

end Host

/-! ## Runs -/

namespace Operator

open CString CniPeerId Gsup Db Auc Main NetworkAccess

variable {Ω : Type} {lib : OperatedLib Ω} {myName : CStr} {s s' : Hlr}

/-- **All that is stored stays valid**, whoever changes the database and whatever goes wrong; and
all keys that are stored can be read. -/
theorem tables_sound (lib : OperatedLib Ω) (myName : CStr) (s : Hlr) (inputs : List (Input lib))
    (hsound : Sound lib.toDbLib s.tables.toContents)
    (h : ((machine lib myName).run (.ok s) inputs).1 = .ok s') :
    Sound lib.toDbLib s'.tables.toContents ∧
      ∀ (f : Faults) (imsi : CStr), f.binds 1 = false → f.step = false →
        dbGetAuthData lib.auc f s'.tables imsi =
          readBack lib.auc (aucByImsi s'.tables.toContents imsi) := by
  have hkept : ∀ s' : Hlr, ((machine lib myName).run (.ok s) inputs).1 = .ok s' →
      Sound lib.toDbLib s'.tables.toContents := by
    refine Machine.run_invariant (machine lib myName)
      (P := fun s₀ => ∀ s' : Hlr, s₀ = .ok s' → Sound lib.toDbLib s'.tables.toContents)
      ?_ ?_ inputs
    · intro s₀ input hs₀ s' hstep
      obtain ⟨mid, out, rfl, happly⟩ := step_eq_ok hstep
      exact (wrote_apply happly).sound (hs₀ mid rfl)
    · rintro s' ⟨⟩
      exact hsound
  exact ⟨hkept s' h, fun f imsi hbinds hstep =>
    dbGetAuthData_sound lib.auc (hkept s' h) hbinds hstep imsi⟩

/-- The state after a run. -/
theorem exists_run (s : Hlr) (inputs : List (Input Host.operatedLib))
    (h : ((machine Host.operatedLib Host.hlrName).run (.ok s) inputs).1.isOk = true) :
    ∃ s', ((machine Host.operatedLib Host.hlrName).run (.ok s) inputs).1 = .ok s' := by
  cases hran : ((machine Host.operatedLib Host.hlrName).run (.ok s) inputs).1 with
  | ok s' => exact ⟨s', rfl⟩
  | error ended =>
      rw [hran] at h
      cases h

/-- So it is when an operator has provided for a subscriber. -/
theorem tables_sound_provision : ∃ s' : Hlr,
    ((machine Host.operatedLib Host.hlrName).run (.ok (Hlr.start Tables.empty))
        Host.provisionAndAsk).1 = .ok s' ∧
      Sound Host.operatedLib.toDbLib s'.tables.toContents ∧
        dbGetAuthData Host.operatedLib.auc Faults.none s'.tables Host.usimImsi =
          readBack Host.operatedLib.auc (aucByImsi s'.tables.toContents Host.usimImsi) := by
  obtain ⟨s', hs'⟩ := exists_run (Hlr.start Tables.empty) Host.provisionAndAsk
    (by decide +kernel)
  obtain ⟨hsound, hread⟩ := tables_sound Host.operatedLib Host.hlrName (Hlr.start Tables.empty)
    Host.provisionAndAsk (sound_empty Host.operatedLib.toDbLib) hs'
  exact ⟨s', hs', hsound, hread Faults.none Host.usimImsi rfl rfl⟩

/-- During a run a command at the VTY is given keys for a subscriber. -/
def Typed (lib : OperatedLib Ω) (myName : CStr) (s : Hlr) (inputs : List (Input lib))
    (subscrId : Int) (aud : SubAuthDataStr) : Prop :=
  ∃ pre f env cmd post mid, inputs = pre ++ .vty f env cmd :: post ∧
    ((machine lib myName).run (.ok s) pre).1 = .ok mid ∧
      cmd.Does lib.toVtyLib f mid.tables (.updateAudById f.aud subscrId aud)

theorem Typed.concat {inputs : List (Input lib)} {subscrId : Int} {aud : SubAuthDataStr}
    (h : Typed lib myName s inputs subscrId aud) (input : Input lib) :
    Typed lib myName s (inputs ++ [input]) subscrId aud := by
  obtain ⟨pre, f, env, cmd, post, mid, rfl, hrest⟩ := h
  exact ⟨pre, f, env, cmd, post ++ [input], mid, by simp, hrest⟩

/-- **No key is stored that an operator has not typed**: all keys after a run were there before it,
but for their sequence numbers, or a command at the VTY was given them, for the subscriber that it
named then. -/
theorem keys_typed (lib : OperatedLib Ω) (myName : CStr) (s : Hlr) (inputs : List (Input lib))
    (h : ((machine lib myName).run (.ok s) inputs).1 = .ok s') :
    KeysFrom (Typed lib myName s inputs) s.tables.toContents s'.tables.toContents := by
  induction inputs using List.reverseRecOn generalizing s' with
  | nil =>
      cases h
      exact .refl _
  | append_singleton inputs input ih =>
      rw [Machine.run_concat] at h
      obtain ⟨mid, out, hmid, happly⟩ := step_eq_ok h
      have hbefore := (ih hmid).mono fun _ _ htyped => htyped.concat input
      refine hbefore.trans ((wrote_apply happly).keysFrom fun g id aud hdoes _ => ?_)
      cases input with
      | vty f env cmd =>
          obtain rfl := Subscr.faults_of_does hdoes
          exact ⟨inputs, f, env, cmd, [], mid, rfl, hmid, hdoes⟩
      | hlr | ctrl => exact hdoes.elim

/-- Keys that are there have been typed, also when the SGSN has had vectors from them. -/
theorem keys_typed_provision : ∃ (s' : Hlr) (subscrId : Int) (aud : SubAuthDataStr) (sqn : Nat),
    ((machine Host.operatedLib Host.hlrName).run (.ok (Hlr.start Tables.empty))
        Host.provisionAndAsk).1 = .ok s' ∧
      Typed Host.operatedLib Host.hlrName (Hlr.start Tables.empty) Host.provisionAndAsk subscrId
          aud ∧
        umtsRow subscrId aud sqn ∈ s'.tables.auc3g ∧ 0 < sqn := by
  obtain ⟨s', hs'⟩ := exists_run (Hlr.start Tables.empty) Host.provisionAndAsk
    (by decide +kernel)
  have hkeys := keys_typed Host.operatedLib Host.hlrName (Hlr.start Tables.empty)
    Host.provisionAndAsk hs'
  have hstored : (((machine Host.operatedLib Host.hlrName).run (.ok (Hlr.start Tables.empty))
      Host.provisionAndAsk).1.toOption.bind fun s => s.tables.auc3g.find? (0 < ·.sqn)).isSome =
        true := by decide +kernel
  rw [hs', Except.toOption, Option.bind_some] at hstored
  obtain ⟨row, hrow⟩ := Option.isSome_iff_exists.1 hstored
  have hmem := List.mem_of_find?_eq_some hrow
  have hsqn : 0 < row.sqn := by simpa using List.find?_some hrow
  rcases hkeys.auc3g row hmem with ⟨old, hold, -⟩ | ⟨id, aud, htyped, -, hrow⟩
  · cases hold
  · exact ⟨s', id, aud, row.sqn, hs', htyped, hrow ▸ hmem, hsqn⟩

/-! ## What an operator has typed -/

/-- An input neither deletes a subscriber nor touches its keys. -/
def Spares (id : Int) (s₀ : Except Ended Hlr) (input : Input lib) : Prop :=
  ∀ s : Hlr, s₀ = .ok s → ∀ op, Does s.tables input op → op.Spares id

/-- Nothing but commands touches keys. -/
theorem guarded_hlr (id : Int) (s₀ : Except Ended Hlr) (inputs : List (Main.Input lib.toMainLib)) :
    (machine lib myName).Guarded (Spares id) s₀ (inputs.map fun input => .hlr input) := by
  induction inputs generalizing s₀ with
  | nil => trivial
  | cons input inputs ih => exact ⟨fun _ _ _ hdoes => Op.LeavesKeys.spares hdoes id, ih _⟩

/-- The tables that a command at the VTY leaves. -/
theorem tables_vty {f : Subscr.CmdFaults} {env : LuFsm.Env} {cmd : Subscr.Cmd}
    (h : apply lib myName s (.vty f env cmd) = .ok (s', out)) :
    s'.tables = (cmd.run lib.toVtyLib lib.toGsupProtocol s.peers.gs.routes f s.tables).tables := by
  simp only [apply] at h
  split at h
  · cases h
  · cases h
    rfl

/-- Tables are sound and a subscriber has keys, unless the run has ended. -/
def KeysHeld (lib : OperatedLib Ω) (row : SubscriberRow) (aud : SubAuthDataStr)
    (s₀ : Except Ended Hlr) : Prop :=
  ∀ s : Hlr, s₀ = .ok s → Sound lib.toDbLib s.tables.toContents ∧
    Held row.imsi row.id aud s.tables.toContents

/-- A command with keys that succeeds leaves the subscriber with them. -/
theorem keysHeld_of_success {f : Subscr.CmdFaults} {env : LuFsm.Env} {cmd : Subscr.Cmd}
    {row : SubscriberRow} {aud : SubAuthDataStr} (hsound : Sound lib.toDbLib s.tables.toContents)
    (hrow : row ∈ s.tables.subscriber)
    (hdoes : cmd.Does lib.toVtyLib f s.tables (.updateAudById f.aud row.id aud))
    (halgo : aud.algo ≠ .none)
    (hsuccess : (cmd.run lib.toVtyLib lib.toGsupProtocol s.peers.gs.routes f
      s.tables).success = true) :
    KeysHeld lib row aud (step lib myName (.ok s) (.vty f env cmd)).1 := by
  intro s' hs'
  obtain ⟨mid, out, hmid, happly⟩ := step_eq_ok hs'
  obtain rfl := Except.ok.inj hmid
  obtain ⟨hrc, htables⟩ := Subscr.stored_of_success hdoes halgo hsuccess
  refine ⟨(wrote_apply happly).sound hsound, ?_⟩
  rw [tables_vty happly, htables]
  exact held_updateAudById hrow rfl halgo hrc

/-- An input that spares the subscriber leaves it with its keys. -/
theorem keysHeld_step {row : SubscriberRow} {aud : SubAuthDataStr} {s₀ : Except Ended Hlr}
    {input : Input lib} (h : KeysHeld lib row aud s₀) (hspares : Spares row.id s₀ input) :
    KeysHeld lib row aud (step lib myName s₀ input).1 := by
  intro s' hs'
  obtain ⟨mid, out, rfl, happly⟩ := step_eq_ok hs'
  obtain ⟨hsound, hheld⟩ := h mid rfl
  have hwrote := wrote_apply happly
  exact ⟨hwrote.sound hsound, hheld.spared (hwrote.spared (hspares mid rfl))⟩

/-- **Keys that an operator has typed are those that are read**: when a command with keys for a
subscriber has succeeded, then whatever messages and other commands come, as long as none deletes
that subscriber or touches its keys, they are what `db_get_auth_data` returns for it. -/
theorem typed_keys_read (lib : OperatedLib Ω) (myName : CStr) (s : Hlr) (f : Subscr.CmdFaults)
    (env : LuFsm.Env) (cmd : Subscr.Cmd) (inputs : List (Input lib)) (row : SubscriberRow)
    (aud : SubAuthDataStr) (g : Faults) (hsound : Sound lib.toDbLib s.tables.toContents)
    (hrow : row ∈ s.tables.subscriber)
    (hdoes : cmd.Does lib.toVtyLib f s.tables (.updateAudById f.aud row.id aud))
    (halgo : aud.algo ≠ .none)
    (hsuccess : (cmd.run lib.toVtyLib lib.toGsupProtocol s.peers.gs.routes f
      s.tables).success = true)
    (hspares : (machine lib myName).Guarded (Spares row.id)
      ((machine lib myName).step (.ok s) (.vty f env cmd)).1 inputs)
    (h : ((machine lib myName).run (.ok s) (.vty f env cmd :: inputs)).1 = .ok s')
    (hbinds : g.binds 1 = false) (hstep : g.step = false) :
    ∃ aud2g aud3g,
      dbGetAuthData lib.auc g s'.tables row.imsi = .ok (aud2g, aud3g, row.id) ∧
        (aud.type = .gsm → aud2g = gsmData lib.auc (gsmRow row.id aud)) ∧
          (aud.type ≠ .gsm → ∃ sqn, aud3g = umtsData lib.auc (umtsRow row.id aud sqn)) := by
  rw [Machine.run_cons] at h
  have hset : KeysHeld lib row aud (step lib myName (.ok s) (.vty f env cmd)).1 :=
    keysHeld_of_success hsound hrow hdoes halgo hsuccess
  have hkept := Machine.run_invariant_of_guarded (machine lib myName)
    (fun _ _ hheld hspares => keysHeld_step hheld hspares) hset hspares
  obtain ⟨hsound', hheld⟩ := hkept s' h
  exact dbGetAuthData_held lib.auc hheld hsound' hbinds hstep

/-- The subscriber of a USIM is sound. -/
theorem sound_withUsim : Sound Host.operatedLib.toDbLib Host.withUsim.toContents where
  subscriber row hrow := by
    obtain rfl := List.mem_singleton.1 hrow
    exact ⟨by decide +kernel, fun _ hm => absurd hm (Option.not_mem_none _),
      fun _ hi => absurd hi (Option.not_mem_none _)⟩
  auc2g _ hrow := by cases hrow
  auc3g row hrow := by
    obtain rfl := List.mem_singleton.1 hrow
    exact ⟨rfl, by decide +kernel, Or.inr ⟨_, rfl, rfl, by decide +kernel⟩, 0, rfl, by decide⟩

/-- A USIM has got other keys, and is authenticated with them. -/
theorem typed_keys_read_rekey : ∃ (s' : Hlr) (aud2g aud3g : SubAuthData) (sqn : Nat),
    ((machine Host.operatedLib Host.hlrName).run (.ok (Hlr.start Host.withUsim))
        (.vty Subscr.CmdFaults.none LuFsm.hostEnv Host.rekey ::
          Host.askTwice.map fun input => .hlr input)).1 = .ok s' ∧
      dbGetAuthData Host.operatedLib.auc Faults.none s'.tables Host.usimImsi =
          .ok (aud2g, aud3g, 1) ∧
        aud3g = umtsData Host.operatedLib.auc (umtsRow 1 Host.newKeys sqn) := by
  obtain ⟨s', hs'⟩ := exists_run (Hlr.start Host.withUsim)
    (.vty Subscr.CmdFaults.none LuFsm.hostEnv Host.rekey ::
      Host.askTwice.map fun input => .hlr input) (by decide +kernel)
  have hsubscr : getSubscrByArgv Host.operatedLib.toVtyLib Faults.none Host.withUsim .imsi
      Host.usimImsi = .ok (dbSel Host.operatedLib.toSelLib (Host.subscriberRow 1 Host.usimImsi)) :=
    rfl
  have haud : Subscr.aud3gOfArgv Host.newKeys.k (CStr.lit "opc") Host.newKeys.opc none =
      .ok Host.newKeys := rfl
  have hdoes := Subscr.Cmd.Does.aud3g (f := Subscr.CmdFaults.none) hsubscr haud
  have hread := typed_keys_read Host.operatedLib Host.hlrName (Hlr.start Host.withUsim)
    Subscr.CmdFaults.none LuFsm.hostEnv Host.rekey (Host.askTwice.map fun input => .hlr input)
    (Host.subscriberRow 1 Host.usimImsi) Host.newKeys Faults.none sound_withUsim
    List.mem_cons_self hdoes (by decide) (by decide +kernel) (guarded_hlr _ _ _) hs' rfl rfl
  obtain ⟨aud2g, aud3g, hdata, -, h3g⟩ := hread
  obtain ⟨sqn, hsqn⟩ := h3g (by decide)
  exact ⟨s', aud2g, aud3g, sqn, hs', hdata, hsqn⟩

end Operator
end OsmoHlr
