import OsmoHlr.Db.Sound
import OsmoHlr.NetworkAccess
import OsmoHlr.UpdateNotify

/-!
# Commands about subscribers

`src/hlr_vty_subscr.c`: an operator creates and deletes subscribers, and sets their MSISDN, IMEI,
keys and access modes.  A subscriber is named by its IMSI, MSISDN, id or IMEI.  What `show` and
`create` write about a subscriber, field by field, is left out.

* `Cmd`, `Cmd.run` — the commands, and what they leave.
* `Cmd.Does`, `wrote_run` — a command changes the database by its operations only.
-/

namespace OsmoHlr
namespace Subscr

open CString CniPeerId Db Gsup Ctrl NetworkAccess Decimal

variable (lib : VtyLib) (gsup : GsupProtocol)

/-! ## Commands -/

/-- The commands with their arguments. -/
inductive Cmd where
  | create (imsi : CStr)
  | delete (type : IdType) (id : CStr)
  | msisdn (type : IdType) (id msisdn : CStr)
  | noAud2g (type : IdType) (id : CStr)
  | aud2g (type : IdType) (id algType ki : CStr)
  | noAud3g (type : IdType) (id : CStr)
  /-- `opOrOpc` is the keyword in front of the key, `indBitlen` the last argument, if any. -/
  | aud3g (type : IdType) (id k opOrOpc opc : CStr) (indBitlen : Option CStr)
  | imei (type : IdType) (id imei : CStr)
  | nam (type : IdType) (id mode : CStr)

/-- What goes wrong with the statements of a command. -/
structure CmdFaults where
  /-- `get_subscr_by_argv` -/
  get : Faults
  create : Faults
  /-- A row id that is not in use. -/
  found : Int
  del : DeleteFaults
  /-- The update of an MSISDN, of an IMEI or of the access to CS. -/
  update : Faults
  /-- The update of the access to PS. -/
  updatePs : Faults
  aud : AudFaults
  /-- `db_subscr_get_by_msisdn`, of who has just got the MSISDN. -/
  getByMsisdn : Faults

/-- Nothing goes wrong. -/
def CmdFaults.none : CmdFaults where
  get := Faults.none
  create := Faults.none
  found := 2
  del := ⟨Faults.none, AudFaults.none, AudFaults.none⟩
  update := Faults.none
  updatePs := Faults.none
  aud := AudFaults.none
  getByMsisdn := Faults.none

/-- What a command leaves. -/
structure Ran where
  /-- `CMD_SUCCESS`, or else `CMD_WARNING` -/
  success : Bool
  tables : Tables
  /-- What is written to the terminal. -/
  lines : List CStr
  /-- Whom `osmo_hlr_subscriber_update_notify` is called with. -/
  notify : List Subscriber
  /-- What else is sent; `none` where it is not defined. -/
  sent : Option (List Sent)

/-- A warning, and nothing has been done. -/
def warn (t : Tables) (lines : List CStr) : Ran := ⟨false, t, lines, [], some []⟩

/-- It is done. -/
def done (t : Tables) (lines : List CStr) : Ran := ⟨true, t, lines, [], some []⟩

/-- A subscriber is named. -/
def nameOf : IdType → CStr
  | .imsi => CStr.lit "imsi"
  | .msisdn => CStr.lit "msisdn"
  | .id => CStr.lit "id"
  | .imei => CStr.lit "imei"

/-- What `get_subscr_by_argv` writes. -/
def getSubscrLines (type : IdType) (id : CStr) (found : Except Int Subscriber) : List CStr :=
  let stripped := match type with
    | .imei => lib.imeiStrValidChk id
    | _ => false
  let id := if stripped then osmoStrlcpy (some id) (lib.imeiNumDigitsNoChk + 1) else id
  (if stripped then
    [CStr.lit "% Checksum validated and stripped for search: imei = '" ++ id ++ CStr.lit "'"]
  else []) ++
    match found with
    | .ok _ => []
    | .error _ =>
        [CStr.lit "% No subscriber for " ++ nameOf type ++ CStr.lit " = '" ++ id ++ CStr.lit "'"]

/-- A command about a subscriber that is there. -/
def withSubscr (f : CmdFaults) (t : Tables) (type : IdType) (id : CStr) (k : Subscriber → Ran) :
    Ran :=
  let found := getSubscrByArgv lib f.get t type id
  let lines := getSubscrLines lib type id found
  match found with
  | .error _ => warn t lines
  | .ok subscr =>
      let ran := k subscr
      { ran with lines := lines ++ ran.lines }

/-- An operation is done, or there is a warning. -/
def storing (stored : Int × Tables) (failed : Int → Bool) (warning : CStr) (lines : List CStr)
    (notify : List Subscriber) : Ran :=
  if failed stored.1 then ⟨false, stored.2, [warning], [], some []⟩
  else ⟨true, stored.2, lines, notify, some []⟩

/-! ## Keys -/

/-- `auth_algo_parse`: the algorithm, and the lengths of a key. -/
def authAlgoParse (algStr : CStr) : Option (AuthAlgo × Nat × Nat) :=
  if caseEq algStr (CStr.lit "none") then some (.none, 0, 0)
  else if caseEq algStr (CStr.lit "comp128v1") then some (.comp128v1, 16, 16)
  else if caseEq algStr (CStr.lit "comp128v2") then some (.comp128v2, 16, 16)
  else if caseEq algStr (CStr.lit "comp128v3") then some (.comp128v3, 16, 16)
  else if caseEq algStr (CStr.lit "xor") then some (.xor, 12, 16)
  else if caseEq algStr (CStr.lit "milenage") then some (.milenage, 16, 16)
  else none

/-- `is_hexkey_valid` -/
def isHexkeyValid (hexStr : CStr) (minlen maxlen : Nat) : Bool :=
  osmoIsHexstr hexStr (minlen * 2) (maxlen * 2) true

/-- What `is_hexkey_valid` writes. -/
def invalidKey (label hexStr : CStr) : CStr :=
  CStr.lit "% Invalid value for " ++ label ++ CStr.lit ": '" ++ hexStr ++ CStr.lit "'"

/-- `MILENAGE_KEY_LEN` -/
def milenageKeyLen : Nat := 16

/-- `ind_bitlen` of `subscriber_aud3g` -/
def indBitlenOf (word : Option CStr) : UInt32 :=
  match word with
  | none => 5
  | some word => UInt32.ofInt (strtoll word.bytes).value

/-- What `subscriber_aud2g` makes of its arguments: the keys, or a warning. -/
def aud2gOfArgv (algType ki : CStr) : Except CStr SubAuthDataStr :=
  match authAlgoParse algType with
  | none => .error (CStr.lit "% Unknown auth algorithm: '" ++ algType ++ CStr.lit "'")
  | some (algo, minlen, maxlen) =>
      if !isHexkeyValid ki minlen maxlen then .error (invalidKey (CStr.lit "KI") ki)
      else .ok { noAud .gsm with algo := algo, ki := ki }

/-- What `subscriber_aud3g` makes of its arguments. -/
def aud3gOfArgv (k opOrOpc opc : CStr) (indBitlen : Option CStr) : Except CStr SubAuthDataStr :=
  let opcIsOp := caseEq (CStr.lit "op") opOrOpc
  match authAlgoParse (CStr.lit "milenage") with
  | none => .error (CStr.lit "% Unknown auth algorithm: 'milenage'")
  | some (algo, minlen, maxlen) =>
      if !isHexkeyValid k minlen maxlen then .error (invalidKey (CStr.lit "K") k)
      else if !isHexkeyValid opc milenageKeyLen milenageKeyLen then
        .error (invalidKey (if opcIsOp then CStr.lit "OP" else CStr.lit "OPC") opc)
      else
        .ok
          { noAud .umts with
            algo := algo
            k := k
            opc := opc
            opcIsOp := opcIsOp
            indBitlen := indBitlenOf indBitlen }

/-- Keys are set, or deleted. -/
def storeAud (f : CmdFaults) (t : Tables) (type : IdType) (id : CStr) (aud : SubAuthDataStr)
    (failed : Int → Bool) (warning : CStr) : Ran :=
  withSubscr lib f t type id fun subscr =>
    storing (dbSubscrUpdateAudById lib.toDbLib f.aud t subscr.id aud) failed
      (warning ++ CStr.lit " for IMSI='" ++ subscr.imsi ++ CStr.lit "'") [] []

/-- `subscriber_no_aud2g`, `subscriber_no_aud3g`: there may be none. -/
def subscriberNoAud (f : CmdFaults) (t : Tables) (type : IdType) (id : CStr) (aud : AuthType)
    (label : CStr) : Ran :=
  storeAud lib f t type id (noAud aud) (fun rc => rc ≠ 0 ∧ rc ≠ enoent)
    (CStr.lit "% Error: cannot disable " ++ label ++ CStr.lit " auth data")

/-- `subscriber_aud2g`, `subscriber_aud3g`, from what they make of their arguments. -/
def subscriberAud (f : CmdFaults) (t : Tables) (type : IdType) (id : CStr)
    (aud : Except CStr SubAuthDataStr) (label : CStr) : Ran :=
  match aud with
  | .error warning => warn t [warning]
  | .ok aud =>
      storeAud lib f t type id aud (· ≠ 0)
        (CStr.lit "% Error: cannot set " ++ label ++ CStr.lit " auth data")

/-! ## Subscribers -/

/-- `subscriber_create` -/
def subscriberCreate (f : CmdFaults) (t : Tables) (imsi : CStr) : Ran :=
  if !lib.imsiStrValid imsi then warn t [CStr.lit "% Not a valid IMSI: " ++ imsi]
  else
    let created := dbSubscrCreate lib.toDbLib f.create f.found t imsi
      (dbSubscrFlagNamCs ||| dbSubscrFlagNamPs)
    storing created (· ≠ 0)
      (if created.1 = eexist then
        CStr.lit "% Subscriber already exists for IMSI = " ++ imsi
      else
        CStr.lit "% Error (rc=" ++ CStr.ofBytes (45 :: printDec created.1.natAbs) ++
          CStr.lit "): cannot create subscriber for IMSI = " ++ imsi)
      [CStr.lit "% Created subscriber " ++ imsi] []

/-- `subscriber_delete` -/
def subscriberDelete (f : CmdFaults) (t : Tables) (type : IdType) (id : CStr) : Ran :=
  withSubscr lib f t type id fun subscr =>
    storing (dbSubscrDeleteById lib.toDbLib f.del t subscr.id) (· ≠ 0)
      (CStr.lit "% Error: Failed to remove subscriber for IMSI '" ++ subscr.imsi ++ CStr.lit "'")
      [CStr.lit "% Deleted subscriber for IMSI '" ++ subscr.imsi ++ CStr.lit "'"] []

/-- The MSISDN that is to be set, or a warning; `none` is to be removed. -/
def msisdnOfArgv (msisdn : CStr) : Except CStr (Option CStr) :=
  if msisdn = CStr.lit "none" then .ok none
  else if lib.msisdnMaxDigits < msisdn.len then
    .error (CStr.lit "% MSISDN is too long, max. " ++ printU lib.msisdnMaxDigits ++
      CStr.lit " characters are allowed")
  else if !lib.msisdnStrValid msisdn then
    .error (CStr.lit "% MSISDN invalid: '" ++ msisdn ++ CStr.lit "'")
  else .ok (some msisdn)

/-- `subscriber_msisdn`.  Peers are told what is in the database with a new MSISDN; when it is
removed they are told what was there before. -/
def subscriberMsisdn (f : CmdFaults) (t : Tables) (type : IdType) (id msisdn : CStr) : Ran :=
  match msisdnOfArgv lib msisdn with
  | .error warning => warn t [warning]
  | .ok msisdn =>
      withSubscr lib f t type id fun subscr =>
        let updated := CStr.lit "% Updated subscriber IMSI='" ++ subscr.imsi ++ CStr.lit "'"
        let stored := dbSubscrUpdateMsisdnByImsi lib.toDbLib f.update t subscr.imsi msisdn
        storing stored (· ≠ 0)
          (CStr.lit "% Error: cannot update MSISDN for subscriber IMSI='" ++ subscr.imsi ++
            CStr.lit "'")
          (match msisdn with
          | some msisdn => [updated ++ CStr.lit " to MSISDN='" ++ msisdn ++ CStr.lit "'"]
          | none => [updated ++ CStr.lit ": removed MSISDN"])
          (match msisdn with
          | some msisdn =>
              match dbSubscrGetByMsisdn lib.toSelLib f.getByMsisdn stored.2 msisdn with
              | .ok subscr => [subscr]
              | .error _ => []
          | none => [subscr])

/-- The IMEI that is to be set, without its checksum, or a warning; `none` is to be forgotten. -/
def imeiOfArgv (imei : CStr) : Except CStr (Option CStr) :=
  if imei = CStr.lit "none" then .ok none
  else if lib.imeiStrValidChk imei then
    .ok (some (osmoStrlcpy (some imei) (lib.imeiNumDigitsNoChk + 1)))
  else if !lib.imeiStrValid imei then
    .error (CStr.lit "% IMEI invalid: '" ++ imei ++ CStr.lit "'")
  else .ok (some imei)

/-- `subscriber_imei` -/
def subscriberImei (f : CmdFaults) (t : Tables) (type : IdType) (id imei : CStr) : Ran :=
  match imeiOfArgv lib imei with
  | .error warning => warn t [warning]
  | .ok imei =>
      withSubscr lib f t type id fun subscr =>
        let updated := CStr.lit "% Updated subscriber IMSI='" ++ subscr.imsi ++ CStr.lit "'"
        storing (dbSubscrUpdateImeiByImsi lib.toDbLib f.update t subscr.imsi imei) (· ≠ 0)
          (CStr.lit "% Error: cannot update IMEI for subscriber IMSI='" ++ subscr.imsi ++
            CStr.lit "'")
          (match imei with
          | some imei => [updated ++ CStr.lit " to IMEI='" ++ imei ++ CStr.lit "'"]
          | none => [updated ++ CStr.lit ": removed IMEI"])
          []

/-- `subscriber_nam`, where each domain has an update of its own. -/
def subscriberNam (routes : RouteTable) (f : CmdFaults) (t : Tables) (type : IdType)
    (id mode : CStr) : Ran :=
  withSubscr lib f t type id fun subscr =>
    let namCs := strstr mode (CStr.lit "cs")
    let namPs := strstr mode (CStr.lit "ps")
    let cs :=
      if namCs ≠ subscr.namCs then hlrSubscrNam gsup f.update t routes subscr namCs false
      else ⟨0, t, some []⟩
    let ps :=
      if namPs ≠ subscr.namPs then hlrSubscrNam gsup f.updatePs cs.tables routes subscr namPs true
      else ⟨0, cs.tables, some []⟩
    ⟨true, ps.tables, [], [], sentBoth cs.sent ps.sent⟩

/-- It leaves and sends what it does where both updates go alike. -/
theorem subscriberNam_eq (routes : RouteTable) (f : CmdFaults) (t : Tables) (type : IdType)
    (id mode : CStr) (hsame : f.updatePs = f.update) :
    ((subscriberNam lib gsup routes f t type id mode).tables,
        (subscriberNam lib gsup routes f t type id mode).sent) =
      NetworkAccess.subscriberNam gsup f.update t routes (getSubscrByArgv lib f.get t type id)
        mode := by
  unfold subscriberNam withSubscr
  rw [hsame]
  cases getSubscrByArgv lib f.get t type id <;> rfl

/-- A command, with the routes to peers. -/
def Cmd.run (routes : RouteTable) (f : CmdFaults) (t : Tables) : Cmd → Ran
  | .create imsi => subscriberCreate lib f t imsi
  | .delete type id => subscriberDelete lib f t type id
  | .msisdn type id new => subscriberMsisdn lib f t type id new
  | .noAud2g type id => subscriberNoAud lib f t type id .gsm (CStr.lit "2G")
  | .aud2g type id algType ki =>
      subscriberAud lib f t type id (aud2gOfArgv algType ki) (CStr.lit "2G")
  | .noAud3g type id => subscriberNoAud lib f t type id .umts (CStr.lit "3G")
  | .aud3g type id k opOrOpc opc indBitlen =>
      subscriberAud lib f t type id (aud3gOfArgv k opOrOpc opc indBitlen) (CStr.lit "3G")
  | .imei type id new => subscriberImei lib f t type id new
  | .nam type id mode => subscriberNam lib gsup routes f t type id mode

/-! ## What is done to the database -/

/-- The operations of a command, on the subscriber that it names, with what it has made of its
arguments. -/
inductive Cmd.Does (f : CmdFaults) (t : Tables) : Cmd → Op → Prop
  | create {imsi : CStr} :
      Cmd.Does f t (.create imsi)
        (.create f.create f.found imsi (dbSubscrFlagNamCs ||| dbSubscrFlagNamPs))
  | delete {type : IdType} {id : CStr} {subscr : Subscriber}
      (hsubscr : getSubscrByArgv lib f.get t type id = .ok subscr) :
      Cmd.Does f t (.delete type id) (.deleteById f.del subscr.id)
  | msisdn {type : IdType} {id new : CStr} {subscr : Subscriber} {msisdn : Option CStr}
      (hsubscr : getSubscrByArgv lib f.get t type id = .ok subscr)
      (hmsisdn : msisdnOfArgv lib new = .ok msisdn) :
      Cmd.Does f t (.msisdn type id new) (.updateMsisdnByImsi f.update subscr.imsi msisdn)
  | noAud2g {type : IdType} {id : CStr} {subscr : Subscriber}
      (hsubscr : getSubscrByArgv lib f.get t type id = .ok subscr) :
      Cmd.Does f t (.noAud2g type id) (.updateAudById f.aud subscr.id (noAud .gsm))
  | aud2g {type : IdType} {id algType ki : CStr} {subscr : Subscriber} {aud : SubAuthDataStr}
      (hsubscr : getSubscrByArgv lib f.get t type id = .ok subscr)
      (haud : aud2gOfArgv algType ki = .ok aud) :
      Cmd.Does f t (.aud2g type id algType ki) (.updateAudById f.aud subscr.id aud)
  | noAud3g {type : IdType} {id : CStr} {subscr : Subscriber}
      (hsubscr : getSubscrByArgv lib f.get t type id = .ok subscr) :
      Cmd.Does f t (.noAud3g type id) (.updateAudById f.aud subscr.id (noAud .umts))
  | aud3g {type : IdType} {id k opOrOpc opc : CStr} {indBitlen : Option CStr}
      {subscr : Subscriber} {aud : SubAuthDataStr}
      (hsubscr : getSubscrByArgv lib f.get t type id = .ok subscr)
      (haud : aud3gOfArgv k opOrOpc opc indBitlen = .ok aud) :
      Cmd.Does f t (.aud3g type id k opOrOpc opc indBitlen) (.updateAudById f.aud subscr.id aud)
  | imei {type : IdType} {id new : CStr} {subscr : Subscriber} {imei : Option CStr}
      (hsubscr : getSubscrByArgv lib f.get t type id = .ok subscr)
      (himei : imeiOfArgv lib new = .ok imei) :
      Cmd.Does f t (.imei type id new) (.updateImeiByImsi f.update subscr.imsi imei)
  | nam {type : IdType} {id mode : CStr} {subscr : Subscriber} (namVal isPs : Bool)
      (hsubscr : getSubscrByArgv lib f.get t type id = .ok subscr) :
      Cmd.Does f t (.nam type id mode)
        (.nam (if isPs then f.updatePs else f.update) subscr.imsi namVal isPs)

variable {lib} {gsup} {f : CmdFaults} {t : Tables} {type : IdType} {id : CStr} {routes : RouteTable}
  {Does : Op → Prop}

/-- A command that is about a subscriber does nothing unless there is one. -/
theorem tables_withSubscr (f : CmdFaults) (t : Tables) (type : IdType) (id : CStr)
    (k : Subscriber → Ran) :
    (withSubscr lib f t type id k).tables =
      match getSubscrByArgv lib f.get t type id with
      | .error _ => t
      | .ok subscr => (k subscr).tables := by
  unfold withSubscr
  simp only
  split <;> rfl

@[simp] theorem tables_storing (stored : Int × Tables) (failed : Int → Bool) (warning : CStr)
    (lines : List CStr) (notify : List Subscriber) :
    (storing stored failed warning lines notify).tables = stored.2 := by
  unfold storing
  split <;> rfl

@[simp] theorem success_storing (stored : Int × Tables) (failed : Int → Bool) (warning : CStr)
    (lines : List CStr) (notify : List Subscriber) :
    (storing stored failed warning lines notify).success = !failed stored.1 := by
  unfold storing
  split
  next hfailed => rw [hfailed]; rfl
  next hfailed => rw [Bool.eq_false_iff.2 hfailed]; rfl

theorem wrote_withSubscr {k : Subscriber → Ran}
    (h : ∀ subscr, getSubscrByArgv lib f.get t type id = .ok subscr →
      Wrote lib.toDbLib Does t (k subscr).tables) :
    Wrote lib.toDbLib Does t (withSubscr lib f t type id k).tables := by
  rw [tables_withSubscr]
  split
  · exact .refl
  next hsubscr => exact h _ hsubscr

theorem wrote_hlrSubscrNam {f : Faults} {subscr : Subscriber} {namVal isPs : Bool}
    (h : Does (.nam f subscr.imsi namVal isPs)) (t : Tables) :
    Wrote lib.toDbLib Does t (hlrSubscrNam gsup f t routes subscr namVal isPs).tables := by
  have hnam := wrote_op lib.toDbLib t _ h
  unfold hlrSubscrNam
  generalize (if isPs then subscr.namPs else subscr.namCs) = isVal
  simp only
  by_cases hval : isVal = namVal
  · rw [if_pos hval]
  · rw [if_neg hval]
    split
    · exact hnam
    · cases namVal <;> exact hnam

/-- A domain is switched if it has to be. -/
theorem wrote_unless {f : Faults} {subscr : Subscriber} {namVal isPs : Bool}
    (h : Does (.nam f subscr.imsi namVal isPs)) (t : Tables) (p : Prop) [Decidable p] :
    Wrote lib.toDbLib Does t
      (if p then hlrSubscrNam gsup f t routes subscr namVal isPs else ⟨0, t, some []⟩).tables := by
  by_cases hp : p
  · rw [if_pos hp]
    exact wrote_hlrSubscrNam h t
  · rw [if_neg hp]

theorem wrote_storeAud {aud : SubAuthDataStr}
    (h : ∀ subscr, getSubscrByArgv lib f.get t type id = .ok subscr →
      Does (.updateAudById f.aud subscr.id aud))
    (failed : Int → Bool) (warning : CStr) :
    Wrote lib.toDbLib Does t (storeAud lib f t type id aud failed warning).tables := by
  refine wrote_withSubscr fun subscr hsubscr => ?_
  rw [tables_storing]
  exact wrote_op lib.toDbLib t _ (h subscr hsubscr)

theorem wrote_subscriberAud {aud : Except CStr SubAuthDataStr}
    (h : ∀ subscr, getSubscrByArgv lib f.get t type id = .ok subscr → ∀ key, aud = .ok key →
      Does (.updateAudById f.aud subscr.id key)) (label : CStr) :
    Wrote lib.toDbLib Does t (subscriberAud lib f t type id aud label).tables := by
  unfold subscriberAud
  split
  · exact .refl
  next key => exact wrote_storeAud (fun subscr hsubscr => h subscr hsubscr key rfl) _ _

/-- **A command does nothing to the database but its operations**, on the subscriber that it names,
whatever goes wrong. -/
theorem wrote_run (routes : RouteTable) (f : CmdFaults) (t : Tables) (cmd : Cmd) :
    Wrote lib.toDbLib (cmd.Does lib f t) t (cmd.run lib gsup routes f t).tables := by
  cases cmd with
  | create imsi =>
      show Wrote _ _ _ (subscriberCreate lib f t imsi).tables
      unfold subscriberCreate
      split
      · exact .refl
      · rw [tables_storing]
        exact wrote_op lib.toDbLib t _ Cmd.Does.create
  | delete type id =>
      refine wrote_withSubscr fun subscr hsubscr => ?_
      rw [tables_storing]
      exact wrote_op lib.toDbLib t _ (Cmd.Does.delete hsubscr)
  | msisdn type id new =>
      show Wrote _ _ _ (subscriberMsisdn lib f t type id new).tables
      unfold subscriberMsisdn
      split
      · exact .refl
      next hmsisdn =>
          refine wrote_withSubscr fun subscr hsubscr => ?_
          simp only [tables_storing]
          exact wrote_op lib.toDbLib t _ (Cmd.Does.msisdn hsubscr hmsisdn)
  | noAud2g type id => exact wrote_storeAud (fun _ hsubscr => .noAud2g hsubscr) _ _
  | aud2g type id algType ki =>
      exact wrote_subscriberAud (fun _ hsubscr _ haud => .aud2g hsubscr haud) _
  | noAud3g type id => exact wrote_storeAud (fun _ hsubscr => .noAud3g hsubscr) _ _
  | aud3g type id k opOrOpc opc indBitlen =>
      exact wrote_subscriberAud (fun _ hsubscr _ haud => .aud3g hsubscr haud) _
  | imei type id new =>
      show Wrote _ _ _ (subscriberImei lib f t type id new).tables
      unfold subscriberImei
      split
      · exact .refl
      next himei =>
          refine wrote_withSubscr fun subscr hsubscr => ?_
          simp only [tables_storing]
          exact wrote_op lib.toDbLib t _ (Cmd.Does.imei hsubscr himei)
  | nam type id mode =>
      refine wrote_withSubscr fun subscr hsubscr => ?_
      have hdoes : ∀ namVal isPs, Cmd.Does lib f t (.nam type id mode)
          (.nam (if isPs then f.updatePs else f.update) subscr.imsi namVal isPs) :=
        fun namVal isPs => .nam namVal isPs hsubscr
      exact (wrote_unless (hdoes _ false) t _).trans (wrote_unless (hdoes _ true) _ _)

/-! ## Keys that are stored -/

/-- Keys are stored with what goes wrong with the keys of the command. -/
theorem faults_of_does {cmd : Cmd} {g : AudFaults} {subscrId : Int} {aud : SubAuthDataStr}
    (h : cmd.Does lib f t (.updateAudById g subscrId aud)) : g = f.aud := by
  cases h <;> rfl

/-- A command that stores keys succeeds if their operation does. -/
theorem success_storeAud {aud : SubAuthDataStr} {subscr : Subscriber}
    (hsubscr : getSubscrByArgv lib f.get t type id = .ok subscr) (failed : Int → Bool)
    (warning : CStr) :
    (storeAud lib f t type id aud failed warning).success =
        !failed (dbSubscrUpdateAudById lib.toDbLib f.aud t subscr.id aud).1 ∧
      (storeAud lib f t type id aud failed warning).tables =
        (dbSubscrUpdateAudById lib.toDbLib f.aud t subscr.id aud).2 := by
  unfold storeAud withSubscr
  simp [hsubscr]

/-- **When a command with keys succeeds, their operation has succeeded.** -/
theorem stored_of_success {cmd : Cmd} {subscrId : Int} {aud : SubAuthDataStr}
    (hdoes : cmd.Does lib f t (.updateAudById f.aud subscrId aud)) (halgo : aud.algo ≠ .none)
    (hsuccess : (cmd.run lib gsup routes f t).success = true) :
    (dbSubscrUpdateAudById lib.toDbLib f.aud t subscrId aud).1 = 0 ∧
      (cmd.run lib gsup routes f t).tables =
        (dbSubscrUpdateAudById lib.toDbLib f.aud t subscrId aud).2 := by
  have hstored : ∀ {type id subscr key warning}, getSubscrByArgv lib f.get t type id = .ok subscr →
      (storeAud lib f t type id key (· ≠ 0) warning).success = true →
        (dbSubscrUpdateAudById lib.toDbLib f.aud t subscr.id key).1 = 0 ∧
          (storeAud lib f t type id key (· ≠ 0) warning).tables =
            (dbSubscrUpdateAudById lib.toDbLib f.aud t subscr.id key).2 := by
    intro type id subscr key warning hsubscr hsuccess
    obtain ⟨hrc, htables⟩ := success_storeAud hsubscr (· ≠ 0) warning
    rw [hrc] at hsuccess
    exact ⟨by simpa using hsuccess, htables⟩
  cases hdoes with
  | noAud2g | noAud3g => exact absurd rfl halgo
  | aud2g hsubscr haud =>
      simp only [Cmd.run, haud, subscriberAud] at hsuccess ⊢
      exact hstored hsubscr hsuccess
  | aud3g hsubscr haud =>
      simp only [Cmd.run, haud, subscriberAud] at hsuccess ⊢
      exact hstored hsubscr hsuccess

end Subscr
end OsmoHlr
