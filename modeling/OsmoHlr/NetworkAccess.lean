import OsmoHlr.Ctrl
import OsmoHlr.Gsup.GsupLibHost
import OsmoHlr.Gsup.Protocol
import OsmoHlr.Gsup.Send

/-!
# Network access is switched

A domain of a subscriber is switched on the CTRL interface (`set_subscr_cs_ps_enabled` of
`src/ctrl.c`), which stores the flag, and on the VTY (`subscriber_nam` of
`src/hlr_vty_subscr.c`), which goes through `hlr_subscr_nam` of `src/hlr.c` and notifies peers.

* `hlrSubscrNam`, `subscriberNam` — the way of the VTY; `ctrlSwitch` — that of CTRL.
* `Alike` — both store the same, and send what is to be sent.
* `alike_iff` — they do if nothing is switched off, or nobody is to be notified.
-/

namespace OsmoHlr
namespace NetworkAccess

open CString CniPeerId Db Gsup Ctrl Decimal

/-- What the VTY uses of libosmogsm besides. -/
structure VtyLib extends CtrlLib where
  /-- `GSM23003_IMEI_NUM_DIGITS_NO_CHK` -/
  imeiNumDigitsNoChk : Nat
  /-- `osmo_imei_str_valid(imei, true)` -/
  imeiStrValidChk : CStr → Bool

variable (lib : VtyLib) (gsup : GsupProtocol)

/-! ## The VTY -/

/-- `ENOEXEC` -/
def enoexec : Int := 8

/-- What `hlr_subscr_nam` leaves.  What is sent is `none` if a number is a format that wants
arguments: then it is not defined what happens. -/
structure Switched where
  rc : Int
  tables : Tables
  sent : Option (List Sent)

/-- `gsup_del_data` -/
def gsupDelData (imsi : CStr) : GsupMessage :=
  { GsupMessage.zero with messageType := gsup.msgt .deleteData .request, imsi := imsi }

/-- A peer is notified, if there is a number. -/
def notifyNumber (routes : RouteTable) (number imsi : CStr) : Option (List Sent) :=
  if number.bytes = [] then some []
  else
    (ipaNameSetFmt (some number)).map fun vlrName =>
      (osmoGsupEncSendToIpaName gsup.toGsupLib routes vlrName (gsupDelData gsup imsi)).2

/-- What is sent first, and then. -/
def sentBoth (first second : Option (List Sent)) : Option (List Sent) :=
  first.bind fun first => second.map (first ++ ·)

/-- `hlr_subscr_nam` -/
def hlrSubscrNam (f : Faults) (t : Tables) (routes : RouteTable) (subscr : Subscriber)
    (namVal isPs : Bool) : Switched :=
  let isVal := if isPs then subscr.namPs else subscr.namCs
  if isVal = namVal then ⟨enoexec, t, some []⟩
  else
    let stored := dbSubscrNam f t subscr.imsi namVal isPs
    if stored.1 ≠ 0 then ⟨if 0 < stored.1 then -stored.1 else stored.1, stored.2, some []⟩
    else if namVal then ⟨0, stored.2, some []⟩
    else
      ⟨0, stored.2, sentBoth (notifyNumber gsup routes subscr.vlrNumber subscr.imsi)
        (notifyNumber gsup routes subscr.sgsnNumber subscr.imsi)⟩

/-- `strstr`, whether there is any. -/
def strstr (haystack needle : CStr) : Bool := needle.bytes <:+: haystack.bytes

/-- `subscriber_nam`, where `get_subscr_by_argv` has returned: what it leaves, and what is sent. -/
def subscriberNam (f : Faults) (t : Tables) (routes : RouteTable) (found : Except Int Subscriber)
    (mode : CStr) : Tables × Option (List Sent) :=
  match found with
  | .error _ => (t, some [])
  | .ok subscr =>
      let namCs := strstr mode (CStr.lit "cs")
      let namPs := strstr mode (CStr.lit "ps")
      let cs :=
        if namCs ≠ subscr.namCs then hlrSubscrNam gsup f t routes subscr namCs false
        else ⟨0, t, some []⟩
      let ps :=
        if namPs ≠ subscr.namPs then hlrSubscrNam gsup f cs.tables routes subscr namPs true
        else ⟨0, cs.tables, some []⟩
      (ps.tables, sentBoth cs.sent ps.sent)

/-- The row of an IMEI. -/
def subscriberByImei (c : Contents) (imei : CStr) : Option SubscriberRow :=
  c.subscriber.find? fun row => row.imei = some imei

/-- `db_subscr_get_by_imei` -/
def dbSubscrGetByImei (f : Faults) (t : Tables) (imei : CStr) : Except Int Subscriber :=
  if f.binds 1 ∨ f.step then .error eio
  else
    match subscriberByImei t.toContents imei with
    | none => .error enoent
    | some row => .ok (dbSel lib.toSelLib row)

/-- The first argument of `SUBSCR_ID`. -/
inductive IdType where
  | imsi
  | msisdn
  | id
  | imei

/-- `get_subscr_by_argv` -/
def getSubscrByArgv (f : Faults) (t : Tables) (type : IdType) (id : CStr) :
    Except Int Subscriber :=
  match type with
  | .imsi => dbSubscrGetByImsi lib.toSelLib f t id
  | .msisdn => dbSubscrGetByMsisdn lib.toSelLib f t id
  | .id => dbSubscrGetById lib.toCtrlLib f t (strtoll id.bytes).value
  | .imei =>
      dbSubscrGetByImei lib f t
        (if lib.imeiStrValidChk id then osmoStrlcpy (some id) (lib.imeiNumDigitsNoChk + 1) else id)

/-- The last argument of `network-access-mode`, for what is to be enabled. -/
def modeOf (namCs namPs : Bool) : CStr :=
  match namCs, namPs with
  | false, false => CStr.lit "none"
  | true, false => CStr.lit "cs"
  | false, true => CStr.lit "ps"
  | true, true => CStr.lit "cs+ps"

theorem strstr_modeOf (namCs namPs : Bool) :
    strstr (modeOf namCs namPs) (CStr.lit "cs") = namCs ∧
      strstr (modeOf namCs namPs) (CStr.lit "ps") = namPs := by
  cases namCs <;> cases namPs <;> decide

/-! ## Both interfaces -/

/-- The flag of a domain. -/
def flagOf (row : SubscriberRow) (isPs : Bool) : Bool := if isPs then row.namPs else row.namCs

/-- The row with another flag. -/
def withFlag (isPs val : Bool) (row : SubscriberRow) : SubscriberRow :=
  if isPs then { row with namPs := val } else { row with namCs := val }

/-- The number of the peer of a domain. -/
def numberOf (row : SubscriberRow) (isPs : Bool) : Option CStr :=
  if isPs then row.sgsnNumber else row.vlrNumber

/-- The mode that differs in one domain at most. -/
def modeFor (row : SubscriberRow) (isPs val : Bool) : CStr :=
  if isPs then modeOf row.namCs val else modeOf val row.namPs

/-- A domain is switched by the CTRL command `cs-enabled` or `ps-enabled`, which sends nothing. -/
def ctrlSwitch (t : Tables) (bySelector : CStr) (isPs val : Bool) : Tables × List Sent :=
  ((setSubscrCsPsEnabled Faults.none t
    (getSubscriberImsi lib.toCtrlLib Faults.none t bySelector)
    (if val then CStr.lit "1" else CStr.lit "0") isPs).tables, [])

/-- The same by the VTY command. -/
def vtySwitch (t : Tables) (routes : RouteTable) (type : IdType) (id : CStr) (row : SubscriberRow)
    (isPs val : Bool) : Tables × Option (List Sent) :=
  subscriberNam gsup Faults.none t routes (getSubscrByArgv lib Faults.none t type id)
    (modeFor row isPs val)

/-- The contents with another flag of a subscriber, and no other difference. -/
def switched (c : Contents) (imsi : CStr) (isPs val : Bool) : Contents :=
  { c with subscriber := c.subscriber.map fun row =>
      if row.imsi = imsi then withFlag isPs val row else row }

/-- The connection of the peer that has a number as its name. -/
def currentPeer (routes : RouteTable) (number : Option CStr) : Option Nat :=
  number.bind fun number =>
    if number.bytes = [] then none else gsupRouteFind routes (number.bytes ++ [0])

/-- What is to be sent: a notice to the peer of the domain that is switched off. -/
def dueTo (routes : RouteTable) (row : SubscriberRow) (isPs val : Bool) : List Sent :=
  if flagOf row isPs = true ∧ val = false then
    match currentPeer routes (numberOf row isPs), gsup.gsupEncode (gsupDelData gsup row.imsi) with
    | some conn, some msg => [⟨conn, msg⟩]
    | _, _ => []
  else []

/-- **Both interfaces switch a domain alike**: they leave the same, in which only the flag is
another, and send the same, which is a notice to the peer of the domain if it is switched off. -/
structure Alike (t : Tables) (routes : RouteTable) (row : SubscriberRow) (bySelector : CStr)
    (type : IdType) (id : CStr) (isPs val : Bool) : Prop where
  tables : (ctrlSwitch lib t bySelector isPs val).1 =
    (vtySwitch lib gsup t routes type id row isPs val).1
  flag : (ctrlSwitch lib t bySelector isPs val).1.toContents =
    switched t.toContents row.imsi isPs val
  ctrl : (ctrlSwitch lib t bySelector isPs val).2 = dueTo gsup routes row isPs val
  vty : (vtySwitch lib gsup t routes type id row isPs val).2 =
    some (dueTo gsup routes row isPs val)

/-- No route leads to what `osmo_ipa_name_set_str` makes of a number, as it is read. -/
def Unreached (routes : RouteTable) (number : Option CStr) : Prop :=
  (osmoStrlcpy number numberSize).bytes = [] ∨
    ∃ name, ipaNameSetFmt (some (osmoStrlcpy number numberSize)) = some name ∧
      gsupRouteFind routes name.val = none

/-- Nobody is to be notified. -/
def NobodyNotified (routes : RouteTable) (row : SubscriberRow) (isPs : Bool) : Prop :=
  Unreached routes row.vlrNumber ∧ Unreached routes row.sgsnNumber ∧
    currentPeer routes (numberOf row isPs) = none

/-! ## What is stored -/

section Stored

variable {t : Tables} {row : SubscriberRow}

/-- What `db_subscr_nam` stores for a subscriber. -/
theorem dbSubscrNam_spec (hrow : row ∈ t.subscriber) (val isPs : Bool) :
    (dbSubscrNam Faults.none t row.imsi val isPs).1 = 0 ∧
      (dbSubscrNam Faults.none t row.imsi val isPs).2.toContents =
        switched t.toContents row.imsi isPs val := by
  have hupdate : ∀ set : SubscriberRow → SubscriberRow, (∀ r, (set r).id = r.id) →
      (∀ r, (set r).imsi = r.imsi) → (∀ r, (set r).msisdn = r.msisdn) →
      (updateOne Faults.none 2 t (updateSubscriber (fun r => r.imsi = row.imsi) set)).1 = 0 ∧
        (updateOne Faults.none 2 t
          (updateSubscriber (fun r => r.imsi = row.imsi) set)).2.toContents =
            (updateSubscriber (fun r => r.imsi = row.imsi) set t.toContents).1 := by
    intro set hid himsi hmsisdn
    rcases updateOne_cases (singleRow_updateByImsi t row.imsi set) Faults.none 2 with
      ⟨-, -, hfault⟩ | ⟨-, -, -, -, hzero⟩ | ⟨hrc, hstored, -⟩
    · rcases hfault with hfault | hfault | hfault
      · exact absurd hfault (by decide)
      · exact absurd hfault (by decide)
      · exact absurd (valid_updateSubscriber t _ hid himsi hmsisdn) hfault
    · have hnone := List.countP_eq_zero.1 hzero row hrow
      simp at hnone
    · exact ⟨hrc, hstored⟩
  have hswitched : ∀ set : SubscriberRow → SubscriberRow, set = withFlag isPs val →
      (updateSubscriber (fun r => r.imsi = row.imsi) set t.toContents).1 =
        switched t.toContents row.imsi isPs val := by
    rintro set rfl
    simp [updateSubscriber, switched]
  cases isPs with
  | true =>
      rw [← hswitched (fun r => { r with namPs := val }) rfl]
      exact hupdate _ (fun _ => rfl) (fun _ => rfl) (fun _ => rfl)
  | false =>
      rw [← hswitched (fun r => { r with namCs := val }) rfl]
      exact hupdate _ (fun _ => rfl) (fun _ => rfl) (fun _ => rfl)

/-- Nothing is another if the flag has its value already. -/
theorem switched_of_flag (hrow : row ∈ t.subscriber) {isPs val : Bool}
    (h : flagOf row isPs = val) : switched t.toContents row.imsi isPs val = t.toContents := by
  have hsame : ∀ r ∈ t.subscriber, decide (r.imsi = row.imsi) = true → withFlag isPs val r = r := by
    intro r hr himsi
    obtain rfl := List.inj_on_of_nodup_map t.valid.2.1 hr hrow (of_decide_eq_true himsi)
    subst h
    cases isPs <;> rfl
  have hmap := (map_set_eq_self_iff _ _ t.subscriber).2 hsame
  simp only [decide_eq_true_eq] at hmap
  rw [switched, hmap]

end Stored

/-! ## What both do -/

section Both

variable {lib gsup} {t : Tables} {routes : RouteTable} {row : SubscriberRow} {bySelector : CStr}
  {type : IdType} {id : CStr}

theorem ctrlSwitch_fst (h : getSubscriberImsi lib.toCtrlLib Faults.none t bySelector = .ok row.imsi)
    (isPs val : Bool) :
    (ctrlSwitch lib t bySelector isPs val).1 = (dbSubscrNam Faults.none t row.imsi val isPs).2 := by
  have hval : decide ((if val then CStr.lit "1" else CStr.lit "0") = CStr.lit "1") = val := by
    cases val <;> decide
  simp only [ctrlSwitch, setSubscrCsPsEnabled, h, hval]
  split <;> rfl

theorem sentBoth_nil_right (sent : Option (List Sent)) : sentBoth sent (some []) = sent := by
  cases sent <;> simp [sentBoth]

theorem sentBoth_nil_left (sent : Option (List Sent)) : sentBoth (some []) sent = sent := by
  cases sent <;> rfl

/-- What `hlr_subscr_nam` sends if a domain of a subscriber is switched off. -/
def sentWhenOff (gsup : GsupProtocol) (routes : RouteTable) (row : SubscriberRow) :
    Option (List Sent) :=
  sentBoth (notifyNumber gsup routes (osmoStrlcpy row.vlrNumber numberSize) row.imsi)
    (notifyNumber gsup routes (osmoStrlcpy row.sgsnNumber numberSize) row.imsi)

/-- What `hlr_subscr_nam` does to a subscriber. -/
theorem hlrSubscrNam_eq (hrow : row ∈ t.subscriber) (himsi : lib.imsiStrValid row.imsi = true)
    {isPs val : Bool} (hflag : flagOf row isPs ≠ val) :
    hlrSubscrNam gsup Faults.none t routes (dbSel lib.toSelLib row) val isPs =
      ⟨0, (dbSubscrNam Faults.none t row.imsi val isPs).2,
        if val then some [] else sentWhenOff gsup routes row⟩ := by
  have hstored := (dbSubscrNam_spec hrow val isPs).1
  have hsel := imsi_dbSel lib.toCtrlLib himsi
  have hval : (if isPs then (dbSel lib.toSelLib row).namPs else (dbSel lib.toSelLib row).namCs) ≠
      val := hflag
  unfold hlrSubscrNam
  dsimp only
  rw [if_neg hval, hsel, hstored, if_neg (not_not.2 rfl)]
  cases val <;> rfl

/-- It is called only for a flag that is another. -/
theorem hlrSubscrNam_unless_eq (hrow : row ∈ t.subscriber)
    (himsi : lib.imsiStrValid row.imsi = true) (isPs val : Bool) :
    (if val ≠ flagOf row isPs then
        hlrSubscrNam gsup Faults.none t routes (dbSel lib.toSelLib row) val isPs
      else ⟨0, t, some []⟩) =
      if flagOf row isPs = val then ⟨0, t, some []⟩
      else
        ⟨0, (dbSubscrNam Faults.none t row.imsi val isPs).2,
          if val then some [] else sentWhenOff gsup routes row⟩ := by
  by_cases hflag : flagOf row isPs = val
  · rw [if_pos hflag, if_neg (not_not.2 hflag.symm)]
  · rw [if_neg hflag, if_pos (Ne.symm hflag), hlrSubscrNam_eq hrow himsi hflag]

/-- What the VTY does to a subscriber. -/
theorem vtySwitch_eq (hrow : row ∈ t.subscriber) (himsi : lib.imsiStrValid row.imsi = true)
    (h : getSubscrByArgv lib Faults.none t type id = .ok (dbSel lib.toSelLib row))
    (isPs val : Bool) :
    vtySwitch lib gsup t routes type id row isPs val =
      if flagOf row isPs = val then (t, some [])
      else
        ((dbSubscrNam Faults.none t row.imsi val isPs).2,
          if val then some [] else sentWhenOff gsup routes row) := by
  rw [vtySwitch, h]
  -- the mode names the flag of the other domain as it is
  cases isPs with
  | true =>
      obtain ⟨hcs, hps⟩ := strstr_modeOf row.namCs val
      simp only [subscriberNam, modeFor, if_true, hcs, hps]
      rw [if_neg (show ¬ row.namCs ≠ (dbSel lib.toSelLib row).namCs from not_not.2 rfl)]
      dsimp only
      rw [sentBoth_nil_left, show (dbSel lib.toSelLib row).namPs = flagOf row true from rfl,
        hlrSubscrNam_unless_eq hrow himsi]
      split <;> rfl
  | false =>
      obtain ⟨hcs, hps⟩ := strstr_modeOf val row.namPs
      simp only [subscriberNam, modeFor, Bool.false_eq_true, if_false, hcs, hps]
      rw [if_neg (show ¬ row.namPs ≠ (dbSel lib.toSelLib row).namPs from not_not.2 rfl)]
      dsimp only
      rw [sentBoth_nil_right, show (dbSel lib.toSelLib row).namCs = flagOf row false from rfl,
        hlrSubscrNam_unless_eq hrow himsi]
      split <;> rfl

/-- What is sent to a name goes to the peer of that name. -/
theorem osmoGsupEncSendToIpaName_ipaNameSetStr {gsup : GsupLib} {message : GsupMessage}
    {msg : List UInt8} (hmsg : gsup.gsupEncode message = some msg) (str : CStr) :
    (osmoGsupEncSendToIpaName gsup routes (ipaNameSetStr str) message).2 =
      match gsupRouteFind routes (ipaNameSetStr str).val with
      | none => []
      | some conn => [⟨conn, msg⟩] := by
  have hlast : (ipaNameSetStr str).val.getLastD 0 = 0 := by
    simp [ipaNameSetStr]
  rw [osmoGsupEncSendToIpaName, hmsg]
  dsimp only
  rw [osmoGsupSendToIpaName, if_neg (not_not.2 hlast), osmoGsupAddrSend]
  cases gsupRouteFind routes (ipaNameSetStr str).val <;> rfl

/-- Nothing is sent for a number if it leads nowhere. -/
theorem notifyNumber_eq_nil_iff {number : Option CStr} {imsi : CStr} {msg : List UInt8}
    (hmsg : gsup.gsupEncode (gsupDelData gsup imsi) = some msg) :
    notifyNumber gsup routes (osmoStrlcpy number numberSize) imsi = some [] ↔
      Unreached routes number := by
  unfold notifyNumber Unreached
  generalize osmoStrlcpy number numberSize = text
  by_cases hempty : text.bytes = []
  · rw [if_pos hempty]
    exact iff_of_true rfl (Or.inl hempty)
  · rw [if_neg hempty, Option.map_eq_some_iff, or_iff_right hempty]
    refine exists_congr fun name => and_congr_right fun hname => ?_
    obtain ⟨out, -, rfl⟩ := Option.map_eq_some_iff.1 hname
    rw [osmoGsupEncSendToIpaName_ipaNameSetStr hmsg]
    cases gsupRouteFind routes (ipaNameSetStr (CStr.ofBytes out)).val <;> simp

/-- A number that fits and has no percent sign leads to the peer that has it as its name. -/
theorem unreached_iff {number : Option CStr}
    (hfits : ∀ n ∈ number, n.len < numberSize ∧ Format.percent ∉ n.bytes) :
    Unreached routes number ↔ currentPeer routes number = none := by
  cases number with
  | none => exact iff_of_true (Or.inl rfl) rfl
  | some n =>
      obtain ⟨hlen, hpercent⟩ := hfits n rfl
      have hcpy : osmoStrlcpy (some n) numberSize = n :=
        CStr.ext (List.take_of_length_le (Nat.le_sub_one_of_lt hlen))
      have hlt : n.len < ipaNameSize := hlen.trans (by decide)
      have hval : (ipaNameSetStr n).val = n.bytes ++ [0] :=
        congrArg (· ++ [0]) (List.take_of_length_le (Nat.le_sub_one_of_lt hlt))
      rw [Unreached, hcpy, (ipaNameSetFmt_self_iff hlt).2 hpercent, currentPeer, Option.bind_some]
      by_cases hempty : n.bytes = []
      · rw [if_pos hempty]
        exact iff_of_true (Or.inl hempty) rfl
      · rw [if_neg hempty, or_iff_right hempty]
        simp [hval]

theorem sentBoth_eq_nil_iff {first second : Option (List Sent)} :
    sentBoth first second = some [] ↔ first = some [] ∧ second = some [] := by
  cases first <;> cases second <;> simp [sentBoth]

/-- Nothing is due if nobody is to be notified. -/
theorem dueTo_eq_nil_iff {isPs val : Bool} {msg : List UInt8}
    (hmsg : gsup.gsupEncode (gsupDelData gsup row.imsi) = some msg) :
    dueTo gsup routes row isPs val = [] ↔
      ¬ (flagOf row isPs = true ∧ val = false) ∨
        currentPeer routes (numberOf row isPs) = none := by
  unfold dueTo
  rw [hmsg]
  split
  next hoff => cases currentPeer routes (numberOf row isPs) <;> simp [hoff]
  next hoff => exact iff_of_true rfl (Or.inl hoff)

end Both

/-- **Both interfaces switch a domain alike exactly if none is switched off, or nobody is to be
notified of it**: what is stored is the same at all times. -/
theorem alike_iff {t : Tables} {routes : RouteTable} {row : SubscriberRow} {bySelector : CStr}
    {type : IdType} {id : CStr} {isPs val : Bool} {msg : List UInt8}
    (hrow : row ∈ t.subscriber) (himsi : lib.imsiStrValid row.imsi = true)
    (hctrl : getSubscriberImsi lib.toCtrlLib Faults.none t bySelector = .ok row.imsi)
    (hvty : getSubscrByArgv lib Faults.none t type id = .ok (dbSel lib.toSelLib row))
    (hencode : gsup.gsupEncode (gsupDelData gsup row.imsi) = some msg) :
    Alike lib gsup t routes row bySelector type id isPs val ↔
      ¬ (flagOf row isPs = true ∧ val = false) ∨ NobodyNotified routes row isPs := by
  have hfst := ctrlSwitch_fst hctrl isPs val
  have hstored := (dbSubscrNam_spec hrow val isPs).2
  have hswitch := @vtySwitch_eq lib gsup t routes row type id hrow himsi hvty isPs val
  have hdue := @dueTo_eq_nil_iff gsup routes row isPs val msg hencode
  have htables : (ctrlSwitch lib t bySelector isPs val).1 =
      (vtySwitch lib gsup t routes type id row isPs val).1 := by
    rw [hfst, hswitch]
    split
    next hflag => exact Tables.ext (hstored.trans (switched_of_flag hrow hflag))
    next => rfl
  constructor
  · intro halike
    by_cases hoff : flagOf row isPs = true ∧ val = false
    · obtain ⟨hflag, rfl⟩ := hoff
      have hnone : dueTo gsup routes row isPs false = [] := halike.ctrl.symm
      have hsent := halike.vty
      rw [hswitch, if_neg (by simp [hflag]), hnone] at hsent
      obtain ⟨hvlr, hsgsn⟩ := sentBoth_eq_nil_iff.1 hsent
      have hpeer := (hdue.1 hnone).resolve_left (not_not.2 ⟨hflag, rfl⟩)
      exact Or.inr ⟨(notifyNumber_eq_nil_iff hencode).1 hvlr,
        (notifyNumber_eq_nil_iff hencode).1 hsgsn, hpeer⟩
    · exact Or.inl hoff
  · intro h
    have hnone : dueTo gsup routes row isPs val = [] := hdue.2 (h.imp_right fun h => h.2.2)
    refine ⟨htables, hfst ▸ hstored, hnone.symm, ?_⟩
    rw [hswitch, hnone]
    split
    next => rfl
    next hflag =>
        cases val with
        | true => rfl
        | false =>
            obtain ⟨hvlr, hsgsn, -⟩ := h.resolve_left (not_not.2 ⟨by simpa using hflag, rfl⟩)
            exact sentBoth_eq_nil_iff.2 ⟨(notifyNumber_eq_nil_iff hencode).2 hvlr,
              (notifyNumber_eq_nil_iff hencode).2 hsgsn⟩

/-! ## A subscriber who is attached -/

/-- `osmo_luhn` -/
def osmoLuhn (digits : List UInt8) : UInt8 :=
  let value (c : UInt8) (i : Nat) : Nat :=
    let d := c.toNat - 48
    if i % 2 = 0 then (if 9 < 2 * d then 2 * d - 9 else 2 * d) else d
  let sum := (digits.reverse.zipIdx.map fun p => value p.1 p.2).sum
  UInt8.ofNat ((10 - sum % 10) % 10 + 48)

/-- The functions of a Linux host. -/
def hostVtyLib : VtyLib where
  toCtrlLib := hostCtrlLib
  imeiNumDigitsNoChk := 14
  imeiStrValidChk imei :=
    imei.len = 15 ∧ imei.bytes.all isDigit = true ∧
      imei.bytes.getLast? = some (osmoLuhn (imei.bytes.take 14))

/-- A subscriber at a VLR and an SGSN. -/
def attachedRow : SubscriberRow :=
  { Host.subscriberRow 1 (CStr.lit "262420000000001") with
    vlrNumber := some (CStr.lit "msc"), sgsnNumber := some (CStr.lit "sgsn") }

/-- The only subscriber. -/
def attached : Tables := ⟨⟨[attachedRow], [], []⟩, by decide⟩

/-- Both are connected. -/
def connected : RouteTable :=
  ⟨[⟨(CStr.lit "msc").bytes ++ [0], 7⟩, ⟨(CStr.lit "sgsn").bytes ++ [0], 8⟩], by decide⟩

/-- The message that is encoded. -/
def deleteData : List UInt8 :=
  (Host.gsupProtocol.gsupEncode (gsupDelData Host.gsupProtocol attachedRow.imsi)).getD []

/-- Switched by IMSI on CTRL, and by id on the VTY. -/
def AttachedAlike (isPs val : Bool) : Prop :=
  Alike hostVtyLib Host.gsupProtocol attached connected attachedRow
    (CStr.lit "by-imsi-262420000000001") .id (CStr.lit "1") isPs val

theorem encode_deleteData : Host.gsupProtocol.gsupEncode
    (gsupDelData Host.gsupProtocol attachedRow.imsi) = some deleteData := by decide +kernel

theorem alike_attached : AttachedAlike false true ∧ ¬ AttachedAlike false false := by
  constructor
  · refine (alike_iff hostVtyLib Host.gsupProtocol List.mem_cons_self (by decide +kernel)
      (by decide +kernel) (by decide +kernel) encode_deleteData).2 (Or.inl ?_)
    decide
  · intro halike
    rcases (alike_iff hostVtyLib Host.gsupProtocol List.mem_cons_self (by decide +kernel)
      (by decide +kernel) (by decide +kernel) encode_deleteData).1 halike with hon | hnobody
    · exact hon ⟨rfl, rfl⟩
    · exact absurd hnobody.2.2 (by decide +kernel)

/-- **CS is switched off**: nobody is notified by CTRL, and by the VTY the SGSN is, too. -/
theorem cs_off_not_alike :
    (ctrlSwitch hostVtyLib attached (CStr.lit "by-imsi-262420000000001") false false).2 = [] ∧
      (vtySwitch hostVtyLib Host.gsupProtocol attached connected .id (CStr.lit "1") attachedRow
        false false).2 = some [⟨7, deleteData⟩, ⟨8, deleteData⟩] ∧
      dueTo Host.gsupProtocol connected attachedRow false false = [⟨7, deleteData⟩] ∧
      ¬ AttachedAlike false false := by
  have hctrl : (ctrlSwitch hostVtyLib attached (CStr.lit "by-imsi-262420000000001") false
      false).2 = [] := rfl
  have hdue : dueTo Host.gsupProtocol connected attachedRow false false = [⟨7, deleteData⟩] := by
    decide +kernel
  refine ⟨hctrl, by decide +kernel, hdue, fun halike => ?_⟩
  have hsent := halike.ctrl
  rw [hctrl, hdue] at hsent
  cases hsent

end NetworkAccess
end OsmoHlr
