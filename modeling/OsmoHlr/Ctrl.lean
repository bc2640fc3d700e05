import OsmoHlr.Auc.AucLibHost
import OsmoHlr.Db.DbSelHost

/-!
# The CTRL interface

The commands of `src/ctrl.c` that use `get_subscriber_imsi`.  A subscriber is selected by IMSI,
MSISDN or id; those commands take the IMSI of a selector as it is, without looking it up.

* `getSubscriber`, `getSubscriberImsi` — what a selector selects.
* `Cmd.handle` — a command; `Cmd.handleFound` — the same if the subscriber had been looked up.
* `handle_eq_iff` — they are the same, unless the selector has an IMSI that is not known.
-/

namespace OsmoHlr
namespace Ctrl

open CString CniPeerId Db Auc Decimal

/-- What the commands use of libosmocore besides. -/
structure CtrlLib extends SelLib where
  /-- `osmo_auth_alg_name` -/
  authAlgName : AuthAlgo → CStr
  /-- `osmo_hexdump_nospc` -/
  hexdumpNospc : List UInt8 → CStr

variable {Ω : Type} (lib : CtrlLib) (auc : AucLib Ω)

/-! ## Selectors -/

/-- `-ENOTSUP` -/
def enotsup : Int := -95

/-- `SEL_BY_IMSI` -/
def selByImsi : CStr := CStr.lit "by-imsi-"

/-- `SEL_BY_MSISDN` -/
def selByMsisdn : CStr := CStr.lit "by-msisdn-"

/-- `SEL_BY_ID` -/
def selById : CStr := CStr.lit "by-id-"

/-- `startswith` -/
def startswith (str start : CStr) : Bool := start.bytes.isPrefixOf str.bytes

/-- `db_subscr_get_by_id` -/
def dbSubscrGetById (f : Faults) (t : Tables) (id : Int) : Except Int Subscriber :=
  if f.binds 1 ∨ f.step then .error eio
  else
    match t.subscriberById id with
    | none => .error enoent
    | some row => .ok (dbSel lib.toSelLib row)

/-- `_get_subscriber`: the subscriber, or the negative return code. -/
def getSubscriberRc (f : Faults) (t : Tables) (bySelector : CStr) : Except Int Subscriber :=
  if startswith bySelector selByImsi then
    let val := bySelector.drop selByImsi.len
    if !lib.imsiStrValid val then .error einval
    else dbSubscrGetByImsi lib.toSelLib f t val
  else if startswith bySelector selByMsisdn then
    let val := bySelector.drop selByMsisdn.len
    if !lib.msisdnStrValid val then .error einval
    else dbSubscrGetByMsisdn lib.toSelLib f t val
  else if startswith bySelector selById then
    let val := bySelector.drop selById.len
    if val.bytes.head? = some 43 then .error einval
    else
      let id := strtoll val.bytes
      if id.erange ∨ id.endptr ≠ [] then .error einval
      else dbSubscrGetById lib f t id.value
  else .error enotsup

/-- What `get_subscriber` replies to a return code. -/
def selectorError (rc : Int) : CStr :=
  if rc = enotsup then CStr.lit "Not a known subscriber 'by-xxx-' selector."
  else if rc = einval then CStr.lit "Invalid value part of 'by-xxx-value' selector."
  else if rc = enoent then CStr.lit "No such subscriber."
  else CStr.lit "An unknown error has occurred during get_subscriber()."

/-- `get_subscriber`: the subscriber, or `cmd->reply`. -/
def getSubscriber (f : Faults) (t : Tables) (bySelector : CStr) : Except CStr Subscriber :=
  match getSubscriberRc lib f t bySelector with
  | .ok subscr => .ok subscr
  | .error rc => .error (selectorError rc)

/-- `get_subscriber_imsi`: the IMSI, or `cmd->reply`. -/
def getSubscriberImsi (f : Faults) (t : Tables) (bySelector : CStr) : Except CStr CStr :=
  if startswith bySelector selByImsi then .ok (bySelector.drop selByImsi.len)
  else
    match getSubscriber lib f t bySelector with
    | .ok subscr => .ok subscr.imsi
    | .error reply => .error reply

/-- The IMSI of the subscriber that `get_subscriber` looks up. -/
def foundSubscriberImsi (f : Faults) (t : Tables) (bySelector : CStr) : Except CStr CStr :=
  match getSubscriber lib f t bySelector with
  | .ok subscr => .ok subscr.imsi
  | .error reply => .error reply

/-! ## Commands -/

/-- What a handler returns. -/
inductive CmdResult where
  | error
  | reply
  deriving DecidableEq

/-- What a handler leaves: `none` as the reply is a null pointer. -/
structure Handled where
  result : CmdResult
  reply : Option CStr
  tables : Tables
  deriving DecidableEq

/-- `ctrl_cmd_reply_printf`: more text behind the reply. -/
def ctrlCmdReplyPrintf (reply : Option CStr) (text : CStr) : Option CStr :=
  some (reply.getD CStr.empty ++ text)

/-- `%u` and `%" PRIu64 "` -/
def printU (n : Nat) : CStr := CStr.ofBytes (printDec n)

/-- `print_subscr_info_aud2g` -/
def printSubscrInfoAud2g (reply : Option CStr) (aud : SubAuthData) : Option CStr :=
  if aud.algo = .none then reply
  else
    ctrlCmdReplyPrintf reply
      (CStr.lit "\naud2g.algo\t" ++ lib.authAlgName aud.algo ++
        CStr.lit "\naud2g.ki\t" ++ lib.hexdumpNospc aud.ki)

/-- `print_subscr_info_aud3g` -/
def printSubscrInfoAud3g (reply : Option CStr) (aud : SubAuthData) : Option CStr :=
  if aud.algo = .none then reply
  else
    ctrlCmdReplyPrintf
      (ctrlCmdReplyPrintf reply
        (CStr.lit "\naud3g.algo\t" ++ lib.authAlgName aud.algo ++
          CStr.lit "\naud3g.k\t" ++ lib.hexdumpNospc aud.k))
      (CStr.lit "\naud3g." ++ (if aud.opcIsOp then CStr.lit "op" else CStr.lit "opc") ++
        CStr.lit "\t" ++ lib.hexdumpNospc aud.opc ++
        CStr.lit "\naud3g.ind_bitlen\t" ++ printU aud.indBitlen.toNat ++
        CStr.lit "\naud3g.sqn\t" ++ printU aud.sqn)

/-- `get_subscr_info_aud`, where `get_subscriber_imsi` has returned. -/
def getSubscrInfoAud (f : Faults) (t : Tables) (imsi : Except CStr CStr) : Handled :=
  match imsi with
  | .error reply => ⟨.error, some reply, t⟩
  | .ok imsi =>
      match dbGetAuthData auc f t imsi with
      | .ok (aud2g, aud3g, _) =>
          ⟨.reply, printSubscrInfoAud3g lib (printSubscrInfoAud2g lib none aud2g) aud3g, t⟩
      | .error rc =>
          -- no auth data is found, and nothing is printed
          if rc = enoent ∨ rc = enokey then ⟨.reply, none, t⟩
          else ⟨.error, some (CStr.lit "Error retrieving authentication data."), t⟩

/-- `set_subscr_cs_ps_enabled`, where `get_subscriber_imsi` has returned. -/
def setSubscrCsPsEnabled (f : Faults) (t : Tables) (imsi : Except CStr CStr) (value : CStr)
    (isPs : Bool) : Handled :=
  match imsi with
  | .error reply => ⟨.error, some reply, t⟩
  | .ok imsi =>
      let stored := dbSubscrNam f t imsi (value = CStr.lit "1") isPs
      if stored.1 ≠ 0 then ⟨.error, none, stored.2⟩
      else ⟨.reply, some (CStr.lit "OK"), stored.2⟩

/-- The commands that need an IMSI only. -/
inductive Cmd where
  | infoAud
  | setCsEnabled (value : CStr)
  | setPsEnabled (value : CStr)

/-- What goes wrong when a subscriber is looked up, and with the statement of the command. -/
structure CmdFaults where
  lookup : Faults
  stmt : Faults

/-- A command for an IMSI. -/
def Cmd.handleImsi (f : Faults) (t : Tables) (imsi : Except CStr CStr) : Cmd → Handled
  | .infoAud => getSubscrInfoAud lib auc f t imsi
  | .setCsEnabled value => setSubscrCsPsEnabled f t imsi value false
  | .setPsEnabled value => setSubscrCsPsEnabled f t imsi value true

/-- A command with a selector. -/
def Cmd.handle (f : CmdFaults) (t : Tables) (bySelector : CStr) (cmd : Cmd) : Handled :=
  cmd.handleImsi lib auc f.stmt t (getSubscriberImsi lib f.lookup t bySelector)

/-- A command with a selector, if the subscriber had been looked up. -/
def Cmd.handleFound (f : CmdFaults) (t : Tables) (bySelector : CStr) (cmd : Cmd) : Handled :=
  cmd.handleImsi lib auc f.stmt t (foundSubscriberImsi lib f.lookup t bySelector)

/-! ## Without looking up -/

/-- A valid IMSI of a subscriber that can be read. -/
def KnownImsi (f : Faults) (t : Tables) (imsi : CStr) : Prop :=
  lib.imsiStrValid imsi = true ∧ f.binds 1 = false ∧ f.step = false ∧
    ∃ row ∈ t.subscriber, row.imsi = imsi

/-- A valid IMSI is read as it is. -/
theorem imsi_dbSel {row : SubscriberRow} (hvalid : lib.imsiStrValid row.imsi = true) :
    (dbSel lib.toSelLib row).imsi = row.imsi := by
  have hlen := (lib.imsi_digits row.imsi hvalid).2.2
  rw [dbSel, osmoStrlcpy, Nat.add_sub_cancel]
  exact CStr.ext (List.take_of_length_le hlen)

/-- **An IMSI that is known is found**, and no other one. -/
theorem foundSubscriberImsi_of_imsi {f : Faults} {t : Tables} {bySelector : CStr}
    (h : startswith bySelector selByImsi = true) :
    (KnownImsi lib f t (bySelector.drop selByImsi.len) ∧
        foundSubscriberImsi lib f t bySelector = .ok (bySelector.drop selByImsi.len)) ∨
      (¬KnownImsi lib f t (bySelector.drop selByImsi.len) ∧
        ∃ rc, foundSubscriberImsi lib f t bySelector = .error (selectorError rc)) := by
  unfold foundSubscriberImsi getSubscriber getSubscriberRc
  rw [if_pos h]
  dsimp only
  generalize bySelector.drop selByImsi.len = imsi
  by_cases hvalid : lib.imsiStrValid imsi = true
  · rw [if_neg (by simp [hvalid])]
    unfold dbSubscrGetByImsi
    by_cases hfault : f.binds 1 = true ∨ f.step = true
    · rw [if_pos hfault]
      refine Or.inr ⟨fun hknown => ?_, eio, rfl⟩
      simp [hknown.2.1, hknown.2.2.1] at hfault
    · rw [if_neg hfault]
      simp only [not_or, Bool.not_eq_true] at hfault
      cases hrow : t.subscriberByImsi imsi with
      | none =>
          refine Or.inr ⟨fun hknown => ?_, enoent, rfl⟩
          obtain ⟨row, hmem, himsi⟩ := hknown.2.2.2
          simpa [himsi] using List.find?_eq_none.1 hrow row hmem
      | some row =>
          obtain rfl : row.imsi = imsi := by simpa using List.find?_some hrow
          have hmem := List.mem_of_find?_eq_some hrow
          refine Or.inl ⟨⟨hvalid, hfault.1, hfault.2, row, hmem, rfl⟩, ?_⟩
          exact congrArg Except.ok (imsi_dbSel lib hvalid)
  · rw [if_pos (by simpa using hvalid)]
    exact Or.inr ⟨fun hknown => hvalid hknown.1, einval, rfl⟩

/-- No command for an IMSI ends like one that has found no subscriber. -/
theorem handleImsi_ok_ne (f : Faults) (t : Tables) (imsi : CStr) (rc : Int) (cmd : Cmd) :
    cmd.handleImsi lib auc f t (.ok imsi) ≠
      cmd.handleImsi lib auc f t (.error (selectorError rc)) := by
  have hne : selectorError rc ≠ CStr.lit "Error retrieving authentication data." := by
    unfold selectorError
    split_ifs <;> decide
  have hset : ∀ value isPs, setSubscrCsPsEnabled f t (.ok imsi) value isPs ≠
      setSubscrCsPsEnabled f t (.error (selectorError rc)) value isPs := by
    intro value isPs heq
    simp only [setSubscrCsPsEnabled] at heq
    split at heq <;> cases heq
  cases cmd with
  | infoAud =>
      intro heq
      simp only [Cmd.handleImsi, getSubscrInfoAud] at heq
      split at heq
      · cases heq
      · split at heq
        · cases heq
        · exact hne (Option.some.inj (congrArg Handled.reply heq)).symm
  | setCsEnabled value => exact hset value false
  | setPsEnabled value => exact hset value true

/-- **A command is the same as if the subscriber had been looked up**, unless the selector has an
IMSI that is not known. -/
theorem handle_eq_iff (f : CmdFaults) (t : Tables) (bySelector : CStr) (cmd : Cmd) :
    cmd.handle lib auc f t bySelector = cmd.handleFound lib auc f t bySelector ↔
      (startswith bySelector selByImsi = true →
        KnownImsi lib f.lookup t (bySelector.drop selByImsi.len)) := by
  unfold Cmd.handle Cmd.handleFound getSubscriberImsi
  by_cases h : startswith bySelector selByImsi = true
  · rw [if_pos h]
    rcases foundSubscriberImsi_of_imsi lib h (f := f.lookup) (t := t) with
      ⟨hknown, hfound⟩ | ⟨hunknown, rc, hfound⟩
    · rw [hfound]
      exact iff_of_true rfl fun _ => hknown
    · rw [hfound]
      exact iff_of_false (handleImsi_ok_ne lib auc f.stmt t _ rc cmd) fun hall => hunknown (hall h)
  · rw [if_neg h]
    exact iff_of_true rfl fun hby => absurd hby h

/-! ## An IMSI that is not known -/

/-- `osmo_auth_alg_name` -/
def authAlgName : AuthAlgo → CStr
  | .none => CStr.lit "None"
  | .comp128v1 => CStr.lit "COMP128v1"
  | .comp128v2 => CStr.lit "COMP128v2"
  | .comp128v3 => CStr.lit "COMP128v3"
  | .xor => CStr.lit "XOR"
  | .milenage => CStr.lit "MILENAGE"
  | .other _ => CStr.lit "unknown"

/-- `osmo_hexdump_nospc` -/
def hexdumpNospc (buf : List UInt8) : CStr :=
  CStr.ofBytes (buf.flatMap fun b => [Host.hexDigit (b.toNat / 16), Host.hexDigit (b.toNat % 16)])

/-- The functions of a Linux host. -/
def hostCtrlLib : CtrlLib where
  toSelLib := Host.selLib
  authAlgName := authAlgName
  hexdumpNospc := hexdumpNospc

/-- `info-aud` when there are no subscribers. -/
def infoAudOfNobody (bySelector : CStr) : Handled :=
  Cmd.infoAud.handle hostCtrlLib Host.milenage.aucLib ⟨Faults.none, Faults.none⟩ Tables.empty
    bySelector

/-- The same, if the subscriber had been looked up. -/
def infoAudFoundOfNobody (bySelector : CStr) : Handled :=
  Cmd.infoAud.handleFound hostCtrlLib Host.milenage.aucLib ⟨Faults.none, Faults.none⟩ Tables.empty
    bySelector

/-- **An IMSI that nobody has is not refused**, where an MSISDN is; nor is a text that is no
IMSI. -/
theorem infoAud_unknown_imsi :
    infoAudOfNobody (CStr.lit "by-imsi-901990000000001") = ⟨.reply, none, Tables.empty⟩ ∧
      infoAudOfNobody (CStr.lit "by-imsi-hello") = ⟨.reply, none, Tables.empty⟩ ∧
      infoAudOfNobody (CStr.lit "by-msisdn-103") =
        ⟨.error, some (CStr.lit "No such subscriber."), Tables.empty⟩ ∧
      infoAudFoundOfNobody (CStr.lit "by-imsi-901990000000001") =
        ⟨.error, some (CStr.lit "No such subscriber."), Tables.empty⟩ ∧
      infoAudFoundOfNobody (CStr.lit "by-imsi-hello") =
        ⟨.error, some (CStr.lit "Invalid value part of 'by-xxx-value' selector."),
          Tables.empty⟩ := by
  decide +kernel

end Ctrl
end OsmoHlr
