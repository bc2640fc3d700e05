import OsmoHlr.Db.FailedUpdates
import OsmoHlr.Gsup.Send
import OsmoHlr.Lib.Format

/-!
# Subscribers are read

`db_sel` of `src/db_hlr.c`: a row becomes a `struct hlr_subscriber`.  Texts are copied to
buffers, which may be too short; but the names of proxies go through
`osmo_ipa_name_set_str`, for which they are formats.

* `dbSel`, `dbSubscrGetByImsi` — a subscriber is read.
* `dbSubscrLu_spec` — what a Location Updating leaves in the row of a subscriber.
-/

namespace OsmoHlr
namespace Db

open CString CniPeerId Gsup Format

/-! ## Texts -/

/-- `osmo_strlcpy` into a buffer of a size other than 0; the source may be NULL. -/
def osmoStrlcpy (src : Option CStr) (siz : Nat) : CStr := (src.getD CStr.empty).take (siz - 1)

/-- `osmo_ipa_name_set_str` of a string, or of NULL.  `none`: the string is a format that wants
arguments, and what happens is not defined. -/
def ipaNameSetFmt : Option CStr → Option IpaName
  | none => some IpaName.zero
  | some strFmt => (printFormat strFmt.bytes).map fun out => ipaNameSetStr (CStr.ofBytes out)

/-- **What is set from a string is the string itself, exactly if there is no percent sign in it.** -/
theorem ipaNameSetFmt_self_iff {str : CStr} (h : str.len < ipaNameSize) :
    ipaNameSetFmt (some str) = some (ipaNameSetStr str) ↔ percent ∉ str.bytes := by
  constructor
  · intro hself
    obtain ⟨out, hout, hname⟩ := Option.map_eq_some_iff.1 hself
    have hnul : (0 : UInt8) ∉ out := fun h0 => str.noNul (mem_of_mem_printFormat hout 0 h0)
    have hlen := length_le_of_printFormat hout
    have hval := congrArg IpaName.val hname
    simp only [ipaNameSetStr, CStr.ofBytes_bytes_of_noNul hnul, List.append_cancel_right_eq] at hval
    simp only [CStr.len] at h
    rw [List.take_of_length_le (by omega), List.take_of_length_le (by omega)] at hval
    subst hval
    obtain ⟨a, j, ha, hstr, hsame⟩ := prefix_of_printFormat hout List.prefix_rfl
    have hlength := congrArg List.length (hstr.symm.trans hsame)
    simp only [List.length_append, List.length_replicate] at hlength
    obtain rfl : j = 0 := by omega
    rw [hsame]
    simpa using ha
  · intro hpercent
    rw [ipaNameSetFmt, printFormat_of_not_mem hpercent, Option.map_some, CStr.ofBytes_bytes]

theorem len_ipaNameSetStr_ne_zero (str : CStr) : (ipaNameSetStr str).len ≠ 0 := by
  simp [ipaNameSetStr, IpaName.len]

/-- `struct tm`, as far as `DB_LAST_LU_SEEN_FMT` sets it. -/
structure Tm where
  year : Int
  mon : Int
  mday : Int
  hour : Int
  min : Int
  sec : Int
  deriving DecidableEq

/-- What else is called of the C library. -/
structure SelLib extends DbLib where
  /-- `strptime` with `DB_LAST_LU_SEEN_FMT`; `none` for NULL. -/
  strptime : CStr → Option Tm
  /-- `mktime` -/
  mktime : Tm → Int

/-- `parse_last_lu_seen` into a `dst` that is 0. -/
def parseLastLuSeen (lib : SelLib) (lastLuSeenStr : Option CStr) : Int :=
  match lastLuSeenStr with
  | none => 0
  | some str =>
      if str.bytes = [] then 0
      else
        match lib.strptime str with
        | none => 0
        | some tm => if lib.mktime tm = -1 then 0 else lib.mktime tm

/-! ## Subscribers -/

/-- `sizeof(subscr->vlr_number)`, and of `sgsn_number` -/
def numberSize : Nat := 32

/-- `struct hlr_subscriber`, with what is known of a Location Updating.  The name of a proxy is
`none` where it is not defined. -/
structure Subscriber extends HlrSubscriber where
  sgsnNumber : CStr
  lastLuSeen : Int
  lastLuSeenPs : Int
  vlrViaProxy : Option IpaName
  sgsnViaProxy : Option IpaName
  deriving DecidableEq

/-- `db_sel` of a row -/
def dbSel (lib : SelLib) (row : SubscriberRow) : Subscriber where
  id := row.id
  imsi := osmoStrlcpy (some row.imsi) (lib.imsiMaxDigits + 1)
  msisdn := osmoStrlcpy row.msisdn (lib.msisdnMaxDigits + 1)
  vlrNumber := osmoStrlcpy row.vlrNumber numberSize
  sgsnNumber := osmoStrlcpy row.sgsnNumber numberSize
  namCs := row.namCs
  namPs := row.namPs
  lastLuSeen := parseLastLuSeen lib row.lastLuSeen
  lastLuSeenPs := parseLastLuSeen lib row.lastLuSeenPs
  vlrViaProxy := ipaNameSetFmt row.vlrViaProxy
  sgsnViaProxy := ipaNameSetFmt row.sgsnViaProxy

/-- The row of an IMSI. -/
def Contents.subscriberByImsi (c : Contents) (imsi : CStr) : Option SubscriberRow :=
  c.subscriber.find? fun row => row.imsi = imsi

/-- `db_subscr_get_by_imsi` -/
def dbSubscrGetByImsi (lib : SelLib) (f : Faults) (t : Tables) (imsi : CStr) :
    Except Int Subscriber :=
  if f.binds 1 ∨ f.step then .error eio
  else
    match t.subscriberByImsi imsi with
    | none => .error enoent
    | some row => .ok (dbSel lib row)

/-- The row of an MSISDN. -/
def Contents.subscriberByMsisdn (c : Contents) (msisdn : CStr) : Option SubscriberRow :=
  c.subscriber.find? fun row => row.msisdn = some msisdn

/-- `db_subscr_get_by_msisdn` -/
def dbSubscrGetByMsisdn (lib : SelLib) (f : Faults) (t : Tables) (msisdn : CStr) :
    Except Int Subscriber :=
  if f.binds 1 ∨ f.step then .error eio
  else
    match t.subscriberByMsisdn msisdn with
    | none => .error enoent
    | some row => .ok (dbSel lib row)

/-- What goes wrong with a statement, where the error code of SQLite is handed on. -/
structure CodedFaults extends Faults where
  /-- What `sqlite3_step` returns if it goes wrong. -/
  errcode : { rc : Nat // 0 < rc }

/-- Nothing goes wrong. -/
def CodedFaults.none : CodedFaults := ⟨Faults.none, 1, by decide⟩

/-- What is returned of a statement that only looks whether there is a row. -/
def existsRc (f : CodedFaults) (found : Bool) : Int :=
  if f.binds 1 then eio
  else if f.step then f.errcode.val
  else if found then 0
  else enoent

/-- `db_subscr_exists_by_imsi` -/
def dbSubscrExistsByImsi (f : CodedFaults) (t : Tables) (imsi : CStr) : Int :=
  existsRc f (t.subscriberByImsi imsi).isSome

/-- `db_subscr_exists_by_msisdn` -/
def dbSubscrExistsByMsisdn (f : CodedFaults) (t : Tables) (msisdn : CStr) : Int :=
  existsRc f (t.subscriberByMsisdn msisdn).isSome

/-- A row is reported exactly if there is one and nothing goes wrong. -/
theorem existsRc_eq_zero_iff {f : CodedFaults} {found : Bool} :
    existsRc f found = 0 ↔ f.binds 1 = false ∧ f.step = false ∧ found = true := by
  have hcode := f.errcode.property
  unfold existsRc
  split
  next h => simp [h, eio]
  next h =>
      split
      next hstep => simp [hstep]; omega
      next hstep => cases found <;> simp [h, hstep, enoent]

/-- A subscriber that is found is read from the row of its IMSI. -/
theorem dbSubscrGetByImsi_ok {lib : SelLib} {f : Faults} {t : Tables} {imsi : CStr}
    {subscr : Subscriber} (h : dbSubscrGetByImsi lib f t imsi = .ok subscr) :
    ∃ row, t.subscriberByImsi imsi = some row ∧ subscr = dbSel lib row := by
  unfold dbSubscrGetByImsi at h
  split at h
  next => cases h
  next =>
      cases hrow : t.subscriberByImsi imsi with
      | none =>
          rw [hrow] at h
          cases h
      | some row =>
          rw [hrow] at h
          exact ⟨row, rfl, (Except.ok.inj h).symm⟩

/-- One that is not has a return code below 0. -/
theorem dbSubscrGetByImsi_error {lib : SelLib} {f : Faults} {t : Tables} {imsi : CStr} {rc : Int}
    (h : dbSubscrGetByImsi lib f t imsi = .error rc) : rc < 0 := by
  unfold dbSubscrGetByImsi at h
  split at h
  next =>
      cases h
      decide
  next =>
      split at h
      next =>
          cases h
          decide
      next => cases h

theorem dbSubscrGetByImsi_of_row (lib : SelLib) {t : Tables} {imsi : CStr} {row : SubscriberRow}
    (h : t.subscriberByImsi imsi = some row) :
    dbSubscrGetByImsi lib Faults.none t imsi = .ok (dbSel lib row) := by
  unfold dbSubscrGetByImsi
  rw [if_neg (by decide), h]

/-! ## What a Location Updating leaves -/

/-- The row of a subscriber with its VLR or SGSN, and when it was seen. -/
def SubscriberRow.located (row : SubscriberRow) (number : CStr) (isPs : Bool)
    (proxy lastLuSeen : Option CStr) : SubscriberRow :=
  if isPs then
    { row with sgsnNumber := some number, sgsnViaProxy := proxy, lastLuSeenPs := lastLuSeen }
  else { row with vlrNumber := some number, vlrViaProxy := proxy, lastLuSeen := lastLuSeen }

@[simp] theorem SubscriberRow.id_located (row : SubscriberRow) (number : CStr) (isPs : Bool)
    (proxy lastLuSeen : Option CStr) : (row.located number isPs proxy lastLuSeen).id = row.id := by
  cases isPs <;> rfl

@[simp] theorem SubscriberRow.imsi_located (row : SubscriberRow) (number : CStr) (isPs : Bool)
    (proxy lastLuSeen : Option CStr) :
    (row.located number isPs proxy lastLuSeen).imsi = row.imsi := by
  cases isPs <;> rfl

/-- Both statements of `db_subscr_lu` together. -/
theorem subscriber_luTime_luNumber (c : Contents) (id : Int) (vlrName : CStr) (isPs : Bool)
    (viaProxy lastLuSeen : Option CStr) :
    (luTime lastLuSeen id isPs (luNumber id vlrName isPs viaProxy c).1).1.subscriber =
      c.subscriber.map fun row =>
        if row.id = id then row.located vlrName isPs viaProxy lastLuSeen else row := by
  cases isPs with
  | false =>
      refine List.map_map.trans (List.map_congr_left ?_)
      intro row _
      by_cases hid : row.id = id <;> simp [hid, SubscriberRow.located]
  | true =>
      refine List.map_map.trans (List.map_congr_left ?_)
      intro row _
      by_cases hid : row.id = id <;> simp [hid, SubscriberRow.located]

/-- **What a Location Updating leaves**, if it is stored. -/
theorem dbSubscrLu_spec {lib : DbLib} {f : LuFaults} {t : Tables} {id : Int} {vlrName : CStr}
    {isPs : Bool} {viaProxy : Option CStr}
    (h : (dbSubscrLu lib f t id vlrName isPs viaProxy).1 = 0) :
    ∃ localtime, f.clock = .ok localtime ∧
      (dbSubscrLu lib f t id vlrName isPs viaProxy).2.subscriber = t.subscriber.map fun row =>
        if row.id = id then row.located vlrName isPs viaProxy (lib.datetime localtime)
        else row := by
  rw [dbSubscrLu_eq] at h ⊢
  simp only at h ⊢
  by_cases hstored : (updateOne f.number 3 t (luNumber id vlrName isPs viaProxy)).1 = 0
  · rw [if_neg (not_not.2 hstored)] at h ⊢
    cases hclock : f.clock with
    | error errno =>
        rw [hclock] at h
        have hpos := errno.property
        simp only at h
        omega
    | ok localtime =>
        rw [hclock] at h
        refine ⟨localtime, rfl, ?_⟩
        have hnumber := updateOne_of_eq_zero (singleRow_luNumber t id vlrName isPs viaProxy) hstored
        have htime := updateOne_of_eq_zero (singleRow_luTime _ (lib.datetime localtime) id isPs) h
        rw [← subscriber_luTime_luNumber, ← hnumber]
        exact congrArg Contents.subscriber htime
  · rw [if_pos hstored] at h
    exact absurd h hstored

/-- The row of an IMSI, when the row with its id is changed. -/
theorem subscriberByImsi_of_map {c c' : Contents} {imsi : CStr} {row : SubscriberRow}
    {set : SubscriberRow → SubscriberRow} (himsi : ∀ r, (set r).imsi = r.imsi)
    (hmap : c'.subscriber = c.subscriber.map fun r => if r.id = row.id then set r else r)
    (h : c.subscriberByImsi imsi = some row) : c'.subscriberByImsi imsi = some (set row) := by
  have hcongr : (fun r : SubscriberRow => decide (r.imsi = imsi)) ∘
      (fun r => if r.id = row.id then set r else r) = fun r => decide (r.imsi = imsi) := by
    funext r
    simp only [Function.comp_apply]
    split
    · rw [himsi]
    · rfl
  unfold Contents.subscriberByImsi at h ⊢
  rw [hmap, List.find?_map, hcongr, h]
  simp

end Db
end OsmoHlr
