import OsmoHlr.Db.DbSelHost
import OsmoHlr.Dgsm.Msisdns

/-!
# Where a subscriber is attached

`subscriber_has_done_lu_here` of `src/mslookup_server.c`: a service is offered for a subscriber
who is attached at a local VLR.  The database may know of that, or the proxy, or both.  The
younger of the two is taken, and only then it is looked whether it says a VLR at all.

* `CsRecord`, `Qualifies` — what the database and the proxy hold of a subscriber, and when
  that is an attachment here.
* `FindsYoungest` — the youngest of these is found.
* `NothingHides` — no record is hidden by another one, and the database is read as it is.
* `findsYoungest_iff` — one exactly if the other.
-/

namespace OsmoHlr
namespace Dgsm

open CString CniPeerId Gsup Db Format

/-! ## Asking -/

/-- What is known of an attachment: `lu_age`, `msc_name`, and the IMSI of the record. -/
structure Attached where
  luAge : Nat
  mscName : IpaName
  imsi : CStr
  deriving DecidableEq

/-- What is returned by pointers, besides `true`. -/
structure DoneLuHere where
  luAge : Nat
  localMscName : IpaName
  /-- Nothing if `ret_imsi` is NULL. -/
  retImsi : Option CStr
  deriving DecidableEq

/-- `subscriber_has_done_lu_here_hlr`; the outer `none`: what happens is not defined, since a text
of the database is taken for a format that wants arguments. -/
def subscriberHasDoneLuHereHlr (lib : SelLib) (f : Faults) (t : Tables) (now : Int)
    (localAttachMaxAge : UInt32) (id : Mslookup.Id) : Option (Option Attached) :=
  let rc :=
    match id with
    | .imsi imsi => dbSubscrGetByImsi lib f t imsi
    | .msisdn msisdn => dbSubscrGetByMsisdn lib f t msisdn
    | .none => .error einval
  match rc with
  | .error _ => some none
  | .ok subscr =>
      match subscr.vlrViaProxy, subscr.sgsnViaProxy with
      | some vlrViaProxy, some _ =>
          if subscr.vlrNumber.bytes = [] then some none
          else if vlrViaProxy.len ≠ 0 then some none
          else
            match timestampAge now subscr.lastLuSeen with
            | none => some none
            | some age =>
                if localAttachMaxAge.toNat < age then some none
                else
                  (ipaNameSetFmt (some subscr.vlrNumber)).map fun localMscName =>
                    some ⟨age, localMscName, subscr.imsi⟩
      | _, _ => none

/-- `proxy_subscr_get_by_imsi` or `proxy_subscr_get_by_msisdn`, by the type of the ID. -/
def proxySubscrGetById (proxy : Proxy) : Mslookup.Id → Option ProxySubscr
  | .imsi imsi => proxySubscrGetByImsi proxy imsi
  | .msisdn msisdn => proxySubscrGetByMsisdn proxy msisdn
  | .none => none

/-- `subscriber_has_done_lu_here_proxy` -/
def subscriberHasDoneLuHereProxy (proxy : Proxy) (now : Int) (localAttachMaxAge : UInt32)
    (id : Mslookup.Id) : Option Attached :=
  match proxySubscrGetById proxy id with
  | none => none
  | some proxySubscr =>
      match timestampAge now proxySubscr.cs.lastLu with
      | none => none
      | some age =>
          if localAttachMaxAge.toNat < age then none
          else if proxySubscr.cs.vlrViaProxy.len ≠ 0 then none
          else some ⟨age, proxySubscr.cs.vlrName, proxySubscr.imsi⟩

/-- The younger one of both; the database counts if they are of the same age. -/
def younger : Option Attached → Option Attached → Option Attached
  | attachedHere, none => attachedHere
  | none, some attachedHereProxy => some attachedHereProxy
  | some attachedHere, some attachedHereProxy =>
      if attachedHereProxy.luAge < attachedHere.luAge then some attachedHereProxy
      else some attachedHere

/-- `subscriber_has_done_lu_here`; the outer `none`: what happens is not defined.  Without a
`ret_imsi_len`, `ret_imsi` is NULL. -/
def subscriberHasDoneLuHere (lib : SelLib) (f : Faults) (t : Tables) (proxy : Proxy) (now : Int)
    (localAttachMaxAge : UInt32) (id : Mslookup.Id) (retImsiLen : Option Nat) :
    Option (Option DoneLuHere) :=
  (subscriberHasDoneLuHereHlr lib f t now localAttachMaxAge id).map fun attachedHere =>
    let attachedHereProxy := subscriberHasDoneLuHereProxy proxy now localAttachMaxAge id
    match younger attachedHere attachedHereProxy with
    | none => none
    | some attached =>
        -- no VLR name known
        if attached.mscName.len = 0 then none
        else some ⟨attached.luAge, attached.mscName,
          retImsiLen.map (osmoStrlcpy (some attached.imsi))⟩

/-! ## What is held of a subscriber -/

/-- Who holds a record. -/
inductive Holder where
  | db
  | proxy
  deriving DecidableEq

/-- What is held of a subscriber in the CS domain. -/
structure CsRecord where
  holder : Holder
  imsi : CStr
  lastLu : Int
  /-- Empty if it is not known. -/
  vlrName : IpaName
  viaProxy : Bool

/-- How long ago the Location Updating was. -/
def CsRecord.age (now : Int) (r : CsRecord) : Int := now - r.lastLu

/-- The Location Updating came from a local VLR, and not too long ago. -/
structure Recent (now : Int) (localAttachMaxAge : UInt32) (r : CsRecord) : Prop where
  direct : r.viaProxy = false
  age_nonneg : 0 ≤ r.age now
  age_le : r.age now ≤ localAttachMaxAge.toNat

instance (now : Int) (localAttachMaxAge : UInt32) (r : CsRecord) :
    Decidable (Recent now localAttachMaxAge r) :=
  decidable_of_iff (r.viaProxy = false ∧ 0 ≤ r.age now ∧ r.age now ≤ localAttachMaxAge.toNat)
    ⟨fun ⟨h, h', h''⟩ => ⟨h, h', h''⟩, fun ⟨h, h', h''⟩ => ⟨h, h', h''⟩⟩

/-- And the VLR is known. -/
structure Qualifies (now : Int) (localAttachMaxAge : UInt32) (r : CsRecord) : Prop where
  known : r.vlrName.len ≠ 0
  recent : Recent now localAttachMaxAge r

/-- The record of a row. -/
def csRecordOfRow (lib : SelLib) (row : SubscriberRow) : CsRecord where
  holder := .db
  imsi := (dbSel lib row).imsi
  lastLu := (dbSel lib row).lastLuSeen
  vlrName :=
    if (dbSel lib row).vlrNumber.bytes = [] then IpaName.zero
    else ipaNameSetStr (dbSel lib row).vlrNumber
  viaProxy := row.vlrViaProxy.isSome

/-- The record of an entry of the proxy. -/
def csRecordOfProxy (p : ProxySubscr) : CsRecord where
  holder := .proxy
  imsi := p.imsi
  lastLu := p.cs.lastLu
  vlrName := p.cs.vlrName
  viaProxy := p.cs.vlrViaProxy.len ≠ 0

/-- The row is that of an ID. -/
def RowHasId (row : SubscriberRow) : Mslookup.Id → Prop
  | .imsi imsi => row.imsi = imsi
  | .msisdn msisdn => row.msisdn = some msisdn
  | .none => False

/-- The entry is one of an ID. -/
def ProxyHasId (p : ProxySubscr) : Mslookup.Id → Prop
  | .imsi imsi => p.imsi = imsi
  | .msisdn msisdn => p.msisdn = msisdn
  | .none => False

/-- The database or the proxy holds the record for an ID. -/
inductive Holds (lib : SelLib) (t : Tables) (proxy : Proxy) (id : Mslookup.Id) : CsRecord → Prop
  | db (row : SubscriberRow) (hrow : row ∈ t.subscriber) (hid : RowHasId row id) :
      Holds lib t proxy id (csRecordOfRow lib row)
  | proxy (e : ProxySubscrListentry) (he : e ∈ proxy.subscrList.entries)
      (hid : ProxyHasId e.data id) : Holds lib t proxy id (csRecordOfProxy e.data)

/-- A record that is looked at: of all entries for an ID, the first one only. -/
inductive LookedAt (lib : SelLib) (t : Tables) (proxy : Proxy) (id : Mslookup.Id) : CsRecord → Prop
  | db (row : SubscriberRow) (hrow : row ∈ t.subscriber) (hid : RowHasId row id) :
      LookedAt lib t proxy id (csRecordOfRow lib row)
  | proxy (p : ProxySubscr) (hget : proxySubscrGetById proxy id = some p) :
      LookedAt lib t proxy id (csRecordOfProxy p)

/-- What is known of a record. -/
def CsRecord.attached (now : Int) (r : CsRecord) : Attached :=
  ⟨(r.age now).toNat, r.vlrName, r.imsi⟩

/-- What is returned of a record: its IMSI as far as it fits. -/
def CsRecord.returned (now : Int) (r : CsRecord) (retImsiLen : Option Nat) : DoneLuHere :=
  ⟨(r.age now).toNat, r.vlrName, retImsiLen.map (osmoStrlcpy (some r.imsi))⟩

/-- **The youngest record that qualifies is found**, and that of the database if there is one of the
same age; if there is none, nothing is found. -/
def FindsYoungest (lib : SelLib) (t : Tables) (proxy : Proxy) (now : Int)
    (localAttachMaxAge : UInt32) (id : Mslookup.Id) (retImsiLen : Option Nat) : Prop :=
  match subscriberHasDoneLuHere lib Faults.none t proxy now localAttachMaxAge id retImsiLen with
  | none => False
  | some none => ∀ r, Holds lib t proxy id r → ¬Qualifies now localAttachMaxAge r
  | some (some done) =>
      ∃ r, Holds lib t proxy id r ∧ Qualifies now localAttachMaxAge r ∧
        done = r.returned now retImsiLen ∧
        ∀ x, Holds lib t proxy id x → Qualifies now localAttachMaxAge x →
          r.age now ≤ x.age now ∧ (x.holder = .db → r.age now = x.age now → r.holder = .db)

/-- No text of a row that is set as a name is a format that wants arguments. -/
structure Printable (lib : SelLib) (now : Int) (localAttachMaxAge : UInt32)
    (row : SubscriberRow) : Prop where
  vlrViaProxy : ipaNameSetFmt row.vlrViaProxy ≠ none
  sgsnViaProxy : ipaNameSetFmt row.sgsnViaProxy ≠ none
  vlrNumber : Qualifies now localAttachMaxAge (csRecordOfRow lib row) →
    ipaNameSetFmt (some (dbSel lib row).vlrNumber) ≠ none

/-- No record is hidden by another one, and the texts of the database print as they are, as far as
that matters. -/
structure NothingHides (lib : SelLib) (t : Tables) (proxy : Proxy) (now : Int)
    (localAttachMaxAge : UInt32) (id : Mslookup.Id) : Prop where
  /-- No text of a row is a format that wants arguments. -/
  printable : ∀ row ∈ t.subscriber, RowHasId row id → Printable lib now localAttachMaxAge row
  /-- A row that is taken has no percent sign in the name of its VLR. -/
  percent : ∀ row ∈ t.subscriber, RowHasId row id →
    Qualifies now localAttachMaxAge (csRecordOfRow lib row) →
    (∀ p, proxySubscrGetById proxy id = some p →
      Qualifies now localAttachMaxAge (csRecordOfProxy p) →
      (csRecordOfRow lib row).age now ≤ (csRecordOfProxy p).age now) →
    Format.percent ∉ (dbSel lib row).vlrNumber.bytes
  /-- No entry without a VLR name is younger than a row that qualifies. -/
  nameless : ∀ row ∈ t.subscriber, RowHasId row id →
    Qualifies now localAttachMaxAge (csRecordOfRow lib row) →
    ∀ p, proxySubscrGetById proxy id = some p → p.cs.vlrName.len = 0 →
      Recent now localAttachMaxAge (csRecordOfProxy p) →
      (csRecordOfRow lib row).age now ≤ (csRecordOfProxy p).age now
  /-- No entry but the first one for an ID is younger than all that are looked at. -/
  first : ∀ e ∈ proxy.subscrList.entries, ProxyHasId e.data id →
    Qualifies now localAttachMaxAge (csRecordOfProxy e.data) →
    ∃ r, LookedAt lib t proxy id r ∧ Qualifies now localAttachMaxAge r ∧
      r.age now ≤ (csRecordOfProxy e.data).age now

variable {lib : SelLib} {t : Tables} {proxy : Proxy} {now : Int} {localAttachMaxAge : UInt32}
  {id : Mslookup.Id} {row : SubscriberRow} {p : ProxySubscr} {r x : CsRecord}
  {retImsiLen : Option Nat} {attachedHere : Option Attached}

/-! ## What is asked -/

/-- The row of an ID. -/
def rowOfId (t : Tables) : Mslookup.Id → Option SubscriberRow
  | .imsi imsi => t.subscriberByImsi imsi
  | .msisdn msisdn => t.subscriberByMsisdn msisdn
  | .none => none

/-- No ID has two rows. -/
theorem rowOfId_eq_some_iff :
    rowOfId t id = some row ↔ row ∈ t.subscriber ∧ RowHasId row id := by
  obtain ⟨-, himsis, hmsisdns, -⟩ := t.valid
  cases id with
  | none => simp [rowOfId, RowHasId]
  | imsi imsi =>
      have hfind : rowOfId t (.imsi imsi) = Keyed.find SubscriberRow.imsi t.subscriber imsi := rfl
      rw [hfind, Keyed.find_eq_some_iff himsis]
      rfl
  | msisdn msisdn =>
      simp only [rowOfId, RowHasId, Contents.subscriberByMsisdn]
      constructor
      · intro h
        exact ⟨List.mem_of_find?_eq_some h, by simpa using List.find?_some h⟩
      · rintro ⟨hrow, hmsisdn⟩
        cases hfind : t.subscriber.find? fun row => decide (row.msisdn = some msisdn) with
        | none =>
            have := List.find?_eq_none.1 hfind row hrow
            simp [hmsisdn] at this
        | some x =>
            have hx : x.msisdn = some msisdn := by simpa using List.find?_some hfind
            rw [Keyed.eq_of_nodup_filterMap hmsisdns (List.mem_of_find?_eq_some hfind) hrow hx
              hmsisdn]

theorem rowOfId_eq_none_iff : rowOfId t id = none ↔ ∀ row ∈ t.subscriber, ¬RowHasId row id := by
  rw [Option.eq_none_iff_forall_ne_some]
  exact forall_congr' fun row => (not_congr rowOfId_eq_some_iff).trans not_and

/-- A valid age, as a number of seconds. -/
theorem timestampAge_eq_some {lastLu : Int} {age : Nat} :
    timestampAge now lastLu = some age ↔
      0 ≤ now - lastLu ∧ now - lastLu ≤ 4294967295 ∧ age = (now - lastLu).toNat := by
  unfold timestampAge
  split
  · simp
    omega
  · simp
    omega

/-- What is recent by its timestamp. -/
theorem recent_iff_timestampAge :
    Recent now localAttachMaxAge r ↔ r.viaProxy = false ∧
      ∃ age, timestampAge now r.lastLu = some age ∧ ¬localAttachMaxAge.toNat < age := by
  have hmax := localAttachMaxAge.toNat_lt
  constructor
  · rintro ⟨hdirect, hnonneg, hle⟩
    unfold CsRecord.age at hnonneg hle
    refine ⟨hdirect, (now - r.lastLu).toNat, timestampAge_eq_some.2 ⟨hnonneg, ?_, rfl⟩, ?_⟩
    · omega
    · omega
  · rintro ⟨hdirect, age, hage, hle⟩
    obtain ⟨hnonneg, -, rfl⟩ := timestampAge_eq_some.1 hage
    refine ⟨hdirect, hnonneg, ?_⟩
    unfold CsRecord.age
    omega

/-- The entry that the proxy is asked for is an attachment here if it is recent. -/
theorem proxy_eq_some_iff {attached : Attached} :
    subscriberHasDoneLuHereProxy proxy now localAttachMaxAge id = some attached ↔
      ∃ p, proxySubscrGetById proxy id = some p ∧
        Recent now localAttachMaxAge (csRecordOfProxy p) ∧
        attached = (csRecordOfProxy p).attached now := by
  unfold subscriberHasDoneLuHereProxy
  cases hget : proxySubscrGetById proxy id with
  | none => simp
  | some p =>
      have hrecent : Recent now localAttachMaxAge (csRecordOfProxy p) ↔
          p.cs.vlrViaProxy.len = 0 ∧ ∃ age, timestampAge now p.cs.lastLu = some age ∧
            ¬localAttachMaxAge.toNat < age := by
        rw [recent_iff_timestampAge]
        simp [csRecordOfProxy]
      simp only [Option.some.injEq, exists_eq_left', hrecent]
      cases hage : timestampAge now p.cs.lastLu with
      | none => simp
      | some age =>
          obtain ⟨-, -, rfl⟩ := timestampAge_eq_some.1 hage
          simp only [Option.some.injEq, exists_eq_left']
          split
          next hlt => simp [hlt]
          next hle =>
              split
              next hvia => simp [hvia]
              next hvia =>
                  rw [not_not] at hvia
                  simp only [hvia, hle, not_false_eq_true, and_self, true_and, Option.some.injEq]
                  exact eq_comm

/-- What the database is asked for. -/
theorem hlr_eq :
    subscriberHasDoneLuHereHlr lib Faults.none t now localAttachMaxAge id =
      match rowOfId t id with
      | none => some none
      | some row =>
          match ipaNameSetFmt row.vlrViaProxy, ipaNameSetFmt row.sgsnViaProxy with
          | some vlrViaProxy, some _ =>
              if (dbSel lib row).vlrNumber.bytes = [] then some none
              else if vlrViaProxy.len ≠ 0 then some none
              else
                match timestampAge now (dbSel lib row).lastLuSeen with
                | none => some none
                | some age =>
                    if localAttachMaxAge.toNat < age then some none
                    else
                      (ipaNameSetFmt (some (dbSel lib row).vlrNumber)).map fun localMscName =>
                        some ⟨age, localMscName, (dbSel lib row).imsi⟩
          | _, _ => none := by
  have hgood : ¬(Faults.none.binds 1 ∨ Faults.none.step) := by decide
  cases id with
  | none => rfl
  | imsi imsi =>
      simp only [subscriberHasDoneLuHereHlr, dbSubscrGetByImsi, if_neg hgood, rowOfId]
      cases t.subscriberByImsi imsi <;> rfl
  | msisdn msisdn =>
      simp only [subscriberHasDoneLuHereHlr, dbSubscrGetByMsisdn, if_neg hgood, rowOfId]
      cases t.subscriberByMsisdn msisdn <;> rfl

theorem hlr_of_none (h : rowOfId t id = none) :
    subscriberHasDoneLuHereHlr lib Faults.none t now localAttachMaxAge id = some none := by
  rw [hlr_eq, h]

/-- The name of a proxy is empty exactly if there is none. -/
theorem len_viaProxy {str : Option CStr} {name : IpaName} (h : ipaNameSetFmt str = some name) :
    name.len ≠ 0 ↔ str.isSome = true := by
  cases str with
  | none =>
      cases h
      simp [IpaName.len, IpaName.zero]
  | some str =>
      obtain ⟨out, -, rfl⟩ := Option.map_eq_some_iff.1 h
      simp [len_ipaNameSetStr_ne_zero]

/-- When the row of an ID qualifies. -/
theorem qualifies_row_iff :
    Qualifies now localAttachMaxAge (csRecordOfRow lib row) ↔
      (dbSel lib row).vlrNumber.bytes ≠ [] ∧ row.vlrViaProxy.isSome = false ∧
        ∃ age, timestampAge now (dbSel lib row).lastLuSeen = some age ∧
          ¬localAttachMaxAge.toNat < age := by
  have hname : (csRecordOfRow lib row).vlrName.len ≠ 0 ↔ (dbSel lib row).vlrNumber.bytes ≠ [] := by
    simp only [csRecordOfRow]
    split
    next h => simp [h, IpaName.len, IpaName.zero]
    next h => simp [h, len_ipaNameSetStr_ne_zero]
  constructor
  · rintro ⟨hknown, hrecent⟩
    exact ⟨hname.1 hknown, recent_iff_timestampAge.1 hrecent⟩
  · rintro ⟨hknown, hrecent⟩
    exact ⟨hname.2 hknown, recent_iff_timestampAge.2 hrecent⟩

/-- The database knows nothing of a row that does not qualify. -/
theorem hlr_of_not_qualifies (h : rowOfId t id = some row)
    (hvia : ipaNameSetFmt row.vlrViaProxy ≠ none) (hsgsn : ipaNameSetFmt row.sgsnViaProxy ≠ none)
    (hnot : ¬Qualifies now localAttachMaxAge (csRecordOfRow lib row)) :
    subscriberHasDoneLuHereHlr lib Faults.none t now localAttachMaxAge id = some none := by
  obtain ⟨via, hvia⟩ := Option.ne_none_iff_exists'.1 hvia
  obtain ⟨sgsn, hsgsn⟩ := Option.ne_none_iff_exists'.1 hsgsn
  rw [qualifies_row_iff] at hnot
  simp only [hlr_eq, h, hvia, hsgsn]
  split
  · rfl
  next hname =>
      split
      · rfl
      next hlen =>
          have hdirect : row.vlrViaProxy.isSome = false := by
            simpa using (not_congr (len_viaProxy hvia)).1 hlen
          split
          · rfl
          next age hage =>
              split
              · rfl
              next hle => exact absurd ⟨hname, hdirect, age, hage, hle⟩ hnot

/-- The name of the VLR of a row that qualifies is printed. -/
theorem hlr_of_qualifies (h : rowOfId t id = some row)
    (hsgsn : ipaNameSetFmt row.sgsnViaProxy ≠ none)
    (hqualifies : Qualifies now localAttachMaxAge (csRecordOfRow lib row)) :
    subscriberHasDoneLuHereHlr lib Faults.none t now localAttachMaxAge id =
      (ipaNameSetFmt (some (dbSel lib row).vlrNumber)).map fun localMscName =>
        some { (csRecordOfRow lib row).attached now with mscName := localMscName } := by
  obtain ⟨hname, hdirect, age, hage, hle⟩ := qualifies_row_iff.1 hqualifies
  obtain ⟨sgsn, hsgsn⟩ := Option.ne_none_iff_exists'.1 hsgsn
  have hnone : row.vlrViaProxy = none := by simpa using hdirect
  have hvia : ipaNameSetFmt row.vlrViaProxy = some IpaName.zero := by rw [hnone]; rfl
  obtain ⟨-, -, rfl⟩ := timestampAge_eq_some.1 hage
  simp only [hlr_eq, h, hvia, hsgsn, if_neg hname, hage, if_neg hle]
  rw [if_neg (by decide)]
  rfl

/-- If something is known of the database at all, its texts can be printed. -/
theorem hlr_printable (h : rowOfId t id = some row)
    (hdefined : subscriberHasDoneLuHereHlr lib Faults.none t now localAttachMaxAge id ≠ none) :
    Printable lib now localAttachMaxAge row := by
  have hboth : ipaNameSetFmt row.vlrViaProxy ≠ none ∧ ipaNameSetFmt row.sgsnViaProxy ≠ none := by
    rw [hlr_eq, h] at hdefined
    constructor
    · intro hvia
      simp only [hvia] at hdefined
      exact hdefined rfl
    · intro hsgsn
      simp only [hsgsn] at hdefined
      split at hdefined
      next hsome => cases hsome
      next => exact hdefined rfl
  refine ⟨hboth.1, hboth.2, fun hqualifies hname => ?_⟩
  rw [hlr_of_qualifies h hboth.2 hqualifies, hname] at hdefined
  exact hdefined rfl

/-- What the database knows is of a row that qualifies. -/
theorem hlr_cases
    (h : subscriberHasDoneLuHereHlr lib Faults.none t now localAttachMaxAge id =
      some attachedHere) :
    (attachedHere = none ∧ ∀ row ∈ t.subscriber, RowHasId row id →
        ¬Qualifies now localAttachMaxAge (csRecordOfRow lib row)) ∨
      ∃ row localMscName, row ∈ t.subscriber ∧ RowHasId row id ∧
        Qualifies now localAttachMaxAge (csRecordOfRow lib row) ∧
        ipaNameSetFmt (some (dbSel lib row).vlrNumber) = some localMscName ∧
        attachedHere =
          some { (csRecordOfRow lib row).attached now with mscName := localMscName } := by
  cases hrow : rowOfId t id with
  | none =>
      rw [hlr_of_none hrow] at h
      obtain rfl := Option.some.inj h
      exact Or.inl ⟨rfl, fun row hmem hid => absurd hid (rowOfId_eq_none_iff.1 hrow row hmem)⟩
  | some row =>
      have hdefined : subscriberHasDoneLuHereHlr lib Faults.none t now localAttachMaxAge id ≠
          none := by rw [h]; exact Option.some_ne_none _
      obtain ⟨hvia, hsgsn, -⟩ := hlr_printable hrow hdefined
      obtain ⟨hmem, hid⟩ := rowOfId_eq_some_iff.1 hrow
      by_cases hqualifies : Qualifies now localAttachMaxAge (csRecordOfRow lib row)
      · rw [hlr_of_qualifies hrow hsgsn hqualifies] at h
        obtain ⟨localMscName, hname, hattached⟩ := Option.map_eq_some_iff.1 h
        exact Or.inr ⟨row, localMscName, hmem, hid, hqualifies, hname, hattached.symm⟩
      · rw [hlr_of_not_qualifies hrow hvia hsgsn hqualifies] at h
        obtain rfl := Option.some.inj h
        refine Or.inl ⟨rfl, fun other hother hidOther => ?_⟩
        obtain rfl := Option.some.inj (hrow.symm.trans (rowOfId_eq_some_iff.2 ⟨hother, hidOther⟩))
        exact hqualifies

/-- What happens is defined if the texts of the database can be printed. -/
theorem hlr_ne_none
    (h : ∀ row ∈ t.subscriber, RowHasId row id → Printable lib now localAttachMaxAge row) :
    subscriberHasDoneLuHereHlr lib Faults.none t now localAttachMaxAge id ≠ none := by
  cases hrow : rowOfId t id with
  | none =>
      rw [hlr_of_none hrow]
      exact Option.some_ne_none _
  | some row =>
      obtain ⟨hmem, hid⟩ := rowOfId_eq_some_iff.1 hrow
      obtain ⟨hvia, hsgsn, hname⟩ := h row hmem hid
      by_cases hqualifies : Qualifies now localAttachMaxAge (csRecordOfRow lib row)
      · rw [hlr_of_qualifies hrow hsgsn hqualifies]
        simpa using hname hqualifies
      · rw [hlr_of_not_qualifies hrow hvia hsgsn hqualifies]
        exact Option.some_ne_none _

/-- A row that qualifies has its name set by the text itself if there is no percent sign in it. -/
theorem name_of_row (h : Qualifies now localAttachMaxAge (csRecordOfRow lib row)) :
    ipaNameSetFmt (some (dbSel lib row).vlrNumber) = some (csRecordOfRow lib row).vlrName ↔
      Format.percent ∉ (dbSel lib row).vlrNumber.bytes := by
  have hname : (dbSel lib row).vlrNumber.bytes ≠ [] := (qualifies_row_iff.1 h).1
  have hlen : (dbSel lib row).vlrNumber.len < ipaNameSize :=
    lt_of_le_of_lt (List.length_take_le _ _) (by decide)
  rw [← ipaNameSetFmt_self_iff hlen]
  simp only [csRecordOfRow, if_neg hname]

/-! ## What is held and what is asked -/

/-- What the proxy finds is one of its entries for the ID. -/
theorem holds_of_lookedAt (h : LookedAt lib t proxy id r) : Holds lib t proxy id r := by
  cases h with
  | db row hrow hid => exact .db row hrow hid
  | proxy p hget =>
      cases id with
      | none => cases hget
      | imsi imsi =>
          obtain ⟨⟨e, he, rfl⟩, himsi⟩ := proxySubscrGetByImsi_eq_some_iff.1 hget
          exact .proxy e he himsi
      | msisdn msisdn =>
          obtain ⟨hmsisdn, hback⟩ := get_of_proxySubscrGetByMsisdn hget
          obtain ⟨⟨e, he, rfl⟩, -⟩ := proxySubscrGetByImsi_eq_some_iff.1 hback
          exact .proxy e he hmsisdn

/-- If no record is hidden, one that is looked at qualifies for each that does. -/
theorem NothingHides.lookedAt (h : NothingHides lib t proxy now localAttachMaxAge id)
    (hx : Holds lib t proxy id x) (hqualifies : Qualifies now localAttachMaxAge x) :
    ∃ r, LookedAt lib t proxy id r ∧ Qualifies now localAttachMaxAge r ∧ r.age now ≤ x.age now := by
  cases hx with
  | db row hrow hid => exact ⟨_, .db row hrow hid, hqualifies, le_rfl⟩
  | proxy e he hid => exact h.first e he hid hqualifies

/-- What is found, if it is defined. -/
theorem done_eq
    (h : subscriberHasDoneLuHereHlr lib Faults.none t now localAttachMaxAge id =
      some attachedHere) (retImsiLen : Option Nat) :
    subscriberHasDoneLuHere lib Faults.none t proxy now localAttachMaxAge id retImsiLen =
      some ((younger attachedHere
          (subscriberHasDoneLuHereProxy proxy now localAttachMaxAge id)).bind fun attached =>
        if attached.mscName.len = 0 then none
        else some ⟨attached.luAge, attached.mscName,
          retImsiLen.map (osmoStrlcpy (some attached.imsi))⟩) := by
  rw [subscriberHasDoneLuHere, h, Option.map_some]
  simp only
  generalize younger attachedHere
    (subscriberHasDoneLuHereProxy proxy now localAttachMaxAge id) = youngest
  cases youngest <;> rfl

/-- The younger one is one of both. -/
theorem younger_cases (a b : Option Attached) :
    (younger a b = a ∧ ∀ y, b = some y → ∃ z, a = some z ∧ z.luAge ≤ y.luAge) ∨
      ∃ y, younger a b = some y ∧ b = some y ∧ ∀ z, a = some z → y.luAge < z.luAge := by
  cases a with
  | none =>
      cases b with
      | none => exact Or.inl ⟨rfl, fun y hy => nomatch hy⟩
      | some y => exact Or.inr ⟨y, rfl, rfl, fun z hz => nomatch hz⟩
  | some z =>
      cases b with
      | none => exact Or.inl ⟨rfl, fun y hy => nomatch hy⟩
      | some y =>
          by_cases hlt : y.luAge < z.luAge
          · refine Or.inr ⟨y, if_pos hlt, rfl, fun w hw => ?_⟩
            obtain rfl := Option.some.inj hw
            exact hlt
          · refine Or.inl ⟨if_neg hlt, fun w hw => ?_⟩
            obtain rfl := Option.some.inj hw
            exact ⟨z, rfl, Nat.le_of_not_lt hlt⟩

/-- Ages of recent records compare as they are returned. -/
theorem luAge_le_iff (hx : Recent now localAttachMaxAge x) :
    (r.attached now).luAge ≤ (x.attached now).luAge ↔ r.age now ≤ x.age now := by
  have := hx.age_nonneg
  simp only [CsRecord.attached]
  omega

/-- **The two ways in which something is looked at**: a row that qualifies and that no recent entry
is younger than, or a recent entry that is younger than any row that qualifies. -/
theorem done_cases
    (h : subscriberHasDoneLuHereHlr lib Faults.none t now localAttachMaxAge id =
      some attachedHere) (retImsiLen : Option Nat) :
    (∃ row localMscName, row ∈ t.subscriber ∧ RowHasId row id ∧
      Qualifies now localAttachMaxAge (csRecordOfRow lib row) ∧
      ipaNameSetFmt (some (dbSel lib row).vlrNumber) = some localMscName ∧
      (∀ p, proxySubscrGetById proxy id = some p →
        Recent now localAttachMaxAge (csRecordOfProxy p) →
        (csRecordOfRow lib row).age now ≤ (csRecordOfProxy p).age now) ∧
      subscriberHasDoneLuHere lib Faults.none t proxy now localAttachMaxAge id retImsiLen =
        some (some { (csRecordOfRow lib row).returned now retImsiLen with
          localMscName := localMscName })) ∨
    (∃ p, proxySubscrGetById proxy id = some p ∧
      Recent now localAttachMaxAge (csRecordOfProxy p) ∧
      (∀ row ∈ t.subscriber, RowHasId row id →
        Qualifies now localAttachMaxAge (csRecordOfRow lib row) →
        (csRecordOfProxy p).age now < (csRecordOfRow lib row).age now) ∧
      subscriberHasDoneLuHere lib Faults.none t proxy now localAttachMaxAge id retImsiLen =
        some (if p.cs.vlrName.len = 0 then none
          else some ((csRecordOfProxy p).returned now retImsiLen))) ∨
    ((∀ r, LookedAt lib t proxy id r → ¬Qualifies now localAttachMaxAge r) ∧
      subscriberHasDoneLuHere lib Faults.none t proxy now localAttachMaxAge id retImsiLen =
        some none) := by
  rw [done_eq h]
  rcases younger_cases attachedHere
      (subscriberHasDoneLuHereProxy proxy now localAttachMaxAge id) with
    ⟨hyounger, hle⟩ | ⟨y, hyounger, hproxy, hlt⟩
  · rw [hyounger]
    rcases hlr_cases h with ⟨rfl, hno⟩ | ⟨row, localMscName, hmem, hid, hqualifies, hname, rfl⟩
    · refine Or.inr (Or.inr ⟨fun r hr hr' => ?_, rfl⟩)
      cases hr with
      | db row hrow hid => exact hno row hrow hid hr'
      | proxy p hget =>
          obtain ⟨z, hz, -⟩ := hle _ (proxy_eq_some_iff.2 ⟨p, hget, hr'.recent, rfl⟩)
          cases hz
    · refine Or.inl ⟨row, localMscName, hmem, hid, hqualifies, hname, ?_, ?_⟩
      · intro p hget hrecent
        obtain ⟨z, hz, hle⟩ := hle _ (proxy_eq_some_iff.2 ⟨p, hget, hrecent, rfl⟩)
        obtain rfl := Option.some.inj hz
        exact (luAge_le_iff hrecent).1 hle
      · have hlen : localMscName.len ≠ 0 := (len_viaProxy hname).2 rfl
        rw [Option.bind_some, if_neg hlen]
        rfl
  · obtain ⟨p, hget, hrecent, rfl⟩ := proxy_eq_some_iff.1 hproxy
    refine Or.inr (Or.inl ⟨p, hget, hrecent, ?_, ?_⟩)
    · intro row hrow hid hqualifies
      rcases hlr_cases h with ⟨-, hno⟩ | ⟨row', localMscName, hmem, hid', -, -, rfl⟩
      · exact absurd hqualifies (hno row hrow hid)
      · have hsame : row' = row := Option.some.inj
          ((rowOfId_eq_some_iff.2 ⟨hmem, hid'⟩).symm.trans (rowOfId_eq_some_iff.2 ⟨hrow, hid⟩))
        subst hsame
        have hlt := hlt _ rfl
        by_contra hle
        exact absurd ((luAge_le_iff hrecent).2 (not_lt.1 hle)) (Nat.not_le.2 hlt)
    · rw [hyounger]
      rfl

/-- If no record is hidden, the youngest one is found. -/
theorem findsYoungest_of_nothingHides
    (h : NothingHides lib t proxy now localAttachMaxAge id) (retImsiLen : Option Nat) :
    FindsYoungest lib t proxy now localAttachMaxAge id retImsiLen := by
  obtain ⟨attachedHere, hhlr⟩ := Option.ne_none_iff_exists'.1 (hlr_ne_none h.printable)
  unfold FindsYoungest
  rcases done_cases hhlr retImsiLen with
    ⟨row, localMscName, hrow, hid, hqualifies, hname, hle, heq⟩ | ⟨p, hget, hrecent, hlt, heq⟩ |
      ⟨hno, heq⟩
  · rw [heq]
    have hpercent := h.percent row hrow hid hqualifies fun p hget hp => hle p hget hp.recent
    obtain rfl := Option.some.inj (hname.symm.trans ((name_of_row hqualifies).2 hpercent))
    refine ⟨csRecordOfRow lib row, .db row hrow hid, hqualifies, rfl, fun x hx hx' => ?_⟩
    refine ⟨?_, fun _ _ => rfl⟩
    obtain ⟨r, hr, hr', hage⟩ := h.lookedAt hx hx'
    refine le_trans ?_ hage
    cases hr with
    | db other hother hidOther =>
        rw [Option.some.inj ((rowOfId_eq_some_iff.2 ⟨hrow, hid⟩).symm.trans
          (rowOfId_eq_some_iff.2 ⟨hother, hidOther⟩))]
    | proxy p hget => exact hle p hget hr'.recent
  · have hasked : ∀ x, Holds lib t proxy id x → Qualifies now localAttachMaxAge x →
        (csRecordOfProxy p).age now ≤ x.age now := by
      intro x hx hx'
      obtain ⟨r, hr, hr', hage⟩ := h.lookedAt hx hx'
      refine le_trans ?_ hage
      cases hr with
      | db row hrow hid => exact (hlt row hrow hid hr').le
      | proxy q hq => rw [Option.some.inj (hget.symm.trans hq)]
    by_cases hlen : p.cs.vlrName.len = 0
    · rw [heq, if_pos hlen]
      intro x hx hx'
      obtain ⟨r, hr, hr', -⟩ := h.lookedAt hx hx'
      cases hr with
      | db row hrow hid =>
          exact absurd (h.nameless row hrow hid hr' p hget hlen hrecent)
            (not_le.2 (hlt row hrow hid hr'))
      | proxy q hq =>
          obtain rfl := Option.some.inj (hget.symm.trans hq)
          exact hr'.known hlen
    · rw [heq, if_neg hlen]
      refine ⟨csRecordOfProxy p, holds_of_lookedAt (.proxy p hget), ⟨hlen, hrecent⟩, rfl,
        fun x hx hx' => ⟨hasked x hx hx', fun hdb hage => ?_⟩⟩
      cases hx with
      | db row hrow hid => exact absurd hage (hlt row hrow hid hx').ne
      | proxy e he hid => cases hdb
  · rw [heq]
    intro x hx hx'
    obtain ⟨r, hr, hr', -⟩ := h.lookedAt hx hx'
    exact hno r hr hr'

/-- No record is hidden if none qualifies. -/
theorem nothingHides_of_none
    (hprintable : ∀ row ∈ t.subscriber, RowHasId row id →
      Printable lib now localAttachMaxAge row)
    (hno : ∀ r, Holds lib t proxy id r → ¬Qualifies now localAttachMaxAge r) :
    NothingHides lib t proxy now localAttachMaxAge id where
  printable := hprintable
  percent row hrow hid hqualifies := absurd hqualifies (hno _ (.db row hrow hid))
  nameless row hrow hid hqualifies := absurd hqualifies (hno _ (.db row hrow hid))
  first e he hid hqualifies := absurd hqualifies (hno _ (.proxy e he hid))

/-- What is returned as the age tells the age. -/
theorem age_eq_of_luAge (hr : Recent now localAttachMaxAge r) (hx : Recent now localAttachMaxAge x)
    (h : (r.age now).toNat = (x.age now).toNat) : r.age now = x.age now := by
  have := hr.age_nonneg
  have := hx.age_nonneg
  omega

/-- **The youngest record is found exactly if no record hides another one.** -/
theorem findsYoungest_iff (lib : SelLib) (t : Tables) (proxy : Proxy) (now : Int)
    (localAttachMaxAge : UInt32) (id : Mslookup.Id) (retImsiLen : Option Nat) :
    FindsYoungest lib t proxy now localAttachMaxAge id retImsiLen ↔
      NothingHides lib t proxy now localAttachMaxAge id := by
  refine ⟨fun h => ?_, fun h => findsYoungest_of_nothingHides h retImsiLen⟩
  unfold FindsYoungest at h
  have hdefined : ∃ attachedHere,
      subscriberHasDoneLuHereHlr lib Faults.none t now localAttachMaxAge id =
        some attachedHere := by
    rw [← Option.ne_none_iff_exists']
    intro hnone
    rw [subscriberHasDoneLuHere, hnone] at h
    exact h
  obtain ⟨attachedHere, hhlr⟩ := hdefined
  have hprintable : ∀ row ∈ t.subscriber, RowHasId row id →
      Printable lib now localAttachMaxAge row := by
    intro row hrow hid
    refine hlr_printable (rowOfId_eq_some_iff.2 ⟨hrow, hid⟩) ?_
    rw [hhlr]
    exact Option.some_ne_none _
  rcases done_cases hhlr retImsiLen with
    ⟨row, localMscName, hrow, hid, hqualifies, hname, hle, heq⟩ | ⟨p, hget, hrecent, hlt, heq⟩ |
      ⟨-, heq⟩
  · rw [heq] at h
    obtain ⟨r, hr, hr', hdone, hmin⟩ := h
    have hage : r.age now = (csRecordOfRow lib row).age now :=
      age_eq_of_luAge hr'.recent hqualifies.recent (congrArg DoneLuHere.luAge hdone).symm
    have hsame : ∀ other ∈ t.subscriber, RowHasId other id → row = other := fun other ho hid' =>
      Option.some.inj ((rowOfId_eq_some_iff.2 ⟨hrow, hid⟩).symm.trans
        (rowOfId_eq_some_iff.2 ⟨ho, hid'⟩))
    refine ⟨hprintable, ?_, ?_, ?_⟩
    · intro other hother hidOther _ _
      obtain rfl := hsame other hother hidOther
      have hdb : r.holder = .db := (hmin _ (.db row hrow hid) hqualifies).2 rfl hage
      cases hr with
      | db other hother hidOther =>
          obtain rfl := hsame other hother hidOther
          rw [← name_of_row hqualifies, hname]
          exact congrArg some (congrArg DoneLuHere.localMscName hdone)
      | proxy e he hid => cases hdb
    · intro other hother hidOther _ p hget _ hrecent
      obtain rfl := hsame other hother hidOther
      exact hle p hget hrecent
    · intro e he hid' he'
      exact ⟨_, .db row hrow hid, hqualifies,
        hage ▸ (hmin _ (.proxy e he hid') he').1⟩
  · rw [heq] at h
    split at h
    next hnone => cases hnone
    next hnone => exact nothingHides_of_none hprintable h
    next done hdone =>
        split at hdone
        · cases hdone
        next hlen =>
            obtain rfl := Option.some.inj (Option.some.inj hdone)
            obtain ⟨r, hr, hr', hdone, hmin⟩ := h
            have hage : r.age now = (csRecordOfProxy p).age now :=
              age_eq_of_luAge hr'.recent hrecent (congrArg DoneLuHere.luAge hdone).symm
            refine ⟨hprintable, ?_, ?_, ?_⟩
            · intro row hrow hid hqualifies hall
              exact absurd (hall p hget ⟨hlen, hrecent⟩)
                (not_le.2 (hlt row hrow hid hqualifies))
            · intro row hrow hid hqualifies q hq hnameless
              obtain rfl := Option.some.inj (hget.symm.trans hq)
              exact absurd hnameless hlen
            · intro e he hid' he'
              exact ⟨_, .proxy p hget, ⟨hlen, hrecent⟩, hage ▸ (hmin _ (.proxy e he hid') he').1⟩
  · rw [heq] at h
    exact nothingHides_of_none hprintable h

/-- A subscriber of the database who was attached a minute ago. -/
def attachedRow : SubscriberRow :=
  { Host.subscriberRow 1 (CStr.lit "262420000000001") with
    vlrNumber := some (CStr.lit "msc"), lastLuSeen := Host.datetime 951782340 }

/-- The proxy knows of a Location Updating right now, but not at which VLR. -/
def namelessSubscr : ProxySubscr :=
  { ProxySubscr.ofImsi (CStr.lit "262420000000001") with
    cs := { DomainState.zero with lastLu := 951782400 } }

/-- A record without a VLR name hides the one of the database. -/
theorem attachedRow_hidden :
    ¬FindsYoungest Host.selLib ⟨⟨[attachedRow], [], []⟩, by decide⟩
      (proxySubscrCreateOrUpdate 951782400 Proxy.init namelessSubscr) 951782400 3600
      (.imsi (CStr.lit "262420000000001")) (some 16) := by
  have hdone : subscriberHasDoneLuHere Host.selLib Faults.none ⟨⟨[attachedRow], [], []⟩, by decide⟩
      (proxySubscrCreateOrUpdate 951782400 Proxy.init namelessSubscr) 951782400 3600
      (.imsi (CStr.lit "262420000000001")) (some 16) = some none := by decide +kernel
  unfold FindsYoungest
  rw [hdone]
  intro hno
  refine hno (csRecordOfRow Host.selLib attachedRow) (.db _ List.mem_cons_self rfl) ⟨?_, ?_⟩
  · decide +kernel
  · decide +kernel

end Dgsm
end OsmoHlr
