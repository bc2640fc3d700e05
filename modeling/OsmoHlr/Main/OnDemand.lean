import OsmoHlr.Main.Records

/-!
# Subscribers are created on demand

`subscr_create_on_demand` and `generate_new_msisdn` of `src/hlr.c`: a subscriber that is not
in the database yet is created when a message about it comes in, with an MSISDN of random
digits that nobody has.  The MSISDN is assigned by a statement of its own, which may fail.

* `generateNewMsisdn_spec` — what is generated, and that nobody has it.
* `OnDemandChanges` — what may be done to the record of the IMSI.
* `changed_createOnDemand` — the record is changed so, and no other.
-/

namespace OsmoHlr
namespace Main

open CString Db Auc Decimal

/-- What is configured by `subscriber-create-on-demand`, which takes no length of more digits than an
MSISDN has. -/
structure OnDemand (lib : Libosmocore) where
  subscrCreateOnDemand : Bool
  subscrCreateOnDemandFlags : UInt8
  randMsisdnLen : Nat
  len_le : randMsisdnLen ≤ lib.msisdnMaxDigits

/-- What `osmo_get_rand_id` does: the bytes that it writes, or a return code other than 0. -/
abbrev RandId := Except { rc : Int // rc ≠ 0 } (Nat → UInt8)

/-- What is around when an MSISDN is generated. -/
structure GenMsisdnEnv where
  /-- `osmo_get_rand_id`, for each `i` and `j`. -/
  osmoGetRandId : Nat → Nat → RandId
  /-- What goes wrong with `db_subscr_exists_by_msisdn`, for each `i`. -/
  existsByMsisdn : Nat → CodedFaults

/-- What is around when a subscriber is created. -/
structure OnDemandEnv where
  /-- What goes wrong with `db_subscr_exists_by_imsi`. -/
  existsByImsi : CodedFaults
  gen : GenMsisdnEnv
  /-- What goes wrong with `db_subscr_create`, and a row id that is not in use. -/
  create : Faults
  found : Int
  /-- What goes wrong with `db_subscr_update_msisdn_by_imsi`. -/
  msisdn : Faults

/-! ## MSISDNs -/

/-- A byte is shifted to an ASCII digit. -/
def randDigit (b : UInt8) : UInt8 := 48 + b % 10

theorem isDigit_randDigit (b : UInt8) : isDigit (randDigit b) = true := by
  have hlt : b.toNat % 10 < 10 := Nat.mod_lt _ (by decide)
  have hval : (randDigit b).toNat = 48 + b.toNat % 10 := by
    rw [randDigit, UInt8.toNat_add, UInt8.toNat_mod]
    exact Nat.mod_eq_of_lt (by simp; omega)
  simp only [isDigit, Bool.and_eq_true, decide_eq_true_eq, UInt8.le_iff_toNat_le, hval]
  simp
  omega

/-- The digits of random bytes, in a buffer of their own. -/
def randMsisdn (randBuf : Nat → UInt8) (len : Nat) : CStr where
  bytes := (List.range len).map fun j => randDigit (randBuf j)
  noNul := by
    intro h0
    obtain ⟨j, -, hj⟩ := List.mem_map.1 h0
    have hdigit := isDigit_randDigit (randBuf j)
    rw [hj] at hdigit
    exact absurd hdigit (by decide)

/-- The inner loop of `generate_new_msisdn`, from `j` on with so many retries left. -/
def getRandId (get : Nat → RandId) : Nat → Nat → RandId
  | 0, j => get j
  | n + 1, j =>
      match get j with
      | .ok randBuf => .ok randBuf
      | .error _ => getRandId get n (j + 1)

/-- The outer loop, from `i` on with so many attempts left. -/
def generateFrom (env : GenMsisdnEnv) (t : Tables) (len : Nat) : Nat → Nat → Except Int CStr
  | 0, _ => .error (-1)
  | n + 1, i =>
      match getRandId (env.osmoGetRandId i) 9 0 with
      | .error rc => .error rc
      | .ok randBuf =>
          let msisdn := randMsisdn randBuf len
          if dbSubscrExistsByMsisdn (env.existsByMsisdn i) t msisdn = enoent then .ok msisdn
          else generateFrom env t len n (i + 1)

/-- `generate_new_msisdn` -/
def generateNewMsisdn (env : GenMsisdnEnv) (t : Tables) (len : Nat) : Except Int CStr :=
  generateFrom env t len 10 0

/-- An MSISDN that may be assigned at random: so many digits, which nobody has. -/
structure Unassigned (t : Tables) (len : Nat) (msisdn : CStr) : Prop where
  len_eq : msisdn.len = len
  digits : ∀ c ∈ msisdn.bytes, isDigit c = true
  unused : ∀ row ∈ t.subscriber, row.msisdn ≠ some msisdn

/-! ## Subscribers -/

variable (lib : DbLib)

/-- `subscr_create_on_demand` -/
def subscrCreateOnDemand (hlr : OnDemand lib.toLibosmocore) (env : OnDemandEnv) (t : Tables)
    (imsi : CStr) : Int × Tables :=
  if !hlr.subscrCreateOnDemand then (-1, t)
  else if dbSubscrExistsByImsi env.existsByImsi t imsi = 0 then (-1, t)
  else if hlr.randMsisdnLen = 0 then
    dbSubscrCreate lib env.create env.found t imsi hlr.subscrCreateOnDemandFlags
  else
    match generateNewMsisdn env.gen t hlr.randMsisdnLen with
    | .error _ => (-1, t)
    | .ok msisdn =>
        let created :=
          dbSubscrCreate lib env.create env.found t imsi hlr.subscrCreateOnDemandFlags
        if created.1 ≠ 0 then created
        else dbSubscrUpdateMsisdnByImsi lib env.msisdn created.2 imsi (some msisdn)

/-- The row that `db_subscr_create` makes. -/
def newRow (found : Int) (t : Tables) (imsi : CStr) (flags : UInt8) : SubscriberRow where
  id := newRowid (t.subscriber.map SubscriberRow.id) found
  imsi := imsi
  msisdn := none
  imei := none
  vlrNumber := none
  sgsnNumber := none
  sgsnAddress := none
  periodicLuTmr := none
  periodicRauTauTmr := none
  namCs := flags &&& dbSubscrFlagNamCs ≠ 0
  namPs := flags &&& dbSubscrFlagNamPs ≠ 0
  lmsi := none
  msPurgedCs := false
  msPurgedPs := false
  lastLuSeen := none
  lastLuSeenPs := none
  vlrViaProxy := none
  sgsnViaProxy := none

/-- The record of a new row, for which there may be keys already. -/
def newRecord (t : Tables) (row : SubscriberRow) : Record :=
  (row, t.auc2g.find? fun auc => auc.subscriberId = row.id,
    t.auc3g.find? fun auc => auc.subscriberId = row.id)

/-- What `db_subscr_create` and the statement behind it do to the record of the IMSI. -/
def createChanges (hlr : OnDemand lib.toLibosmocore) (env : OnDemandEnv) (t : Tables) (imsi : CStr)
    (msisdn : Option CStr) : List Change :=
  let created := dbSubscrCreate lib env.create env.found t imsi hlr.subscrCreateOnDemandFlags
  if created.1 ≠ 0 then []
  else
    .created (newRecord t (newRow env.found t imsi hlr.subscrCreateOnDemandFlags)) ::
      match msisdn with
      | none => []
      | some m =>
          if (dbSubscrUpdateMsisdnByImsi lib env.msisdn created.2 imsi (some m)).1 = 0 then
            [.msisdn m]
          else []

/-- What `subscr_create_on_demand` does to the record of the IMSI. -/
def onDemandChanges (hlr : OnDemand lib.toLibosmocore) (env : OnDemandEnv) (t : Tables)
    (imsi : CStr) : List Change :=
  if !hlr.subscrCreateOnDemand then []
  else if dbSubscrExistsByImsi env.existsByImsi t imsi = 0 then []
  else if hlr.randMsisdnLen = 0 then createChanges lib hlr env t imsi none
  else
    match generateNewMsisdn env.gen t hlr.randMsisdnLen with
    | .error _ => []
    | .ok msisdn => createChanges lib hlr env t imsi (some msisdn)

/-- A record without keys of its own, for an IMSI that has none, with an MSISDN that nobody has or
without any. -/
inductive OnDemandChanges (hlr : OnDemand lib.toLibosmocore) (t : Tables) (imsi : CStr) :
    List Change → Prop
  | nothing : OnDemandChanges hlr t imsi []
  | created (found : Int) (hon : hlr.subscrCreateOnDemand = true)
      (hvalid : lib.imsiStrValid imsi = true) (hnew : aucByImsi t.toContents imsi = none) :
      OnDemandChanges hlr t imsi
        [.created (newRecord t (newRow found t imsi hlr.subscrCreateOnDemandFlags))]
  | assigned (found : Int) (msisdn : CStr) (hon : hlr.subscrCreateOnDemand = true)
      (hvalid : lib.imsiStrValid imsi = true) (hnew : aucByImsi t.toContents imsi = none)
      (hlen : hlr.randMsisdnLen ≠ 0) (hmsisdn : Unassigned t hlr.randMsisdnLen msisdn) :
      OnDemandChanges hlr t imsi
        [.created (newRecord t (newRow found t imsi hlr.subscrCreateOnDemandFlags)), .msisdn msisdn]

variable {lib} {hlr : OnDemand lib.toLibosmocore} {env : OnDemandEnv} {t : Tables} {imsi : CStr}

theorem existsRc_eq_enoent {f : CodedFaults} {found : Bool} (h : existsRc f found = enoent) :
    found = false := by
  have hcode := f.errcode.property
  unfold existsRc at h
  split at h
  next => cases h
  next =>
      split at h
      next => simp only [enoent] at h; omega
      next => cases found <;> simp_all [enoent]

/-- What the outer loop finds. -/
theorem generateFrom_spec {env : GenMsisdnEnv} {len n i : Nat} {msisdn : CStr}
    (h : generateFrom env t len n i = .ok msisdn) : Unassigned t len msisdn := by
  induction n generalizing i with
  | zero => cases h
  | succ n ih =>
      rw [generateFrom] at h
      split at h
      next => cases h
      next randBuf _ =>
          simp only at h
          split at h
          next hexists =>
              obtain rfl := Except.ok.inj h
              refine ⟨by simp [randMsisdn, CStr.len], ?_, ?_⟩
              · intro c hc
                obtain ⟨j, -, rfl⟩ := List.mem_map.1 hc
                exact isDigit_randDigit _
              · have hnone := existsRc_eq_enoent hexists
                rw [Option.isSome_eq_false_iff, Option.isNone_iff_eq_none,
                  Contents.subscriberByMsisdn, List.find?_eq_none] at hnone
                exact fun row hrow hmsisdn => hnone row hrow (decide_eq_true hmsisdn)
          next => exact ih h

/-- **What is generated has as many digits as it is to have, and nobody has it.** -/
theorem generateNewMsisdn_spec {env : GenMsisdnEnv} {len : Nat} {msisdn : CStr}
    (h : generateNewMsisdn env t len = .ok msisdn) : Unassigned t len msisdn :=
  generateFrom_spec h

/-- `db_subscr_create` appends a row, or leaves the tables as they are. -/
theorem dbSubscrCreate_cases (lib : DbLib) (f : Faults) (found : Int) (t : Tables) (imsi : CStr)
    (flags : UInt8) :
    (dbSubscrCreate lib f found t imsi flags).1 ≠ 0 ∧
        (dbSubscrCreate lib f found t imsi flags).2 = t ∨
      (dbSubscrCreate lib f found t imsi flags).1 = 0 ∧ lib.imsiStrValid imsi = true ∧
        Appended t.toContents (dbSubscrCreate lib f found t imsi flags).2.toContents
          (newRow found t imsi flags) := by
  unfold dbSubscrCreate
  split
  next => exact Or.inl ⟨show CniPeerId.einval ≠ 0 by decide, rfl⟩
  next hvalid =>
      split
      next => exact Or.inl ⟨show eio ≠ 0 by decide, rfl⟩
      next =>
          simp only
          split
          next hnot =>
              exact Or.inl ⟨show eio ≠ 0 by decide, exec_of_not_done (by simpa using hnot)⟩
          next hdone =>
              rw [Bool.not_eq_true', Bool.not_eq_false] at hdone
              obtain ⟨-, htables, -⟩ := exec_of_done hdone
              exact Or.inr ⟨rfl, by simpa using hvalid, .of_eq htables⟩

/-- Nobody has an IMSI with which a row was appended. -/
theorem aucByImsi_of_appended {t t' : Tables} {row : SubscriberRow}
    (h : Appended t.toContents t'.toContents row) : aucByImsi t.toContents row.imsi = none := by
  have hnodup := t'.valid.2.1
  rw [h.subscriber, List.map_append, List.map_singleton, List.nodup_append] at hnodup
  rw [Auc.aucByImsi, Option.map_eq_none_iff, List.find?_eq_none]
  intro r hr himsi
  exact hnodup.2.2 _ (List.mem_map_of_mem hr) _ (List.mem_singleton_self _) (of_decide_eq_true himsi)

/-- An MSISDN is assigned. -/
theorem changed_updateMsisdn (lib : DbLib) (f : Faults) (t : Tables) (imsi msisdn : CStr) :
    Changed imsi t.toContents
      (dbSubscrUpdateMsisdnByImsi lib f t imsi (some msisdn)).2.toContents
      (if (dbSubscrUpdateMsisdnByImsi lib f t imsi (some msisdn)).1 = 0 then [.msisdn msisdn]
      else []) := by
  unfold dbSubscrUpdateMsisdnByImsi
  simp only
  split
  next => exact .refl imsi t.toContents
  next => exact changed_updateByImsi (.msisdn msisdn) (fun _ => rfl) f 2 t imsi rfl

/-- **The record of the IMSI is changed, and no other.** -/
theorem changed_createOnDemand (lib : DbLib) (hlr : OnDemand lib.toLibosmocore) (env : OnDemandEnv)
    (t : Tables) (imsi : CStr) :
    Changed imsi t.toContents (subscrCreateOnDemand lib hlr env t imsi).2.toContents
      (onDemandChanges lib hlr env t imsi) := by
  have hcreated := dbSubscrCreate_cases lib env.create env.found t imsi
    hlr.subscrCreateOnDemandFlags
  unfold subscrCreateOnDemand onDemandChanges createChanges
  split
  next => exact .refl imsi t.toContents
  next =>
  split
  next => exact .refl imsi t.toContents
  next =>
  split
  next =>
      rcases hcreated with ⟨hrc, hsame⟩ | ⟨hrc, -, happended⟩
      · simp only [hrc, hsame, ne_eq, not_false_eq_true, if_true]
        exact .refl imsi t.toContents
      · simp only [hrc, ne_eq, not_true_eq_false, if_false]
        exact happended.changed rfl
  next =>
      split
      next => exact .refl imsi t.toContents
      next msisdn _ =>
          rcases hcreated with ⟨hrc, hsame⟩ | ⟨hrc, -, happended⟩
          · simp only [hrc, hsame, ne_eq, not_false_eq_true, if_true]
            exact .refl imsi t.toContents
          · simp only [hrc, ne_eq, not_true_eq_false, if_false]
            exact (happended.changed rfl).trans (changed_updateMsisdn lib env.msisdn _ imsi msisdn)

theorem createChanges_cases (hlr : OnDemand lib.toLibosmocore) (env : OnDemandEnv) (t : Tables)
    (imsi : CStr) (msisdn : Option CStr) (hon : hlr.subscrCreateOnDemand = true)
    (hmsisdn : ∀ m ∈ msisdn, hlr.randMsisdnLen ≠ 0 ∧ Unassigned t hlr.randMsisdnLen m) :
    OnDemandChanges lib hlr t imsi (createChanges lib hlr env t imsi msisdn) := by
  unfold createChanges
  rcases dbSubscrCreate_cases lib env.create env.found t imsi hlr.subscrCreateOnDemandFlags with
    ⟨hrc, -⟩ | ⟨hrc, hvalid, happended⟩
  · simp only [hrc, ne_eq, not_false_eq_true, if_true]
    exact .nothing
  · have hnew : aucByImsi t.toContents imsi = none := aucByImsi_of_appended happended
    simp only [hrc, ne_eq, not_true_eq_false, if_false]
    cases msisdn with
    | none => exact .created env.found hon hvalid hnew
    | some m =>
        obtain ⟨hlen, hm⟩ := hmsisdn m rfl
        simp only
        split
        · exact .assigned env.found m hon hvalid hnew hlen hm
        · exact .created env.found hon hvalid hnew

/-- **What is created on demand**, if anything is. -/
theorem onDemandChanges_cases (lib : DbLib) (hlr : OnDemand lib.toLibosmocore) (env : OnDemandEnv)
    (t : Tables) (imsi : CStr) :
    OnDemandChanges lib hlr t imsi (onDemandChanges lib hlr env t imsi) := by
  unfold onDemandChanges
  split
  next => exact .nothing
  next hon =>
  have hon : hlr.subscrCreateOnDemand = true := by simpa using hon
  split
  next => exact .nothing
  next =>
  split
  next => exact createChanges_cases hlr env t imsi none hon fun _ h => by cases h
  next hlen =>
      split
      next => exact .nothing
      next msisdn hmsisdn =>
          refine createChanges_cases hlr env t imsi (some msisdn) hon ?_
          rintro _ ⟨⟩
          exact ⟨hlen, generateNewMsisdn_spec hmsisdn⟩

end Main
end OsmoHlr
