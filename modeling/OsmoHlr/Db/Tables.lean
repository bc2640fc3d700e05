import OsmoHlr.Lib.CString
import Mathlib.Algebra.Group.Int.Defs
import Mathlib.Data.List.Nodup
import Mathlib.Tactic.Common

/-!
# The tables

The tables of `sql/hlr.sql` and the statements that `src/db.c` prepares.  Columns and
tables that no statement reads or writes are left out.  A statement that would break a
UNIQUE constraint or a PRIMARY KEY fails as a whole, so that the constraints are part of
what the tables are.

* `Tables` — contents that meet the constraints.
* `Tables.exec` — a prepared statement is executed, and may fail.
* `exec_of_not_done` — a statement that fails changes nothing.
-/

namespace OsmoHlr
namespace Db

open CString

/-! ## Rows -/

/-- A row of `subscriber`; `none` is NULL. -/
structure SubscriberRow where
  id : Int
  imsi : CStr
  msisdn : Option CStr
  imei : Option CStr
  vlrNumber : Option CStr
  sgsnNumber : Option CStr
  sgsnAddress : Option CStr
  periodicLuTmr : Option Int
  periodicRauTauTmr : Option Int
  namCs : Bool
  namPs : Bool
  lmsi : Option Int
  msPurgedCs : Bool
  msPurgedPs : Bool
  lastLuSeen : Option CStr
  lastLuSeenPs : Option CStr
  vlrViaProxy : Option CStr
  sgsnViaProxy : Option CStr
  deriving DecidableEq

/-- A row of `auc_2g`. -/
structure Auc2gRow where
  subscriberId : Int
  algoId2g : Int
  ki : CStr
  deriving DecidableEq

/-- A row of `auc_3g`. -/
structure Auc3gRow where
  subscriberId : Int
  algoId3g : Int
  k : CStr
  op : Option CStr
  opc : Option CStr
  sqn : Nat
  indBitlen : Int
  deriving DecidableEq

/-- What is in the tables. -/
structure Contents where
  subscriber : List SubscriberRow
  auc2g : List Auc2gRow
  auc3g : List Auc3gRow
  deriving DecidableEq

/-- The constraints UNIQUE and PRIMARY KEY; NULLs are different from each other. -/
def Contents.Valid (c : Contents) : Prop :=
  (c.subscriber.map SubscriberRow.id).Nodup ∧ (c.subscriber.map SubscriberRow.imsi).Nodup ∧
    (c.subscriber.filterMap SubscriberRow.msisdn).Nodup ∧
    (c.auc2g.map Auc2gRow.subscriberId).Nodup ∧ (c.auc3g.map Auc3gRow.subscriberId).Nodup

instance (c : Contents) : Decidable c.Valid :=
  inferInstanceAs (Decidable (_ ∧ _ ∧ _ ∧ _ ∧ _))

/-- Tables that meet their constraints. -/
structure Tables extends Contents where
  valid : toContents.Valid

theorem Tables.ext {t t' : Tables} (h : t.toContents = t'.toContents) : t = t' := by
  cases t
  cases t'
  cases h
  rfl

instance : DecidableEq Tables := fun t t' =>
  decidable_of_iff (t.toContents = t'.toContents) ⟨Tables.ext, fun h => congrArg _ h⟩

/-- Tables without rows. -/
def Tables.empty : Tables := ⟨⟨[], [], []⟩, by decide⟩

/-- The row of a subscriber. -/
def Contents.subscriberById (c : Contents) (id : Int) : Option SubscriberRow :=
  c.subscriber.find? fun row => row.id = id

/-- Whether there is a subscriber with an id. -/
def Contents.HasSubscriber (c : Contents) (id : Int) : Prop := ∃ row ∈ c.subscriber, row.id = id

instance (c : Contents) (id : Int) : Decidable (c.HasSubscriber id) :=
  inferInstanceAs (Decidable (∃ row ∈ c.subscriber, row.id = id))

/-! ## Statements -/

/-- What a statement leaves in the tables, and how many rows it changes. -/
abbrev Stmt := Contents → Contents × Nat

/-- `UPDATE subscriber SET … WHERE …` -/
def updateSubscriber (cond : SubscriberRow → Bool) (set : SubscriberRow → SubscriberRow) : Stmt :=
  fun c => ({ c with subscriber := c.subscriber.map fun row => if cond row then set row else row },
    c.subscriber.countP cond)

/-- `DB_STMT_UPD_VLR_BY_ID` -/
def updVlrById (subscriberId : Int) (number : CStr) (proxy : Option CStr) : Stmt :=
  updateSubscriber (fun row => row.id = subscriberId) fun row =>
    { row with vlrNumber := some number, vlrViaProxy := proxy }

/-- `DB_STMT_UPD_SGSN_BY_ID` -/
def updSgsnById (subscriberId : Int) (number : CStr) (proxy : Option CStr) : Stmt :=
  updateSubscriber (fun row => row.id = subscriberId) fun row =>
    { row with sgsnNumber := some number, sgsnViaProxy := proxy }

/-- `DB_STMT_UPD_IMEI_BY_IMSI` -/
def updImeiByImsi (imei : Option CStr) (imsi : CStr) : Stmt :=
  updateSubscriber (fun row => row.imsi = imsi) fun row => { row with imei := imei }

/-- `DB_STMT_UPD_PURGE_CS_BY_IMSI` -/
def updPurgeCsByImsi (val : Bool) (imsi : CStr) : Stmt :=
  updateSubscriber (fun row => row.imsi = imsi) fun row => { row with msPurgedCs := val }

/-- `DB_STMT_UPD_PURGE_PS_BY_IMSI` -/
def updPurgePsByImsi (val : Bool) (imsi : CStr) : Stmt :=
  updateSubscriber (fun row => row.imsi = imsi) fun row => { row with msPurgedPs := val }

/-- `DB_STMT_UPD_NAM_CS_BY_IMSI` -/
def updNamCsByImsi (val : Bool) (imsi : CStr) : Stmt :=
  updateSubscriber (fun row => row.imsi = imsi) fun row => { row with namCs := val }

/-- `DB_STMT_UPD_NAM_PS_BY_IMSI` -/
def updNamPsByImsi (val : Bool) (imsi : CStr) : Stmt :=
  updateSubscriber (fun row => row.imsi = imsi) fun row => { row with namPs := val }

/-- `DB_STMT_SET_MSISDN_BY_IMSI` -/
def setMsisdnByImsi (msisdn imsi : CStr) : Stmt :=
  updateSubscriber (fun row => row.imsi = imsi) fun row => { row with msisdn := some msisdn }

/-- `DB_STMT_DELETE_MSISDN_BY_IMSI` -/
def deleteMsisdnByImsi (imsi : CStr) : Stmt :=
  updateSubscriber (fun row => row.imsi = imsi) fun row => { row with msisdn := none }

/-- `DB_STMT_SET_LAST_LU_SEEN`, where the time has gone through `datetime` already. -/
def setLastLuSeen (datetime : Option CStr) (subscriberId : Int) : Stmt :=
  updateSubscriber (fun row => row.id = subscriberId) fun row => { row with lastLuSeen := datetime }

/-- `DB_STMT_SET_LAST_LU_SEEN_PS` -/
def setLastLuSeenPs (datetime : Option CStr) (subscriberId : Int) : Stmt :=
  updateSubscriber (fun row => row.id = subscriberId) fun row =>
    { row with lastLuSeenPs := datetime }

/-- The id that SQLite gives to a new row: one more than the largest, and any that it finds when
that is the largest there is. -/
def newRowid (ids : List Int) (found : Int) : Int :=
  match ids.max? with
  | none => 1
  | some id => if id < 2 ^ 63 - 1 then id + 1 else found

/-- `DB_STMT_SUBSCR_CREATE` -/
def subscrCreate (found : Int) (imsi : CStr) (namCs namPs : Bool) : Stmt := fun c =>
  ({ c with subscriber := c.subscriber ++
      [{ id := newRowid (c.subscriber.map SubscriberRow.id) found
         imsi := imsi, msisdn := none, imei := none
         vlrNumber := none, sgsnNumber := none, sgsnAddress := none
         periodicLuTmr := none, periodicRauTauTmr := none
         namCs := namCs, namPs := namPs, lmsi := none
         msPurgedCs := false, msPurgedPs := false
         lastLuSeen := none, lastLuSeenPs := none
         vlrViaProxy := none, sgsnViaProxy := none }] }, 1)

/-- `DB_STMT_DEL_BY_ID` -/
def delById (subscriberId : Int) : Stmt := fun c =>
  ({ c with subscriber := c.subscriber.filter fun row => row.id ≠ subscriberId },
    c.subscriber.countP fun row => row.id = subscriberId)

/-- `DB_STMT_AUC_2G_INSERT` -/
def auc2gInsert (row : Auc2gRow) : Stmt := fun c => ({ c with auc2g := c.auc2g ++ [row] }, 1)

/-- `DB_STMT_AUC_2G_DELETE` -/
def auc2gDelete (subscriberId : Int) : Stmt := fun c =>
  ({ c with auc2g := c.auc2g.filter fun row => row.subscriberId ≠ subscriberId },
    c.auc2g.countP fun row => row.subscriberId = subscriberId)

/-- `DB_STMT_AUC_3G_INSERT`, where `sqn` has its default. -/
def auc3gInsert (row : Auc3gRow) : Stmt := fun c =>
  ({ c with auc3g := c.auc3g ++ [{ row with sqn := 0 }] }, 1)

/-- `DB_STMT_AUC_3G_DELETE` -/
def auc3gDelete (subscriberId : Int) : Stmt := fun c =>
  ({ c with auc3g := c.auc3g.filter fun row => row.subscriberId ≠ subscriberId },
    c.auc3g.countP fun row => row.subscriberId = subscriberId)

/-- `DB_STMT_AUC_UPD_SQN` -/
def aucUpdSqn (sqn : Nat) (subscriberId : Int) : Stmt := fun c =>
  ({ c with auc3g := c.auc3g.map fun row =>
      if row.subscriberId = subscriberId then { row with sqn := sqn } else row },
    c.auc3g.countP fun row => row.subscriberId = subscriberId)

/-! ## Execution -/

/-- What goes wrong with a statement that is not the statement's fault: bindings, of which the first
is number 0, and the execution. -/
structure Faults where
  bind : Nat → Bool
  step : Bool

/-- Nothing goes wrong. -/
def Faults.none : Faults := ⟨fun _ => false, false⟩

/-- Whether one of the first `n` bindings goes wrong. -/
def Faults.binds (f : Faults) (n : Nat) : Bool := (List.range n).any f.bind

/-- What `sqlite3_step` leaves: whether it returns `SQLITE_DONE`, and `sqlite3_changes`. -/
structure Stepped where
  done : Bool
  changes : Nat
  tables : Tables

/-- `sqlite3_step` of a statement that returns no row. -/
def Tables.exec (f : Faults) (t : Tables) (stmt : Stmt) : Stepped :=
  if f.step then ⟨false, 0, t⟩
  else if h : (stmt t.toContents).1.Valid then ⟨true, (stmt t.toContents).2, ⟨_, h⟩⟩
  else ⟨false, 0, t⟩

variable {f : Faults} {t : Tables} {stmt : Stmt}

/-- **A statement that fails changes nothing.** -/
theorem exec_of_not_done (h : (t.exec f stmt).done = false) : (t.exec f stmt).tables = t := by
  unfold Tables.exec at h ⊢
  split
  · rfl
  next hstep =>
      split
      next hvalid =>
          rw [if_neg hstep, dif_pos hvalid] at h
          cases h
      next => rfl

/-- What a statement does that does not fail. -/
theorem exec_of_done (h : (t.exec f stmt).done = true) :
    f.step = false ∧ (t.exec f stmt).tables.toContents = (stmt t.toContents).1 ∧
      (t.exec f stmt).changes = (stmt t.toContents).2 := by
  unfold Tables.exec at h ⊢
  split
  next hstep =>
      rw [if_pos hstep] at h
      cases h
  next hstep =>
      split
      next hvalid => exact ⟨by simpa using hstep, rfl, rfl⟩
      next hvalid =>
          rw [if_neg hstep, dif_neg hvalid] at h
          cases h

/-- A statement fails if something goes wrong, or a constraint would not be met. -/
theorem exec_done_iff :
    (t.exec f stmt).done = true ↔ f.step = false ∧ (stmt t.toContents).1.Valid := by
  unfold Tables.exec
  split
  next hstep => simp [hstep]
  next hstep =>
      split
      next hvalid => simp [hstep, hvalid]
      next hvalid => simp [hvalid]

end Db
end OsmoHlr
