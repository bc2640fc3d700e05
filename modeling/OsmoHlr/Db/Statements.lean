import OsmoHlr.Auc.Auc
import OsmoHlr.Db.LeftoverKeys

/-!
# Statements of operations

Which statements the operations of `src/db_hlr.c` execute, and what they have checked by then.  What
can be said of each statement, from the contents before it to those after it, can be said of the
operations, whatever goes wrong with them, and of any number of them.

* `Op.Executes` — the statements of an operation.
* `run_rel` — from its statements to an operation.
* `Wrote`, `Wrote.rel` — operations one after the other; from statements to all of them.
-/

namespace OsmoHlr
namespace Db

open CString CniPeerId Auc

/-- The statements that an operation executes, with what it has checked. -/
inductive Op.Executes (lib : DbLib) : Op → Stmt → Prop
  | create {f : Faults} {found : Int} {imsi : CStr} {flags : UInt8} (namCs namPs : Bool)
      (himsi : lib.imsiStrValid imsi = true) :
      Op.Executes lib (.create f found imsi flags) (subscrCreate found imsi namCs namPs)
  | delById {f : DeleteFaults} {id : Int} : Op.Executes lib (.deleteById f id) (delById id)
  | delAud {f : DeleteFaults} {id : Int} (type : AuthType) :
      Op.Executes lib (.deleteById f id) (Db.audDelete (noAud type) id)
  | deleteMsisdn {f : Faults} {imsi : CStr} :
      Op.Executes lib (.updateMsisdnByImsi f imsi none) (deleteMsisdnByImsi imsi)
  | setMsisdn {f : Faults} {imsi msisdn : CStr} (hmsisdn : lib.msisdnStrValid msisdn = true) :
      Op.Executes lib (.updateMsisdnByImsi f imsi (some msisdn)) (setMsisdnByImsi msisdn imsi)
  | audDelete {f : AudFaults} {id : Int} {aud : SubAuthDataStr} :
      Op.Executes lib (.updateAudById f id aud) (Db.audDelete aud id)
  | audInsert {f : AudFaults} {id : Int} {aud : SubAuthDataStr} (hvalid : audValid lib aud = true)
      (halgo : aud.algo ≠ .none) : Op.Executes lib (.updateAudById f id aud) (Db.audInsert aud id)
  | imei {f : Faults} {imsi : CStr} {imei : Option CStr}
      (himei : ∀ i ∈ imei, lib.imeiStrValid i = true) :
      Op.Executes lib (.updateImeiByImsi f imsi imei) (updImeiByImsi imei imsi)
  | nam {f : Faults} {imsi : CStr} {namVal isPs : Bool} :
      Op.Executes lib (.nam f imsi namVal isPs)
        (if isPs then updNamPsByImsi namVal imsi else updNamCsByImsi namVal imsi)
  | luNumber {f : LuFaults} {id : Int} {vlrName : CStr} {isPs : Bool} {viaProxy : Option CStr} :
      Op.Executes lib (.lu f id vlrName isPs viaProxy) (Db.luNumber id vlrName isPs viaProxy)
  | luTime {f : LuFaults} {id : Int} {vlrName : CStr} {isPs : Bool} {viaProxy : Option CStr}
      (datetime : Option CStr) :
      Op.Executes lib (.lu f id vlrName isPs viaProxy) (Db.luTime datetime id isPs)
  | purge {f : Faults} {imsi : CStr} {purgeVal isPs : Bool} :
      Op.Executes lib (.purge f imsi purgeVal isPs)
        (if isPs then updPurgePsByImsi purgeVal imsi else updPurgeCsByImsi purgeVal imsi)

/-! ## From statements to operations -/

/-- What can be said where nothing happens, and where one thing happens after the other. -/
structure Composes (R : Contents → Contents → Prop) : Prop where
  refl : ∀ c, R c c
  trans : ∀ {c c' c''}, R c c' → R c' c'' → R c c''

variable {lib : DbLib} {R : Contents → Contents → Prop} {stmt : Stmt}

theorem Composes.exec (hR : Composes R) (hstmt : ∀ c, R c (stmt c).1) (f : Faults) (t : Tables) :
    R t.toContents (t.exec f stmt).tables.toContents := by
  rcases exec_cases f t stmt with hsame | hset
  · rw [hsame]
    exact hR.refl _
  · rw [hset]
    exact hstmt _

theorem Composes.updateOne (hR : Composes R) (hstmt : ∀ c, R c (stmt c).1) (f : Faults) (n : Nat)
    (t : Tables) : R t.toContents (Db.updateOne f n t stmt).2.toContents := by
  rcases updateOne_snd_cases f n t stmt with hsame | hset
  · rw [hsame]
    exact hR.refl _
  · rw [hset]
    exact hstmt _

theorem Composes.create (hR : Composes R) (f : Faults) (found : Int) (t : Tables) (imsi : CStr)
    (flags : UInt8)
    (hcreate : lib.imsiStrValid imsi = true → ∀ namCs namPs c,
      R c (subscrCreate found imsi namCs namPs c).1) :
    R t.toContents (dbSubscrCreate lib f found t imsi flags).2.toContents := by
  unfold dbSubscrCreate
  split
  · exact hR.refl _
  next himsi =>
      have hcreate := hcreate (by simpa using himsi)
      split
      · exact hR.refl _
      · simp only
        split <;> exact hR.exec (hcreate _ _) f t

theorem Composes.deleteById (hR : Composes R) (f : DeleteFaults) (t : Tables) (id : Int)
    (hdel : ∀ c, R c (delById id c).1) (haud : ∀ type c, R c (audDelete (noAud type) id c).1) :
    R t.toContents (dbSubscrDeleteById lib f t id).2.toContents := by
  have hdeleted := hR.exec hdel f.del t
  unfold dbSubscrDeleteById
  split
  · exact hR.refl _
  · simp only [updateAud_noAud lib f.aud2g _ id (Or.inl rfl),
      updateAud_noAud lib f.aud3g _ id (Or.inr rfl)]
    split
    · exact hdeleted
    · have h2g := hR.trans hdeleted (hR.updateOne (haud .gsm) f.aud2g.del 1 _)
      exact hR.trans h2g (hR.updateOne (haud .umts) f.aud3g.del 1 _)

theorem Composes.updateAudById (hR : Composes R) (f : AudFaults) (t : Tables) (id : Int)
    (aud : SubAuthDataStr) (hdelete : ∀ c, R c (audDelete aud id c).1)
    (hinsert : audValid lib aud = true → aud.algo ≠ .none → ∀ c, R c (audInsert aud id c).1) :
    R t.toContents (dbSubscrUpdateAudById lib f t id aud).2.toContents := by
  have hdeleted := hR.updateOne hdelete f.del 1 t
  unfold dbSubscrUpdateAudById
  split
  · exact hR.refl _
  next hvalid =>
      simp only
      split
      · exact hdeleted
      · split
        · exact hdeleted
        next halgo =>
            split
            · exact hdeleted
            · have hinsert := hinsert (by simpa using hvalid) halgo
              have hinserted := hR.trans hdeleted (hR.exec hinsert f.ins _)
              split <;> exact hinserted

theorem Composes.lu (hR : Composes R) (f : LuFaults) (t : Tables) (id : Int) (vlrName : CStr)
    (isPs : Bool) (viaProxy : Option CStr)
    (hnumber : ∀ c, R c (luNumber id vlrName isPs viaProxy c).1)
    (htime : ∀ datetime c, R c (luTime datetime id isPs c).1) :
    R t.toContents (dbSubscrLu lib f t id vlrName isPs viaProxy).2.toContents := by
  have hstored := hR.updateOne hnumber f.number 3 t
  rw [dbSubscrLu_eq]
  simp only
  split
  · exact hstored
  · split
    · exact hstored
    · exact hR.trans hstored (hR.updateOne (htime _) f.lastLuSeen 2 _)

/-- **What can be said of its statements can be said of an operation**, whatever goes wrong. -/
theorem run_rel (hR : Composes R) (t : Tables) (op : Op)
    (h : ∀ stmt, op.Executes lib stmt → ∀ c, R c (stmt c).1) :
    R t.toContents (op.run lib t).2.toContents := by
  cases op with
  | create f found imsi flags =>
      exact hR.create f found t imsi flags fun himsi namCs namPs => h _ (.create namCs namPs himsi)
  | deleteById f id => exact hR.deleteById f t id (h _ .delById) fun type => h _ (.delAud type)
  | updateMsisdnByImsi f imsi msisdn =>
      cases msisdn with
      | none => exact hR.updateOne (h _ .deleteMsisdn) f 1 t
      | some msisdn =>
          rw [Op.run, dbSubscrUpdateMsisdnByImsi]
          split
          · exact hR.refl _
          next hvalid => exact hR.updateOne (h _ (.setMsisdn (by simpa using hvalid))) f 2 t
  | updateAudById f id aud =>
      exact hR.updateAudById f t id aud (h _ .audDelete) fun hvalid halgo =>
        h _ (.audInsert hvalid halgo)
  | updateImeiByImsi f imsi imei =>
      cases imei with
      | none => exact hR.updateOne (h _ (.imei fun _ hi => by cases hi)) f 1 t
      | some imei =>
          rw [Op.run, dbSubscrUpdateImeiByImsi]
          split
          · exact hR.refl _
          next hvalid => exact hR.updateOne (h _ (.imei (by simpa using hvalid))) f 2 t
  | nam f imsi namVal isPs => exact hR.updateOne (h _ .nam) f 2 t
  | lu f id vlrName isPs viaProxy =>
      exact hR.lu f t id vlrName isPs viaProxy (h _ .luNumber) fun datetime =>
        h _ (.luTime datetime)
  | purge f imsi purgeVal isPs => exact hR.updateOne (h _ .purge) f 2 t

/-! ## One after the other -/

/-- One operation on the database, out of some. -/
inductive WroteOne (lib : DbLib) (Does : Op → Prop) (t : Tables) : Tables → Prop
  | op (op : Op) (hdoes : Does op) : WroteOne lib Does t (op.run lib t).2
  | sqn (f : Faults) (id : Int) (sqn : Nat) : WroteOne lib Does t (dbUpdateSqn f t id sqn).2

/-- Operations on the database, one after the other. -/
abbrev Wrote (lib : DbLib) (Does : Op → Prop) : Tables → Tables → Prop :=
  Relation.ReflTransGen (WroteOne lib Does)

variable {Does Does' : Op → Prop} {t t' : Tables}

theorem wrote_op (lib : DbLib) (t : Tables) (op : Op) (h : Does op) :
    Wrote lib Does t (op.run lib t).2 :=
  .single (.op op h)

/-- **What can be said of the statements can be said of all operations together.** -/
theorem Wrote.rel (hwrote : Wrote lib Does t t') (hR : Composes R)
    (hop : ∀ op, Does op → ∀ stmt, op.Executes lib stmt → ∀ c, R c (stmt c).1)
    (hsqn : ∀ sqn id c, R c (aucUpdSqn sqn id c).1) : R t.toContents t'.toContents := by
  induction hwrote with
  | refl => exact hR.refl _
  | tail _ hone ih =>
      cases hone with
      | op op hdoes => exact hR.trans ih (run_rel hR _ op (hop op hdoes))
      | sqn f id sqn => exact hR.trans ih (hR.updateOne (hsqn sqn id) f 2 _)

end Db
end OsmoHlr
