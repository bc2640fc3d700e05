import OsmoHlr.Db.Schema

/-!
# Opening the database

`db_open` of `src/db.c`: an empty database is bootstrapped, an older one is upgraded, one
version after the other, and the statements that the program needs are prepared.  The
process may be killed between any two statements that it executes; a connection that is
closed, for whatever reason, leaves the same file as one that is killed.

* `dbOpen` — the states that the connection passes through, and the one that is returned.
* `leftAfter` — what is left in the file when so many statements have been executed.
* `recorded` — whether `user_version` says then what has been done to the schema.
-/

namespace OsmoHlr
namespace Schema

open Sql

/-- `CURRENT_SCHEMA_VERSION` -/
def currentSchemaVersion : Int := 5

/-! ## Statements that are prepared -/

/-- `SEL_COLUMNS` -/
def selColumns : List Column :=
  [.id, .imsi, .msisdn, .imei, .vlrNumber, .sgsnNumber, .sgsnAddress, .periodicLuTmr,
    .periodicRauTauTmr, .namCs, .namPs, .lmsi, .msPurgedCs, .msPurgedPs, .lastLuSeen,
    .lastLuSeenPs, .vlrViaProxy, .sgsnViaProxy]

/-- `stmt_sql`: the columns that each of the statements refers to. -/
def stmtSql : List (List (TableName × List Column)) :=
  [[(.subscriber, selColumns ++ [.imsi])],
    [(.subscriber, selColumns ++ [.msisdn])],
    [(.subscriber, selColumns ++ [.id])],
    [(.subscriber, selColumns ++ [.imei])],
    [(.subscriber, [.vlrNumber, .vlrViaProxy, .id])],
    [(.subscriber, [.sgsnNumber, .sgsnViaProxy, .id])],
    [(.subscriber, [.imei, .imsi])],
    [(.subscriber, [.id, .imsi]), (.auc2g, [.algoId2g, .ki, .subscriberId]),
      (.auc3g, [.algoId3g, .k, .op, .opc, .sqn, .indBitlen, .subscriberId])],
    [(.auc3g, [.sqn, .subscriberId])],
    [(.subscriber, [.msPurgedCs, .imsi])],
    [(.subscriber, [.msPurgedPs, .imsi])],
    [(.subscriber, [.namCs, .imsi])],
    [(.subscriber, [.namPs, .imsi])],
    [(.subscriber, [.imsi, .namCs, .namPs])],
    [(.subscriber, [.id])],
    [(.subscriber, [.msisdn, .imsi])],
    [(.subscriber, [.msisdn, .imsi])],
    [(.auc2g, [.subscriberId, .algoId2g, .ki])],
    [(.auc2g, [.subscriberId])],
    [(.auc3g, [.subscriberId, .algoId3g, .k, .op, .opc, .indBitlen])],
    [(.auc3g, [.subscriberId])],
    [(.subscriber, [.lastLuSeen, .id])],
    [(.subscriber, [.lastLuSeenPs, .id])],
    [(.subscriber, [.imsi])],
    [(.subscriber, [.msisdn])]]

/-- `sqlite3_prepare_v2`: the statement refers to nothing that is not there. -/
def prepares (c : Conn) (stmt : List (TableName × List Column)) : Bool :=
  stmt.all fun ref =>
    match c.table ref.1 with
    | none => false
    | some tab => ref.2.all fun column => column ∈ tab.names

/-! ## `db_open` -/

/-- What `db_open` does: the states that the connection passes through, one for each statement
that is executed, and the one that is returned. -/
abbrev Opened := List Conn × Option Conn

/-- `db_is_bootstrapped_v0` -/
def dbIsBootstrappedV0 (c : Conn) : Bool := (c.file.tables .subscriber).isSome

/-- The loop over `db_upgrade_path` -/
def dbUpgrade (aff : Affinity) (c : Conn) : List (List Stmt) → Opened
  | [] => ([], some c)
  | upgradeFunc :: path =>
      let r := run aff c upgradeFunc
      match r.2 with
      | none => r
      | some c' =>
          let r' := dbUpgrade aff c' path
          (r.1 ++ r'.1, r'.2)

/-- The version is what it is to be, and all statements are prepared. -/
def dbCheck (version : Int) (c : Conn) : Option Conn :=
  if version ≠ currentSchemaVersion then none
  else if stmtSql.all (prepares c) then some c
  else none

/-- `db_open` of an older database, from the loop on. -/
def dbOpenVersion (aff : Affinity) (allowUpgrade : Bool) (version : Int) (c : Conn) : Opened :=
  if allowUpgrade ∧ version < dbUpgradePath.length then
    let r := dbUpgrade aff c (dbUpgradePath.drop version.toNat)
    (r.1, r.2.bind (dbCheck dbUpgradePath.length))
  else ([], dbCheck version c)

/-- `db_open` -/
def dbOpen (aff : Affinity) (allowUpgrade : Bool) (file : File) : Opened :=
  let c := Conn.open file
  let version := c.file.userVersion
  if version < 0 then ([], none)
  else if version = 0 ∧ ¬dbIsBootstrappedV0 c then
    let r := run aff c stmtBootstrapSql
    match r.2 with
    | none => r
    | some c' =>
        let r' := dbOpenVersion aff allowUpgrade currentSchemaVersion c'
        (r.1 ++ r'.1, r'.2)
  else dbOpenVersion aff allowUpgrade version c

/-! ## Killed in between -/

/-- What is left in the file when the process is killed after so many of the states that it passes
through. -/
def killedAfter (file : File) (passed : List Conn) (n : Nat) : File :=
  ((passed.take n).getLastD (Conn.open file)).killed

/-- What is left in the file when the process is killed after so many statements. -/
def leftAfter (aff : Affinity) (allowUpgrade : Bool) (file : File) (n : Nat) : File :=
  killedAfter file (dbOpen aff allowUpgrade file).1 n

/-- Whether `user_version` says what has been done to the schema, and whether a transaction is
open. -/
structure Progress where
  recorded : Bool
  inTransaction : Bool
  deriving DecidableEq

/-- A statement is executed.  What is done in a transaction counts when it is committed. -/
def Progress.next (p : Progress) : Stmt → Progress
  | .begin => { p with inTransaction := true }
  | .commit => ⟨false, false⟩
  | .setUserVersion _ => if p.inTransaction then p else ⟨true, false⟩
  | _ => if p.inTransaction then p else ⟨false, false⟩

/-- The last of the statements that has taken effect has set `user_version`, or there is none. -/
def recorded (stmts : List Stmt) : Bool := (stmts.foldl Progress.next ⟨true, false⟩).recorded

/-- The statements that `db_open` executes, if none fails. -/
def statements (file : File) : List Stmt :=
  if file.userVersion = 0 ∧ ¬(file.tables .subscriber).isSome then stmtBootstrapSql
  else (dbUpgradePath.drop file.userVersion.toNat).flatten

/-! ## All the statements of a run -/

/-- The loop executes the statements of all the functions, one after the other. -/
theorem dbUpgrade_eq (aff : Affinity) (c : Conn) (path : List (List Stmt)) :
    dbUpgrade aff c path = run aff c path.flatten := by
  induction path generalizing c with
  | nil => rfl
  | cons upgradeFunc path ih =>
      rw [dbUpgrade, List.flatten_cons]
      cases hrun : (run aff c upgradeFunc).2 with
      | none => rw [run_append_of_none aff hrun]
      | some c' =>
          rw [run_append aff hrun]
          simp only [ih c']

end Schema
end OsmoHlr
