import OsmoHlr.Lib.Sql

/-!
# The schema, version by version

What `sql/hlr.sql` creates, and what the functions `db_upgrade_v1` to `db_upgrade_v5` of
`src/db.c` do to a database of an earlier version.  The versions differ in the table
`subscriber` only.

* `stmtBootstrapSql`, `dbUpgradePath` — the statements.
* `subscriberColumns` — the columns of `subscriber` in each version.
* `IsVersion` — a database of a version, with any contents.
-/

namespace OsmoHlr
namespace Schema

/-! ## Names and types -/

/-- The tables. -/
inductive TableName where
  | subscriber
  | subscriberBackup
  | subscriberApn
  | subscriberMultiMsisdn
  | auc2g
  | auc3g
  deriving DecidableEq

/-- The columns of the tables. -/
inductive Column where
  | id
  | imsi
  | msisdn
  | imeisv
  | imei
  | vlrNumber
  | hlrNumber
  | mscNumber
  | sgsnNumber
  | sgsnAddress
  | ggsnNumber
  | gmlcNumber
  | smscNumber
  | periodicLuTmr
  | periodicRauTauTmr
  | namCs
  | namPs
  | lmsi
  | msPurgedCs
  | msPurgedPs
  | lastLuSeen
  | lastLuSeenPs
  | vlrViaProxy
  | sgsnViaProxy
  | subscriberId
  | apn
  | algoId2g
  | ki
  | algoId3g
  | k
  | op
  | opc
  | sqn
  | indBitlen
  deriving DecidableEq

/-- The indexes. -/
inductive IndexName where
  | idxSubscrImsi
  deriving DecidableEq

/-- The declared types. -/
inductive ColType where
  | integer
  | varchar (n : Option Nat)
  | boolean
  | timestamp
  deriving DecidableEq

/-- A value other than NULL. -/
inductive Val where
  | integer (n : Int)
  | real (bits : UInt64)
  | text (s : List UInt8)
  | blob (b : List UInt8)
  deriving DecidableEq

/-- A column, as it is declared. -/
abbrev ColumnDef := Sql.ColumnDef Column ColType Val

/-- A table. -/
abbrev Table := Sql.Table Column ColType Val

/-- A database file. -/
abbrev File := Sql.File TableName Column IndexName ColType Val

/-- A connection to a database. -/
abbrev Conn := Sql.Conn TableName Column IndexName ColType Val

/-- A statement. -/
abbrev Stmt := Sql.Stmt TableName Column IndexName ColType Val

/-- What SQLite makes of a value that is stored in a column, by the declared type. -/
abbrev Affinity := ColType → Val → Val

/-- A column without constraints. -/
def plain (name : Column) (type : ColType) : ColumnDef := ⟨name, type, false, false, false, none⟩

/-- `INTEGER PRIMARY KEY` -/
def primaryKey (name : Column) : ColumnDef := ⟨name, .integer, false, false, true, none⟩

/-- `NOT NULL` -/
def notNull (name : Column) (type : ColType) : ColumnDef := ⟨name, type, true, false, false, none⟩

/-- `NOT NULL DEFAULT …` -/
def notNullDefault (name : Column) (type : ColType) (n : Int) : ColumnDef :=
  ⟨name, type, true, false, false, some (some (.integer n))⟩

/-- `default NULL` -/
def defaultNull (name : Column) (type : ColType) : ColumnDef :=
  ⟨name, type, false, false, false, some none⟩

/-! ## `subscriber` -/

/-- The columns of version 0. -/
def subscrV0Create : List ColumnDef :=
  [primaryKey .id,
    ⟨.imsi, .varchar (some 15), true, true, false, none⟩,
    ⟨.msisdn, .varchar (some 15), false, true, false, none⟩,
    plain .imeisv (.varchar none),
    plain .vlrNumber (.varchar (some 15)),
    plain .hlrNumber (.varchar (some 15)),
    plain .sgsnNumber (.varchar (some 15)),
    plain .sgsnAddress (.varchar none),
    plain .ggsnNumber (.varchar (some 15)),
    plain .gmlcNumber (.varchar (some 15)),
    plain .smscNumber (.varchar (some 15)),
    plain .periodicLuTmr .integer,
    plain .periodicRauTauTmr .integer,
    notNullDefault .namCs .boolean 1,
    notNullDefault .namPs .boolean 1,
    plain .lmsi .integer,
    notNullDefault .msPurgedCs .boolean 0,
    notNullDefault .msPurgedPs .boolean 0]

/-- `SUBSCR_V3_CREATE` -/
def subscrV3Create : List ColumnDef :=
  [primaryKey .id,
    ⟨.imsi, .varchar (some 15), true, true, false, none⟩,
    ⟨.msisdn, .varchar (some 15), false, true, false, none⟩,
    plain .imeisv (.varchar none),
    plain .imei (.varchar (some 14)),
    plain .vlrNumber (.varchar (some 15)),
    plain .mscNumber (.varchar (some 15)),
    plain .sgsnNumber (.varchar (some 15)),
    plain .sgsnAddress (.varchar none),
    plain .ggsnNumber (.varchar (some 15)),
    plain .gmlcNumber (.varchar (some 15)),
    plain .smscNumber (.varchar (some 15)),
    plain .periodicLuTmr .integer,
    plain .periodicRauTauTmr .integer,
    notNullDefault .namCs .boolean 1,
    notNullDefault .namPs .boolean 1,
    plain .lmsi .integer,
    notNullDefault .msPurgedCs .boolean 0,
    notNullDefault .msPurgedPs .boolean 0,
    defaultNull .lastLuSeen .timestamp]

/-- `SUBSCR_V2_COLUMN_NAMES` -/
def subscrV2ColumnNames : List Column :=
  [.id, .imsi, .msisdn, .imeisv, .imei, .vlrNumber, .hlrNumber, .sgsnNumber, .sgsnAddress,
    .ggsnNumber, .gmlcNumber, .smscNumber, .periodicLuTmr, .periodicRauTauTmr, .namCs, .namPs,
    .lmsi, .msPurgedCs, .msPurgedPs, .lastLuSeen]

/-- `SUBSCR_V3_COLUMN_NAMES` -/
def subscrV3ColumnNames : List Column :=
  [.id, .imsi, .msisdn, .imeisv, .imei, .vlrNumber, .mscNumber, .sgsnNumber, .sgsnAddress,
    .ggsnNumber, .gmlcNumber, .smscNumber, .periodicLuTmr, .periodicRauTauTmr, .namCs, .namPs,
    .lmsi, .msPurgedCs, .msPurgedPs, .lastLuSeen]

/-! ## Upgrades -/

/-- `db_upgrade_v1` -/
def dbUpgradeV1 : List Stmt :=
  [.addColumn .subscriber (defaultNull .lastLuSeen .timestamp), .setUserVersion 1]

/-- `db_upgrade_v2` -/
def dbUpgradeV2 : List Stmt :=
  [.addColumn .subscriber (plain .imei (.varchar (some 14))), .setUserVersion 2]

/-- `db_upgrade_v3` -/
def dbUpgradeV3 : List Stmt :=
  [.begin,
    .createTable true .subscriberBackup subscrV3Create,
    .insertSelect .subscriberBackup subscrV2ColumnNames .subscriber,
    .dropTable .subscriber,
    .createTable false .subscriber subscrV3Create,
    .insertSelect .subscriber subscrV3ColumnNames .subscriberBackup,
    .dropTable .subscriberBackup,
    .commit,
    .setUserVersion 3]

/-- `db_upgrade_v4` -/
def dbUpgradeV4 : List Stmt :=
  [.addColumn .subscriber (defaultNull .lastLuSeenPs .timestamp), .setUserVersion 4]

/-- `db_upgrade_v5` -/
def dbUpgradeV5 : List Stmt :=
  [.addColumn .subscriber (plain .vlrViaProxy (.varchar none)),
    .addColumn .subscriber (plain .sgsnViaProxy (.varchar none)),
    .setUserVersion 5]

/-- `db_upgrade_path` -/
def dbUpgradePath : List (List Stmt) :=
  [dbUpgradeV1, dbUpgradeV2, dbUpgradeV3, dbUpgradeV4, dbUpgradeV5]

/-! ## `sql/hlr.sql` -/

/-- `CREATE TABLE subscriber` -/
def subscriberCreate : List ColumnDef :=
  [primaryKey .id,
    ⟨.imsi, .varchar (some 15), true, true, false, none⟩,
    ⟨.msisdn, .varchar (some 15), false, true, false, none⟩,
    plain .imeisv (.varchar none),
    plain .imei (.varchar (some 14)),
    plain .vlrNumber (.varchar (some 15)),
    plain .mscNumber (.varchar (some 15)),
    plain .sgsnNumber (.varchar (some 15)),
    plain .sgsnAddress (.varchar none),
    plain .ggsnNumber (.varchar (some 15)),
    plain .gmlcNumber (.varchar (some 15)),
    plain .smscNumber (.varchar (some 15)),
    plain .periodicLuTmr .integer,
    plain .periodicRauTauTmr .integer,
    notNullDefault .namCs .boolean 1,
    notNullDefault .namPs .boolean 1,
    plain .lmsi .integer,
    notNullDefault .msPurgedCs .boolean 0,
    notNullDefault .msPurgedPs .boolean 0,
    defaultNull .lastLuSeen .timestamp,
    defaultNull .lastLuSeenPs .timestamp,
    plain .vlrViaProxy (.varchar none),
    plain .sgsnViaProxy (.varchar none)]

/-- `CREATE TABLE subscriber_apn` -/
def subscriberApnCreate : List ColumnDef :=
  [plain .subscriberId .integer, notNull .apn (.varchar (some 256))]

/-- `CREATE TABLE subscriber_multi_msisdn` -/
def subscriberMultiMsisdnCreate : List ColumnDef :=
  [plain .subscriberId .integer, notNull .msisdn (.varchar (some 15))]

/-- `CREATE TABLE auc_2g` -/
def auc2gCreate : List ColumnDef :=
  [primaryKey .subscriberId, notNull .algoId2g .integer, notNull .ki (.varchar (some 32))]

/-- `CREATE TABLE auc_3g` -/
def auc3gCreate : List ColumnDef :=
  [primaryKey .subscriberId, notNull .algoId3g .integer, notNull .k (.varchar (some 32)),
    plain .op (.varchar (some 32)), plain .opc (.varchar (some 32)),
    notNullDefault .sqn .integer 0, notNullDefault .indBitlen .integer 5]

/-- `stmt_bootstrap_sql` -/
def stmtBootstrapSql : List Stmt :=
  [.createTable false .subscriber subscriberCreate,
    .createTable false .subscriberApn subscriberApnCreate,
    .createTable false .subscriberMultiMsisdn subscriberMultiMsisdnCreate,
    .createTable false .auc2g auc2gCreate,
    .createTable false .auc3g auc3gCreate,
    .createUniqueIndex .idxSubscrImsi .subscriber .imsi,
    .setUserVersion 5]

/-! ## Versions -/

/-- The columns of `subscriber` in a version of the schema. -/
def subscriberColumns : Nat → List ColumnDef
  | 0 => subscrV0Create
  | 1 => subscrV0Create ++ [defaultNull .lastLuSeen .timestamp]
  | 2 => subscrV0Create ++ [defaultNull .lastLuSeen .timestamp, plain .imei (.varchar (some 14))]
  | 3 => subscrV3Create
  | 4 => subscrV3Create ++ [defaultNull .lastLuSeenPs .timestamp]
  | _ => subscriberCreate

/-- The columns of the tables, given those of `subscriber`; the backup is no table of the
schema. -/
def tableColumns (subscriber : List ColumnDef) : TableName → Option (List ColumnDef)
  | .subscriber => some subscriber
  | .subscriberBackup => none
  | .subscriberApn => some subscriberApnCreate
  | .subscriberMultiMsisdn => some subscriberMultiMsisdnCreate
  | .auc2g => some auc2gCreate
  | .auc3g => some auc3gCreate

/-- The tables have the columns that they are to have, in any order, and any contents that meet the
constraints.  The index on the IMSIs may be missing, as it is when the table has been created anew
by an upgrade. -/
structure HasTables (aff : Affinity) (subscriber : List ColumnDef) (file : File) : Prop where
  tables : ∀ t columns, tableColumns subscriber t = some columns →
    ∃ tab, file.tables t = some tab ∧ tab.columns.Perm columns ∧ tab.Valid aff
  backup : file.tables .subscriberBackup = none
  indexes : ∀ i ∈ file.indexes, i = (.idxSubscrImsi, .subscriber, .imsi)

/-- **A database of a version**, with any contents. -/
structure IsVersion (aff : Affinity) (version : Nat) (file : File) : Prop where
  userVersion : file.userVersion = version
  hasTables : HasTables aff (subscriberColumns version) file

end Schema
end OsmoHlr
