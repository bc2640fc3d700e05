import OsmoHlr.Db.Upgrade

/-!
# An empty database, and the schema of the current version

`sql/hlr.sql` is maintained apart from the upgrade path.  A database that it creates and one
that has been upgraded have the same columns with the same constraints.

* `run_bootstrap` — what the statements of `sql/hlr.sql` do, one after the other.
* `upgrade_agrees_with_bootstrap` — both ways lead to the same schema.
-/

namespace OsmoHlr
namespace Schema

open Sql

variable {aff : Affinity} {file file' : File}

/-! ## Bootstrapping -/

/-- A table without rows. -/
def emptyTable (columns : List ColumnDef) : Table := ⟨columns, []⟩

/-- What `sql/hlr.sql` creates. -/
def bootstrapped : File where
  tables t := (tableColumns subscriberCreate t).map emptyTable
  indexes := [(.idxSubscrImsi, .subscriber, .imsi)]
  userVersion := 5

/-- The databases in between. -/
def bootstrapping : List File :=
  let f₁ := (File.empty : File).setTable .subscriber (some (emptyTable subscriberCreate))
  let f₂ := f₁.setTable .subscriberApn (some (emptyTable subscriberApnCreate))
  let f₃ := f₂.setTable .subscriberMultiMsisdn (some (emptyTable subscriberMultiMsisdnCreate))
  let f₄ := f₃.setTable .auc2g (some (emptyTable auc2gCreate))
  let f₅ := f₄.setTable .auc3g (some (emptyTable auc3gCreate))
  let f₆ := { f₅ with indexes := [(.idxSubscrImsi, .subscriber, .imsi)] }
  [f₁, f₂, f₃, f₄, f₅, f₆]

/-- **What `db_bootstrap` does.** -/
theorem run_bootstrap (aff : Affinity) :
    run aff (Conn.open File.empty) stmtBootstrapSql =
      (bootstrapping.map Conn.open ++ [Conn.open bootstrapped], some (Conn.open bootstrapped)) := by
  let f₁ := (File.empty : File).setTable .subscriber (some (emptyTable subscriberCreate))
  let f₂ := f₁.setTable .subscriberApn (some (emptyTable subscriberApnCreate))
  let f₃ := f₂.setTable .subscriberMultiMsisdn (some (emptyTable subscriberMultiMsisdnCreate))
  let f₄ := f₃.setTable .auc2g (some (emptyTable auc2gCreate))
  let f₅ := f₄.setTable .auc3g (some (emptyTable auc3gCreate))
  let f₆ : File := { f₅ with indexes := [(.idxSubscrImsi, .subscriber, .imsi)] }
  have h₁ : exec aff (Conn.open File.empty) (.createTable false .subscriber subscriberCreate) =
      some (Conn.open f₁) := rfl
  have h₂ : exec aff (Conn.open f₁) (.createTable false .subscriberApn subscriberApnCreate) =
      some (Conn.open f₂) := rfl
  have h₃ : exec aff (Conn.open f₂)
      (.createTable false .subscriberMultiMsisdn subscriberMultiMsisdnCreate) =
      some (Conn.open f₃) := rfl
  have h₄ : exec aff (Conn.open f₃) (.createTable false .auc2g auc2gCreate) =
      some (Conn.open f₄) := rfl
  have h₅ : exec aff (Conn.open f₄) (.createTable false .auc3g auc3gCreate) =
      some (Conn.open f₅) := rfl
  have h₆ : exec aff (Conn.open f₅) (.createUniqueIndex .idxSubscrImsi .subscriber .imsi) =
      some (Conn.open f₆) := rfl
  have h₇ : exec aff (Conn.open f₆) (.setUserVersion 5) = some (Conn.open bootstrapped) := by
    have htables : f₆.tables = bootstrapped.tables := by
      funext t
      cases t <;> rfl
    refine congrArg some ?_
    show Conn.open { f₆ with userVersion := 5 } = Conn.open bootstrapped
    rw [htables]
    rfl
  unfold stmtBootstrapSql
  rw [run_cons_of_some aff h₁, run_cons_of_some aff h₂, run_cons_of_some aff h₃,
    run_cons_of_some aff h₄, run_cons_of_some aff h₅, run_cons_of_some aff h₆,
    run_cons_of_some aff h₇]
  rfl

/-- In between, there are subscribers, and the version is that of an empty database. -/
theorem bootstrapping_spec : ∀ f ∈ bootstrapping,
    f.userVersion = 0 ∧ f.tables .subscriber = some (emptyTable subscriberCreate) := by
  unfold bootstrapping
  simp only [List.forall_mem_cons, List.not_mem_nil, false_imp_iff, implies_true, and_true]
  exact ⟨⟨rfl, rfl⟩, ⟨rfl, rfl⟩, ⟨rfl, rfl⟩, ⟨rfl, rfl⟩, ⟨rfl, rfl⟩, rfl, rfl⟩

theorem valid_emptyTable {columns : List ColumnDef}
    (h : (columns.map Sql.ColumnDef.name).Nodup) : (emptyTable columns).Valid aff where
  nodup := h
  length := by simp [emptyTable]
  stored := by simp [emptyTable, Table.column]
  ok := by
    intro col _
    simp [Sql.ColumnDef.Ok, emptyTable, Table.column]

theorem isVersion_bootstrapped : IsVersion aff 5 bootstrapped where
  userVersion := rfl
  hasTables :=
    { tables := by
        intro t columns ht
        have hall : ∀ t columns, tableColumns (subscriberColumns 5) t = some columns →
            (columns.map Sql.ColumnDef.name).Nodup := by
          intro t columns ht
          cases t <;> cases ht <;> decide
        have htab : bootstrapped.tables t = some (emptyTable columns) := congrArg (Option.map _) ht
        exact ⟨_, htab, List.Perm.refl _, valid_emptyTable (hall t columns ht)⟩
      backup := rfl
      indexes := by simp [bootstrapped] }

/-- `db_open` of an empty database. -/
theorem dbOpen_empty (aff : Affinity) :
    dbOpen aff true File.empty =
      (bootstrapping.map Conn.open ++ [Conn.open bootstrapped], some (Conn.open bootstrapped)) := by
  have hversion : ¬(Conn.open (File.empty : File)).file.userVersion < 0 := by decide
  have hempty : (Conn.open (File.empty : File)).file.userVersion = 0 ∧
      ¬dbIsBootstrappedV0 (Conn.open File.empty) = true := by decide
  have hcheck : dbOpenVersion aff true currentSchemaVersion (Conn.open bootstrapped) =
      ([], some (Conn.open bootstrapped)) := by
    have hcurrent : IsVersion aff 5 bootstrapped := isVersion_bootstrapped
    unfold dbOpenVersion
    rw [if_neg (by decide), dbCheck_current hcurrent]
  unfold dbOpen
  simp only
  rw [if_neg hversion, if_pos hempty, run_bootstrap]
  simp only
  rw [hcheck, List.append_nil]

/-! ## The schema -/

/-- No two rows have the same value in the column, by its declaration or by an index. -/
def IsUnique (file : File) (t : TableName) (c : Column) : Prop :=
  (∃ tab, file.tables t = some tab ∧
      ∃ col ∈ tab.columns, col.name = c ∧ (col.unique = true ∨ col.primaryKey = true)) ∨
    ∃ i ∈ file.indexes, i.2 = (t, c)

/-- The same tables, with the same columns of the same types, with the same defaults, of which the
same may not be NULL and the same are unique.  The order of the columns may be another one. -/
structure SameSchema (file file' : File) : Prop where
  userVersion : file.userVersion = file'.userVersion
  columns : ∀ t, Option.Rel (fun tab tab' : Table => tab.columns.Perm tab'.columns)
    (file.tables t) (file'.tables t)
  unique : ∀ t c, IsUnique file t c ↔ IsUnique file' t c

/-- What is unique in a database of the current version; the index on the IMSIs adds nothing. -/
theorem isUnique_iff (h : IsVersion aff 5 file) (t : TableName) (c : Column) :
    IsUnique file t c ↔ ∃ columns, tableColumns subscriberCreate t = some columns ∧
      ∃ col ∈ columns, col.name = c ∧ (col.unique = true ∨ col.primaryKey = true) := by
  constructor
  · rintro (⟨tab, htab, col, hcol, hunique⟩ | ⟨i, hi, hic⟩)
    · cases ht : tableColumns subscriberCreate t with
      | none =>
          have hbackup : t = .subscriberBackup := by cases t <;> first | rfl | cases ht
          rw [hbackup, h.hasTables.backup] at htab
          cases htab
      | some columns =>
          obtain ⟨tab', htab', hperm, -⟩ := h.hasTables.tables t columns ht
          obtain rfl : tab = tab' := Option.some.inj (htab.symm.trans htab')
          exact ⟨columns, rfl, col, hperm.mem_iff.1 hcol, hunique⟩
    · obtain rfl := h.hasTables.indexes i hi
      obtain ⟨rfl, rfl⟩ := Prod.mk.inj hic
      refine ⟨subscriberCreate, rfl, ?_⟩
      decide
  · rintro ⟨columns, ht, col, hcol, hunique⟩
    obtain ⟨tab, htab, hperm, -⟩ := h.hasTables.tables t columns ht
    exact Or.inl ⟨tab, htab, col, hperm.mem_iff.2 hcol, hunique⟩

/-- **There is one schema of the current version.** -/
theorem sameSchema (h : IsVersion aff 5 file) (h' : IsVersion aff 5 file') :
    SameSchema file file' where
  userVersion := h.userVersion.trans h'.userVersion.symm
  columns t := by
    cases ht : tableColumns subscriberCreate t with
    | none =>
        have hbackup : t = .subscriberBackup := by cases t <;> first | rfl | cases ht
        rw [hbackup, h.hasTables.backup, h'.hasTables.backup]
        exact Option.Rel.none
    | some columns =>
        obtain ⟨tab, htab, hperm, -⟩ := h.hasTables.tables t columns ht
        obtain ⟨tab', htab', hperm', -⟩ := h'.hasTables.tables t columns ht
        rw [htab, htab']
        exact Option.Rel.some (hperm.trans hperm'.symm)
  unique t c := (isUnique_iff h t c).trans (isUnique_iff h' t c).symm

/-- **Upgrade and bootstrap agree**: a database of an earlier version, with any contents, is opened
with the schema that an empty one gets, and all of the rows. -/
theorem upgrade_agrees_with_bootstrap {version : Nat} (h : IsVersion aff version file)
    (hversion : version ≤ 4) : ∃ upgraded fresh : File,
      (dbOpen aff true file).2 = some (Conn.open upgraded) ∧
      (dbOpen aff true File.empty).2 = some (Conn.open fresh) ∧
      SameSchema upgraded fresh ∧ RowsKept renamed file upgraded := by
  obtain ⟨upgraded, hopen, hcurrent, hkept⟩ := dbOpen_version h (Nat.le_succ_of_le hversion)
  refine ⟨upgraded, bootstrapped, hopen, ?_, sameSchema hcurrent isVersion_bootstrapped, hkept⟩
  rw [dbOpen_empty]

/-! ## A database of version 0 -/

/-- What SQLite makes of integers and texts: a number is stored as text in a column of text. -/
def storedAs : Affinity
  | .varchar _, .integer n => .text (toString n).toUTF8.toList
  | _, v => v

/-- One subscriber, with a key. -/
def version0 : File where
  tables
    | .subscriber => some ⟨subscrV0Create,
        [[some (.integer 1), some (.text [0x39, 0x30, 0x31]), some (.text [0x34, 0x32]), none,
          some (.text [0x6d]), some (.text [0x68]), none, none, none, none, none, none, none,
          some (.integer 1), some (.integer 1), none, some (.integer 0), some (.integer 0)]]⟩
    | .subscriberBackup => none
    | .subscriberApn => some (emptyTable subscriberApnCreate)
    | .subscriberMultiMsisdn => some (emptyTable subscriberMultiMsisdnCreate)
    | .auc2g => some ⟨auc2gCreate,
        [[some (.integer 1), some (.integer 1), some (.text [0x30, 0x31])]]⟩
    | .auc3g => some (emptyTable auc3gCreate)
  indexes := [(.idxSubscrImsi, .subscriber, .imsi)]
  userVersion := 0

theorem valid_of_decide {tab : Table} (hnodup : tab.names.Nodup)
    (hlength : ∀ row ∈ tab.rows, row.length = tab.columns.length)
    (hstored : ∀ col ∈ tab.columns, ∀ v ∈ tab.column col.name, v.map (storedAs col.type) = v)
    (hok : tab.Ok) : tab.Valid storedAs where
  nodup := hnodup
  length := hlength
  stored col hcol v hv := Option.some.inj (hstored col hcol (some v) hv)
  ok := hok

theorem isVersion_version0 : IsVersion storedAs 0 version0 where
  userVersion := rfl
  hasTables :=
    { tables := by
        intro t columns ht
        have hall : ∀ t columns, tableColumns (subscriberColumns 0) t = some columns →
            ∃ tab, version0.tables t = some tab ∧ tab.columns = columns ∧ tab.Valid storedAs := by
          intro t columns ht
          cases t <;> cases ht <;>
            refine ⟨_, rfl, rfl, valid_of_decide ?_ ?_ ?_ ?_⟩ <;> decide
        obtain ⟨tab, htab, rfl, hvalid⟩ := hall t columns ht
        exact ⟨tab, htab, List.Perm.refl _, hvalid⟩
      backup := rfl
      indexes := by simp [version0] }

/-- The subscriber is still there, with its key. -/
theorem version0_agrees : ∃ upgraded fresh : File,
    (dbOpen storedAs true version0).2 = some (Conn.open upgraded) ∧
    (dbOpen storedAs true File.empty).2 = some (Conn.open fresh) ∧
    SameSchema upgraded fresh ∧ RowsKept renamed version0 upgraded :=
  upgrade_agrees_with_bootstrap isVersion_version0 (by decide)

end Schema
end OsmoHlr
