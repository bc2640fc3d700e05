import OsmoHlr.Db.DbOpen

/-!
# Upgrades of the schema

Every step of the upgrade path makes a database of one version one of the next, with all of
its rows; and a database that was upgraded has the same schema as one that was created by
the current version.
-/

namespace OsmoHlr
namespace Schema

open Sql

variable {aff : Affinity} {file file' file'' : File} {columns : List ColumnDef} {tab : Table}

/-! ## Rows -/

/-- `hlr_number` becomes `msc_number`. -/
def renamed : Column → Column
  | .hlrNumber => .mscNumber
  | c => c

/-- Every row of the subscribers and their keys is still there. -/
structure RowsKept (ρ : Column → Column) (file file' : File) : Prop where
  subscriber : ∀ tab, file.tables .subscriber = some tab →
    ∃ tab', file'.tables .subscriber = some tab' ∧ Kept ρ tab tab'
  auc2g : ∀ tab, file.tables .auc2g = some tab → file'.tables .auc2g = some tab
  auc3g : ∀ tab, file.tables .auc3g = some tab → file'.tables .auc3g = some tab

theorem RowsKept.trans {ρ ρ' : Column → Column} (h : RowsKept ρ file file')
    (h' : RowsKept ρ' file' file'') : RowsKept (ρ' ∘ ρ) file file'' where
  subscriber tab htab := by
    obtain ⟨tab', htab', hkept⟩ := h.subscriber tab htab
    obtain ⟨tab'', htab'', hkept'⟩ := h'.subscriber tab' htab'
    exact ⟨tab'', htab'', hkept.trans hkept'⟩
  auc2g tab htab := h'.auc2g tab (h.auc2g tab htab)
  auc3g tab htab := h'.auc3g tab (h.auc3g tab htab)

/-! ## One more column -/

/-- A column that may be added to a table with rows in it, and is NULL then. -/
def Addable (columns : List ColumnDef) (col : ColumnDef) : Prop :=
  col.name ∉ columns.map Sql.ColumnDef.name ∧
    (col.notNull = false ∧ col.unique = false ∧ col.primaryKey = false) ∧ col.default.join = none

instance (columns : List ColumnDef) (col : ColumnDef) : Decidable (Addable columns col) :=
  inferInstanceAs (Decidable (_ ∧ _ ∧ _))

namespace HasTables

/-- The table of the subscribers. -/
theorem subscriber (h : HasTables aff columns file) :
    ∃ tab, file.tables .subscriber = some tab ∧ tab.columns.Perm columns ∧ tab.Valid aff :=
  h.tables .subscriber columns rfl

/-- Only the table of the subscribers is another one. -/
theorem setSubscriber (h : HasTables aff columns file) {columns' : List ColumnDef} {tab' : Table}
    (hperm : tab'.columns.Perm columns') (hvalid : tab'.Valid aff) {file' : File}
    (hsubscriber : file'.tables .subscriber = some tab')
    (htables : ∀ t, t ≠ .subscriber → file'.tables t = file.tables t)
    (hindexes : ∀ i ∈ file'.indexes, i ∈ file.indexes) : HasTables aff columns' file' where
  tables t cols ht := by
    by_cases hsub : t = .subscriber
    · subst hsub
      obtain rfl : columns' = cols := Option.some.inj ht
      exact ⟨tab', hsubscriber, hperm, hvalid⟩
    · have ht' : tableColumns columns t = some cols := by cases t <;> first | exact ht | simp at hsub
      rw [htables t hsub]
      exact h.tables t cols ht'
  backup := (htables _ (by decide)).trans h.backup
  indexes i hi := h.indexes i (hindexes i hi)

end HasTables

/-- The file with one more column in the table of the subscribers. -/
def withColumn (file : File) (tab : Table) (col : ColumnDef) : File :=
  file.setTable .subscriber (some (tab.add col))

section Add

variable {col : ColumnDef}

theorem name_not_mem (hperm : tab.columns.Perm columns) (hcol : Addable columns col) :
    col.name ∉ tab.names := fun hmem => hcol.1 ((hperm.map _).mem_iff.1 hmem)

theorem exec_add (htab : file.tables .subscriber = some tab) (hperm : tab.columns.Perm columns)
    (hcol : Addable columns col) :
    exec aff (Conn.open file) (.addColumn .subscriber col) =
      some (Conn.open (withColumn file tab col)) :=
  exec_addColumn rfl htab (name_not_mem hperm hcol) hcol.2.1

theorem hasTables_add (h : HasTables aff columns file)
    (hperm : tab.columns.Perm columns) (hvalid : tab.Valid aff) (hcol : Addable columns col) :
    HasTables aff (columns ++ [col]) (withColumn file tab col) :=
  h.setSubscriber (hperm.append_right [col])
    (Table.valid_add hvalid (name_not_mem hperm hcol) hcol.2.1 hcol.2.2)
    (file.tables_setTable_self ..) (fun _ ht => file.tables_setTable_of_ne ht _) fun _ hi => hi

theorem rowsKept_add (htab : file.tables .subscriber = some tab)
    (hperm : tab.columns.Perm columns) (hvalid : tab.Valid aff) (hcol : Addable columns col) :
    RowsKept id file (withColumn file tab col) where
  subscriber tab' htab' := by
    obtain rfl : tab = tab' := Option.some.inj (htab.symm.trans htab')
    exact ⟨_, file.tables_setTable_self .., Table.kept_add hvalid (name_not_mem hperm hcol) hcol.2.2⟩
  auc2g _ hauc := (file.tables_setTable_of_ne (by decide) _).trans hauc
  auc3g _ hauc := (file.tables_setTable_of_ne (by decide) _).trans hauc

end Add

/-! ## The table is created anew -/

theorem copies_backup :
    Copies renamed (⟨subscriberColumns 2, []⟩ : Table) subscrV3Create subscrV2ColumnNames where
  length := by decide
  nodup := by decide
  declared := by decide
  all := by decide

theorem copies_subscriber (rows : List (List (Value Val))) :
    Copies id (⟨subscrV3Create, rows⟩ : Table) subscrV3Create subscrV3ColumnNames where
  length := by decide
  nodup := by decide
  declared := by
    show ∀ p ∈ subscrV3Create.zip subscrV3ColumnNames, ∃ col ∈ subscrV3Create, _
    decide
  all := by
    show ∀ c ∈ subscrV3Create.map Sql.ColumnDef.name, c ∈ subscrV3ColumnNames
    decide

/-- What is copied to `subscriber_backup`. -/
def backupOf (aff : Affinity) (tab : Table) : Table :=
  Copies.copy aff tab subscrV3Create subscrV2ColumnNames

/-- What is copied back. -/
def rebuiltOf (aff : Affinity) (tab : Table) : Table :=
  Copies.copy aff (backupOf aff tab) subscrV3Create subscrV3ColumnNames

/-- The file with the table that is created anew. -/
def withRebuilt (aff : Affinity) (file : File) (tab : Table) : File :=
  (file.drop .subscriber).setTable .subscriber (some (rebuiltOf aff tab))

section Rebuild

theorem valid_backup (hperm : tab.columns.Perm (subscriberColumns 2)) (hvalid : tab.Valid aff) :
    (backupOf aff tab).Valid aff :=
  (copies_backup.of_perm hperm).valid_copy hvalid

theorem hasTables_rebuilt (h : HasTables aff (subscriberColumns 2) file)
    (hperm : tab.columns.Perm (subscriberColumns 2)) (hvalid : tab.Valid aff) :
    HasTables aff (subscriberColumns 3) (withRebuilt aff file tab) :=
  h.setSubscriber (List.Perm.refl _)
    ((copies_subscriber _).valid_copy (valid_backup hperm hvalid))
    (File.tables_setTable_self ..)
    (fun _ ht => (File.tables_setTable_of_ne _ ht _).trans (file.tables_drop_of_ne ht))
    fun _ hi => List.mem_of_mem_filter hi

theorem rowsKept_rebuilt (htab : file.tables .subscriber = some tab)
    (hperm : tab.columns.Perm (subscriberColumns 2)) (hvalid : tab.Valid aff) :
    RowsKept renamed file (withRebuilt aff file tab) where
  subscriber tab' htab' := by
    obtain rfl : tab = tab' := Option.some.inj (htab.symm.trans htab')
    exact ⟨_, File.tables_setTable_self .., ((copies_backup.of_perm hperm).kept_copy hvalid).trans
      ((copies_subscriber _).kept_copy (valid_backup hperm hvalid))⟩
  auc2g _ hauc :=
    (File.tables_setTable_of_ne _ (by decide) _).trans
      ((file.tables_drop_of_ne (by decide)).trans hauc)
  auc3g _ hauc :=
    (File.tables_setTable_of_ne _ (by decide) _).trans
      ((file.tables_drop_of_ne (by decide)).trans hauc)

/-- **The upgrade to version 3**: until it is committed, nothing is left of it. -/
theorem run_dbUpgradeV3 (htab : file.tables .subscriber = some tab)
    (hperm : tab.columns.Perm (subscriberColumns 2)) (hvalid : tab.Valid aff) :
    ∃ passed : List Conn, passed.length = 7 ∧ (∀ c ∈ passed, c.killed = file) ∧
      run aff (Conn.open file) dbUpgradeV3 =
        (passed ++ [Conn.open (withRebuilt aff file tab),
            Conn.open { withRebuilt aff file tab with userVersion := 3 }],
          some (Conn.open { withRebuilt aff file tab with userVersion := 3 })) := by
  -- the temporary table, empty and filled
  let temp₁ : TableName → Option Table :=
    Function.update (fun _ => none) .subscriberBackup (some ⟨subscrV3Create, []⟩)
  let temp₂ : TableName → Option Table :=
    Function.update temp₁ .subscriberBackup (some (backupOf aff tab))
  -- the file, with the new table empty and filled
  let file₁ : File := file.drop .subscriber
  let file₂ : File := file₁.setTable .subscriber (some ⟨subscrV3Create, []⟩)
  let c₁ : Conn := ⟨file, fun _ => none, some file⟩
  let c₂ : Conn := ⟨file, temp₁, some file⟩
  let c₃ : Conn := ⟨file, temp₂, some file⟩
  let c₄ : Conn := ⟨file₁, temp₂, some file⟩
  let c₅ : Conn := ⟨file₂, temp₂, some file⟩
  let c₆ : Conn := ⟨withRebuilt aff file tab, temp₂, some file⟩
  let c₇ : Conn := ⟨withRebuilt aff file tab, fun _ => none, some file⟩
  have hsub₁ : temp₁ .subscriber = none := rfl
  have hsub₂ : temp₂ .subscriber = none := rfl
  have hback₁ : temp₁ .subscriberBackup = some ⟨subscrV3Create, []⟩ := Function.update_self ..
  have hback₂ : temp₂ .subscriberBackup = some (backupOf aff tab) := Function.update_self ..
  have hnone : file₁.tables .subscriber = none := file.tables_drop_self _
  have h₁ : exec aff (Conn.open file) .begin = some c₁ := rfl
  have h₂ : exec aff c₁ (.createTable true .subscriberBackup subscrV3Create) = some c₂ := rfl
  have h₃ : exec aff c₂ (.insertSelect .subscriberBackup subscrV2ColumnNames .subscriber) =
      some c₃ := by
    have hinto : c₂.table .subscriberBackup = some ⟨subscrV3Create, []⟩ := by
      simp [c₂, Conn.table, hback₁]
    have hsrc : c₂.table .subscriber = some tab := by simp [c₂, Conn.table, hsub₁, htab]
    have htemp : (c₂.temp .subscriberBackup).isSome = true := by simp [c₂, hback₁]
    refine (exec_insertSelect hinto hsrc hvalid (copies_backup.of_perm hperm)
      (Or.inl htemp)).trans ?_
    simp [c₂, c₃, temp₂, Conn.setTable, hback₁, backupOf]
  have h₄ : exec aff c₃ (.dropTable .subscriber) = some c₄ := by
    simp [exec, c₃, c₄, file₁, hsub₂, htab]
  have h₅ : exec aff c₄ (.createTable false .subscriber subscrV3Create) = some c₅ := by
    simp [exec, c₄, c₅, file₂, hnone]
  have h₆ : exec aff c₅ (.insertSelect .subscriber subscrV3ColumnNames .subscriberBackup) =
      some c₆ := by
    have hinto : c₅.table .subscriber = some ⟨subscrV3Create, []⟩ := by
      simp [c₅, file₂, Conn.table, hsub₂]
    have hsrc : c₅.table .subscriberBackup = some (backupOf aff tab) := by
      simp [c₅, Conn.table, hback₂]
    have hindexes : ∀ i ∈ c₅.file.indexes, i.2.1 ≠ .subscriber := by
      intro i hi
      simpa using (List.mem_filter.1 hi).2
    refine (exec_insertSelect hinto hsrc (valid_backup hperm hvalid) (copies_subscriber _)
      (Or.inr hindexes)).trans ?_
    simp [c₅, c₆, file₂, file₁, Conn.setTable, hsub₂, withRebuilt, rebuiltOf, File.setTable]
  have h₇ : exec aff c₆ (.dropTable .subscriberBackup) = some c₇ := by
    have htemp : Function.update temp₂ .subscriberBackup none = fun _ => none := by
      funext t
      by_cases ht : t = .subscriberBackup <;> simp [temp₂, temp₁, Function.update, ht]
    simp [exec, c₆, c₇, hback₂, htemp]
  have h₈ : exec aff c₇ .commit = some (Conn.open (withRebuilt aff file tab)) := rfl
  have h₉ : exec aff (Conn.open (withRebuilt aff file tab)) (.setUserVersion 3) =
      some (Conn.open { withRebuilt aff file tab with userVersion := 3 }) := rfl
  refine ⟨[c₁, c₂, c₃, c₄, c₅, c₆, c₇], rfl, ?_, ?_⟩
  · simp [c₁, c₂, c₃, c₄, c₅, c₆, c₇, Conn.killed]
  · unfold dbUpgradeV3
    rw [run_cons_of_some aff h₁, run_cons_of_some aff h₂, run_cons_of_some aff h₃,
      run_cons_of_some aff h₄, run_cons_of_some aff h₅, run_cons_of_some aff h₆,
      run_cons_of_some aff h₇, run_cons_of_some aff h₈, run_cons_of_some aff h₉]
    rfl

end Rebuild

/-! ## One version after the other -/

/-- The function that upgrades a version to the next. -/
def upgradeFunc (version : Nat) : List Stmt := dbUpgradePath.getD version []

/-- How columns are renamed on the way from a version to the next. -/
def renamedIn (version : Nat) : Column → Column := if version = 2 then renamed else id

/-- A database that cannot be upgraded any more: its version says that something is to be done that
has been done already. -/
structure Stuck (aff : Affinity) (version : Nat) (file : File) : Prop where
  userVersion : file.userVersion = version
  bootstrapped : (file.tables .subscriber).isSome = true
  fails : (run aff (Conn.open file) (upgradeFunc version)).2 = none

/-- What a step of the upgrade path does: it leads to the next version, with all of the rows; and if
the process is killed on the way then the database is what it was, or is stuck. -/
structure Upgrades (aff : Affinity) (version : Nat) (file : File) (passed : List Conn)
    (file' : File) : Prop where
  run_eq : run aff (Conn.open file) (upgradeFunc version) = (passed, some (Conn.open file'))
  isVersion : IsVersion aff (version + 1) file'
  rowsKept : RowsKept (renamedIn version) file file'
  killed : ∀ n < (upgradeFunc version).length,
    if recorded ((upgradeFunc version).take n) then killedAfter file passed n = file
    else Stuck aff version (killedAfter file passed n)

section Steps

variable {version : Nat} {col : ColumnDef}

/-- A file in which there is the column already that is to be added next. -/
theorem stuck_of_mem {rest : List Stmt}
    (hfunc : upgradeFunc version = .addColumn .subscriber col :: rest)
    (hversion : file.userVersion = version) (htab : file.tables .subscriber = some tab)
    (hmem : col.name ∈ tab.names) : Stuck aff version file where
  userVersion := hversion
  bootstrapped := by rw [htab]; rfl
  fails := by
    rw [hfunc, run_cons_of_none aff (exec_addColumn_of_mem rfl htab hmem)]

/-- A step that adds a column. -/
theorem upgrades_add (hfunc : upgradeFunc version =
      [.addColumn .subscriber col, .setUserVersion (version + 1 : Nat)])
    (hren : renamedIn version = id) (hcol : Addable (subscriberColumns version) col)
    (hcols : subscriberColumns (version + 1) = subscriberColumns version ++ [col])
    (h : IsVersion aff version file) : ∃ passed file', Upgrades aff version file passed file' := by
  obtain ⟨tab, htab, hperm, hvalid⟩ := h.hasTables.subscriber
  let mid : File := withColumn file tab col
  let file' : File := { mid with userVersion := (version + 1 : Nat) }
  have hrun : run aff (Conn.open file) (upgradeFunc version) =
      ([Conn.open mid, Conn.open file'], some (Conn.open file')) := by
    rw [hfunc, run_cons_of_some aff (exec_add htab hperm hcol)]
    rfl
  have htables := hasTables_add h.hasTables hperm hvalid hcol
  refine ⟨_, file', hrun, ⟨rfl, ?_⟩, ?_, ?_⟩
  · rw [hcols]
    exact ⟨htables.tables, htables.backup, htables.indexes⟩
  · rw [hren]
    have hkept := rowsKept_add htab hperm hvalid hcol
    exact ⟨hkept.subscriber, hkept.auc2g, hkept.auc3g⟩
  · intro n hn
    rw [hfunc] at hn ⊢
    match n with
    | 0 => rfl
    | 1 =>
        have hmid : mid.tables .subscriber = some (tab.add col) := file.tables_setTable_self ..
        exact stuck_of_mem hfunc h.userVersion hmid (by simp)
    | n + 2 => exact absurd hn (by simp)

theorem upgrades_v1 (h : IsVersion aff 0 file) : ∃ passed file', Upgrades aff 0 file passed file' :=
  upgrades_add rfl rfl (by decide) (by decide) h

theorem upgrades_v2 (h : IsVersion aff 1 file) : ∃ passed file', Upgrades aff 1 file passed file' :=
  upgrades_add rfl rfl (by decide) (by decide) h

theorem upgrades_v4 (h : IsVersion aff 3 file) : ∃ passed file', Upgrades aff 3 file passed file' :=
  upgrades_add rfl rfl (by decide) (by decide) h

/-- The file is as it was, or as it is when the process is killed in one of the states. -/
theorem killedAfter_cases (file : File) (passed : List Conn) (n : Nat) :
    passed.take n = [] ∧ killedAfter file passed n = file ∨
      ∃ c ∈ passed.take n, killedAfter file passed n = c.killed := by
  unfold killedAfter
  rcases (passed.take n).eq_nil_or_concat with hnil | ⟨l, c, hc⟩
  · refine Or.inl ⟨hnil, ?_⟩
    rw [hnil]
    rfl
  · refine Or.inr ⟨c, by rw [hc]; simp, ?_⟩
    rw [hc, List.concat_eq_append, List.getLastD_concat]

theorem killedAfter_of_forall {passed : List Conn} {n : Nat}
    (h : ∀ c ∈ passed.take n, c.killed = file) : killedAfter file passed n = file := by
  rcases killedAfter_cases file passed n with ⟨-, hfile⟩ | ⟨c, hc, hfile⟩
  · exact hfile
  · rw [hfile, h c hc]

/-- The old name of the column is not there any more. -/
theorem stuck_of_rebuilt (hversion : file.userVersion = 2)
    (htab : file.tables .subscriber = some tab) (hmissing : .hlrNumber ∉ tab.names) :
    Stuck aff 2 file where
  userVersion := hversion
  bootstrapped := by rw [htab]; rfl
  fails := by
    let temp : TableName → Option Table :=
      Function.update (fun _ => none) .subscriberBackup (some ⟨subscrV3Create, []⟩)
    let c₁ : Conn := ⟨file, fun _ => none, some file⟩
    let c₂ : Conn := ⟨file, temp, some file⟩
    have h₁ : exec aff (Conn.open file) .begin = some c₁ := rfl
    have h₂ : exec aff c₁ (.createTable true .subscriberBackup subscrV3Create) = some c₂ := rfl
    have hsrc : c₂.table .subscriber = some tab := htab
    have h₃ : exec aff c₂ (.insertSelect .subscriberBackup subscrV2ColumnNames .subscriber) =
        none := exec_insertSelect_of_not_mem hsrc (by decide) hmissing
    show (run aff (Conn.open file) dbUpgradeV3).2 = none
    unfold dbUpgradeV3
    rw [run_cons_of_some aff h₁, run_cons_of_some aff h₂, run_cons_of_none aff h₃]

theorem upgrades_v3 (h : IsVersion aff 2 file) : ∃ passed file', Upgrades aff 2 file passed file' := by
  obtain ⟨tab, htab, hperm, hvalid⟩ := h.hasTables.subscriber
  obtain ⟨passed, hlen, hkilled, hrun⟩ := run_dbUpgradeV3 htab hperm hvalid
  have htables := hasTables_rebuilt h.hasTables hperm hvalid
  have hkept := rowsKept_rebuilt htab hperm hvalid
  refine ⟨_, _, hrun, ⟨rfl, htables.tables, htables.backup, htables.indexes⟩,
    ⟨hkept.subscriber, hkept.auc2g, hkept.auc3g⟩, ?_⟩
  intro n hn
  have hn : n < 9 := hn
  rw [show upgradeFunc 2 = dbUpgradeV3 from rfl]
  rcases Nat.lt_or_ge n 8 with hlt | hge
  · -- the transaction has not been committed
    have hrecorded : ∀ n < 8, recorded (dbUpgradeV3.take n) = true := by decide
    rw [if_pos (hrecorded n hlt)]
    refine killedAfter_of_forall ?_
    intro c hc
    rw [List.take_append_of_le_length (by omega)] at hc
    exact hkilled c (List.mem_of_mem_take hc)
  · obtain rfl : n = 8 := by omega
    have hrecorded : recorded (dbUpgradeV3.take 8) = false := by decide
    have hleft : killedAfter file (passed ++ [Conn.open (withRebuilt aff file tab),
        Conn.open { withRebuilt aff file tab with userVersion := 3 }]) 8 =
          withRebuilt aff file tab := by
      unfold killedAfter
      rw [List.take_append, hlen, List.take_of_length_le (by omega)]
      simp
    have hsub : (withRebuilt aff file tab).tables .subscriber = some (rebuiltOf aff tab) :=
      File.tables_setTable_self ..
    rw [hrecorded, hleft]
    refine stuck_of_rebuilt h.userVersion hsub ?_
    show Column.hlrNumber ∉ subscrV3Create.map Sql.ColumnDef.name
    decide

theorem upgrades_v5 (h : IsVersion aff 4 file) : ∃ passed file', Upgrades aff 4 file passed file' := by
  obtain ⟨tab, htab, hperm, hvalid⟩ := h.hasTables.subscriber
  let vlr : ColumnDef := plain .vlrViaProxy (.varchar none)
  let sgsn : ColumnDef := plain .sgsnViaProxy (.varchar none)
  have hvlr : Addable (subscriberColumns 4) vlr := by decide
  have hsgsn : Addable (subscriberColumns 4 ++ [vlr]) sgsn := by decide
  let mid₁ : File := withColumn file tab vlr
  let mid₂ : File := withColumn mid₁ (tab.add vlr) sgsn
  let file' : File := { mid₂ with userVersion := 5 }
  have htab₁ : mid₁.tables .subscriber = some (tab.add vlr) := file.tables_setTable_self ..
  have htab₂ : mid₂.tables .subscriber = some ((tab.add vlr).add sgsn) :=
    mid₁.tables_setTable_self ..
  have hperm₁ : (tab.add vlr).columns.Perm (subscriberColumns 4 ++ [vlr]) :=
    hperm.append_right [vlr]
  have hvalid₁ : (tab.add vlr).Valid aff :=
    Table.valid_add hvalid (name_not_mem hperm hvlr) hvlr.2.1 hvlr.2.2
  have hrun : run aff (Conn.open file) (upgradeFunc 4) =
      ([Conn.open mid₁, Conn.open mid₂, Conn.open file'], some (Conn.open file')) := by
    show run aff (Conn.open file) dbUpgradeV5 = _
    unfold dbUpgradeV5
    rw [run_cons_of_some aff (exec_add htab hperm hvlr),
      run_cons_of_some aff (exec_add htab₁ hperm₁ hsgsn)]
    rfl
  have htables := hasTables_add (hasTables_add h.hasTables hperm hvalid hvlr) hperm₁ hvalid₁ hsgsn
  have hkept := (rowsKept_add htab hperm hvalid hvlr).trans (rowsKept_add htab₁ hperm₁ hvalid₁ hsgsn)
  refine ⟨_, file', hrun, ⟨rfl, htables.tables, htables.backup, htables.indexes⟩,
    ⟨hkept.subscriber, hkept.auc2g, hkept.auc3g⟩, ?_⟩
  intro n hn
  match n with
  | 0 => rfl
  | 1 => exact stuck_of_mem rfl h.userVersion htab₁ (by simp [vlr])
  | 2 => exact stuck_of_mem rfl h.userVersion htab₂ (by simp [vlr])
  | n + 3 => exact absurd hn (by simp [upgradeFunc, dbUpgradePath, dbUpgradeV5])

/-- **Every version can be upgraded to the next.** -/
theorem upgrades (h : IsVersion aff version file) (hversion : version < 5) :
    ∃ passed file', Upgrades aff version file passed file' := by
  match version with
  | 0 => exact upgrades_v1 h
  | 1 => exact upgrades_v2 h
  | 2 => exact upgrades_v3 h
  | 3 => exact upgrades_v4 h
  | 4 => exact upgrades_v5 h
  | version + 5 => omega

end Steps

/-! ## All the way -/

section Open

variable {version : Nat}

theorem renamed_comp (version : Nat) : renamed ∘ renamedIn version = renamed := by
  unfold renamedIn
  split
  · funext c
    cases c <;> rfl
  · rfl

theorem flatten_drop (hversion : version < 5) :
    (dbUpgradePath.drop version).flatten =
      upgradeFunc version ++ (dbUpgradePath.drop (version + 1)).flatten := by
  have hall : ∀ v < 5, (dbUpgradePath.drop v).flatten =
      upgradeFunc v ++ (dbUpgradePath.drop (v + 1)).flatten := by decide
  exact hall version hversion

/-- A database of the current version keeps its rows as they are. -/
theorem rowsKept_current (h : IsVersion aff 5 file) : RowsKept renamed file file where
  subscriber tab htab := by
    obtain ⟨tab', htab', hperm, -⟩ := h.hasTables.subscriber
    obtain rfl : tab = tab' := Option.some.inj (htab.symm.trans htab')
    refine ⟨tab, htab, Kept.refl ?_⟩
    intro c hc
    have hmem : c ∈ (subscriberColumns 5).map Sql.ColumnDef.name := (hperm.map _).mem_iff.1 hc
    have hall : ∀ c ∈ (subscriberColumns 5).map Sql.ColumnDef.name, renamed c = c := by decide
    exact hall c hmem
  auc2g _ htab := htab
  auc3g _ htab := htab

/-- **The upgrade path leads to the current version, with all of the rows.** -/
theorem upgraded (h : IsVersion aff version file) (hversion : version ≤ 5) :
    ∃ passed file', run aff (Conn.open file) (dbUpgradePath.drop version).flatten =
        (passed, some (Conn.open file')) ∧
      IsVersion aff 5 file' ∧ RowsKept renamed file file' := by
  obtain ⟨steps, hsteps⟩ := Nat.exists_eq_add_of_le hversion
  induction steps generalizing version file with
  | zero =>
      obtain rfl : 5 = version := hsteps
      exact ⟨[], file, rfl, h, rowsKept_current h⟩
  | succ steps ih =>
      have hlt : version < 5 := by omega
      obtain ⟨passed, mid, hstep⟩ := upgrades h hlt
      obtain ⟨passed', file', hrun, hcurrent, hkept⟩ := ih hstep.isVersion hlt (by omega)
      refine ⟨passed ++ passed', file', ?_, hcurrent, ?_⟩
      · rw [flatten_drop hlt, run_append aff (congrArg Prod.snd hstep.run_eq), hstep.run_eq, hrun]
      · exact renamed_comp version ▸ hstep.rowsKept.trans hkept

/-- All statements are prepared in the current version. -/
theorem dbCheck_current (h : IsVersion aff 5 file) :
    dbCheck currentSchemaVersion (Conn.open file) = some (Conn.open file) := by
  have hrefs : ∀ stmt ∈ stmtSql, ∀ ref ∈ stmt,
      ∃ columns, tableColumns (subscriberColumns 5) ref.1 = some columns ∧
        ∀ c ∈ ref.2, c ∈ columns.map Sql.ColumnDef.name := by
    have hall : ∀ stmt ∈ stmtSql, ∀ ref ∈ stmt,
        (tableColumns (subscriberColumns 5) ref.1).any (fun columns =>
          ref.2.all fun c => c ∈ columns.map Sql.ColumnDef.name) = true := by decide
    intro stmt hstmt ref href
    obtain ⟨columns, hcolumns, hmem⟩ := (Option.any_eq_true _ _).1 (hall stmt hstmt ref href)
    exact ⟨columns, hcolumns, fun c hc => of_decide_eq_true (List.all_eq_true.1 hmem c hc)⟩
  have hprepares : stmtSql.all (prepares (Conn.open file)) = true := by
    refine List.all_eq_true.2 ?_
    intro stmt hstmt
    refine List.all_eq_true.2 ?_
    intro ref href
    obtain ⟨columns, hcolumns, hmem⟩ := hrefs stmt hstmt ref href
    obtain ⟨tab, htab, hperm, -⟩ := h.hasTables.tables ref.1 columns hcolumns
    have htable : (Conn.open file).table ref.1 = some tab := htab
    rw [htable]
    refine List.all_eq_true.2 ?_
    intro c hc
    exact decide_eq_true ((hperm.map _).mem_iff.2 (hmem c hc))
  unfold dbCheck
  rw [if_neg (by decide), if_pos hprepares]

/-- `db_open` of a database that has been bootstrapped. -/
theorem dbOpen_eq (hversion : file.userVersion = version) (hle : version ≤ 5)
    (hsub : (file.tables .subscriber).isSome = true) :
    dbOpen aff true file =
      let r := run aff (Conn.open file) (dbUpgradePath.drop version).flatten
      (r.1, r.2.bind (dbCheck currentSchemaVersion)) := by
  have hnot : ¬((Conn.open file).file.userVersion = 0 ∧
      ¬dbIsBootstrappedV0 (Conn.open file) = true) := fun h => h.2 hsub
  have hnonneg : ¬(Conn.open file).file.userVersion < 0 := by
    show ¬file.userVersion < 0
    rw [hversion]
    exact Int.not_lt.2 (Int.natCast_nonneg version)
  unfold dbOpen
  simp only
  rw [if_neg hnonneg, if_neg hnot]
  show dbOpenVersion aff true file.userVersion (Conn.open file) = _
  rw [hversion]
  unfold dbOpenVersion
  rcases Nat.lt_or_eq_of_le hle with hlt | rfl
  · have hcond : true = true ∧ (version : Int) < dbUpgradePath.length :=
      ⟨rfl, Int.ofNat_lt.2 hlt⟩
    rw [if_pos hcond, Int.toNat_natCast, dbUpgrade_eq]
    rfl
  · rw [if_neg (by decide)]
    rfl

/-- **A database of any version is opened and upgraded**, with all of its rows. -/
theorem dbOpen_version (h : IsVersion aff version file) (hversion : version ≤ 5) :
    ∃ file', (dbOpen aff true file).2 = some (Conn.open file') ∧ IsVersion aff 5 file' ∧
      RowsKept renamed file file' := by
  obtain ⟨passed, file', hrun, hcurrent, hkept⟩ := upgraded h hversion
  obtain ⟨tab, htab, -⟩ := h.hasTables.subscriber
  refine ⟨file', ?_, hcurrent, hkept⟩
  rw [dbOpen_eq h.userVersion hversion (by rw [htab]; rfl), hrun]
  exact dbCheck_current hcurrent

end Open

end Schema
end OsmoHlr
