import OsmoHlr.Db.Bootstrap

/-!
# Interrupted upgrades

Every step of the upgrade path changes the schema in some statements, and records the new
version in another one.  A process that is killed in between leaves a database that says that
something is to be done which has been done already, and cannot be opened any more.

* `left_spec` — what is left when the process is killed on the way.
* `interrupted_resumes_iff` — **when the database can be opened again**: if the last statement that
  had taken effect was one that recorded the version.
-/

namespace OsmoHlr
namespace Schema

open Sql

variable {aff : Affinity} {file left : File} {version n : Nat}

/-- When what is left is opened again it is of the current version, with all of the rows. -/
def Resumes (aff : Affinity) (file left : File) : Prop :=
  ∃ file', (dbOpen aff true left).2 = some (Conn.open file') ∧ file'.userVersion = 5 ∧
    RowsKept renamed file file'

/-- An empty database, or one of any version. -/
def IsStart (aff : Affinity) (file : File) : Prop :=
  file = File.empty ∨ ∃ version ≤ 5, IsVersion aff version file

/-! ## Databases that are opened again -/

/-- A database of some version, with all of the rows. -/
def OnTheWay (aff : Affinity) (file left : File) : Prop :=
  ∃ version ≤ 5, IsVersion aff version left ∧
    ∃ ρ, renamed ∘ ρ = renamed ∧ RowsKept ρ file left

theorem OnTheWay.resumes (h : OnTheWay aff file left) : Resumes aff file left := by
  obtain ⟨version, hle, hversion, ρ, hρ, hkept⟩ := h
  obtain ⟨file', hopen, hcurrent, hkept'⟩ := dbOpen_version hversion hle
  exact ⟨file', hopen, hcurrent.userVersion, hρ ▸ hkept.trans hkept'⟩

/-- A database that is stuck is not opened. -/
theorem Stuck.not_resumes (h : Stuck aff version left) (hversion : version < 5) :
    ¬Resumes aff file left := by
  rintro ⟨file', hopen, -⟩
  have hfails : (dbOpen aff true left).2 = none := by
    rw [dbOpen_eq h.userVersion (Nat.le_of_lt hversion) h.bootstrapped, flatten_drop hversion,
      run_append_of_none aff h.fails]
    show Option.bind _ _ = none
    rw [h.fails]
    rfl
  rw [hfails] at hopen
  cases hopen

/-! ## Killed on the upgrade path -/

theorem rowsKept_id (file : File) : RowsKept id file file where
  subscriber tab htab := ⟨tab, htab, Kept.refl fun _ _ => rfl⟩
  auc2g _ htab := htab
  auc3g _ htab := htab

/-- A step of the path leaves the version recorded, and no transaction open. -/
theorem recorded_upgradeFunc (hversion : version < 5) (stmts : List Stmt) :
    recorded (upgradeFunc version ++ stmts) = recorded stmts := by
  have hall : ∀ v < 5, (upgradeFunc v).foldl Progress.next ⟨true, false⟩ = ⟨true, false⟩ := by decide
  unfold recorded
  rw [List.foldl_append, hall version hversion]

/-- Killed in the first part of a run. -/
theorem killedAfter_append_of_le {passed : List Conn} (hn : n ≤ passed.length)
    (passed' : List Conn) :
    killedAfter file (passed ++ passed') n = killedAfter file passed n := by
  unfold killedAfter
  rw [List.take_append_of_le_length hn]

/-- Killed in the rest of a run. -/
theorem killedAfter_append {passed : List Conn} {mid : File}
    (hmid : passed.getLastD (Conn.open file) = Conn.open mid) (passed' : List Conn) (n : Nat) :
    killedAfter file (passed ++ passed') (passed.length + n) = killedAfter mid passed' n := by
  unfold killedAfter
  rw [List.take_length_add_append, List.getLastD_eq_getLast?, List.getLast?_append,
    List.getLastD_eq_getLast?, ← hmid, List.getLastD_eq_getLast?]
  cases (passed'.take n).getLast? <;> rfl

/-- **What is left when the process is killed on the way**: a database of a version in between, or
one that is stuck. -/
theorem left_spec (h : IsVersion aff version file) (hversion : version ≤ 5) (n : Nat) :
    let stmts := (dbUpgradePath.drop version).flatten
    let left := killedAfter file (run aff (Conn.open file) stmts).1 n
    if recorded (stmts.take n) = true then OnTheWay aff file left
    else ∃ version' < 5, Stuck aff version' left := by
  obtain ⟨steps, hsteps⟩ := Nat.exists_eq_add_of_le hversion
  induction steps generalizing version file n with
  | zero =>
      obtain rfl : 5 = version := hsteps
      have hleft : killedAfter file (run aff (Conn.open file) (dbUpgradePath.drop 5).flatten).1 n =
          file := by
        unfold killedAfter
        rw [show (dbUpgradePath.drop 5).flatten = [] from rfl, run_nil, List.take_nil]
        rfl
      intro stmts left
      rw [if_pos (by rw [show stmts = [] from rfl, List.take_nil]; rfl)]
      rw [show left = file from hleft]
      exact ⟨5, Nat.le_refl _, h, id, rfl, rowsKept_id file⟩
  | succ steps ih =>
      have hlt : version < 5 := by omega
      obtain ⟨passed, mid, hstep⟩ := upgrades h hlt
      have hreached : (run aff (Conn.open file) (upgradeFunc version)).2 = some (Conn.open mid) :=
        congrArg Prod.snd hstep.run_eq
      have hlen : passed.length = (upgradeFunc version).length := by
        have hrun := length_run aff hreached
        rwa [hstep.run_eq] at hrun
      have hlast : passed.getLastD (Conn.open file) = Conn.open mid := by
        have hrun := getLastD_run aff hreached
        rwa [hstep.run_eq] at hrun
      intro stmts left
      let rest := (dbUpgradePath.drop (version + 1)).flatten
      have hstmts : stmts = upgradeFunc version ++ rest := flatten_drop hlt
      have hpassed : (run aff (Conn.open file) stmts).1 =
          passed ++ (run aff (Conn.open mid) rest).1 := by
        rw [hstmts, run_append aff hreached, hstep.run_eq]
      rcases Nat.lt_or_ge n (upgradeFunc version).length with hn | hn
      · -- killed in this step
        have hleft : left = killedAfter file passed n := by
          show killedAfter file (run aff (Conn.open file) stmts).1 n = _
          rw [hpassed, killedAfter_append_of_le (by omega)]
        have hkilled := hstep.killed n hn
        rw [hstmts, List.take_append_of_le_length (Nat.le_of_lt hn), hleft]
        split at hkilled
        · rename_i hrecorded
          rw [if_pos hrecorded, hkilled]
          exact ⟨version, hversion, h, id, rfl, rowsKept_id file⟩
        · rename_i hrecorded
          rw [if_neg hrecorded]
          exact ⟨version, hlt, hkilled⟩
      · -- killed in a later one
        obtain ⟨m, rfl⟩ := Nat.exists_eq_add_of_le hn
        have hleft : left = killedAfter mid (run aff (Conn.open mid) rest).1 m := by
          show killedAfter file (run aff (Conn.open file) stmts).1 _ = _
          rw [hpassed, ← hlen, killedAfter_append hlast]
        have hspec := ih hstep.isVersion hlt m (by omega)
        rw [hstmts, List.take_length_add_append, recorded_upgradeFunc hlt, hleft]
        simp only at hspec
        split at hspec
        · rename_i hrecorded
          rw [if_pos hrecorded]
          obtain ⟨version', hle, hversion', ρ, hρ, hkept⟩ := hspec
          refine ⟨version', hle, hversion', ρ ∘ renamedIn version, ?_, hstep.rowsKept.trans hkept⟩
          rw [← Function.comp_assoc, hρ, renamed_comp]
        · rename_i hrecorded
          rw [if_neg hrecorded]
          exact hspec

/-! ## Killed when an empty database is bootstrapped -/

/-- There is nothing to be kept. -/
theorem rowsKept_empty (file : File) : RowsKept renamed File.empty file where
  subscriber _ htab := by cases htab
  auc2g _ htab := by cases htab
  auc3g _ htab := by cases htab

/-- **What is left of a bootstrap**: nothing, everything, or a database that says that it is of
version 0, with the columns of the current one. -/
theorem left_bootstrap (aff : Affinity) (n : Nat) :
    if recorded (stmtBootstrapSql.take n) = true then
      Resumes aff File.empty (leftAfter aff true File.empty n)
    else Stuck aff 0 (leftAfter aff true File.empty n) := by
  have hpassed : (dbOpen aff true File.empty).1 =
      bootstrapping.map Conn.open ++ [Conn.open bootstrapped] := by rw [dbOpen_empty]
  have hlen : (bootstrapping.map (Conn.open : File → Conn)).length = 6 := rfl
  unfold leftAfter
  rw [hpassed]
  match n with
  | 0 =>
      rw [if_pos (by decide)]
      refine ⟨bootstrapped, ?_, rfl, rowsKept_empty _⟩
      show (dbOpen aff true File.empty).2 = _
      rw [dbOpen_empty]
  | n + 1 =>
      rcases Nat.lt_or_ge n 6 with hn | hn
      · have hrecorded : ∀ n < 6, ¬recorded (stmtBootstrapSql.take (n + 1)) = true := by decide
        rw [if_neg (hrecorded n hn), killedAfter_append_of_le (by omega)]
        rcases killedAfter_cases File.empty (bootstrapping.map Conn.open) (n + 1) with
          ⟨hnil, -⟩ | ⟨c, hc, hleft⟩
        · cases hnil
        · obtain ⟨f, hf, rfl⟩ := List.mem_map.1 (List.mem_of_mem_take hc)
          obtain ⟨hversion, htab⟩ := bootstrapping_spec f hf
          rw [hleft, Conn.killed_open]
          refine stuck_of_mem rfl hversion htab ?_
          show Column.lastLuSeen ∈ subscriberCreate.map Sql.ColumnDef.name
          decide
      · have hall : stmtBootstrapSql.take (n + 1) = stmtBootstrapSql :=
          List.take_of_length_le (Nat.succ_le_succ hn)
        have hleft : killedAfter File.empty
            (bootstrapping.map Conn.open ++ [Conn.open bootstrapped]) (n + 1) = bootstrapped := by
          unfold killedAfter
          rw [List.take_of_length_le (by simp [hlen]; omega), List.getLastD_concat]
          rfl
        have hcurrent : IsVersion aff 5 bootstrapped := isVersion_bootstrapped
        obtain ⟨file', hopen, hversion, -⟩ := dbOpen_version hcurrent (Nat.le_refl 5)
        rw [hall, hleft, if_pos (by decide)]
        exact ⟨file', hopen, hversion.userVersion, rowsKept_empty _⟩

/-! ## Interrupted anywhere -/

theorem statements_version (h : IsVersion aff version file) :
    statements file = (dbUpgradePath.drop version).flatten := by
  obtain ⟨tab, htab, -⟩ := h.hasTables.subscriber
  unfold statements
  rw [if_neg (by simp [htab]), h.userVersion, Int.toNat_natCast]

/-- **When an interrupted bootstrap or upgrade can be resumed**: from an empty database or one of any
version, with any contents, killed after any number of statements. -/
theorem interrupted_resumes_iff (h : IsStart aff file) (n : Nat) :
    Resumes aff file (leftAfter aff true file n) ↔ recorded ((statements file).take n) = true := by
  rcases h with rfl | ⟨version, hle, h⟩
  · have hspec := left_bootstrap aff n
    rw [show statements (File.empty : File) = stmtBootstrapSql from rfl]
    split at hspec
    · rename_i hrecorded
      exact ⟨fun _ => hrecorded, fun _ => hspec⟩
    · rename_i hrecorded
      exact ⟨fun hres => absurd hres (hspec.not_resumes (by decide)), fun h => absurd h hrecorded⟩
  · obtain ⟨tab, htab, -⟩ := h.hasTables.subscriber
    have hspec := left_spec h hle n
    have hleft : leftAfter aff true file n =
        killedAfter file (run aff (Conn.open file) (dbUpgradePath.drop version).flatten).1 n := by
      unfold leftAfter
      rw [dbOpen_eq h.userVersion hle (by rw [htab]; rfl)]
    rw [statements_version h, hleft]
    simp only at hspec
    split at hspec
    · rename_i hrecorded
      exact ⟨fun _ => hrecorded, fun _ => hspec.resumes⟩
    · rename_i hrecorded
      obtain ⟨version', hlt, hstuck⟩ := hspec
      exact ⟨fun hres => absurd hres (hstuck.not_resumes hlt), fun h => absurd h hrecorded⟩

/-- A database of version 0 that is killed before `COMMIT` is opened again as one of version 2; it is
lost if `COMMIT` has been executed, and the new version has not been recorded yet. -/
theorem version0_interrupted :
    Resumes storedAs version0 (leftAfter storedAs true version0 11) ∧
      ¬Resumes storedAs version0 (leftAfter storedAs true version0 12) :=
  have hstart : IsStart storedAs version0 := Or.inr ⟨0, by decide, isVersion_version0⟩
  ⟨(interrupted_resumes_iff hstart 11).2 (by decide),
    fun h => absurd ((interrupted_resumes_iff hstart 12).1 h) (by decide)⟩

/-- Killed after the first statement, between the new column and the new version. -/
theorem version0_lost : IsVersion storedAs 0 version0 ∧
    ¬Resumes storedAs version0 (leftAfter storedAs true version0 1) := by
  refine ⟨isVersion_version0, ?_⟩
  rintro ⟨file', hopen, -⟩
  have hfails : (dbOpen storedAs true (leftAfter storedAs true version0 1)).2.isNone = true := by
    decide
  rw [hopen] at hfails
  cases hfails

end Schema
end OsmoHlr
