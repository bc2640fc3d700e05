import Mathlib.Data.List.Nodup
import Mathlib.Logic.Function.Basic
import Mathlib.Tactic.Common

/-!
# Databases with a schema

A small SQL database: tables with declared columns, of which a row has a value each, in the
order of the columns.  Statements change schema and contents, and fail as a whole if they
refer to what is not there, or break a constraint.  A connection may have a transaction open
and tables of its own; a process that is killed loses both.

The names of tables, columns and indexes, the declared types and the values are parameters,
and so is what a column of a type makes of a value that is stored in it.

* `exec` — a statement is executed.
* `run` — statements are executed one after the other, up to the first that fails.
* `Kept` — a table has the rows of another, with some columns renamed and new ones NULL.
-/

namespace Sql

variable {τ κ ι α ν : Type}

/-! ## Tables -/

/-- A value; `none` is NULL. -/
abbrev Value (ν : Type) := Option ν

/-- A column, as it is declared. -/
structure ColumnDef (κ α ν : Type) where
  name : κ
  type : α
  notNull : Bool
  unique : Bool
  primaryKey : Bool
  default : Option (Value ν)
  deriving DecidableEq

/-- A table: what is declared, and the rows. -/
structure Table (κ α ν : Type) where
  columns : List (ColumnDef κ α ν)
  rows : List (List (Value ν))
  deriving DecidableEq

namespace Table

/-- The names of the columns. -/
def names (t : Table κ α ν) : List κ := t.columns.map ColumnDef.name

variable [DecidableEq κ]

/-- What a row has in a column. -/
def value (t : Table κ α ν) (row : List (Value ν)) (c : κ) : Value ν :=
  ((t.names.zip row).lookup c).join

/-- All that is in a column. -/
def column (t : Table κ α ν) (c : κ) : List (Value ν) := t.rows.map fun row => t.value row c

end Table

/-- The constraints on a column. -/
def ColumnDef.Ok (col : ColumnDef κ α ν) (vals : List (Value ν)) : Prop :=
  (col.notNull = true ∨ col.primaryKey = true → none ∉ vals) ∧
    (col.unique = true ∨ col.primaryKey = true → (vals.filterMap id).Nodup)

instance [DecidableEq ν] (col : ColumnDef κ α ν) (vals : List (Value ν)) :
    Decidable (col.Ok vals) := inferInstanceAs (Decidable (_ ∧ _))

/-- A table meets its constraints. -/
def Table.Ok [DecidableEq κ] (t : Table κ α ν) : Prop :=
  ∀ col ∈ t.columns, col.Ok (t.column col.name)

instance [DecidableEq κ] [DecidableEq ν] (t : Table κ α ν) : Decidable t.Ok :=
  inferInstanceAs (Decidable (∀ col ∈ t.columns, col.Ok (t.column col.name)))

/-- A table that statements may have left: columns have different names, rows a value for each of
them, as it is stored in a column of that type, and the constraints are met. -/
structure Table.Valid [DecidableEq κ] (convert : α → ν → ν) (t : Table κ α ν) : Prop where
  nodup : t.names.Nodup
  length : ∀ row ∈ t.rows, row.length = t.columns.length
  stored : ∀ col ∈ t.columns, ∀ v, some v ∈ t.column col.name → convert col.type v = v
  ok : t.Ok

/-! ## Databases and connections -/

/-- What is in the database file; an index is unique, and on one column of a table. -/
structure File (τ κ ι α ν : Type) where
  tables : τ → Option (Table κ α ν)
  indexes : List (ι × τ × κ)
  userVersion : Int

/-- A connection: what it sees of the file, its temporary tables, and what the file was when the
transaction began, if there is one. -/
structure Conn (τ κ ι α ν : Type) where
  file : File τ κ ι α ν
  temp : τ → Option (Table κ α ν)
  saved : Option (File τ κ ι α ν)

/-- A new connection. -/
def Conn.open (file : File τ κ ι α ν) : Conn τ κ ι α ν := ⟨file, fun _ => none, none⟩

/-- What is left in the file when a process is killed, or closes its connection. -/
def Conn.killed (c : Conn τ κ ι α ν) : File τ κ ι α ν := c.saved.getD c.file

@[simp] theorem Conn.killed_open (file : File τ κ ι α ν) : (Conn.open file).killed = file := rfl

/-- A database without anything. -/
def File.empty : File τ κ ι α ν := ⟨fun _ => none, [], 0⟩

/-- The table of a name: temporary ones come first. -/
def Conn.table (c : Conn τ κ ι α ν) (t : τ) : Option (Table κ α ν) :=
  (c.temp t).orElse fun _ => c.file.tables t

section Exec

variable [DecidableEq τ]

/-- The file with another table of a name. -/
def File.setTable (f : File τ κ ι α ν) (t : τ) (tab : Option (Table κ α ν)) : File τ κ ι α ν :=
  { f with tables := Function.update f.tables t tab }

/-- The file without a table and its indexes. -/
def File.drop (f : File τ κ ι α ν) (t : τ) : File τ κ ι α ν :=
  { f with
    tables := Function.update f.tables t none
    indexes := f.indexes.filter fun i => i.2.1 ≠ t }

/-- The table of a name is written. -/
def Conn.setTable (c : Conn τ κ ι α ν) (t : τ) (tab : Table κ α ν) : Conn τ κ ι α ν :=
  if (c.temp t).isSome then { c with temp := Function.update c.temp t (some tab) }
  else { c with file := c.file.setTable t (some tab) }

@[simp] theorem File.tables_setTable_self (f : File τ κ ι α ν) (t : τ)
    (tab : Option (Table κ α ν)) : (f.setTable t tab).tables t = tab := Function.update_self ..

theorem File.tables_setTable_of_ne (f : File τ κ ι α ν) {t t' : τ} (h : t' ≠ t)
    (tab : Option (Table κ α ν)) : (f.setTable t tab).tables t' = f.tables t' :=
  Function.update_of_ne h ..

@[simp] theorem File.tables_drop_self (f : File τ κ ι α ν) (t : τ) : (f.drop t).tables t = none :=
  Function.update_self ..

theorem File.tables_drop_of_ne (f : File τ κ ι α ν) {t t' : τ} (h : t' ≠ t) :
    (f.drop t).tables t' = f.tables t' := Function.update_of_ne h ..

/-! ## Statements -/

/-- The statements. -/
inductive Stmt (τ κ ι α ν : Type) where
  | begin
  | commit
  | createTable (temporary : Bool) (t : τ) (columns : List (ColumnDef κ α ν))
  | createUniqueIndex (i : ι) (t : τ) (c : κ)
  | dropTable (t : τ)
  | addColumn (t : τ) (col : ColumnDef κ α ν)
  | insertSelect (into : τ) (names : List κ) (src : τ)
  | setUserVersion (n : Int)
  deriving DecidableEq

variable [DecidableEq κ] [DecidableEq ι] [DecidableEq ν] (convert : α → ν → ν)

/-- A row as it is stored in columns. -/
def storedRow (columns : List (ColumnDef κ α ν)) (row : List (Value ν)) : List (Value ν) :=
  List.zipWith (fun col v => v.map (convert col.type)) columns row

/-- A table with one more column. -/
def Table.add (t : Table κ α ν) (col : ColumnDef κ α ν) : Table κ α ν :=
  ⟨t.columns ++ [col], t.rows.map (· ++ [col.default.join])⟩

/-- The values of some columns of all rows, as they are stored in a table. -/
def Table.selected (into : Table κ α ν) (names : List κ) (src : Table κ α ν) :
    List (List (Value ν)) :=
  src.rows.map fun row => storedRow convert into.columns (names.map (src.value row))

/-- The unique indexes on a table are unique. -/
def File.IndexesOk (f : File τ κ ι α ν) (t : τ) (tab : Table κ α ν) : Prop :=
  ∀ i ∈ f.indexes, i.2.1 = t → ((tab.column i.2.2).filterMap id).Nodup

instance (f : File τ κ ι α ν) (t : τ) (tab : Table κ α ν) : Decidable (f.IndexesOk t tab) :=
  inferInstanceAs (Decidable (∀ i ∈ f.indexes, _))

/-- A statement is executed; `none` if it fails. -/
def exec (c : Conn τ κ ι α ν) : Stmt τ κ ι α ν → Option (Conn τ κ ι α ν)
  | .begin => if c.saved.isSome then none else some { c with saved := some c.file }
  | .commit => if c.saved.isSome then some { c with saved := none } else none
  | .createTable true t columns =>
      if (c.temp t).isSome then none
      else some { c with temp := Function.update c.temp t (some ⟨columns, []⟩) }
  | .createTable false t columns =>
      if (c.file.tables t).isSome then none
      else some { c with file := c.file.setTable t (some ⟨columns, []⟩) }
  | .createUniqueIndex i t k =>
      match c.file.tables t with
      | none => none
      | some tab =>
          if i ∈ c.file.indexes.map Prod.fst ∨ k ∉ tab.names ∨
              ¬((tab.column k).filterMap id).Nodup then none
          else some { c with file := { c.file with indexes := c.file.indexes ++ [(i, t, k)] } }
  | .dropTable t =>
      if (c.temp t).isSome then some { c with temp := Function.update c.temp t none }
      else if (c.file.tables t).isSome then some { c with file := c.file.drop t }
      else none
  | .addColumn t col =>
      match c.table t with
      | none => none
      | some tab =>
          if col.name ∈ tab.names ∨ col.unique = true ∨ col.primaryKey = true ∨
              (col.notNull = true ∧ col.default.join = none) then none
          else some (c.setTable t (tab.add col))
  | .insertSelect into names src =>
      match c.table into, c.table src with
      | some tab, some stab =>
          let tab' : Table κ α ν := ⟨tab.columns, tab.rows ++ tab.selected convert names stab⟩
          if names.length = tab.columns.length ∧ (∀ n ∈ names, n ∈ stab.names) ∧ tab'.Ok ∧
              ((c.temp into).isSome = true ∨ c.file.IndexesOk into tab') then
            some (c.setTable into tab')
          else none
      | _, _ => none
  | .setUserVersion n => some { c with file := { c.file with userVersion := n } }

/-- Statements are executed one after the other, up to the first that fails: the states that are
passed through, and the last one if none fails. -/
def run (c : Conn τ κ ι α ν) :
    List (Stmt τ κ ι α ν) → List (Conn τ κ ι α ν) × Option (Conn τ κ ι α ν)
  | [] => ([], some c)
  | stmt :: stmts =>
      match exec convert c stmt with
      | none => ([], none)
      | some c' =>
          let r := run c' stmts
          (c' :: r.1, r.2)

/-! ## Runs -/

@[simp] theorem run_nil (c : Conn τ κ ι α ν) : run convert c [] = ([], some c) := rfl

theorem run_cons_of_some {c c' : Conn τ κ ι α ν} {stmt : Stmt τ κ ι α ν}
    (h : exec convert c stmt = some c') (stmts : List (Stmt τ κ ι α ν)) :
    run convert c (stmt :: stmts) =
      (c' :: (run convert c' stmts).1, (run convert c' stmts).2) := by
  rw [run, h]

theorem run_cons_of_none {c : Conn τ κ ι α ν} {stmt : Stmt τ κ ι α ν}
    (h : exec convert c stmt = none) (stmts : List (Stmt τ κ ι α ν)) :
    run convert c (stmt :: stmts) = ([], none) := by
  rw [run, h]

/-- Statements behind others go on where those have stopped. -/
theorem run_append {c c' : Conn τ κ ι α ν} {l : List (Stmt τ κ ι α ν)}
    (h : (run convert c l).2 = some c') (l' : List (Stmt τ κ ι α ν)) :
    run convert c (l ++ l') =
      ((run convert c l).1 ++ (run convert c' l').1, (run convert c' l').2) := by
  induction l generalizing c with
  | nil =>
      obtain rfl : c = c' := Option.some.inj h
      rfl
  | cons stmt l ih =>
      rw [List.cons_append]
      cases hexec : exec convert c stmt with
      | none =>
          rw [run_cons_of_none convert hexec] at h
          cases h
      | some d =>
          rw [run_cons_of_some convert hexec] at h ⊢
          rw [run_cons_of_some convert hexec, ih h]
          rfl

theorem run_append_of_none {c : Conn τ κ ι α ν} {l : List (Stmt τ κ ι α ν)}
    (h : (run convert c l).2 = none) (l' : List (Stmt τ κ ι α ν)) :
    run convert c (l ++ l') = run convert c l := by
  induction l generalizing c with
  | nil => cases h
  | cons stmt l ih =>
      rw [List.cons_append]
      cases hexec : exec convert c stmt with
      | none => rw [run_cons_of_none convert hexec, run_cons_of_none convert hexec]
      | some d =>
          rw [run_cons_of_some convert hexec] at h
          rw [run_cons_of_some convert hexec, run_cons_of_some convert hexec, ih h]

/-- As many states are passed through as statements are executed. -/
theorem length_run {c c' : Conn τ κ ι α ν} {stmts : List (Stmt τ κ ι α ν)}
    (h : (run convert c stmts).2 = some c') : (run convert c stmts).1.length = stmts.length := by
  induction stmts generalizing c with
  | nil => rfl
  | cons stmt stmts ih =>
      cases hexec : exec convert c stmt with
      | none =>
          rw [run_cons_of_none convert hexec] at h
          cases h
      | some d =>
          rw [run_cons_of_some convert hexec] at h ⊢
          exact congrArg Nat.succ (ih h)

/-- The last state that is passed through is the one that is reached. -/
theorem getLastD_run {c c' : Conn τ κ ι α ν} {stmts : List (Stmt τ κ ι α ν)}
    (h : (run convert c stmts).2 = some c') : (run convert c stmts).1.getLastD c = c' := by
  induction stmts generalizing c with
  | nil => exact Option.some.inj h
  | cons stmt stmts ih =>
      cases hexec : exec convert c stmt with
      | none =>
          rw [run_cons_of_none convert hexec] at h
          cases h
      | some d =>
          rw [run_cons_of_some convert hexec] at h ⊢
          rw [List.getLastD_cons]
          exact ih h

end Exec

/-! ## Rows, column by column -/

section Rows

variable [DecidableEq κ]

theorem isSome_lookup_zip {names : List κ} {row : List (Value ν)} (hlen : row.length = names.length)
    {c : κ} (hc : c ∈ names) : ((names.zip row).lookup c).isSome = true := by
  induction names generalizing row with
  | nil => cases hc
  | cons n names ih =>
      cases row with
      | nil => cases hlen
      | cons v row =>
          rw [List.zip_cons_cons, List.lookup_cons]
          by_cases hn : c = n
          · simp [hn]
          · have hne : (c == n) = false := by simpa using hn
            rw [hne]
            exact ih (Nat.succ.inj hlen) ((List.mem_cons.1 hc).resolve_left hn)

theorem lookup_zip_of_not_mem {names : List κ} {c : κ} (hc : c ∉ names) (row : List (Value ν)) :
    (names.zip row).lookup c = none := by
  rw [List.lookup_eq_none_iff]
  intro p hp
  have hmem : p.1 ∈ names := (List.of_mem_zip hp).1
  simpa using fun h : c = p.1 => hc (h ▸ hmem)

namespace Table

variable {t : Table κ α ν} {col : ColumnDef κ α ν} {row : List (Value ν)}

omit [DecidableEq κ] in
theorem length_names (t : Table κ α ν) : t.names.length = t.columns.length := List.length_map _

omit [DecidableEq κ] in
@[simp] theorem names_add (t : Table κ α ν) (col : ColumnDef κ α ν) :
    (t.add col).names = t.names ++ [col.name] := by
  simp [names, Table.add]

/-- A new column leaves the others as they were. -/
theorem value_add_of_mem (hlen : row.length = t.columns.length) {c : κ} (hc : c ∈ t.names)
    (v : Value ν) : (t.add col).value (row ++ [v]) c = t.value row c := by
  have hlen' : row.length = t.names.length := hlen.trans (length_names t).symm
  obtain ⟨w, hw⟩ := Option.isSome_iff_exists.1 (isSome_lookup_zip hlen' hc)
  simp [value, List.zip_append hlen'.symm, List.lookup_append, hw]

/-- A new column has what it was given. -/
theorem value_add_self (hlen : row.length = t.columns.length) (hc : col.name ∉ t.names)
    (v : Value ν) : (t.add col).value (row ++ [v]) col.name = v := by
  have hlen' : row.length = t.names.length := hlen.trans (length_names t).symm
  simp [value, List.zip_append hlen'.symm, List.lookup_append, lookup_zip_of_not_mem hc]

end Table

/-- What is stored in a row from a list of columns. -/
theorem value_storedRow (convert : α → ν → ν) (g : κ → Value ν) {columns : List (ColumnDef κ α ν)}
    {names : List κ} (hnodup : (columns.map ColumnDef.name).Nodup) {p : ColumnDef κ α ν × κ}
    (hp : p ∈ columns.zip names) (rows : List (List (Value ν))) :
    (⟨columns, rows⟩ : Table κ α ν).value (storedRow convert columns (names.map g)) p.1.name =
      (g p.2).map (convert p.1.type) := by
  induction columns generalizing names with
  | nil => cases hp
  | cons col columns ih =>
      cases names with
      | nil => cases hp
      | cons n names =>
          rw [List.map_cons, List.nodup_cons] at hnodup
          rw [List.zip_cons_cons, List.mem_cons] at hp
          unfold Table.value Table.names storedRow
          rw [List.map_cons, List.map_cons, List.zipWith_cons_cons, List.zip_cons_cons,
            List.lookup_cons]
          rcases hp with rfl | hp
          · simp
          · have hmem : p.1.name ∈ columns.map ColumnDef.name :=
              List.mem_map_of_mem (List.of_mem_zip hp).1
            have hne : (p.1.name == col.name) = false := by
              simpa using fun h : p.1.name = col.name => hnodup.1 (h ▸ hmem)
            rw [hne]
            exact ih hnodup.2 hp

/-! ## Tables that keep the rows of others -/

/-- A table has the rows of another one: columns may have other names, and what is new is NULL. -/
structure Kept (ρ : κ → κ) (t t' : Table κ α ν) : Prop where
  names : ∀ c ∈ t.names, ρ c ∈ t'.names
  rows : ∃ g : List (Value ν) → List (Value ν), t'.rows = t.rows.map g ∧ ∀ row ∈ t.rows,
    (∀ c ∈ t.names, t'.value (g row) (ρ c) = t.value row c) ∧
      ∀ c ∈ t'.names, c ∉ t.names.map ρ → t'.value (g row) c = none

variable {ρ ρ' : κ → κ} {t t' t'' : Table κ α ν} {convert : α → ν → ν}

theorem Kept.refl (h : ∀ c ∈ t.names, ρ c = c) : Kept ρ t t where
  names c hc := (h c hc).symm ▸ hc
  rows := by
    refine ⟨id, (List.map_id _).symm, ?_⟩
    intro row _
    refine ⟨fun c hc => by rw [h c hc, id], ?_⟩
    intro c hc hnot
    exact absurd (List.mem_map.2 ⟨c, hc, h c hc⟩) hnot

theorem Kept.trans (h : Kept ρ t t') (h' : Kept ρ' t' t'') : Kept (ρ' ∘ ρ) t t'' where
  names c hc := h'.names _ (h.names c hc)
  rows := by
    obtain ⟨g, hrows, hg⟩ := h.rows
    obtain ⟨g', hrows', hg'⟩ := h'.rows
    refine ⟨g' ∘ g, by rw [hrows', hrows, List.map_map], ?_⟩
    intro row hrow
    have hrow' : g row ∈ t'.rows := hrows ▸ List.mem_map_of_mem hrow
    obtain ⟨hold, hnew⟩ := hg row hrow
    obtain ⟨hold', hnew'⟩ := hg' (g row) hrow'
    refine ⟨fun c hc => (hold' _ (h.names c hc)).trans (hold c hc), ?_⟩
    intro c hc hnot
    by_cases hmem : c ∈ t'.names.map ρ'
    · -- new in the first step already
      obtain ⟨m, hm, rfl⟩ := List.mem_map.1 hmem
      refine (hold' m hm).trans (hnew m hm ?_)
      intro hm'
      obtain ⟨n, hn, rfl⟩ := List.mem_map.1 hm'
      exact hnot (List.mem_map.2 ⟨n, hn, rfl⟩)
    · exact hnew' c hc hmem

namespace Table

variable {col : ColumnDef κ α ν}

theorem column_add_of_mem (h : t.Valid convert) {c : κ} (hc : c ∈ t.names) :
    (t.add col).column c = t.column c := by
  unfold column
  show (t.rows.map _).map _ = _
  rw [List.map_map]
  refine List.map_congr_left ?_
  intro row hrow
  exact value_add_of_mem (h.length row hrow) hc _

theorem column_add_self (h : t.Valid convert) (hc : col.name ∉ t.names) :
    (t.add col).column col.name = t.rows.map fun _ => col.default.join := by
  unfold column
  show (t.rows.map _).map _ = _
  rw [List.map_map]
  refine List.map_congr_left ?_
  intro row hrow
  exact value_add_self (h.length row hrow) hc _

/-- A column that may be NULL, and is. -/
theorem valid_add (h : t.Valid convert) (hc : col.name ∉ t.names)
    (hplain : col.notNull = false ∧ col.unique = false ∧ col.primaryKey = false)
    (hdefault : col.default.join = none) : (t.add col).Valid convert := by
  have hself := column_add_self h hc
  rw [hdefault] at hself
  refine ⟨?_, ?_, ?_, ?_⟩
  · rw [names_add, List.nodup_append]
    refine ⟨h.nodup, List.nodup_singleton _, ?_⟩
    intro a ha b hb hab
    rw [List.mem_singleton] at hb
    exact hc (hb ▸ hab ▸ ha)
  · intro row hrow
    obtain ⟨old, hold, rfl⟩ := List.mem_map.1 hrow
    show (old ++ [_]).length = (t.columns ++ [col]).length
    rw [List.length_append, List.length_append, h.length old hold]
    rfl
  · intro col' hcol' v hv
    rcases List.mem_append.1 hcol' with hmem | hmem
    · rw [column_add_of_mem h (List.mem_map_of_mem hmem)] at hv
      exact h.stored col' hmem v hv
    · obtain rfl := List.mem_singleton.1 hmem
      rw [hself] at hv
      simp at hv
  · intro col' hcol'
    rcases List.mem_append.1 hcol' with hmem | hmem
    · rw [column_add_of_mem h (List.mem_map_of_mem hmem)]
      exact h.ok col' hmem
    · obtain rfl := List.mem_singleton.1 hmem
      simp [ColumnDef.Ok, hplain]

theorem kept_add (h : t.Valid convert) (hc : col.name ∉ t.names)
    (hdefault : col.default.join = none) : Kept id t (t.add col) where
  names c hc := by simp [hc]
  rows := by
    refine ⟨(· ++ [col.default.join]), rfl, ?_⟩
    intro row hrow
    refine ⟨fun c hc => value_add_of_mem (h.length row hrow) hc _, ?_⟩
    intro c hc' hnot
    rw [List.map_id] at hnot
    rw [names_add, List.mem_append, List.mem_singleton] at hc'
    obtain rfl := hc'.resolve_left hnot
    rw [value_add_self (h.length row hrow) hc, hdefault]

end Table

/-! ## Copies of tables -/

/-- Columns that take what is selected of a table: each of the same type as the column that its
values come from, with the same constraints. -/
structure Copies (ρ : κ → κ) (src : Table κ α ν) (columns : List (ColumnDef κ α ν))
    (names : List κ) : Prop where
  length : names.length = columns.length
  nodup : (columns.map ColumnDef.name).Nodup
  declared : ∀ p ∈ columns.zip names, ∃ col ∈ src.columns, col.name = p.2 ∧
    p.1 = { col with name := ρ p.2 }
  all : ∀ c ∈ src.names, c ∈ names

namespace Copies

variable {columns : List (ColumnDef κ α ν)} {names : List κ}

/-- The table that is filled. -/
def copy (convert : α → ν → ν) (src : Table κ α ν) (columns : List (ColumnDef κ α ν))
    (names : List κ) : Table κ α ν :=
  ⟨columns, src.rows.map fun row => storedRow convert columns (names.map (src.value row))⟩

omit [DecidableEq κ] in
/-- Every column has its values from somewhere. -/
theorem exists_zip (h : Copies ρ t columns names) {col : ColumnDef κ α ν} (hcol : col ∈ columns) :
    ∃ n, (col, n) ∈ columns.zip names := by
  obtain ⟨i, hi, rfl⟩ := List.getElem_of_mem hcol
  have hi' : i < names.length := h.length ▸ hi
  refine ⟨names[i], List.mem_iff_getElem.2 ⟨i, ?_, List.getElem_zip⟩⟩
  rw [List.length_zip]
  exact Nat.lt_min.2 ⟨hi, hi'⟩

omit [DecidableEq κ] in
/-- Every column that is selected goes somewhere. -/
theorem exists_zip_of_name (h : Copies ρ t columns names) {n : κ} (hn : n ∈ names) :
    ∃ col, (col, n) ∈ columns.zip names := by
  obtain ⟨i, hi, rfl⟩ := List.getElem_of_mem hn
  have hi' : i < columns.length := h.length ▸ hi
  refine ⟨columns[i], List.mem_iff_getElem.2 ⟨i, ?_, List.getElem_zip⟩⟩
  rw [List.length_zip]
  exact Nat.lt_min.2 ⟨hi', hi⟩

omit [DecidableEq κ] in
/-- The order of the columns of the table does not matter. -/
theorem of_perm (h : Copies ρ t' columns names) (hperm : t.columns.Perm t'.columns) :
    Copies ρ t columns names where
  length := h.length
  nodup := h.nodup
  declared p hp := by
    obtain ⟨col, hcol, hname, hdecl⟩ := h.declared p hp
    exact ⟨col, hperm.mem_iff.2 hcol, hname, hdecl⟩
  all c hc := h.all c ((hperm.map ColumnDef.name).mem_iff.1 hc)

/-- **Values go to the column that they were selected for.** -/
theorem value_copy (h : Copies ρ t columns names) (hvalid : t.Valid convert)
    {row : List (Value ν)} (hrow : row ∈ t.rows) {p : ColumnDef κ α ν × κ}
    (hp : p ∈ columns.zip names) :
    (copy convert t columns names).value
      (storedRow convert columns (names.map (t.value row))) p.1.name = t.value row p.2 := by
  unfold copy
  rw [value_storedRow convert (t.value row) h.nodup hp]
  obtain ⟨col, hcol, hname, hdecl⟩ := h.declared p hp
  cases hv : t.value row p.2 with
  | none => rfl
  | some v =>
      have hmem : some v ∈ t.column col.name := by
        rw [hname, ← hv]
        exact List.mem_map_of_mem hrow
      have hstored := hvalid.stored col hcol v hmem
      rw [hdecl]
      exact congrArg some hstored

theorem column_copy (h : Copies ρ t columns names) (hvalid : t.Valid convert)
    {p : ColumnDef κ α ν × κ} (hp : p ∈ columns.zip names) :
    (copy convert t columns names).column p.1.name = t.column p.2 := by
  unfold Table.column
  show (t.rows.map _).map _ = _
  rw [List.map_map]
  refine List.map_congr_left ?_
  intro row hrow
  exact h.value_copy hvalid hrow hp

/-- A copy meets the constraints that the table meets. -/
theorem valid_copy (h : Copies ρ t columns names) (hvalid : t.Valid convert) :
    (copy convert t columns names).Valid convert where
  nodup := h.nodup
  length := by
    intro row hrow
    obtain ⟨old, -, rfl⟩ := List.mem_map.1 hrow
    show (List.zipWith _ columns (names.map _)).length = columns.length
    rw [List.length_zipWith, List.length_map, h.length, Nat.min_self]
  stored := by
    intro col hcol v hv
    obtain ⟨n, hp⟩ := h.exists_zip hcol
    obtain ⟨col', hcol', hname, hdecl⟩ := h.declared _ hp
    rw [h.column_copy hvalid hp] at hv
    have hstored := hvalid.stored col' hcol' v (by rw [hname]; exact hv)
    rw [show col = { col' with name := ρ n } from hdecl]
    exact hstored
  ok := by
    intro col hcol
    obtain ⟨n, hp⟩ := h.exists_zip hcol
    obtain ⟨col', hcol', hname, hdecl⟩ := h.declared _ hp
    have hok := hvalid.ok col' hcol'
    rw [h.column_copy hvalid hp, show col = { col' with name := ρ n } from hdecl]
    rw [hname] at hok
    exact hok

/-- A copy has all the rows. -/
theorem kept_copy (h : Copies ρ t columns names) (hvalid : t.Valid convert) :
    Kept ρ t (copy convert t columns names) where
  names c hc := by
    obtain ⟨col, hp⟩ := h.exists_zip_of_name (h.all c hc)
    obtain ⟨col', -, -, hdecl⟩ := h.declared _ hp
    have hname : col.name = ρ c := congrArg ColumnDef.name hdecl
    exact List.mem_map.2 ⟨col, (List.of_mem_zip hp).1, hname⟩
  rows := by
    refine ⟨fun row => storedRow convert columns (names.map (t.value row)), rfl, ?_⟩
    intro row hrow
    refine ⟨?_, ?_⟩
    · intro c hc
      obtain ⟨col, hp⟩ := h.exists_zip_of_name (h.all c hc)
      obtain ⟨col', -, -, hdecl⟩ := h.declared _ hp
      have hname : col.name = ρ c := congrArg ColumnDef.name hdecl
      rw [← hname]
      exact h.value_copy hvalid hrow hp
    · intro c hc hnot
      obtain ⟨col, hcol, rfl⟩ := List.mem_map.1 hc
      obtain ⟨n, hp⟩ := h.exists_zip hcol
      obtain ⟨col', hcol', hname, hdecl⟩ := h.declared _ hp
      have hname' : col.name = ρ n := congrArg ColumnDef.name hdecl
      refine absurd (List.mem_map.2 ⟨n, ?_, hname'.symm⟩) hnot
      exact List.mem_map.2 ⟨col', hcol', hname⟩

end Copies

end Rows

/-! ## What statements do -/

section Spec

variable [DecidableEq τ] [DecidableEq κ] [DecidableEq ι] [DecidableEq ν] {convert : α → ν → ν}
  {c : Conn τ κ ι α ν} {t : τ} {tab : Table κ α ν}

theorem exec_addColumn {col : ColumnDef κ α ν} (htemp : c.temp t = none)
    (ht : c.file.tables t = some tab) (hname : col.name ∉ tab.names)
    (hplain : col.notNull = false ∧ col.unique = false ∧ col.primaryKey = false) :
    exec convert c (.addColumn t col) =
      some { c with file := c.file.setTable t (some (tab.add col)) } := by
  have htable : c.table t = some tab := by simp [Conn.table, htemp, ht]
  simp [exec, htable, hname, hplain, Conn.setTable, htemp]

/-- A column cannot be added twice. -/
theorem exec_addColumn_of_mem {col : ColumnDef κ α ν} (htemp : c.temp t = none)
    (ht : c.file.tables t = some tab) (hname : col.name ∈ tab.names) :
    exec convert c (.addColumn t col) = none := by
  have htable : c.table t = some tab := by simp [Conn.table, htemp, ht]
  simp [exec, htable, hname]

/-- A table without rows is filled. -/
theorem exec_insertSelect {ρ : κ → κ} {into src : τ} {columns : List (ColumnDef κ α ν)}
    {names : List κ} (hinto : c.table into = some ⟨columns, []⟩) (hsrc : c.table src = some tab)
    (hvalid : tab.Valid convert) (hcopies : Copies ρ tab columns names)
    (hindexes : (c.temp into).isSome = true ∨ ∀ i ∈ c.file.indexes, i.2.1 ≠ into) :
    exec convert c (.insertSelect into names src) =
      some (c.setTable into (Copies.copy convert tab columns names)) := by
  have hok := (hcopies.valid_copy hvalid).ok
  have hnames : ∀ n ∈ names, n ∈ tab.names := by
    intro n hn
    obtain ⟨col, hp⟩ := hcopies.exists_zip_of_name hn
    obtain ⟨col', hcol', hname, -⟩ := hcopies.declared _ hp
    exact List.mem_map.2 ⟨col', hcol', hname⟩
  have hindexes' : (c.temp into).isSome = true ∨
      c.file.IndexesOk into (Copies.copy convert tab columns names) :=
    hindexes.imp_right fun h i hi hinto => absurd hinto (h i hi)
  simp only [exec, hinto, hsrc]
  exact if_pos ⟨hcopies.length, hnames, hok, hindexes'⟩

/-- A column that is not there cannot be selected. -/
theorem exec_insertSelect_of_not_mem {into src : τ} {names : List κ} {n : κ}
    (hsrc : c.table src = some tab) (hn : n ∈ names) (hmissing : n ∉ tab.names) :
    exec convert c (.insertSelect into names src) = none := by
  simp only [exec, hsrc]
  cases c.table into with
  | none => rfl
  | some tab' => exact if_neg fun h => hmissing (h.2.1 n hn)

end Spec

end Sql
