import OsmoHlr.Db.DbLibHost

/-!
# Updates that fail

Which operations leave the tables as they were when they report a failure.  A statement
that fails changes nothing, and what is not found is not changed, so that only two
operations can stop half-way: the one that deletes keys before it inserts others, and the
one that stores a VLR before it stores the time.

* `SingleRow` — a statement that changes one row at most, and nothing if there is none.
* `failed_changes_nothing_iff` — the exact condition, for each operation.
-/

namespace OsmoHlr
namespace Db

open CString CniPeerId

variable {lib : DbLib} {f : Faults} {t : Tables} {stmt : Stmt} {n : Nat} {id : Int} {imsi : CStr}

/-! ## Statements about one row -/

/-- It changes one row at most, and nothing if there is none. -/
structure SingleRow (t : Tables) (stmt : Stmt) : Prop where
  le_one : (stmt t.toContents).2 ≤ 1
  eq_of_zero : (stmt t.toContents).2 = 0 → (stmt t.toContents).1 = t.toContents

theorem countP_key_le_one {α κ : Type} [DecidableEq κ] {key : α → κ} {l : List α}
    (h : (l.map key).Nodup) (k : κ) : (l.countP fun x => key x = k) ≤ 1 := by
  have hcount := List.nodup_iff_count_le_one.1 h k
  rw [List.count, List.countP_map] at hcount
  refine Nat.le_trans (Nat.le_of_eq (List.countP_congr fun x _ => ?_)) hcount
  simp

theorem map_eq_of_countP_eq_zero {α : Type} {p : α → Bool} {l : List α} (h : l.countP p = 0)
    (set : α → α) : (l.map fun x => if p x then set x else x) = l := by
  refine (List.map_congr_left fun x hx => ?_).trans (List.map_id l)
  exact if_neg (List.countP_eq_zero.1 h x hx)

theorem filter_ne_of_countP_eq_zero {α κ : Type} [DecidableEq κ] {key : α → κ} {l : List α} {k : κ}
    (h : (l.countP fun x => key x = k) = 0) : (l.filter fun x => key x ≠ k) = l := by
  rw [List.filter_eq_self]
  intro x hx
  simpa using List.countP_eq_zero.1 h x hx

theorem singleRow_updateById (t : Tables) (id : Int) (set : SubscriberRow → SubscriberRow) :
    SingleRow t (updateSubscriber (fun row => row.id = id) set) where
  le_one := countP_key_le_one t.valid.1 id
  eq_of_zero h := by
    rw [updateSubscriber, map_eq_of_countP_eq_zero h]

theorem singleRow_updateByImsi (t : Tables) (imsi : CStr) (set : SubscriberRow → SubscriberRow) :
    SingleRow t (updateSubscriber (fun row => row.imsi = imsi) set) where
  le_one := countP_key_le_one t.valid.2.1 imsi
  eq_of_zero h := by
    rw [updateSubscriber, map_eq_of_countP_eq_zero h]

theorem singleRow_delById (t : Tables) (id : Int) : SingleRow t (delById id) where
  le_one := countP_key_le_one t.valid.1 id
  eq_of_zero h := by
    rw [delById, filter_ne_of_countP_eq_zero h]

theorem singleRow_auc2gDelete (t : Tables) (id : Int) : SingleRow t (auc2gDelete id) where
  le_one := countP_key_le_one t.valid.2.2.2.1 id
  eq_of_zero h := by
    rw [auc2gDelete, filter_ne_of_countP_eq_zero h]

theorem singleRow_auc3gDelete (t : Tables) (id : Int) : SingleRow t (auc3gDelete id) where
  le_one := countP_key_le_one t.valid.2.2.2.2 id
  eq_of_zero h := by
    rw [auc3gDelete, filter_ne_of_countP_eq_zero h]

theorem singleRow_audDelete (t : Tables) (aud : SubAuthDataStr) (id : Int) :
    SingleRow t (audDelete aud id) := by
  unfold audDelete
  split
  · exact singleRow_auc2gDelete t id
  · exact singleRow_auc3gDelete t id

theorem exec_of_zero (h : SingleRow t stmt) (hzero : (t.exec f stmt).changes = 0) :
    (t.exec f stmt).tables = t := by
  cases hdone : (t.exec f stmt).done with
  | false => exact exec_of_not_done hdone
  | true =>
      obtain ⟨-, htables, hchanges⟩ := exec_of_done hdone
      exact Tables.ext (htables.trans (h.eq_of_zero (hchanges ▸ hzero)))

theorem exec_changes_le (h : SingleRow t stmt) : (t.exec f stmt).changes ≤ 1 := by
  unfold Tables.exec
  split
  · exact Nat.zero_le 1
  · split
    · exact h.le_one
    · exact Nat.zero_le 1

/-- What `updateOne` returns. -/
theorem updateOne_cases (h : SingleRow t stmt) (f : Faults) (n : Nat) :
    ((updateOne f n t stmt).1 = eio ∧ (updateOne f n t stmt).2 = t ∧
        (f.binds n = true ∨ f.step = true ∨ ¬(stmt t.toContents).1.Valid)) ∨
      ((updateOne f n t stmt).1 = enoent ∧ (updateOne f n t stmt).2 = t ∧
        f.binds n = false ∧ f.step = false ∧ (stmt t.toContents).2 = 0) ∨
      ((updateOne f n t stmt).1 = 0 ∧
        (updateOne f n t stmt).2.toContents = (stmt t.toContents).1 ∧
        f.binds n = false ∧ f.step = false ∧ (stmt t.toContents).2 = 1) := by
  unfold updateOne
  split
  next hbinds => exact Or.inl ⟨rfl, rfl, Or.inl hbinds⟩
  next hbinds =>
      have hbinds' : f.binds n = false := by simpa using hbinds
      simp only
      cases hdone : (t.exec f stmt).done with
      | false =>
          refine Or.inl ⟨rfl, exec_of_not_done hdone, Or.inr ?_⟩
          have hnot := mt exec_done_iff.2 (by rw [hdone]; decide : ¬(t.exec f stmt).done = true)
          cases hstep : f.step with
          | true => exact Or.inl rfl
          | false => exact Or.inr fun hvalid => hnot ⟨hstep, hvalid⟩
      | true =>
          obtain ⟨hstep, htables, hchanges⟩ := exec_of_done hdone
          simp only [Bool.not_true, Bool.false_eq_true, if_false]
          by_cases hzero : (t.exec f stmt).changes = 0
          · rw [if_pos hzero]
            exact Or.inr (Or.inl ⟨rfl, exec_of_zero h hzero, hbinds', hstep, hchanges ▸ hzero⟩)
          · have hone : (t.exec f stmt).changes = 1 :=
              Nat.le_antisymm (exec_changes_le h) (Nat.pos_of_ne_zero hzero)
            rw [if_neg hzero, if_neg (not_not.2 hone)]
            exact Or.inr (Or.inr ⟨rfl, htables, hbinds', hstep, hchanges ▸ hone⟩)

/-! ## Statements that meet the constraints -/

theorem map_updated {β : Type} {g : SubscriberRow → β} {set : SubscriberRow → SubscriberRow}
    (h : ∀ row, g (set row) = g row) (cond : SubscriberRow → Bool) (l : List SubscriberRow) :
    (l.map fun row => if cond row then set row else row).map g = l.map g := by
  rw [List.map_map]
  refine List.map_congr_left fun row _ => ?_
  simp only [Function.comp_apply]
  split
  · exact h row
  · rfl

theorem filterMap_updated {β : Type} {g : SubscriberRow → Option β}
    {set : SubscriberRow → SubscriberRow} (h : ∀ row, g (set row) = g row)
    (cond : SubscriberRow → Bool) (l : List SubscriberRow) :
    (l.map fun row => if cond row then set row else row).filterMap g = l.filterMap g := by
  rw [List.filterMap_map]
  refine List.filterMap_congr fun row _ => ?_
  simp only [Function.comp_apply]
  split
  · exact h row
  · rfl

/-- An update that leaves keys alone meets the constraints. -/
theorem valid_updateSubscriber (t : Tables) (cond : SubscriberRow → Bool)
    {set : SubscriberRow → SubscriberRow} (hid : ∀ row, (set row).id = row.id)
    (himsi : ∀ row, (set row).imsi = row.imsi) (hmsisdn : ∀ row, (set row).msisdn = row.msisdn) :
    (updateSubscriber cond set t.toContents).1.Valid := by
  obtain ⟨hids, himsis, hmsisdns, haud⟩ := t.valid
  refine ⟨?_, ?_, ?_, haud⟩
  · exact (map_updated hid cond t.subscriber).symm ▸ hids
  · exact (map_updated himsi cond t.subscriber).symm ▸ himsis
  · exact (filterMap_updated hmsisdn cond t.subscriber).symm ▸ hmsisdns

/-- So does a deletion of keys. -/
theorem valid_audDelete (t : Tables) (aud : SubAuthDataStr) (id : Int) :
    (audDelete aud id t.toContents).1.Valid := by
  obtain ⟨hids, himsis, hmsisdns, h2g, h3g⟩ := t.valid
  unfold audDelete
  split
  · exact ⟨hids, himsis, hmsisdns, (List.filter_sublist.map _).nodup h2g, h3g⟩
  · exact ⟨hids, himsis, hmsisdns, h2g, (List.filter_sublist.map _).nodup h3g⟩

theorem nodup_map_concat {α κ : Type} {key : α → κ} {l : List α} (h : (l.map key).Nodup) {x : α}
    (hx : ∀ y ∈ l, key y ≠ key x) : ((l ++ [x]).map key).Nodup := by
  rw [List.map_append, List.map_singleton]
  refine List.Nodup.append h (List.nodup_singleton _) ?_
  rw [List.disjoint_singleton]
  rintro hmem
  obtain ⟨y, hy, heq⟩ := List.mem_map.1 hmem
  exact hx y hy heq

/-- There are keys of a type. -/
def Contents.HasAud (c : Contents) (type : AuthType) (id : Int) : Prop :=
  if type = .gsm then ∃ row ∈ c.auc2g, row.subscriberId = id
  else ∃ row ∈ c.auc3g, row.subscriberId = id

instance (c : Contents) (type : AuthType) (id : Int) : Decidable (c.HasAud type id) :=
  inferInstanceAs (Decidable (if type = .gsm then ∃ row ∈ c.auc2g, row.subscriberId = id
    else ∃ row ∈ c.auc3g, row.subscriberId = id))

/-- And so does an insertion of keys where there are none. -/
theorem valid_audInsert (t : Tables) {aud : SubAuthDataStr} {id : Int}
    (h : ¬t.HasAud aud.type id) : (audInsert aud id t.toContents).1.Valid := by
  obtain ⟨hids, himsis, hmsisdns, h2g, h3g⟩ := t.valid
  by_cases htype : aud.type = .gsm
  · rw [Contents.HasAud, if_pos htype] at h
    rw [audInsert, if_pos htype]
    exact ⟨hids, himsis, hmsisdns, nodup_map_concat h2g fun row hrow heq => h ⟨row, hrow, heq⟩, h3g⟩
  · rw [Contents.HasAud, if_neg htype] at h
    rw [audInsert, if_neg htype]
    exact ⟨hids, himsis, hmsisdns, h2g, nodup_map_concat h3g fun row hrow heq => h ⟨row, hrow, heq⟩⟩

theorem hasAud_iff (c : Contents) (aud : SubAuthDataStr) (id : Int) :
    c.HasAud aud.type id ↔ (audDelete aud id c).2 ≠ 0 := by
  by_cases htype : aud.type = .gsm <;>
    simp [Contents.HasAud, audDelete, htype, auc2gDelete, auc3gDelete]

theorem not_hasAud_audDelete (c : Contents) (aud : SubAuthDataStr) (id : Int) :
    ¬(audDelete aud id c).1.HasAud aud.type id := by
  by_cases htype : aud.type = .gsm <;>
    simp [Contents.HasAud, audDelete, htype, auc2gDelete, auc3gDelete]

/-- If not one row has been changed, nothing has. -/
theorem updateOne_of_ne_zero (h : SingleRow t stmt) (hrc : (updateOne f n t stmt).1 ≠ 0) :
    (updateOne f n t stmt).2 = t := by
  rcases updateOne_cases h f n with ⟨-, hsame, -⟩ | ⟨-, hsame, -⟩ | ⟨hzero, -⟩
  · exact hsame
  · exact hsame
  · exact absurd hzero hrc

/-- If one row has been changed, that is what the statement does. -/
theorem updateOne_of_eq_zero (h : SingleRow t stmt) (hrc : (updateOne f n t stmt).1 = 0) :
    (updateOne f n t stmt).2.toContents = (stmt t.toContents).1 := by
  rcases updateOne_cases h f n with ⟨heio, -⟩ | ⟨hnoent, -⟩ | ⟨-, htables, -⟩
  · exact absurd (heio.symm.trans hrc) (by decide)
  · exact absurd (hnoent.symm.trans hrc) (by decide)
  · exact htables

/-! ## Failures -/

/-- It is to delete, so that there may be nothing to delete. -/
def Op.deletes : Op → Bool
  | .deleteById _ _ => true
  | .updateAudById _ _ aud => aud.algo = .none
  | _ => false

/-- If an operation reports a failure, other than that there is nothing to delete, then the tables
are as before. -/
def FailedChangesNothing (lib : DbLib) (t : Tables) (op : Op) : Prop :=
  (op.run lib t).1 < 0 → ¬((op.run lib t).1 = enoent ∧ op.deletes = true) → (op.run lib t).2 = t

/-- What `db_subscr_lu` stores is not stored already. -/
def Contents.LuChanges (c : Contents) (id : Int) (vlrName : CStr) (isPs : Bool)
    (viaProxy : Option CStr) : Prop :=
  ∃ row ∈ c.subscriber, row.id = id ∧
    (if isPs then (row.sgsnNumber, row.sgsnViaProxy) else (row.vlrNumber, row.vlrViaProxy)) ≠
      (some vlrName, viaProxy)

/-- It stops half-way: keys are deleted, and the new ones are not inserted; or a VLR is stored, and
the time is not. -/
def Op.StopsHalfWay (lib : DbLib) (t : Tables) : Op → Prop
  | .updateAudById f id aud =>
      audValid lib aud = true ∧ aud.algo ≠ .none ∧ t.HasAud aud.type id ∧
        f.del.binds 1 = false ∧ f.del.step = false ∧
        (f.ins.binds (audInsertBinds aud) = true ∨ f.ins.step = true)
  | .lu f id vlrName isPs viaProxy =>
      t.LuChanges id vlrName isPs viaProxy ∧ f.number.binds 3 = false ∧ f.number.step = false ∧
        (f.clock.isOk = true → f.lastLuSeen.binds 2 = true ∨ f.lastLuSeen.step = true)
  | _ => False

theorem failed_updateOne {op : Op} (h : SingleRow t stmt)
    (hrun : op.run lib t = updateOne f n t stmt) : FailedChangesNothing lib t op := by
  intro hrc _
  rw [hrun] at hrc ⊢
  exact updateOne_of_ne_zero h (Int.ne_of_lt hrc)

theorem failed_refused {op : Op} (rc : Int) (hrun : op.run lib t = (rc, t)) :
    FailedChangesNothing lib t op := by
  intro _ _
  rw [hrun]

theorem failed_create (lib : DbLib) (t : Tables) (f : Faults) (found : Int) (imsi : CStr)
    (flags : UInt8) : FailedChangesNothing lib t (.create f found imsi flags) := by
  intro hrc _
  have hrun : Op.run lib t (.create f found imsi flags) = dbSubscrCreate lib f found t imsi flags :=
    rfl
  rw [hrun] at hrc ⊢
  unfold dbSubscrCreate at hrc ⊢
  split
  · rfl
  next hvalid =>
      split
      · rfl
      next hbinds =>
          rw [if_neg hvalid, if_neg hbinds] at hrc
          simp only at hrc ⊢
          split
          next hdone => exact exec_of_not_done (by simpa using hdone)
          next hdone =>
              rw [if_neg hdone] at hrc
              exact absurd hrc (Int.lt_irrefl 0)

/-- Keys are only deleted. -/
theorem updateAud_noAud (lib : DbLib) (f : AudFaults) (t : Tables) (id : Int) {type : AuthType}
    (h : type = .gsm ∨ type = .umts) :
    dbSubscrUpdateAudById lib f t id (noAud type) =
      updateOne f.del 1 t (audDelete (noAud type) id) := by
  have hvalid : audValid lib (noAud type) = true := by rcases h with rfl | rfl <;> rfl
  have halgo : (noAud type).algo = .none := rfl
  unfold dbSubscrUpdateAudById
  simp only [hvalid, halgo, Bool.not_true, Bool.false_eq_true, if_false, if_true, ite_self]

/-- The return codes of the three deletions are folded into one. -/
theorem deleteRc_cases {changes : Nat} (h : changes ≤ 1) (rc2g rc3g : Int) :
    let ret := if changes = 0 then enoent else if changes ≠ 1 then eio else 0
    let ret := if ret = enoent ∧ rc2g = 0 then 0 else ret
    (if ret = enoent ∧ rc3g = 0 then 0 else ret) = 0 ∨
      (if ret = enoent ∧ rc3g = 0 then 0 else ret) = enoent := by
  have hfold : ∀ ret rc : Int, ret = 0 ∨ ret = enoent →
      (if ret = enoent ∧ rc = 0 then 0 else ret) = 0 ∨
        (if ret = enoent ∧ rc = 0 then 0 else ret) = enoent := by
    intro ret rc hret
    split
    · exact Or.inl rfl
    · exact hret
  refine hfold _ _ (hfold _ _ ?_)
  split
  · exact Or.inr rfl
  · rw [if_neg (by omega)]
    exact Or.inl rfl

/-- **A deletion reports a failure only if nothing has been deleted.** -/
theorem failed_deleteById (lib : DbLib) (t : Tables) (f : DeleteFaults) (id : Int) :
    FailedChangesNothing lib t (.deleteById f id) := by
  intro hrc henoent
  have hrun : Op.run lib t (.deleteById f id) = dbSubscrDeleteById lib f t id := rfl
  rw [hrun] at hrc henoent ⊢
  unfold dbSubscrDeleteById at hrc henoent ⊢
  split
  · rfl
  next hbinds =>
      rw [if_neg hbinds] at hrc henoent
      simp only at hrc henoent ⊢
      split
      next hdone => exact exec_of_not_done (by simpa using hdone)
      next hdone =>
          rw [if_neg hdone] at hrc henoent
          -- the return code is 0, or says that there is nothing to delete
          have hchanges := exec_changes_le (f := f.del) (singleRow_delById t id)
          generalize dbSubscrUpdateAudById lib f.aud2g _ id (noAud .gsm) = aud2g at *
          generalize dbSubscrUpdateAudById lib f.aud3g _ id (noAud .umts) = aud3g at *
          rcases deleteRc_cases hchanges aud2g.1 aud3g.1 with hzero | hnone
          · rw [hzero] at hrc
            exact absurd hrc (Int.lt_irrefl 0)
          · exact absurd ⟨hnone, rfl⟩ henoent

/-- The second half of `db_subscr_update_aud_by_id`. -/
def insertKeys (f : Faults) (t : Tables) (id : Int) (aud : SubAuthDataStr) : Int × Tables :=
  if f.binds (audInsertBinds aud) then (eio, t)
  else
    let stepped := t.exec f (audInsert aud id)
    if !stepped.done then (eio, stepped.tables) else (0, stepped.tables)

theorem dbSubscrUpdateAudById_eq (lib : DbLib) (f : AudFaults) (t : Tables) (id : Int)
    (aud : SubAuthDataStr) :
    dbSubscrUpdateAudById lib f t id aud =
      if !audValid lib aud then (einval, t)
      else
        let deleted := updateOne f.del 1 t (audDelete aud id)
        if deleted.1 ≠ 0 ∧ deleted.1 ≠ enoent then deleted
        else if aud.algo = .none then deleted else insertKeys f.ins deleted.2 id aud := rfl

/-- Keys are inserted, or nothing is changed. -/
theorem insertKeys_cases (f : Faults) (t : Tables) (id : Int) (aud : SubAuthDataStr) :
    insertKeys f t id aud = (eio, t) ∧
        (f.binds (audInsertBinds aud) = true ∨ (t.exec f (audInsert aud id)).done = false) ∨
      (insertKeys f t id aud).1 = 0 ∧ f.binds (audInsertBinds aud) = false ∧
        (t.exec f (audInsert aud id)).done = true := by
  unfold insertKeys
  split
  next hbinds => exact Or.inl ⟨rfl, Or.inl hbinds⟩
  next hbinds =>
      dsimp only
      split
      next hdone =>
          have hdone' : (t.exec f (audInsert aud id)).done = false := by simpa using hdone
          exact Or.inl ⟨by rw [exec_of_not_done hdone'], Or.inr hdone'⟩
      next hdone => exact Or.inr ⟨rfl, by simpa using hbinds, by simpa using hdone⟩

/-- Where there are none of the kind, only a fault keeps keys from being inserted. -/
theorem insertKeys_fails_iff {t : Tables} {id : Int} {aud : SubAuthDataStr}
    (hnone : ¬t.HasAud aud.type id) (f : Faults) :
    insertKeys f t id aud = (eio, t) ↔
      f.binds (audInsertBinds aud) = true ∨ f.step = true := by
  have hdone : (t.exec f (audInsert aud id)).done = true ↔ f.step = false :=
    exec_done_iff.trans (and_iff_left (valid_audInsert t hnone))
  rcases insertKeys_cases f t id aud with ⟨hfails, hfault⟩ | ⟨hok, hbinds, hall⟩
  · refine iff_of_true hfails (hfault.imp_right fun hnot => ?_)
    by_contra hstep
    exact absurd ((hdone.2 (by simpa using hstep)).symm.trans hnot) (by decide)
  · refine iff_of_false ?_ ?_
    · intro hfails
      rw [hfails] at hok
      exact absurd hok (by decide : eio ≠ 0)
    · rintro (hbad | hbad)
      · exact absurd (hbinds.symm.trans hbad) (by decide)
      · exact absurd ((hdone.1 hall).symm.trans hbad) (by decide)

/-- **Keys are updated half-way if the old ones are deleted and the new ones are not inserted.** -/
theorem failed_updateAudById_iff (lib : DbLib) (t : Tables) (f : AudFaults) (id : Int)
    (aud : SubAuthDataStr) :
    FailedChangesNothing lib t (.updateAudById f id aud) ↔
      ¬Op.StopsHalfWay lib t (.updateAudById f id aud) := by
  have hrun : Op.run lib t (.updateAudById f id aud) = _ := dbSubscrUpdateAudById_eq lib f t id aud
  cases hvalid : audValid lib aud with
  | false =>
      refine iff_of_true (failed_refused einval ?_) fun hstops => ?_
      · rw [hrun, hvalid]
        rfl
      · exact absurd (hvalid.symm.trans hstops.1) (by decide)
  | true =>
      rw [hvalid] at hrun
      simp only [Bool.not_true, Bool.false_eq_true, if_false] at hrun
      rcases updateOne_cases (singleRow_audDelete t aud id) f.del 1 with
        ⟨hrc, hsame, hfault⟩ | ⟨hrc, hsame, hbinds, hstep, hzero⟩ | ⟨hrc, hdeleted, hbinds, hstep, hone⟩
      · -- the old keys cannot be deleted
        rw [if_pos (by rw [hrc]; decide)] at hrun
        refine iff_of_true (failed_updateOne (singleRow_audDelete t aud id) hrun) ?_
        rintro ⟨-, -, -, hbinds, hstep, -⟩
        rcases hfault with hfault | hfault | hfault
        · exact absurd (hbinds.symm.trans hfault) (by decide)
        · exact absurd (hstep.symm.trans hfault) (by decide)
        · exact hfault (valid_audDelete t aud id)
      · -- there are none
        have hnone : ¬t.HasAud aud.type id := fun haud => (hasAud_iff _ _ _).1 haud hzero
        refine iff_of_true ?_ fun hstops => hnone hstops.2.2.1
        intro hneg _
        rw [hrun] at hneg ⊢
        rw [if_neg (by rw [hrc]; decide), hsame] at hneg ⊢
        split
        next => exact hsame
        next halgo =>
            rw [if_neg halgo] at hneg
            rcases insertKeys_cases f.ins t id aud with ⟨hfails, -⟩ | ⟨hok, -⟩
            · rw [hfails]
            · exact absurd hneg (by rw [hok]; exact Int.lt_irrefl 0)
      · -- they are deleted
        have haud : t.HasAud aud.type id := (hasAud_iff _ _ _).2 (by rw [hone]; decide)
        generalize updateOne f.del 1 t (audDelete aud id) = deleted at hrun hrc hdeleted
        have hnone : ¬deleted.2.HasAud aud.type id := hdeleted ▸ not_hasAud_audDelete _ aud id
        have hne : deleted.2 ≠ t := fun heq => hnone (heq ▸ haud)
        rw [if_neg (by rw [hrc]; decide)] at hrun
        by_cases halgo : aud.algo = .none
        · rw [if_pos halgo] at hrun
          refine iff_of_true ?_ fun hstops => hstops.2.1 halgo
          intro hneg _
          rw [hrun, hrc] at hneg
          exact absurd hneg (Int.lt_irrefl 0)
        · rw [if_neg halgo] at hrun
          have hstops : Op.StopsHalfWay lib t (.updateAudById f id aud) ↔
              insertKeys f.ins deleted.2 id aud = (eio, deleted.2) := by
            rw [insertKeys_fails_iff hnone]
            exact ⟨fun h => h.2.2.2.2.2, fun h => ⟨hvalid, halgo, haud, hbinds, hstep, h⟩⟩
          rw [hstops, FailedChangesNothing, hrun]
          rcases insertKeys_cases f.ins deleted.2 id aud with ⟨hfails, -⟩ | ⟨hok, -⟩
          · rw [hfails]
            refine iff_of_false ?_ (not_not.2 rfl)
            intro hunchanged
            exact hne (hunchanged (by decide : eio < 0) fun h => absurd h.1 (by decide : eio ≠ enoent))
          · refine iff_of_true ?_ ?_
            · intro hneg
              exact absurd hneg (by rw [hok]; exact Int.lt_irrefl 0)
            · intro hfails
              rw [hfails] at hok
              exact absurd hok (by decide : eio ≠ 0)

/-- What `db_subscr_lu` stores first. -/
def luNumber (id : Int) (vlrName : CStr) (isPs : Bool) (viaProxy : Option CStr) : Stmt :=
  if isPs then updSgsnById id vlrName viaProxy else updVlrById id vlrName viaProxy

/-- What it stores then. -/
def luTime (datetime : Option CStr) (id : Int) (isPs : Bool) : Stmt :=
  if isPs then setLastLuSeenPs datetime id else setLastLuSeen datetime id

theorem singleRow_luNumber (t : Tables) (id : Int) (vlrName : CStr) (isPs : Bool)
    (viaProxy : Option CStr) : SingleRow t (luNumber id vlrName isPs viaProxy) := by
  cases isPs <;> exact singleRow_updateById t id _

theorem singleRow_luTime (t : Tables) (datetime : Option CStr) (id : Int) (isPs : Bool) :
    SingleRow t (luTime datetime id isPs) := by
  cases isPs <;> exact singleRow_updateById t id _

theorem valid_luNumber (t : Tables) (id : Int) (vlrName : CStr) (isPs : Bool)
    (viaProxy : Option CStr) : (luNumber id vlrName isPs viaProxy t.toContents).1.Valid := by
  cases isPs <;>
    exact valid_updateSubscriber t _ (fun _ => rfl) (fun _ => rfl) (fun _ => rfl)

theorem valid_luTime (t : Tables) (datetime : Option CStr) (id : Int) (isPs : Bool) :
    (luTime datetime id isPs t.toContents).1.Valid := by
  cases isPs <;>
    exact valid_updateSubscriber t _ (fun _ => rfl) (fun _ => rfl) (fun _ => rfl)

theorem map_set_eq_self_iff {α : Type} (p : α → Bool) (set : α → α) (l : List α) :
    (l.map fun x => if p x then set x else x) = l ↔ ∀ x ∈ l, p x = true → set x = x := by
  conv_lhs => rhs; rw [← List.map_id l]
  rw [List.map_inj_left]
  refine forall₂_congr fun x _ => ?_
  split <;> simp [*]

theorem updateSubscriber_ne_iff (c : Contents) (id : Int) (set : SubscriberRow → SubscriberRow) :
    (updateSubscriber (fun row => row.id = id) set c).1 ≠ c ↔
      ∃ row ∈ c.subscriber, row.id = id ∧ set row ≠ row := by
  have hself := map_set_eq_self_iff (fun row => row.id = id) set c.subscriber
  have heq : (updateSubscriber (fun row => row.id = id) set c).1 = c ↔
      ∀ row ∈ c.subscriber, row.id = id → set row = row := by
    simp only [decide_eq_true_eq] at hself
    rw [← hself]
    exact ⟨fun h => by simpa [updateSubscriber] using congrArg Contents.subscriber h,
      fun h => by simp [updateSubscriber, h]⟩
  rw [ne_eq, heq]
  simp

/-- The first statement changes something exactly if what it stores is not stored already. -/
theorem luNumber_ne_iff (c : Contents) (id : Int) (vlrName : CStr) (isPs : Bool)
    (viaProxy : Option CStr) :
    (luNumber id vlrName isPs viaProxy c).1 ≠ c ↔ c.LuChanges id vlrName isPs viaProxy := by
  cases isPs with
  | false =>
      refine (updateSubscriber_ne_iff c id _).trans ?_
      refine exists_congr fun row => and_congr_right fun _ => and_congr_right fun _ => not_congr ?_
      cases row
      simp [eq_comm]
  | true =>
      refine (updateSubscriber_ne_iff c id _).trans ?_
      refine exists_congr fun row => and_congr_right fun _ => and_congr_right fun _ => not_congr ?_
      cases row
      simp [eq_comm]

/-- The row is still there when the time is stored. -/
theorem luTime_changes (c : Contents) (id : Int) (vlrName : CStr) (isPs : Bool)
    (viaProxy datetime : Option CStr) :
    (luTime datetime id isPs (luNumber id vlrName isPs viaProxy c).1).2 =
      (luNumber id vlrName isPs viaProxy c).2 := by
  have hcount : ∀ set : SubscriberRow → SubscriberRow, (∀ row, (set row).id = row.id) →
      ((c.subscriber.map fun row => if decide (row.id = id) then set row else row).countP
        fun row => decide (row.id = id)) = c.subscriber.countP fun row => decide (row.id = id) := by
    intro set hset
    rw [List.countP_map]
    refine List.countP_congr fun row _ => ?_
    simp only [Function.comp_apply]
    split <;> simp [*]
  cases isPs with
  | false =>
      exact hcount (fun row => { row with vlrNumber := some vlrName, vlrViaProxy := viaProxy })
        fun _ => rfl
  | true =>
      exact hcount (fun row => { row with sgsnNumber := some vlrName, sgsnViaProxy := viaProxy })
        fun _ => rfl

theorem dbSubscrLu_eq (lib : DbLib) (f : LuFaults) (t : Tables) (id : Int) (vlrName : CStr)
    (isPs : Bool) (viaProxy : Option CStr) :
    dbSubscrLu lib f t id vlrName isPs viaProxy =
      let stored := updateOne f.number 3 t (luNumber id vlrName isPs viaProxy)
      if stored.1 ≠ 0 then stored
      else
        match f.clock with
        | .error errno => (-(errno.val : Int), stored.2)
        | .ok localtime =>
            updateOne f.lastLuSeen 2 stored.2 (luTime (lib.datetime localtime) id isPs) := rfl

/-- **A Location Update is stored half-way if the VLR is stored and the time is not.** -/
theorem failed_lu_iff (lib : DbLib) (t : Tables) (f : LuFaults) (id : Int) (vlrName : CStr)
    (isPs : Bool) (viaProxy : Option CStr) :
    FailedChangesNothing lib t (.lu f id vlrName isPs viaProxy) ↔
      ¬Op.StopsHalfWay lib t (.lu f id vlrName isPs viaProxy) := by
  have hrun : Op.run lib t (.lu f id vlrName isPs viaProxy) = _ :=
    dbSubscrLu_eq lib f t id vlrName isPs viaProxy
  have hsingle := singleRow_luNumber t id vlrName isPs viaProxy
  have hchanges := luNumber_ne_iff t.toContents id vlrName isPs viaProxy
  rcases updateOne_cases hsingle f.number 3 with
    ⟨hrc, -, hfault⟩ | ⟨hrc, -, hbinds, hstep, hzero⟩ | ⟨hrc, hstored, hbinds, hstep, hone⟩
  · simp only at hrun
    rw [if_pos (by rw [hrc]; decide)] at hrun
    refine iff_of_true (failed_updateOne hsingle hrun) ?_
    rintro ⟨-, hbinds, hstep, -⟩
    rcases hfault with hfault | hfault | hfault
    · exact absurd (hbinds.symm.trans hfault) (by decide)
    · exact absurd (hstep.symm.trans hfault) (by decide)
    · exact hfault (valid_luNumber t id vlrName isPs viaProxy)
  · simp only at hrun
    rw [if_pos (by rw [hrc]; decide)] at hrun
    refine iff_of_true (failed_updateOne hsingle hrun) ?_
    rintro ⟨hlu, -⟩
    exact hchanges.2 hlu (hsingle.eq_of_zero hzero)
  · have htime := luTime_changes t.toContents id vlrName isPs viaProxy
    generalize updateOne f.number 3 t (luNumber id vlrName isPs viaProxy) = stored at hrun hrc hstored
    have hne : stored.2 ≠ t ↔ t.LuChanges id vlrName isPs viaProxy := by
      rw [← hchanges, ← hstored]
      exact not_congr ⟨congrArg _, Tables.ext⟩
    simp only at hrun
    rw [if_neg (not_not.2 hrc)] at hrun
    -- the VLR is stored, and what is left is the time
    have hlate : ∀ rc : Int, rc < 0 → Op.run lib t (.lu f id vlrName isPs viaProxy) = (rc, stored.2) →
        (FailedChangesNothing lib t (.lu f id vlrName isPs viaProxy) ↔
          ¬t.LuChanges id vlrName isPs viaProxy) := by
      intro rc hneg heq
      rw [← hne, not_not, FailedChangesNothing, heq]
      exact ⟨fun h => h hneg fun hdel => absurd hdel.2 Bool.false_ne_true, fun h _ _ => h⟩
    have hstops : Op.StopsHalfWay lib t (.lu f id vlrName isPs viaProxy) ↔
        t.LuChanges id vlrName isPs viaProxy ∧
          (f.clock.isOk = true → f.lastLuSeen.binds 2 = true ∨ f.lastLuSeen.step = true) :=
      and_congr_right fun _ => ⟨fun h => h.2.2, fun h => ⟨hbinds, hstep, h⟩⟩
    cases hclock : f.clock with
    | error errno =>
        rw [hclock] at hrun hstops
        have hneg : -(errno.val : Int) < 0 := by have := errno.property; omega
        rw [hlate _ hneg hrun, hstops]
        exact not_congr (and_iff_left fun hok => absurd hok Bool.false_ne_true).symm
    | ok localtime =>
        rw [hclock] at hrun hstops
        simp only at hrun
        have htimes := singleRow_luTime stored.2 (lib.datetime localtime) id isPs
        rcases updateOne_cases htimes f.lastLuSeen 2 with
          ⟨hrc', hsame, hfault⟩ | ⟨hrc', hsame, -, -, hzero⟩ | ⟨hrc', -, hbinds', hstep', -⟩
        · rw [hlate eio (by decide) (hrun.trans (Prod.ext hrc' hsame)), hstops]
          refine not_congr (and_iff_left fun _ => ?_).symm
          rcases hfault with hfault | hfault | hfault
          · exact Or.inl hfault
          · exact Or.inr hfault
          · exact absurd (valid_luTime stored.2 _ id isPs) hfault
        · rw [hstored, htime, hone] at hzero
          cases hzero
        · refine iff_of_true ?_ ?_
          · intro hneg _
            rw [hrun, hrc'] at hneg
            exact absurd hneg (Int.lt_irrefl 0)
          · rw [hstops]
            rintro ⟨-, hfault⟩
            rcases hfault rfl with hfault | hfault
            · exact absurd (hbinds'.symm.trans hfault) (by decide)
            · exact absurd (hstep'.symm.trans hfault) (by decide)

/-- **An operation that reports a failure leaves the tables as they were, unless it stops
half-way.** -/
theorem failed_changes_nothing_iff (lib : DbLib) (t : Tables) (op : Op) :
    FailedChangesNothing lib t op ↔ ¬op.StopsHalfWay lib t := by
  cases op with
  | create f found imsi flags => exact iff_of_true (failed_create lib t f found imsi flags) id
  | deleteById f id => exact iff_of_true (failed_deleteById lib t f id) fun h => h
  | updateMsisdnByImsi f imsi msisdn =>
      refine iff_of_true ?_ id
      cases msisdn with
      | none => exact failed_updateOne (singleRow_updateByImsi t imsi _) rfl
      | some msisdn =>
          cases hvalid : lib.msisdnStrValid msisdn with
          | false =>
              refine failed_refused einval ?_
              simp [Op.run, dbSubscrUpdateMsisdnByImsi, hvalid]
          | true =>
              have hrun : Op.run lib t (.updateMsisdnByImsi f imsi (some msisdn)) =
                  updateOne f 2 t (setMsisdnByImsi msisdn imsi) := by
                simp [Op.run, dbSubscrUpdateMsisdnByImsi, hvalid]
              exact failed_updateOne (singleRow_updateByImsi t imsi _) hrun
  | updateAudById f id aud => exact failed_updateAudById_iff lib t f id aud
  | updateImeiByImsi f imsi imei =>
      refine iff_of_true ?_ id
      cases imei with
      | none => exact failed_updateOne (singleRow_updateByImsi t imsi _) rfl
      | some imei =>
          cases hvalid : lib.imeiStrValid imei with
          | false =>
              refine failed_refused einval ?_
              simp [Op.run, dbSubscrUpdateImeiByImsi, hvalid]
          | true =>
              have hrun : Op.run lib t (.updateImeiByImsi f imsi (some imei)) =
                  updateOne f 2 t (updImeiByImsi (some imei) imsi) := by
                simp [Op.run, dbSubscrUpdateImeiByImsi, hvalid]
              exact failed_updateOne (singleRow_updateByImsi t imsi _) hrun
  | nam f imsi namVal isPs =>
      refine iff_of_true ?_ id
      cases isPs <;> exact failed_updateOne (singleRow_updateByImsi t imsi _) rfl
  | lu f id vlrName isPs viaProxy => exact failed_lu_iff lib t f id vlrName isPs viaProxy
  | purge f byImsi purgeVal isPs =>
      refine iff_of_true ?_ id
      cases isPs <;> exact failed_updateOne (singleRow_updateByImsi t byImsi _) rfl

/-- A key is deleted, the new one cannot be inserted, and the subscriber has none. -/
theorem key_lost :
    ¬FailedChangesNothing Host.dbLib Host.withKey
      (.updateAudById ⟨Faults.none, Host.stepFault⟩ 1 Host.newKey) := by
  intro h
  have hlost := h (by decide +kernel) (by decide +kernel)
  revert hlost
  decide +kernel

end Db
end OsmoHlr
