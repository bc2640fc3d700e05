import OsmoHlr.Db.Sound
import OsmoHlr.Lib.Keyed

/-!
# Where keys come from

Keys get into the database by `db_subscr_update_aud_by_id` only, for the subscriber that it is
called for; and they stay there until it is called for that subscriber again, or the subscriber is
deleted.

* `KeysFrom`, `Wrote.keysFrom` — all keys were there before, or have been given to an operation.
* `Spared`, `Wrote.spared` — what operations on others leave of a subscriber.
* `dbGetAuthData_held` — keys that are there are read for their subscriber.
-/

namespace OsmoHlr
namespace Db

open CString CniPeerId Auc

/-- The row of 2G keys. -/
def gsmRow (id : Int) (aud : SubAuthDataStr) : Auc2gRow := ⟨id, aud.algo.toInt, aud.ki⟩

/-- The row of 3G keys, when the sequence number has come to this. -/
def umtsRow (id : Int) (aud : SubAuthDataStr) (sqn : Nat) : Auc3gRow where
  subscriberId := id
  algoId3g := aud.algo.toInt
  k := aud.k
  op := if aud.opcIsOp then some aud.opc else none
  opc := if aud.opcIsOp then none else some aud.opc
  sqn := sqn
  indBitlen := aud.indBitlen.toNat

variable {lib : DbLib} {c c' : Contents} {f : Faults} {t t' : Tables} {stmt : Stmt} {op : Op}
  {id : Int} {aud : SubAuthDataStr} {Does : Op → Prop} {Keys Keys' : Int → SubAuthDataStr → Prop}

/-- Rows that are inserted are those of the keys. -/
theorem audInsert_eq (aud : SubAuthDataStr) (id : Int) (c : Contents) :
    (audInsert aud id c).1 =
      if aud.type = .gsm then { c with auc2g := c.auc2g ++ [gsmRow id aud] }
      else { c with auc3g := c.auc3g ++ [umtsRow id aud 0] } := by
  unfold audInsert
  split <;> rfl

/-! ## Where they come from -/

/-- Keys have been there before, but for the sequence number, or they are such. -/
structure KeysFrom (Keys : Int → SubAuthDataStr → Prop) (c c' : Contents) : Prop where
  auc2g : ∀ row ∈ c'.auc2g, row ∈ c.auc2g ∨
    ∃ id aud, Keys id aud ∧ aud.type = .gsm ∧ row = gsmRow id aud
  auc3g : ∀ row ∈ c'.auc3g, (∃ old ∈ c.auc3g, row = { old with sqn := row.sqn }) ∨
    ∃ id aud, Keys id aud ∧ aud.type ≠ .gsm ∧ row = umtsRow id aud row.sqn

theorem KeysFrom.of_subset (h2g : ∀ row ∈ c'.auc2g, row ∈ c.auc2g)
    (h3g : ∀ row ∈ c'.auc3g, row ∈ c.auc3g) : KeysFrom Keys c c' :=
  ⟨fun row hrow => Or.inl (h2g row hrow), fun row hrow => Or.inl ⟨row, h3g row hrow, rfl⟩⟩

theorem KeysFrom.refl (c : Contents) : KeysFrom Keys c c :=
  .of_subset (fun _ hrow => hrow) fun _ hrow => hrow

theorem KeysFrom.mono (h : KeysFrom Keys c c') (hkeys : ∀ id aud, Keys id aud → Keys' id aud) :
    KeysFrom Keys' c c' := by
  refine ⟨fun row hrow => (h.auc2g row hrow).imp_right ?_,
    fun row hrow => (h.auc3g row hrow).imp_right ?_⟩
  · rintro ⟨id, aud, hkey, hrest⟩
    exact ⟨id, aud, hkeys id aud hkey, hrest⟩
  · rintro ⟨id, aud, hkey, hrest⟩
    exact ⟨id, aud, hkeys id aud hkey, hrest⟩

theorem KeysFrom.trans {c'' : Contents} (h : KeysFrom Keys c c') (h' : KeysFrom Keys c' c'') :
    KeysFrom Keys c c'' := by
  refine ⟨fun row hrow => (h'.auc2g row hrow).elim (h.auc2g row) Or.inr, fun row hrow => ?_⟩
  rcases h'.auc3g row hrow with ⟨mid, hmid, hsame⟩ | hset
  · rcases h.auc3g mid hmid with ⟨old, hold, hsame'⟩ | ⟨id, aud, hkey, htype, hsame'⟩
    · refine Or.inl ⟨old, hold, ?_⟩
      rw [hsame, hsame']
    · refine Or.inr ⟨id, aud, hkey, htype, ?_⟩
      rw [hsame, hsame']
      rfl
  · exact Or.inr hset

theorem composes_keysFrom (Keys : Int → SubAuthDataStr → Prop) : Composes (KeysFrom Keys) :=
  ⟨.refl, .trans⟩

theorem keysFrom_audDelete (aud : SubAuthDataStr) (id : Int) (c : Contents) :
    KeysFrom Keys c (audDelete aud id c).1 := by
  unfold audDelete
  split
  · exact .of_subset (fun _ => List.mem_of_mem_filter) fun _ hrow => hrow
  · exact .of_subset (fun _ hrow => hrow) fun _ => List.mem_of_mem_filter

theorem keysFrom_audInsert (hkey : Keys id aud) (c : Contents) :
    KeysFrom Keys c (audInsert aud id c).1 := by
  rw [audInsert_eq]
  split
  next htype =>
      refine ⟨fun row hrow => ?_, fun row hrow => Or.inl ⟨row, hrow, rfl⟩⟩
      rcases List.mem_append.1 hrow with hold | hnew
      · exact Or.inl hold
      · exact Or.inr ⟨id, aud, hkey, htype, List.mem_singleton.1 hnew⟩
  next htype =>
      refine ⟨fun row hrow => Or.inl hrow, fun row hrow => ?_⟩
      rcases List.mem_append.1 hrow with hold | hnew
      · exact Or.inl ⟨row, hold, rfl⟩
      · obtain rfl := List.mem_singleton.1 hnew
        exact Or.inr ⟨id, aud, hkey, htype, rfl⟩

theorem keysFrom_aucUpdSqn (sqn : Nat) (id : Int) (c : Contents) :
    KeysFrom Keys c (aucUpdSqn sqn id c).1 := by
  refine ⟨fun row hrow => Or.inl hrow, fun row hrow => ?_⟩
  obtain ⟨old, hold, rfl⟩ := List.mem_map.1 hrow
  refine Or.inl ⟨old, hold, ?_⟩
  split <;> rfl

/-- **A statement stores no keys but those that the operation is given.** -/
theorem keysFrom_statement
    (hkeys : ∀ f id aud, op = .updateAudById f id aud → aud.algo ≠ .none → Keys id aud)
    (hexec : op.Executes lib stmt) (c : Contents) : KeysFrom Keys c (stmt c).1 := by
  cases hexec with
  | delAud type => exact keysFrom_audDelete _ _ c
  | audDelete => exact keysFrom_audDelete _ _ c
  | audInsert hvalid halgo => exact keysFrom_audInsert (hkeys _ _ _ rfl halgo) c
  | @nam _ _ _ isPs => cases isPs <;> exact .of_subset (fun _ hrow => hrow) fun _ hrow => hrow
  | @luNumber _ _ _ isPs => cases isPs <;> exact .of_subset (fun _ hrow => hrow) fun _ hrow => hrow
  | @luTime _ _ _ isPs => cases isPs <;> exact .of_subset (fun _ hrow => hrow) fun _ hrow => hrow
  | @purge _ _ _ isPs => cases isPs <;> exact .of_subset (fun _ hrow => hrow) fun _ hrow => hrow
  | _ => exact .of_subset (fun _ hrow => hrow) fun _ hrow => hrow

/-- **All keys were there before, or have been given to an operation.** -/
theorem Wrote.keysFrom (hwrote : Wrote lib Does t t')
    (hkeys : ∀ f id aud, Does (.updateAudById f id aud) → aud.algo ≠ .none → Keys id aud) :
    KeysFrom Keys t.toContents t'.toContents :=
  hwrote.rel (composes_keysFrom Keys)
    (fun _ hdoes _ hexec c => keysFrom_statement
      (fun f id aud hop halgo => hkeys f id aud (hop ▸ hdoes) halgo) hexec c)
    fun sqn id c => keysFrom_aucUpdSqn sqn id c

/-! ## Whose keys stay -/

/-- An operation neither deletes a subscriber nor touches its keys. -/
def Op.Spares (id : Int) : Op → Prop
  | .deleteById _ id' => id' ≠ id
  | .updateAudById _ id' _ => id' ≠ id
  | _ => True

/-- An operation neither deletes a subscriber, nor is it about keys. -/
def Op.LeavesKeys : Op → Prop
  | .deleteById .. | .updateAudById .. => False
  | _ => True

theorem Op.LeavesKeys.spares (h : op.LeavesKeys) (id : Int) : op.Spares id := by
  cases op with
  | deleteById | updateAudById => exact h.elim
  | _ => trivial

/-- A subscriber is still there with its keys, but for the sequence number. -/
structure Spared (id : Int) (c c' : Contents) : Prop where
  subscriber : ∀ row ∈ c.subscriber, row.id = id →
    ∃ row' ∈ c'.subscriber, row'.id = id ∧ row'.imsi = row.imsi
  auc2g : ∀ row ∈ c.auc2g, row.subscriberId = id → row ∈ c'.auc2g
  auc3g : ∀ row ∈ c.auc3g, row.subscriberId = id → ∃ sqn, { row with sqn := sqn } ∈ c'.auc3g

/-- All rows of the subscriber are still there. -/
theorem Spared.of_subset (hsub : ∀ row ∈ c.subscriber, row.id = id → row ∈ c'.subscriber)
    (h2g : ∀ row ∈ c.auc2g, row.subscriberId = id → row ∈ c'.auc2g)
    (h3g : ∀ row ∈ c.auc3g, row.subscriberId = id → row ∈ c'.auc3g) : Spared id c c' :=
  ⟨fun row hrow hid => ⟨row, hsub row hrow hid, hid, rfl⟩, h2g,
    fun row hrow hid => ⟨row.sqn, h3g row hrow hid⟩⟩

theorem Spared.trans {c'' : Contents} (h : Spared id c c') (h' : Spared id c' c'') :
    Spared id c c'' := by
  refine ⟨fun row hrow hid => ?_, fun row hrow hid => h'.auc2g row (h.auc2g row hrow hid) hid,
    fun row hrow hid => ?_⟩
  · obtain ⟨mid, hmid, hmidId, hmidImsi⟩ := h.subscriber row hrow hid
    obtain ⟨row', hrow', hid', himsi⟩ := h'.subscriber mid hmid hmidId
    exact ⟨row', hrow', hid', himsi.trans hmidImsi⟩
  · obtain ⟨sqn, hmid⟩ := h.auc3g row hrow hid
    exact h'.auc3g { row with sqn := sqn } hmid hid

theorem composes_spared (id : Int) : Composes (Spared id) :=
  ⟨fun _ => .of_subset (fun _ hrow _ => hrow) (fun _ hrow _ => hrow) fun _ hrow _ => hrow,
    .trans⟩

theorem spared_updateSubscriber (id : Int) (c : Contents) {cond : SubscriberRow → Bool}
    {set : SubscriberRow → SubscriberRow} (hid : ∀ row, (set row).id = row.id)
    (himsi : ∀ row, (set row).imsi = row.imsi) : Spared id c (updateSubscriber cond set c).1 := by
  refine ⟨fun row hrow hrowId => ?_, fun _ hrow _ => hrow, fun row hrow _ => ⟨row.sqn, hrow⟩⟩
  refine ⟨_, List.mem_map_of_mem hrow, ?_⟩
  split
  · exact ⟨(hid row).trans hrowId, himsi row⟩
  · exact ⟨hrowId, rfl⟩

theorem spared_audDelete (aud : SubAuthDataStr) {id' : Int} (hne : id' ≠ id) (c : Contents) :
    Spared id c (audDelete aud id' c).1 := by
  unfold audDelete
  split
  · refine .of_subset (fun _ hrow _ => hrow) (fun row hrow hid => ?_) fun _ hrow _ => hrow
    exact List.mem_filter.2 ⟨hrow, by simpa [hid] using hne.symm⟩
  · refine .of_subset (fun _ hrow _ => hrow) (fun _ hrow _ => hrow) fun row hrow hid => ?_
    exact List.mem_filter.2 ⟨hrow, by simpa [hid] using hne.symm⟩

theorem spared_audInsert (aud : SubAuthDataStr) (id id' : Int) (c : Contents) :
    Spared id c (audInsert aud id' c).1 := by
  rw [audInsert_eq]
  split
  · exact .of_subset (fun _ hrow _ => hrow) (fun _ hrow _ => List.mem_append_left _ hrow)
      fun _ hrow _ => hrow
  · exact .of_subset (fun _ hrow _ => hrow) (fun _ hrow _ => hrow)
      fun _ hrow _ => List.mem_append_left _ hrow

theorem spared_aucUpdSqn (id : Int) (sqn : Nat) (id' : Int) (c : Contents) :
    Spared id c (aucUpdSqn sqn id' c).1 := by
  refine ⟨fun row hrow hid => ⟨row, hrow, hid, rfl⟩, fun _ hrow _ => hrow, fun row hrow _ => ?_⟩
  by_cases hid' : row.subscriberId = id'
  · exact ⟨sqn, List.mem_map.2 ⟨row, hrow, if_pos hid'⟩⟩
  · exact ⟨row.sqn, List.mem_map.2 ⟨row, hrow, if_neg hid'⟩⟩

/-- **A statement of an operation on others leaves a subscriber with its keys.** -/
theorem spared_statement (hspares : op.Spares id) (hexec : op.Executes lib stmt) (c : Contents) :
    Spared id c (stmt c).1 := by
  cases hexec with
  | create namCs namPs himsi =>
      exact .of_subset (fun _ hrow _ => List.mem_append_left _ hrow) (fun _ hrow _ => hrow)
        fun _ hrow _ => hrow
  | delById =>
      refine .of_subset (fun row hrow hid => ?_) (fun _ hrow _ => hrow) fun _ hrow _ => hrow
      have hne : _ ≠ id := hspares
      exact List.mem_filter.2 ⟨hrow, by simpa [hid] using hne.symm⟩
  | delAud type => exact spared_audDelete _ hspares c
  | audDelete => exact spared_audDelete _ hspares c
  | audInsert hvalid halgo => exact spared_audInsert _ id _ c
  | deleteMsisdn | setMsisdn | imei =>
      exact spared_updateSubscriber id c (fun _ => rfl) fun _ => rfl
  | @nam _ _ _ isPs =>
      cases isPs <;> exact spared_updateSubscriber id c (fun _ => rfl) fun _ => rfl
  | @luNumber _ _ _ isPs =>
      cases isPs <;> exact spared_updateSubscriber id c (fun _ => rfl) fun _ => rfl
  | @luTime _ _ _ isPs =>
      cases isPs <;> exact spared_updateSubscriber id c (fun _ => rfl) fun _ => rfl
  | @purge _ _ _ isPs =>
      cases isPs <;> exact spared_updateSubscriber id c (fun _ => rfl) fun _ => rfl

/-- **A subscriber stays with its keys** as long as operations are on others, or not on keys. -/
theorem Wrote.spared (hwrote : Wrote lib Does t t') (hspares : ∀ op, Does op → op.Spares id) :
    Spared id t.toContents t'.toContents :=
  hwrote.rel (composes_spared id)
    (fun op hdoes _ hexec c => spared_statement (hspares op hdoes) hexec c)
    fun sqn id' c => spared_aucUpdSqn id sqn id' c

/-! ## Keys that are held -/

/-- A subscriber is there, with keys. -/
structure Held (imsi : CStr) (id : Int) (aud : SubAuthDataStr) (c : Contents) : Prop where
  subscriber : ∃ row ∈ c.subscriber, row.id = id ∧ row.imsi = imsi
  auc2g : aud.type = .gsm → gsmRow id aud ∈ c.auc2g
  auc3g : aud.type ≠ .gsm → ∃ sqn, umtsRow id aud sqn ∈ c.auc3g

theorem Held.spared {imsi : CStr} (h : Held imsi id aud c) (hspared : Spared id c c') :
    Held imsi id aud c' := by
  refine ⟨?_, fun htype => hspared.auc2g _ (h.auc2g htype) rfl, fun htype => ?_⟩
  · obtain ⟨row, hrow, hid, himsi⟩ := h.subscriber
    obtain ⟨row', hrow', hid', himsi'⟩ := hspared.subscriber row hrow hid
    exact ⟨row', hrow', hid', himsi'.trans himsi⟩
  · obtain ⟨sqn, hmem⟩ := h.auc3g htype
    exact hspared.auc3g _ hmem rfl

/-- **Keys are held when their operation has succeeded.** -/
theorem held_updateAudById {f : AudFaults} {row : SubscriberRow} (hrow : row ∈ t.subscriber)
    (hid : row.id = id) (halgo : aud.algo ≠ .none)
    (hrc : (dbSubscrUpdateAudById lib f t id aud).1 = 0) :
    Held row.imsi id aud (dbSubscrUpdateAudById lib f t id aud).2.toContents := by
  rw [dbSubscrUpdateAudById_eq] at hrc ⊢
  cases hvalid : audValid lib aud with
  | false =>
      rw [hvalid] at hrc
      exact absurd hrc (by decide : einval ≠ 0)
  | true =>
      have hsub := (audDeleted f.del t aud id).1
      simp only [hvalid, Bool.not_true, Bool.false_eq_true, if_false, halgo] at hrc ⊢
      generalize updateOne f.del 1 t (audDelete aud id) = deleted at hrc hsub ⊢
      by_cases hfailed : deleted.1 ≠ 0 ∧ deleted.1 ≠ enoent
      · rw [if_pos hfailed] at hrc
        exact absurd hrc hfailed.1
      · rw [if_neg hfailed] at hrc ⊢
        rcases insertKeys_cases f.ins deleted.2 id aud with ⟨hfails, -⟩ | ⟨-, hbinds, hdone⟩
        · rw [hfails] at hrc
          exact absurd hrc (by decide : eio ≠ 0)
        · have hinserted : (insertKeys f.ins deleted.2 id aud).2.toContents =
              (audInsert aud id deleted.2.toContents).1 := by
            rw [insertKeys, if_neg (by simp [hbinds])]
            simp only [hdone, Bool.not_true, Bool.false_eq_true, if_false]
            exact (exec_of_done hdone).2.1
          rw [hinserted, audInsert_eq]
          split
          next htype =>
              exact ⟨⟨row, hsub ▸ hrow, hid, rfl⟩,
                fun _ => List.mem_append_right _ List.mem_cons_self, fun hne => absurd htype hne⟩
          next htype =>
              exact ⟨⟨row, hsub ▸ hrow, hid, rfl⟩, fun heq => absurd heq htype,
                fun _ => ⟨0, List.mem_append_right _ List.mem_cons_self⟩⟩

variable {Ω : Type}

/-- **Keys that are held are read for their subscriber**, unless SQLite fails. -/
theorem dbGetAuthData_held (auc : AucLib Ω) {imsi : CStr} (hheld : Held imsi id aud t.toContents)
    (hsound : Sound lib t.toContents) (hbinds : f.binds 1 = false) (hstep : f.step = false) :
    ∃ aud2g aud3g, dbGetAuthData auc f t imsi = .ok (aud2g, aud3g, id) ∧
      (aud.type = .gsm → aud2g = gsmData auc (gsmRow id aud)) ∧
        (aud.type ≠ .gsm → ∃ sqn, aud3g = umtsData auc (umtsRow id aud sqn)) := by
  obtain ⟨-, himsis, -, h2g, h3g⟩ := t.valid
  obtain ⟨row, hrow, rfl, rfl⟩ := hheld.subscriber
  have hsubscr : (t.subscriber.find? fun r => r.imsi = row.imsi) = some row :=
    (Keyed.find_eq_some_iff himsis).2 ⟨hrow, rfl⟩
  have hfound : aucByImsi t.toContents row.imsi =
      some (row, t.auc2g.find? fun auc => auc.subscriberId = row.id,
        t.auc3g.find? fun auc => auc.subscriberId = row.id) := by
    rw [aucByImsi, hsubscr, Option.map_some]
  rw [dbGetAuthData_sound auc hsound hbinds hstep, hfound, readBack]
  by_cases htype : aud.type = .gsm
  · have hkey : (t.auc2g.find? fun auc => auc.subscriberId = row.id) = some (gsmRow row.id aud) :=
      (Keyed.find_eq_some_iff h2g).2 ⟨hheld.auc2g htype, rfl⟩
    rw [hkey, if_neg (by simp)]
    exact ⟨_, _, rfl, fun _ => rfl, fun hne => absurd htype hne⟩
  · obtain ⟨sqn, hmem⟩ := hheld.auc3g htype
    have hkey : (t.auc3g.find? fun auc => auc.subscriberId = row.id) =
        some (umtsRow row.id aud sqn) := (Keyed.find_eq_some_iff h3g).2 ⟨hmem, rfl⟩
    rw [hkey, if_neg (by simp)]
    exact ⟨_, _, rfl, fun heq => absurd heq htype, fun _ => ⟨sqn, rfl⟩⟩

end Db
end OsmoHlr
