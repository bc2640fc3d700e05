import OsmoHlr.Db.FailedUpdates
import OsmoHlr.Lib.Machine

/-!
# Keys without a subscriber

The rows of `auc_2g` and `auc_3g` say by an id whose keys they are, and nothing in the
database ties that id to a row of `subscriber`: the operations have to.  SQLite gives the
id of a deleted subscriber to the next one, who would get keys that are left over.

* `NoOrphans` — all keys are those of a subscriber.
* `KeysKept` — which operations keep it so.
* `no_leftover_keys_iff` — in which runs no key is ever left over.
-/

namespace OsmoHlr
namespace Db

open CString CniPeerId

/-- There are keys with an id. -/
def Contents.HasKeys (c : Contents) (id : Int) : Prop := c.HasAud .gsm id ∨ c.HasAud .umts id

instance (c : Contents) (id : Int) : Decidable (c.HasKeys id) :=
  inferInstanceAs (Decidable (_ ∨ _))

/-- All keys are those of a subscriber. -/
def NoOrphans (c : Contents) : Prop := ∀ id, c.HasKeys id → c.HasSubscriber id

/-- What an operation concludes with: a deletion that reports success leaves no keys, keys of nobody
are refused and not inserted, and a new subscriber has none. -/
def Op.Concludes (lib : DbLib) (t : Tables) (op : Op) : Prop :=
  match op with
  | .deleteById _ id => (op.run lib t).1 = 0 → ¬(op.run lib t).2.HasKeys id
  | .updateAudById _ id _ => ¬t.HasSubscriber id →
      (op.run lib t).1 = enoent ∧ (∀ row ∈ (op.run lib t).2.auc2g, row ∈ t.auc2g) ∧
        ∀ row ∈ (op.run lib t).2.auc3g, row ∈ t.auc3g
  | .create .. => ∀ id, ¬t.HasSubscriber id → (op.run lib t).2.HasSubscriber id →
      ¬(op.run lib t).2.HasKeys id
  | _ => True

/-- After an operation no key is left over, and it concludes as it should. -/
def NoLeftover (lib : DbLib) (t : Tables) (op : Op) : Prop :=
  NoOrphans (op.run lib t).2.toContents ∧ op.Concludes lib t

/-- Something goes wrong with a statement that has one parameter. -/
def Faults.any (f : Faults) : Prop := f.binds 1 = true ∨ f.step = true

/-- An operation keeps keys with their subscribers: it updates keys of a subscriber, or deletes
keys and nothing goes wrong; and where a subscriber with keys is deleted, nothing goes wrong with
their deletion. -/
def KeysKept (lib : DbLib) (t : Tables) : Op → Prop
  | .updateAudById f id aud =>
      t.HasSubscriber id ∨ audValid lib aud = true ∧ aud.algo = .none ∧ ¬f.del.any
  | .deleteById f id =>
      t.HasSubscriber id → ¬f.del.any →
        (t.HasAud .gsm id → ¬f.aud2g.del.any) ∧ (t.HasAud .umts id → ¬f.aud3g.del.any)
  | _ => True

variable {lib : DbLib} {f : Faults} {t t' : Tables} {stmt : Stmt} {n : Nat} {id : Int}

/-! ## Statements -/

theorem exec_cases (f : Faults) (t : Tables) (stmt : Stmt) :
    (t.exec f stmt).tables = t ∨ (t.exec f stmt).tables.toContents = (stmt t.toContents).1 := by
  cases hdone : (t.exec f stmt).done with
  | false => exact Or.inl (exec_of_not_done hdone)
  | true => exact Or.inr (exec_of_done hdone).2.1

theorem updateOne_snd_cases (f : Faults) (n : Nat) (t : Tables) (stmt : Stmt) :
    (updateOne f n t stmt).2 = t ∨
      (updateOne f n t stmt).2.toContents = (stmt t.toContents).1 := by
  unfold updateOne
  simp only
  split
  · exact Or.inl rfl
  · have hcases := exec_cases f t stmt
    split_ifs <;> exact hcases

/-- The same subscribers have the same keys. -/
structure SameKeys (c c' : Contents) : Prop where
  subscribers : ∀ id, c'.HasSubscriber id ↔ c.HasSubscriber id
  auc2g : c'.auc2g = c.auc2g
  auc3g : c'.auc3g = c.auc3g

theorem SameKeys.refl (c : Contents) : SameKeys c c := ⟨fun _ => Iff.rfl, rfl, rfl⟩

theorem SameKeys.trans {c c' c'' : Contents} (h : SameKeys c c') (h' : SameKeys c' c'') :
    SameKeys c c'' :=
  ⟨fun id => (h'.subscribers id).trans (h.subscribers id), h'.auc2g.trans h.auc2g,
    h'.auc3g.trans h.auc3g⟩

theorem hasAud_gsm_congr {c c' : Contents} (h : c'.auc2g = c.auc2g) (id : Int) :
    c'.HasAud .gsm id ↔ c.HasAud .gsm id := by
  simp [Contents.HasAud, h]

theorem hasAud_umts_congr {c c' : Contents} (h : c'.auc3g = c.auc3g) (id : Int) :
    c'.HasAud .umts id ↔ c.HasAud .umts id := by
  simp [Contents.HasAud, h]

theorem hasKeys_congr {c c' : Contents} (h2g : c'.auc2g = c.auc2g) (h3g : c'.auc3g = c.auc3g)
    (id : Int) : c'.HasKeys id ↔ c.HasKeys id :=
  or_congr (hasAud_gsm_congr h2g id) (hasAud_umts_congr h3g id)

theorem SameKeys.noOrphans {c c' : Contents} (h : SameKeys c c') (hc : NoOrphans c) :
    NoOrphans c' := by
  intro id hkeys
  rw [hasKeys_congr h.auc2g h.auc3g] at hkeys
  exact (h.subscribers id).2 (hc id hkeys)

/-- An update that leaves ids alone. -/
theorem sameKeys_updateSubscriber (c : Contents) (cond : SubscriberRow → Bool)
    {set : SubscriberRow → SubscriberRow} (hid : ∀ row, (set row).id = row.id) :
    SameKeys c (updateSubscriber cond set c).1 := by
  refine ⟨?_, rfl, rfl⟩
  intro id
  have hids := map_updated hid cond c.subscriber
  have hmem : ∀ l : List SubscriberRow, (∃ row ∈ l, row.id = id) ↔
      id ∈ l.map SubscriberRow.id := fun l => by simp
  rw [Contents.HasSubscriber, Contents.HasSubscriber, hmem, hmem]
  exact Iff.of_eq (congrArg (id ∈ ·) hids)

theorem sameKeys_updateOne (f : Faults) (n : Nat) (t : Tables) (cond : SubscriberRow → Bool)
    {set : SubscriberRow → SubscriberRow} (hid : ∀ row, (set row).id = row.id) :
    SameKeys t.toContents (updateOne f n t (updateSubscriber cond set)).2.toContents := by
  rcases updateOne_snd_cases f n t (updateSubscriber cond set) with hsame | hset
  · rw [hsame]
    exact .refl _
  · rw [hset]
    exact sameKeys_updateSubscriber t.toContents cond hid

theorem sameKeys_luNumber (f : Faults) (n : Nat) (t : Tables) (id : Int) (vlrName : CStr)
    (isPs : Bool) (viaProxy : Option CStr) :
    SameKeys t.toContents (updateOne f n t (luNumber id vlrName isPs viaProxy)).2.toContents := by
  cases isPs <;> exact sameKeys_updateOne f n t _ fun _ => rfl

theorem sameKeys_luTime (f : Faults) (n : Nat) (t : Tables) (datetime : Option CStr) (id : Int)
    (isPs : Bool) :
    SameKeys t.toContents (updateOne f n t (luTime datetime id isPs)).2.toContents := by
  cases isPs <;> exact sameKeys_updateOne f n t _ fun _ => rfl

/-! ## Operations that are not about keys -/

/-- It only updates rows of subscribers. -/
def Op.updatesSubscriber : Op → Bool
  | .create .. | .deleteById .. | .updateAudById .. => false
  | _ => true

theorem sameKeys_run (lib : DbLib) (t : Tables) {op : Op} (h : op.updatesSubscriber = true) :
    SameKeys t.toContents (op.run lib t).2.toContents := by
  cases op with
  | create | deleteById | updateAudById => cases h
  | updateMsisdnByImsi f imsi msisdn =>
      cases msisdn with
      | none => exact sameKeys_updateOne f 1 t _ fun _ => rfl
      | some msisdn =>
          rw [Op.run, dbSubscrUpdateMsisdnByImsi]
          split
          · exact .refl _
          · exact sameKeys_updateOne f 2 t _ fun _ => rfl
  | updateImeiByImsi f imsi imei =>
      cases imei with
      | none => exact sameKeys_updateOne f 1 t _ fun _ => rfl
      | some imei =>
          rw [Op.run, dbSubscrUpdateImeiByImsi]
          split
          · exact .refl _
          · exact sameKeys_updateOne f 2 t _ fun _ => rfl
  | nam f imsi namVal isPs => cases isPs <;> exact sameKeys_updateOne f 2 t _ fun _ => rfl
  | purge f imsi purgeVal isPs => cases isPs <;> exact sameKeys_updateOne f 2 t _ fun _ => rfl
  | lu f id vlrName isPs viaProxy =>
      rw [Op.run, dbSubscrLu_eq]
      have hstored := sameKeys_luNumber f.number 3 t id vlrName isPs viaProxy
      simp only
      split
      · exact hstored
      · split
        · exact hstored
        · exact hstored.trans (sameKeys_luTime f.lastLuSeen 2 _ _ id isPs)

/-- **A new subscriber has no keys if there are no keys of nobody.** -/
theorem noLeftover_create (h : NoOrphans t.toContents) (f : Faults) (found : Int) (imsi : CStr)
    (flags : UInt8) : NoLeftover lib t (.create f found imsi flags) := by
  have hcases : (Op.run lib t (.create f found imsi flags)).2 = t ∨ ∃ row,
      (Op.run lib t (.create f found imsi flags)).2.toContents =
        { t.toContents with subscriber := t.subscriber ++ [row] } := by
    rw [Op.run, dbSubscrCreate]
    simp only
    split
    · exact Or.inl rfl
    · split
      · exact Or.inl rfl
      · have hexec := exec_cases f t (subscrCreate found imsi (flags &&& dbSubscrFlagNamCs ≠ 0)
          (flags &&& dbSubscrFlagNamPs ≠ 0))
        split
        · exact hexec.imp id fun heq => ⟨_, heq⟩
        · exact hexec.imp id fun heq => ⟨_, heq⟩
  have hconcludes : Op.Concludes lib t (.create f found imsi flags) ↔
      ∀ id, ¬t.HasSubscriber id →
        (Op.run lib t (.create f found imsi flags)).2.HasSubscriber id →
          ¬(Op.run lib t (.create f found imsi flags)).2.HasKeys id := Iff.rfl
  rw [NoLeftover, hconcludes]
  generalize (Op.run lib t (.create f found imsi flags)).2 = after at hcases
  rcases hcases with rfl | ⟨row, hrow⟩
  · exact ⟨h, fun id hnot hhas => absurd hhas hnot⟩
  · have hkeys : ∀ id, after.HasKeys id ↔ t.HasKeys id := fun id =>
      hasKeys_congr (by rw [hrow]) (by rw [hrow]) id
    refine ⟨?_, fun id hnot _ hkey => hnot (h id ((hkeys id).1 hkey))⟩
    intro id hkey
    obtain ⟨owner, howner, hid⟩ := h id ((hkeys id).1 hkey)
    refine ⟨owner, ?_, hid⟩
    rw [hrow]
    exact List.mem_append_left _ howner

/-! ## Keys that are deleted -/

theorem not_any_iff : ¬f.any ↔ f.binds 1 = false ∧ f.step = false := by
  simp [Faults.any]

/-- What is left of a table when the rows with a key are deleted. -/
theorem exists_filter_ne_iff {α κ : Type} [DecidableEq κ] {key : α → κ} {l : List α} {k k' : κ} :
    (∃ x ∈ l.filter fun x => key x ≠ k, key x = k') ↔ (∃ x ∈ l, key x = k') ∧ k' ≠ k := by
  simp only [List.mem_filter, decide_eq_true_eq]
  constructor
  · rintro ⟨x, ⟨hx, hne⟩, rfl⟩
    exact ⟨⟨x, hx, rfl⟩, hne⟩
  · rintro ⟨⟨x, hx, rfl⟩, hne⟩
    exact ⟨x, ⟨hx, hne⟩, rfl⟩

theorem hasAud_audDelete (c : Contents) (aud : SubAuthDataStr) (id id' : Int) :
    (audDelete aud id c).1.HasAud aud.type id' ↔ c.HasAud aud.type id' ∧ id' ≠ id := by
  by_cases htype : aud.type = .gsm
  · rw [audDelete, if_pos htype, htype]
    exact exists_filter_ne_iff
  · rw [audDelete, if_neg htype, Contents.HasAud, Contents.HasAud, if_neg htype, if_neg htype]
    exact exists_filter_ne_iff

/-- **Keys that are to be deleted are gone unless something goes wrong, and all else stays.** -/
theorem audDeleted (f : Faults) (t : Tables) (aud : SubAuthDataStr) (id : Int) :
    (updateOne f 1 t (audDelete aud id)).2.subscriber = t.subscriber ∧
      (aud.type = .gsm → (updateOne f 1 t (audDelete aud id)).2.auc3g = t.auc3g) ∧
      (aud.type ≠ .gsm → (updateOne f 1 t (audDelete aud id)).2.auc2g = t.auc2g) ∧
      ∀ id', (updateOne f 1 t (audDelete aud id)).2.HasAud aud.type id' ↔
        t.HasAud aud.type id' ∧ (id' = id → f.any) := by
  rcases updateOne_cases (singleRow_audDelete t aud id) f 1 with
    ⟨-, hsame, hfault⟩ | ⟨-, hsame, hbinds, hstep, hzero⟩ | ⟨-, hset, hbinds, hstep, -⟩
  · have hany : f.any := by
      rcases hfault with hfault | hfault | hfault
      · exact Or.inl hfault
      · exact Or.inr hfault
      · exact absurd (valid_audDelete t aud id) hfault
    rw [hsame]
    exact ⟨rfl, fun _ => rfl, fun _ => rfl, fun id' => (and_iff_left fun _ => hany).symm⟩
  · have hnone : ¬t.HasAud aud.type id := fun haud => (hasAud_iff _ _ _).1 haud hzero
    rw [hsame]
    refine ⟨rfl, fun _ => rfl, fun _ => rfl, fun id' => ⟨fun haud => ⟨haud, ?_⟩, And.left⟩⟩
    rintro rfl
    exact absurd haud hnone
  · have hany : ¬f.any := not_any_iff.2 ⟨hbinds, hstep⟩
    rw [hset]
    refine ⟨?_, ?_, ?_, ?_⟩
    · unfold audDelete
      split <;> rfl
    · intro htype
      rw [audDelete, if_pos htype]
      rfl
    · intro htype
      rw [audDelete, if_neg htype]
      rfl
    · intro id'
      rw [hasAud_audDelete]
      exact and_congr_right fun _ => ⟨fun hne heq => absurd heq hne, fun h heq => hany (h heq)⟩

theorem valid_delById (t : Tables) (id : Int) : (delById id t.toContents).1.Valid := by
  obtain ⟨hids, himsis, hmsisdns, haud⟩ := t.valid
  refine ⟨(List.filter_sublist.map _).nodup hids, (List.filter_sublist.map _).nodup himsis, ?_, haud⟩
  exact (List.Sublist.filterMap _ List.filter_sublist).nodup hmsisdns

/-- What a deletion leaves, if the row of the subscriber can be deleted. -/
theorem deleted_tables (lib : DbLib) (f : DeleteFaults) (t : Tables) (id : Int)
    (hdel : ¬f.del.any) :
    (∀ id', (dbSubscrDeleteById lib f t id).2.HasSubscriber id' ↔ t.HasSubscriber id' ∧ id' ≠ id) ∧
      (∀ id', (dbSubscrDeleteById lib f t id).2.HasAud .gsm id' ↔
        t.HasAud .gsm id' ∧ (id' = id → f.aud2g.del.any)) ∧
      ∀ id', (dbSubscrDeleteById lib f t id).2.HasAud .umts id' ↔
        t.HasAud .umts id' ∧ (id' = id → f.aud3g.del.any) := by
  obtain ⟨hbinds, hstep⟩ := not_any_iff.1 hdel
  have hdone := exec_done_iff.2 ⟨hstep, valid_delById t id⟩
  obtain ⟨-, htables, -⟩ := exec_of_done hdone
  have hres : (dbSubscrDeleteById lib f t id).2 =
      (updateOne f.aud3g.del 1 (updateOne f.aud2g.del 1 (t.exec f.del (delById id)).tables
        (audDelete (noAud .gsm) id)).2 (audDelete (noAud .umts) id)).2 := by
    rw [dbSubscrDeleteById, if_neg (by simp [hbinds])]
    simp only [hdone, Bool.not_true, Bool.false_eq_true, if_false,
      updateAud_noAud lib f.aud2g _ id (Or.inl rfl), updateAud_noAud lib f.aud3g _ id (Or.inr rfl)]
  rw [hres]
  generalize (t.exec f.del (delById id)).tables = t1 at htables
  obtain ⟨hsub2, h3g, -, h2g⟩ := audDeleted f.aud2g.del t1 (noAud .gsm) id
  generalize (updateOne f.aud2g.del 1 t1 (audDelete (noAud .gsm) id)).2 = t2 at hsub2 h3g h2g
  obtain ⟨hsub3, -, h2g', h3g'⟩ := audDeleted f.aud3g.del t2 (noAud .umts) id
  have hfirst : ∀ type id', t1.HasAud type id' ↔ t.HasAud type id' := fun type id' => by
    rw [htables]
    exact Iff.rfl
  refine ⟨?_, ?_, ?_⟩
  · intro id'
    rw [Contents.HasSubscriber, hsub3, hsub2, htables]
    exact exists_filter_ne_iff
  · intro id'
    refine (hasAud_gsm_congr (h2g' (by decide)) id').trans ?_
    exact (h2g id').trans (and_congr_left' (hfirst _ id'))
  · intro id'
    refine (h3g' id').trans (and_congr_left' ?_)
    exact (hasAud_umts_congr (h3g rfl) id').trans (hfirst _ id')

/-- **A deletion leaves no keys exactly if nothing goes wrong with keys that there are.** -/
theorem noLeftover_deleteById_iff (h : NoOrphans t.toContents) (f : DeleteFaults) (id : Int) :
    NoLeftover lib t (.deleteById f id) ↔ KeysKept lib t (.deleteById f id) := by
  have hrun : Op.run lib t (.deleteById f id) = dbSubscrDeleteById lib f t id := rfl
  rw [NoLeftover, Op.Concludes, hrun]
  by_cases hdel : f.del.any
  · -- the subscriber is not deleted
    have hres : dbSubscrDeleteById lib f t id = (eio, t) := by
      unfold dbSubscrDeleteById
      rcases hdel with hbinds | hstep
      · rw [if_pos hbinds]
      · split
        · rfl
        · simp [Tables.exec, hstep]
    rw [hres]
    exact iff_of_true ⟨h, fun hrc => absurd hrc (by decide : eio ≠ 0)⟩ fun _ hnot => absurd hdel hnot
  · obtain ⟨hsubscribers, h2g, h3g⟩ := deleted_tables lib f t id hdel
    generalize dbSubscrDeleteById lib f t id = after at hsubscribers h2g h3g
    have hgone : ¬after.2.HasSubscriber id := fun hhas => ((hsubscribers id).1 hhas).2 rfl
    have hkeys : ¬after.2.HasKeys id ↔
        (t.HasAud .gsm id → ¬f.aud2g.del.any) ∧ (t.HasAud .umts id → ¬f.aud3g.del.any) := by
      rw [Contents.HasKeys, h2g, h3g, not_or]
      simp
    constructor
    · rintro ⟨howned, -⟩ _ _
      exact hkeys.1 fun hkey => hgone (howned id hkey)
    · intro hkept
      have hnone : ¬after.2.HasKeys id := by
        by_cases hhas : t.HasSubscriber id
        · exact hkeys.2 (hkept hhas hdel)
        · exact hkeys.2 ⟨fun haud => absurd (h id (Or.inl haud)) hhas,
            fun haud => absurd (h id (Or.inr haud)) hhas⟩
      refine ⟨?_, fun _ => hnone⟩
      intro id' hkey
      have hne : id' ≠ id := fun heq => hnone (heq ▸ hkey)
      refine (hsubscribers id').2 ⟨h id' ?_, hne⟩
      exact hkey.imp (fun haud => ((h2g id').1 haud).1) fun haud => ((h3g id').1 haud).1

/-! ## Keys that are updated -/

/-- No keys but those with one id are new. -/
structure OnlyKeysOf (id : Int) (c c' : Contents) : Prop where
  subscriber : c'.subscriber = c.subscriber
  keys : ∀ id', c'.HasKeys id' → c.HasKeys id' ∨ id' = id

theorem onlyKeysOf_audDelete (f : Faults) (t : Tables) (aud : SubAuthDataStr) (id : Int) :
    OnlyKeysOf id t.toContents (updateOne f 1 t (audDelete aud id)).2.toContents := by
  obtain ⟨hsubscriber, h3g, h2g, hdeleted⟩ := audDeleted f t aud id
  refine ⟨hsubscriber, ?_⟩
  intro id' hkey
  left
  by_cases htype : aud.type = .gsm
  · rw [htype] at hdeleted
    exact hkey.imp (fun haud => ((hdeleted id').1 haud).1) (hasAud_umts_congr (h3g htype) id').1
  · have humts : ∀ c : Contents, c.HasAud .umts id' ↔ c.HasAud aud.type id' := fun c => by
      simp [Contents.HasAud, htype]
    refine hkey.imp (hasAud_gsm_congr (h2g htype) id').1 fun haud => ?_
    exact (humts _).2 ((hdeleted id').1 ((humts _).1 haud)).1

theorem onlyKeysOf_audInsert (c : Contents) (aud : SubAuthDataStr) (id : Int) :
    OnlyKeysOf id c (audInsert aud id c).1 := by
  have hconcat : ∀ {α : Type} (key : α → Int) {l : List α} {x : α} {id' : Int}, key x = id →
      (∃ y ∈ l ++ [x], key y = id') → (∃ y ∈ l, key y = id') ∨ id' = id := by
    rintro α key l x id' hx ⟨y, hy, rfl⟩
    rcases List.mem_append.1 hy with hy | hy
    · exact Or.inl ⟨y, hy, rfl⟩
    · rw [List.mem_singleton.1 hy]
      exact Or.inr hx
  by_cases htype : aud.type = .gsm
  · rw [audInsert, if_pos htype]
    refine ⟨rfl, ?_⟩
    rintro id' (haud | haud)
    · exact (hconcat Auc2gRow.subscriberId rfl haud).imp Or.inl fun heq => heq
    · exact Or.inl (Or.inr haud)
  · rw [audInsert, if_neg htype]
    refine ⟨rfl, ?_⟩
    rintro id' (haud | haud)
    · exact Or.inl (Or.inl haud)
    · exact (hconcat Auc3gRow.subscriberId rfl haud).imp Or.inr fun heq => heq

theorem OnlyKeysOf.trans {c c' c'' : Contents} (h : OnlyKeysOf id c c') (h' : OnlyKeysOf id c' c'') :
    OnlyKeysOf id c c'' :=
  ⟨h'.subscriber.trans h.subscriber, fun id' hkey => (h'.keys id' hkey).elim (h.keys id') Or.inr⟩

theorem onlyKeysOf_updateAud (lib : DbLib) (f : AudFaults) (t : Tables) (id : Int)
    (aud : SubAuthDataStr) :
    OnlyKeysOf id t.toContents (dbSubscrUpdateAudById lib f t id aud).2.toContents := by
  have hdeleted := onlyKeysOf_audDelete f.del t aud id
  unfold dbSubscrUpdateAudById
  split
  · exact ⟨rfl, fun _ => Or.inl⟩
  · simp only
    generalize (updateOne f.del 1 t (audDelete aud id)) = deleted at hdeleted
    have hinserted : OnlyKeysOf id t.toContents
        (deleted.2.exec f.ins (audInsert aud id)).tables.toContents := by
      rcases exec_cases f.ins deleted.2 (audInsert aud id) with hsame | hset
      · rw [hsame]
        exact hdeleted
      · rw [hset]
        exact hdeleted.trans (onlyKeysOf_audInsert _ aud id)
    split_ifs <;> first | exact hdeleted | exact hinserted

theorem OnlyKeysOf.noOrphans {c c' : Contents} (h : OnlyKeysOf id c c') (hc : NoOrphans c)
    (hid : c.HasSubscriber id) : NoOrphans c' := by
  intro id' hkey
  rw [Contents.HasSubscriber, h.subscriber]
  rcases h.keys id' hkey with hold | rfl
  · exact hc id' hold
  · exact hid

/-- What is returned for keys where there are none. -/
theorem updateAud_of_not_hasAud (lib : DbLib) (f : AudFaults) {aud : SubAuthDataStr}
    (hnone : ¬t.HasAud aud.type id) :
    ((dbSubscrUpdateAudById lib f t id aud).1 = enoent ↔
        audValid lib aud = true ∧ aud.algo = .none ∧ ¬f.del.any) ∧
      ((dbSubscrUpdateAudById lib f t id aud).1 = enoent →
        (dbSubscrUpdateAudById lib f t id aud).2 = t) := by
  have hzero : (audDelete aud id t.toContents).2 = 0 := by
    by_contra hne
    exact hnone ((hasAud_iff _ _ _).2 hne)
  cases hvalid : audValid lib aud with
  | false =>
      have hres : dbSubscrUpdateAudById lib f t id aud = (einval, t) := by
        rw [dbSubscrUpdateAudById, hvalid]
        rfl
      rw [hres]
      exact ⟨iff_of_false (by decide : einval ≠ enoent) fun h => Bool.false_ne_true h.1, fun _ => rfl⟩
  | true =>
      unfold dbSubscrUpdateAudById
      rw [hvalid]
      simp only [Bool.not_true, Bool.false_eq_true, if_false, true_and]
      rcases updateOne_cases (singleRow_audDelete t aud id) f.del 1 with
        ⟨hrc, hsame, hfault⟩ | ⟨hrc, hsame, hbinds, hstep, -⟩ | ⟨-, -, -, -, hone⟩
      · have hany : f.del.any := by
          rcases hfault with hfault | hfault | hfault
          · exact Or.inl hfault
          · exact Or.inr hfault
          · exact absurd (valid_audDelete t aud id) hfault
        rw [if_pos (by rw [hrc]; decide), hrc]
        exact ⟨iff_of_false (by decide) fun h => h.2 hany, fun _ => hsame⟩
      · have hany : ¬f.del.any := not_any_iff.2 ⟨hbinds, hstep⟩
        rw [if_neg (by rw [hrc]; decide)]
        by_cases halgo : aud.algo = .none
        · rw [if_pos halgo]
          exact ⟨iff_of_true hrc ⟨halgo, hany⟩, fun _ => hsame⟩
        · rw [if_neg halgo]
          have hne : ∀ p : Int × Tables, p.1 = eio ∨ p.1 = 0 →
              (p.1 = enoent ↔ aud.algo = .none ∧ ¬f.del.any) ∧
                (p.1 = enoent → p.2 = t) := by
            intro p hp
            have hp' : p.1 ≠ enoent := by rcases hp with hp | hp <;> rw [hp] <;> decide
            exact ⟨iff_of_false hp' fun h => halgo h.1, fun h => absurd h hp'⟩
          refine hne _ ?_
          split_ifs
          · exact Or.inl rfl
          · exact Or.inl rfl
          · exact Or.inr rfl
      · rw [hzero] at hone
        cases hone

/-- **Keys are updated as they should exactly if their subscriber is there, or they are only
deleted.** -/
theorem noLeftover_updateAudById_iff (h : NoOrphans t.toContents) (f : AudFaults) (id : Int)
    (aud : SubAuthDataStr) :
    NoLeftover lib t (.updateAudById f id aud) ↔ KeysKept lib t (.updateAudById f id aud) := by
  have hrun : Op.run lib t (.updateAudById f id aud) = dbSubscrUpdateAudById lib f t id aud := rfl
  rw [NoLeftover, Op.Concludes, hrun]
  by_cases hid : t.HasSubscriber id
  · exact iff_of_true ⟨(onlyKeysOf_updateAud lib f t id aud).noOrphans h hid,
      fun hnot => absurd hid hnot⟩ (Or.inl hid)
  · have hnone : ¬t.HasAud aud.type id := by
      intro haud
      refine hid (h id ?_)
      by_cases htype : aud.type = .gsm
      · exact Or.inl (htype ▸ haud)
      · exact Or.inr (by simpa [Contents.HasAud, htype] using haud)
    obtain ⟨hrc, hsame⟩ := updateAud_of_not_hasAud lib f hnone
    generalize dbSubscrUpdateAudById lib f t id aud = after at hrc hsame
    constructor
    · intro hconcludes
      exact Or.inr (hrc.1 (hconcludes.2 hid).1)
    · intro hkept
      have henoent := hrc.2 (hkept.resolve_left hid)
      rw [hsame henoent]
      exact ⟨h, fun _ => ⟨henoent, fun _ hrow => hrow, fun _ hrow => hrow⟩⟩

/-! ## Runs -/

/-- The operations, one after the other. -/
def machine (lib : DbLib) : Machine Tables Op Int := ⟨fun t op => ((op.run lib t).2, [(op.run lib t).1])⟩

theorem noLeftover_iff (h : NoOrphans t.toContents) (op : Op) :
    NoLeftover lib t op ↔ KeysKept lib t op := by
  cases op with
  | create f found imsi flags => exact iff_of_true (noLeftover_create h f found imsi flags) trivial
  | deleteById f id => exact noLeftover_deleteById_iff h f id
  | updateAudById f id aud => exact noLeftover_updateAudById_iff h f id aud
  | _ => exact iff_of_true ⟨(sameKeys_run lib t rfl).noOrphans h, trivial⟩ trivial

/-- **In a run, no key is ever left over and all operations conclude as they should if and only if
each operation keeps keys with their subscribers.** -/
theorem no_leftover_keys_iff (lib : DbLib) (ops : List Op) :
    (machine lib).Guarded (NoLeftover lib) Tables.empty ops ↔
      (machine lib).Guarded (KeysKept lib) Tables.empty ops :=
  (machine lib).guarded_congr (P := fun t => NoOrphans t.toContents) (H := fun _ => True)
    (fun _ _ _ _ hno => hno.1) (fun _ op h _ => noLeftover_iff h op)
    (fun _ hkey => by rcases hkey with ⟨_, hrow, -⟩ | ⟨_, hrow, -⟩ <;> cases hrow) (fun _ _ => trivial)

/-- Keys of nobody are inserted, and the first subscriber has them. -/
theorem keys_inherited :
    ¬(machine Host.dbLib).Guarded (NoLeftover Host.dbLib) Tables.empty
      [.updateAudById AudFaults.none 1 Host.newKey,
        .create Faults.none 0 (CStr.lit "262420000000001") 0] := by
  rintro ⟨⟨howned, -⟩, -⟩
  have horphan := howned 1 (by decide +kernel)
  revert horphan
  decide +kernel

end Db
end OsmoHlr
