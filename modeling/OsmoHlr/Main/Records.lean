import OsmoHlr.Auc.SqnRuns
import OsmoHlr.Db.DbSel
import OsmoHlr.Db.LeftoverKeys

/-!
# Records of subscribers

All that the tables say about an IMSI is its row and the keys of that row, as
`DB_STMT_AUC_BY_IMSI` joins them.  The statements that handlers of GSUP messages execute are
each about one IMSI, and leave the records of all others as they are.

* `Change` — what may be done to a record.
* `Changed` — one record has changed so, and no other.
* `Appended` — what `db_subscr_create` leaves.
-/

namespace OsmoHlr
namespace Main

open CString Db Auc

/-- What there is about an IMSI. -/
abbrev Record := SubscriberRow × Option Auc2gRow × Option Auc3gRow

/-- What may be done to a record. -/
inductive Change where
  /-- There is one now. -/
  | created (record : Record)
  | msisdn (msisdn : CStr)
  | imei (imei : CStr)
  /-- The VLR or SGSN, and the proxy. -/
  | located (isPs : Bool) (number : CStr) (viaProxy : Option CStr)
  /-- When it was seen last. -/
  | seen (isPs : Bool) (lastLuSeen : Option CStr)
  | purged (isPs : Bool)
  | sqn (sqn : Nat)
  deriving DecidableEq

/-- A change of the row of a subscriber. -/
def Change.onRow : Change → SubscriberRow → SubscriberRow
  | .msisdn m, row => { row with msisdn := some m }
  | .imei i, row => { row with imei := some i }
  | .located isPs number viaProxy, row =>
      if isPs then { row with sgsnNumber := some number, sgsnViaProxy := viaProxy }
      else { row with vlrNumber := some number, vlrViaProxy := viaProxy }
  | .seen isPs lastLuSeen, row =>
      if isPs then { row with lastLuSeenPs := lastLuSeen }
      else { row with lastLuSeen := lastLuSeen }
  | .purged isPs, row =>
      if isPs then { row with msPurgedPs := true } else { row with msPurgedCs := true }
  | .created _, row | .sqn _, row => row

/-- What it makes of a record. -/
def Change.apply (record : Option Record) (change : Change) : Option Record :=
  match change with
  | .created new => record.or (some new)
  | .sqn n => record.map fun r => (r.1, r.2.1, r.2.2.map fun auc => { auc with sqn := n })
  | change => record.map fun r => (change.onRow r.1, r.2)

/-- No record changes but that of an IMSI. -/
def OnlyRecordOf (imsi : CStr) (c c' : Contents) : Prop :=
  ∀ other, other ≠ imsi → aucByImsi c' other = aucByImsi c other

/-- The record of an IMSI has changed, and no other. -/
structure Changed (imsi : CStr) (c c' : Contents) (changes : List Change) : Prop where
  record : aucByImsi c' imsi = changes.foldl Change.apply (aucByImsi c imsi)
  others : OnlyRecordOf imsi c c'

variable {imsi other : CStr} {c c' c'' : Contents} {f : Faults} {n : Nat} {t : Tables}
  {row : SubscriberRow} {set : SubscriberRow → SubscriberRow}

theorem OnlyRecordOf.refl (imsi : CStr) (c : Contents) : OnlyRecordOf imsi c c := fun _ _ => rfl

theorem OnlyRecordOf.trans (h : OnlyRecordOf imsi c c') (h' : OnlyRecordOf imsi c' c'') :
    OnlyRecordOf imsi c c'' :=
  fun other hne => (h' other hne).trans (h other hne)

theorem Changed.refl (imsi : CStr) (c : Contents) : Changed imsi c c [] := ⟨rfl, .refl imsi c⟩

/-- **One after the other.** -/
theorem Changed.trans {changes changes' : List Change} (h : Changed imsi c c' changes)
    (h' : Changed imsi c' c'' changes') : Changed imsi c c'' (changes ++ changes') where
  record := by rw [h'.record, h.record, List.foldl_append]
  others := h.others.trans h'.others

/-! ## Updates of rows -/

/-- **A row is updated, and its keys are left alone.** -/
theorem aucByImsi_updateSubscriber (c : Contents) (cond : SubscriberRow → Bool)
    (hid : ∀ row, (set row).id = row.id) (himsi : ∀ row, (set row).imsi = row.imsi)
    (imsi : CStr) :
    aucByImsi (updateSubscriber cond set c).1 imsi =
      (aucByImsi c imsi).map fun found =>
        (if cond found.1 then set found.1 else found.1, found.2) := by
  have hkey : (fun row : SubscriberRow => decide (row.imsi = imsi)) ∘
      (fun row => if cond row then set row else row) = fun row => decide (row.imsi = imsi) := by
    funext row
    simp only [Function.comp_apply]
    split
    · rw [himsi]
    · rfl
  simp only [aucByImsi, updateSubscriber, List.find?_map, hkey, Option.map_map]
  refine Option.map_congr fun row _ => ?_
  simp only [Function.comp_apply]
  split
  · rw [hid]
  · rfl

/-- The row of a record has the IMSI. -/
theorem imsi_of_aucByImsi {keys : Option Auc2gRow × Option Auc3gRow}
    (h : aucByImsi c imsi = some (row, keys)) : row ∈ c.subscriber ∧ row.imsi = imsi := by
  obtain ⟨r, hr, hfound⟩ := Option.map_eq_some_iff.1 h
  obtain rfl : r = row := congrArg Prod.fst hfound
  exact ⟨List.mem_of_find?_eq_some hr, by simpa using List.find?_some hr⟩

/-- An update of the rows of an IMSI is about its record. -/
theorem onlyRecordOf_updateSubscriber {cond : SubscriberRow → Bool}
    (hcond : ∀ row ∈ c.subscriber, cond row = true → row.imsi = imsi)
    (hid : ∀ row, (set row).id = row.id) (himsi : ∀ row, (set row).imsi = row.imsi) :
    OnlyRecordOf imsi c (updateSubscriber cond set c).1 := by
  intro other hne
  rw [aucByImsi_updateSubscriber c cond hid himsi]
  cases hfound : aucByImsi c other with
  | none => rfl
  | some found =>
      obtain ⟨hrow, hother⟩ := imsi_of_aucByImsi hfound
      have hnot : cond found.1 = false := by
        cases hc : cond found.1 with
        | false => rfl
        | true => exact absurd (hother.symm.trans (hcond _ hrow hc)) hne
      rw [Option.map_some, hnot]
      rfl

/-- Ids tell the rows apart. -/
theorem imsi_of_id (t : Tables) (hrow : row ∈ t.subscriber) {r : SubscriberRow}
    (hr : r ∈ t.subscriber) (hid : r.id = row.id) : r.imsi = row.imsi :=
  congrArg SubscriberRow.imsi (List.inj_on_of_nodup_map t.valid.1 hr hrow hid)

/-- A change of a row leaves its id and its IMSI. -/
@[simp] theorem Change.id_onRow (change : Change) (row : SubscriberRow) :
    (change.onRow row).id = row.id := by
  cases change with
  | located isPs number viaProxy => cases isPs <;> rfl
  | seen isPs lastLuSeen => cases isPs <;> rfl
  | purged isPs => cases isPs <;> rfl
  | _ => rfl

@[simp] theorem Change.imsi_onRow (change : Change) (row : SubscriberRow) :
    (change.onRow row).imsi = row.imsi := by
  cases change with
  | located isPs number viaProxy => cases isPs <;> rfl
  | seen isPs lastLuSeen => cases isPs <;> rfl
  | purged isPs => cases isPs <;> rfl
  | _ => rfl

/-- The change is one of a row. -/
def Change.IsOfRow (change : Change) : Prop :=
  ∀ record, change.apply record = record.map fun r => (change.onRow r.1, r.2)

/-- A statement that is about one row: it is changed if the statement returns 0. -/
theorem changed_updateOne {stmt : Stmt} {change : Change} (hsingle : SingleRow t stmt)
    (h : Changed imsi t.toContents (stmt t.toContents).1 [change]) (f : Faults) (n : Nat) :
    Changed imsi t.toContents (updateOne f n t stmt).2.toContents
      (if (updateOne f n t stmt).1 = 0 then [change] else []) := by
  by_cases hrc : (updateOne f n t stmt).1 = 0
  · rw [if_pos hrc, updateOne_of_eq_zero hsingle hrc]
    exact h
  · rw [if_neg hrc, updateOne_of_ne_zero hsingle hrc]
    exact .refl imsi t.toContents

/-- The row of an IMSI is updated. -/
theorem changed_updateByImsi (change : Change) (hchange : change.IsOfRow) (f : Faults) (n : Nat)
    (t : Tables) (imsi : CStr) {stmt : Stmt}
    (hstmt : stmt = updateSubscriber (fun row => row.imsi = imsi) change.onRow) :
    Changed imsi t.toContents (updateOne f n t stmt).2.toContents
      (if (updateOne f n t stmt).1 = 0 then [change] else []) := by
  subst hstmt
  refine changed_updateOne (singleRow_updateByImsi t imsi _) ⟨?_, ?_⟩ f n
  · rw [aucByImsi_updateSubscriber _ _ change.id_onRow change.imsi_onRow, List.foldl_cons,
      List.foldl_nil, hchange]
    cases hfound : aucByImsi t.toContents imsi with
    | none => rfl
    | some found =>
        have himsi := (imsi_of_aucByImsi hfound).2
        simp [himsi]
  · exact onlyRecordOf_updateSubscriber (fun _ _ hrow => of_decide_eq_true hrow) change.id_onRow
      change.imsi_onRow

/-- The row of a subscriber is updated by its id. -/
theorem changed_updateById (change : Change) (hchange : change.IsOfRow) (f : Faults) (n : Nat)
    {record : Record} (hrecord : aucByImsi t.toContents imsi = some record) {stmt : Stmt}
    (hstmt : stmt = updateSubscriber (fun r => r.id = record.1.id) change.onRow) :
    Changed imsi t.toContents (updateOne f n t stmt).2.toContents
      (if (updateOne f n t stmt).1 = 0 then [change] else []) := by
  subst hstmt
  obtain ⟨hrow, himsi⟩ := imsi_of_aucByImsi hrecord
  refine changed_updateOne (singleRow_updateById t record.1.id _) ⟨?_, ?_⟩ f n
  · rw [aucByImsi_updateSubscriber _ _ change.id_onRow change.imsi_onRow, List.foldl_cons,
      List.foldl_nil, hchange, hrecord]
    simp
  · exact onlyRecordOf_updateSubscriber
      (fun _ hr hc => (imsi_of_id t hrow hr (of_decide_eq_true hc)).trans himsi) change.id_onRow
      change.imsi_onRow

/-! ## Sequence numbers -/

/-- The keys of a record are those of its row. -/
theorem id_of_aucByImsi {record : Record} (h : aucByImsi c imsi = some record) {auc3g : Auc3gRow}
    (hauc : record.2.2 = some auc3g) : auc3g.subscriberId = record.1.id := by
  obtain ⟨r, -, rfl⟩ := Option.map_eq_some_iff.1 h
  simpa using List.find?_some hauc

/-- A sequence number is stored. -/
theorem changed_dbUpdateSqn (f : Faults) {record : Record}
    (hrecord : aucByImsi t.toContents imsi = some record) (sqn : Nat) :
    Changed imsi t.toContents (dbUpdateSqn f t record.1.id sqn).2.toContents
      (if (dbUpdateSqn f t record.1.id sqn).1 = 0 then [.sqn sqn] else []) := by
  obtain ⟨hrow, himsi⟩ := imsi_of_aucByImsi hrecord
  refine changed_updateOne (singleRow_aucUpdSqn t sqn record.1.id) ⟨?_, ?_⟩ f 2
  · rw [aucByImsi_aucUpdSqn, hrecord]
    simp only [Option.map_some, List.foldl_cons, List.foldl_nil, Change.apply]
    cases hauc : record.2.2 with
    | none => rfl
    | some auc3g => simp [setSqn, id_of_aucByImsi hrecord hauc]
  · intro other hne
    rw [aucByImsi_aucUpdSqn]
    cases hfound : aucByImsi t.toContents other with
    | none => rfl
    | some found =>
        obtain ⟨hr, hother⟩ := imsi_of_aucByImsi hfound
        have hids : found.1.id ≠ record.1.id := fun hid =>
          hne (hother.symm.trans ((imsi_of_id t hrow hr hid).trans himsi))
        rw [Option.map_some]
        cases hauc : found.2.2 with
        | none => rw [Option.map_none, ← hauc]
        | some auc3g =>
            rw [Option.map_some, setSqn, id_of_aucByImsi hfound hauc, if_neg hids, ← hauc]

/-! ## New rows -/

/-- A row was appended. -/
structure Appended (c c' : Contents) (row : SubscriberRow) : Prop where
  subscriber : c'.subscriber = c.subscriber ++ [row]
  auc2g : c'.auc2g = c.auc2g
  auc3g : c'.auc3g = c.auc3g

theorem Appended.of_eq (h : c' = { c with subscriber := c.subscriber ++ [row] }) :
    Appended c c' row := by
  subst h
  exact ⟨rfl, rfl, rfl⟩

/-- **A new row makes a record of its own IMSI, if that has none, and no other.** -/
theorem Appended.aucByImsi (h : Appended c c' row) (imsi : CStr) :
    Auc.aucByImsi c' imsi =
      (Auc.aucByImsi c imsi).or
        (if row.imsi = imsi then
          some (row, c.auc2g.find? fun auc => auc.subscriberId = row.id,
            c.auc3g.find? fun auc => auc.subscriberId = row.id)
        else none) := by
  unfold Auc.aucByImsi
  rw [h.subscriber, h.auc2g, h.auc3g, List.find?_append]
  cases c.subscriber.find? fun r => r.imsi = imsi with
  | some r => rfl
  | none =>
      by_cases himsi : row.imsi = imsi
      · simp [himsi]
      · simp [himsi]

/-- What it does to the records. -/
theorem Appended.changed (h : Appended c c' row) (himsi : row.imsi = imsi) :
    Changed imsi c c'
      [.created (row, c.auc2g.find? fun auc => auc.subscriberId = row.id,
        c.auc3g.find? fun auc => auc.subscriberId = row.id)] where
  record := by
    rw [h.aucByImsi, if_pos himsi]
    rfl
  others := by
    intro other hne
    rw [h.aucByImsi, if_neg (fun heq => hne (heq.symm.trans himsi)), Option.or_none]

end Main
end OsmoHlr
