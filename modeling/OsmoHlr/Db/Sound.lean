import OsmoHlr.Db.Statements

/-!
# Sound records

What the database may hold is more than what its constraints say: an IMSI, an MSISDN or an IMEI that
is stored is a valid one, and a key is one that can be read again.  No constraint demands it;
the operations do.

* `Sound` — all that is stored is valid.
* `Wrote.sound` — whatever goes wrong with operations, they keep the tables sound.
* `dbGetAuthData_sound` — keys of sound tables can always be read.
-/

namespace OsmoHlr
namespace Db

open CString CniPeerId Auc

/-! ## What is valid -/

/-- A key, as it is stored. -/
def IsKey (key : CStr) : Prop := osmoIsHexstr key 32 32 true = true

instance (key : CStr) : Decidable (IsKey key) := inferInstanceAs (Decidable (_ = true))

/-- The identities of a subscriber are valid. -/
structure SoundRow (lib : DbLib) (row : SubscriberRow) : Prop where
  imsi : lib.imsiStrValid row.imsi = true
  msisdn : ∀ msisdn ∈ row.msisdn, lib.msisdnStrValid msisdn = true
  imei : ∀ imei ∈ row.imei, lib.imeiStrValid imei = true

/-- The algorithms for Ki. -/
def isGsmAlgo : AuthAlgo → Bool
  | .comp128v1 | .comp128v2 | .comp128v3 | .xor => true
  | _ => false

/-- A Ki, and an algorithm for it. -/
structure Sound2g (row : Auc2gRow) : Prop where
  algo : ∃ algo, isGsmAlgo algo = true ∧ row.algoId2g = algo.toInt
  ki : IsKey row.ki

/-- The keys for Milenage, with either OP or OPC. -/
structure Sound3g (lib : DbLib) (row : Auc3gRow) : Prop where
  algo : row.algoId3g = AuthAlgo.milenage.toInt
  k : IsKey row.k
  opc : (∃ op, row.op = some op ∧ row.opc = none ∧ IsKey op) ∨
    ∃ opc, row.op = none ∧ row.opc = some opc ∧ IsKey opc
  indBitlen : ∃ n : UInt32, row.indBitlen = n.toNat ∧ n ≤ lib.milenageIndBitlenMax

/-- All that is stored is valid. -/
structure Sound (lib : DbLib) (c : Contents) : Prop where
  subscriber : ∀ row ∈ c.subscriber, SoundRow lib row
  auc2g : ∀ row ∈ c.auc2g, Sound2g row
  auc3g : ∀ row ∈ c.auc3g, Sound3g lib row

theorem sound_empty (lib : DbLib) : Sound lib Tables.empty.toContents where
  subscriber := fun _ h => by cases h
  auc2g := fun _ h => by cases h
  auc3g := fun _ h => by cases h

/-! ## What keeps it -/

variable {lib : DbLib} {c : Contents} {f : Faults} {t t' : Tables}

/-- An update of rows that leaves them sound. -/
theorem Sound.updateSubscriber (h : Sound lib c) {cond : SubscriberRow → Bool}
    {set : SubscriberRow → SubscriberRow}
    (hset : ∀ row, SoundRow lib row → SoundRow lib (set row)) :
    Sound lib (Db.updateSubscriber cond set c).1 := by
  refine ⟨fun row hrow => ?_, h.auc2g, h.auc3g⟩
  obtain ⟨old, hold, rfl⟩ := List.mem_map.1 hrow
  split
  · exact hset old (h.subscriber old hold)
  · exact h.subscriber old hold

theorem Sound.create (h : Sound lib c) {imsi : CStr} (himsi : lib.imsiStrValid imsi = true)
    (found : Int) (namCs namPs : Bool) : Sound lib (subscrCreate found imsi namCs namPs c).1 := by
  refine ⟨fun row hrow => ?_, h.auc2g, h.auc3g⟩
  rcases List.mem_append.1 hrow with hold | hnew
  · exact h.subscriber row hold
  · obtain rfl := List.mem_singleton.1 hnew
    exact ⟨himsi, fun _ hm => absurd hm (Option.not_mem_none _),
      fun _ hi => absurd hi (Option.not_mem_none _)⟩

theorem Sound.audDelete (h : Sound lib c) (aud : SubAuthDataStr) (id : Int) :
    Sound lib (Db.audDelete aud id c).1 := by
  unfold Db.audDelete
  split
  · exact ⟨h.subscriber, fun row hrow => h.auc2g row (List.mem_of_mem_filter hrow), h.auc3g⟩
  · exact ⟨h.subscriber, h.auc2g, fun row hrow => h.auc3g row (List.mem_of_mem_filter hrow)⟩

/-- What `db_subscr_update_aud_by_id` has checked: keys of 2G. -/
theorem audValid_gsm {aud : SubAuthDataStr} (htype : aud.type = .gsm)
    (h : audValid lib aud = true) (halgo : aud.algo ≠ .none) :
    isGsmAlgo aud.algo = true ∧ IsKey aud.ki := by
  unfold audValid at h
  rw [htype] at h
  simp only at h
  split at h
  next hnone => exact absurd hnone halgo
  next hv1 => exact ⟨by rw [hv1]; rfl, h⟩
  next hv2 => exact ⟨by rw [hv2]; rfl, h⟩
  next hv3 => exact ⟨by rw [hv3]; rfl, h⟩
  next hxor => exact ⟨by rw [hxor]; rfl, h⟩
  next => cases h
  next => cases h

/-- And keys of 3G. -/
theorem audValid_umts {aud : SubAuthDataStr} (htype : aud.type ≠ .gsm)
    (h : audValid lib aud = true) (halgo : aud.algo ≠ .none) :
    aud.type = .umts ∧ aud.algo = .milenage ∧ IsKey aud.k ∧ IsKey aud.opc ∧
      aud.indBitlen ≤ lib.milenageIndBitlenMax := by
  unfold audValid at h
  split at h
  next hgsm => exact absurd hgsm htype
  next humts =>
      split at h
      next hnone => exact absurd hnone halgo
      next hmilenage =>
          simp only [Bool.and_eq_true, decide_eq_true_eq] at h
          exact ⟨humts, hmilenage, h.1.1, h.1.2, h.2⟩
      all_goals cases h
  all_goals cases h

theorem Sound.audInsert (h : Sound lib c) {aud : SubAuthDataStr} (hvalid : audValid lib aud = true)
    (halgo : aud.algo ≠ .none) (id : Int) : Sound lib (Db.audInsert aud id c).1 := by
  unfold Db.audInsert
  split
  next htype =>
      obtain ⟨hgsm, hki⟩ := audValid_gsm htype hvalid halgo
      refine ⟨h.subscriber, fun row hrow => ?_, h.auc3g⟩
      rcases List.mem_append.1 hrow with hold | hnew
      · exact h.auc2g row hold
      · obtain rfl := List.mem_singleton.1 hnew
        exact ⟨⟨aud.algo, hgsm, rfl⟩, hki⟩
  next htype =>
      obtain ⟨-, hmilenage, hk, hopc, hind⟩ := audValid_umts htype hvalid halgo
      refine ⟨h.subscriber, h.auc2g, fun row hrow => ?_⟩
      rcases List.mem_append.1 hrow with hold | hnew
      · exact h.auc3g row hold
      · obtain rfl := List.mem_singleton.1 hnew
        refine ⟨congrArg AuthAlgo.toInt hmilenage, hk, ?_, aud.indBitlen, rfl, hind⟩
        cases aud.opcIsOp with
        | true => exact Or.inl ⟨aud.opc, rfl, rfl, hopc⟩
        | false => exact Or.inr ⟨aud.opc, rfl, rfl, hopc⟩

/-- A sequence number is no key. -/
theorem Sound.aucUpdSqn (h : Sound lib c) (sqn : Nat) (id : Int) :
    Sound lib (Db.aucUpdSqn sqn id c).1 := by
  refine ⟨h.subscriber, h.auc2g, fun row hrow => ?_⟩
  obtain ⟨old, hold, rfl⟩ := List.mem_map.1 hrow
  have hsound := h.auc3g old hold
  split
  · exact ⟨hsound.algo, hsound.k, hsound.opc, hsound.indBitlen⟩
  · exact hsound

/-- **No statement stores what is not valid.** -/
theorem Sound.statement (h : Sound lib c) {op : Op} {stmt : Stmt} (hexec : op.Executes lib stmt) :
    Sound lib (stmt c).1 := by
  -- an update of what is no identity
  have hkeep : ∀ row row' : SubscriberRow, row'.imsi = row.imsi → row'.msisdn = row.msisdn →
      row'.imei = row.imei → SoundRow lib row → SoundRow lib row' := by
    intro row row' himsi hmsisdn himei hrow
    exact ⟨himsi ▸ hrow.imsi, hmsisdn ▸ hrow.msisdn, himei ▸ hrow.imei⟩
  cases hexec with
  | create namCs namPs himsi => exact h.create himsi _ namCs namPs
  | delById =>
      exact ⟨fun row hrow => h.subscriber row (List.mem_of_mem_filter hrow), h.auc2g, h.auc3g⟩
  | delAud type => exact h.audDelete _ _
  | deleteMsisdn =>
      exact h.updateSubscriber fun _ hrow =>
        ⟨hrow.imsi, fun _ hm => absurd hm (Option.not_mem_none _), hrow.imei⟩
  | setMsisdn hmsisdn =>
      refine h.updateSubscriber fun _ hrow => ⟨hrow.imsi, fun m hm => ?_, hrow.imei⟩
      obtain rfl := Option.some.inj hm
      exact hmsisdn
  | audDelete => exact h.audDelete _ _
  | audInsert hvalid halgo => exact h.audInsert hvalid halgo _
  | imei himei => exact h.updateSubscriber fun _ hrow => ⟨hrow.imsi, hrow.msisdn, himei⟩
  | @nam _ _ _ isPs =>
      cases isPs <;> exact h.updateSubscriber fun row => hkeep row _ rfl rfl rfl
  | @luNumber _ _ _ isPs =>
      cases isPs <;> exact h.updateSubscriber fun row => hkeep row _ rfl rfl rfl
  | @luTime _ _ _ isPs =>
      cases isPs <;> exact h.updateSubscriber fun row => hkeep row _ rfl rfl rfl
  | @purge _ _ _ isPs =>
      cases isPs <;> exact h.updateSubscriber fun row => hkeep row _ rfl rfl rfl

/-- **The tables stay sound.** -/
theorem Wrote.sound {Does : Op → Prop} (hwrote : Wrote lib Does t t') (h : Sound lib t.toContents) :
    Sound lib t'.toContents := by
  have hR : Composes fun c c' => Sound lib c → Sound lib c' :=
    ⟨fun _ => id, fun h h' => h' ∘ h⟩
  exact hwrote.rel hR (fun op _ stmt hexec c h => h.statement hexec)
    (fun sqn id c h => h.aucUpdSqn sqn id) h

/-! ## Keys are read -/

variable {Ω : Type} {auc : AucLib Ω}

theorem hexparseStmt_of_isKey (auc : AucLib Ω) {key : CStr} (h : IsKey key) :
    hexparseStmt auc (some key) = some (auc.hexparse key 16) := by
  have hlen : key.len = 32 := by
    simp only [IsKey, osmoIsHexstr, decide_eq_true_eq] at h
    omega
  rw [hexparseStmt, hlen]
  rfl

/-- The 2G authentication data that is read from a row. -/
def gsmData (auc : AucLib Ω) (row : Auc2gRow) : SubAuthData :=
  { SubAuthData.zero with
    ki := auc.hexparse row.ki 16
    algo := algoOfInt row.algoId2g
    type := .gsm }

/-- OP or OPC, whichever there is. -/
def opcText (row : Auc3gRow) : CStr := (row.op.or row.opc).getD CStr.empty

/-- The 3G authentication data that is read from a row. -/
def umtsData (auc : AucLib Ω) (row : Auc3gRow) : SubAuthData :=
  { SubAuthData.zero with
    k := auc.hexparse row.k 16
    algo := .milenage
    opc := auc.hexparse (opcText row) 16
    opcIsOp := row.op.isSome
    sqn := row.sqn
    indBitlen := UInt32.ofInt row.indBitlen
    type := .umts }

/-- What `db_get_auth_data` returns if it reads all that is stored. -/
def readBack (auc : AucLib Ω) :
    Option (SubscriberRow × Option Auc2gRow × Option Auc3gRow) →
      Except Int (SubAuthData × SubAuthData × Int)
  | none => .error enoent
  | some (row, auc2g, auc3g) =>
      if auc2g = none ∧ auc3g = none then .error enokey
      else .ok ((auc2g.map (gsmData auc)).getD SubAuthData.zero,
        (auc3g.map (umtsData auc)).getD SubAuthData.zero, row.id)

/-- A Ki that is stored is read. -/
theorem aud2gOf_of_sound (auc : AucLib Ω) {row : Auc2gRow} (h : Sound2g row) :
    aud2gOf auc (some row) = gsmData auc row := by
  simp only [aud2gOf, hexparseStmt_of_isKey auc h.ki, gsmData]

/-- Keys for Milenage that are stored are read. -/
theorem aud3gOf_of_sound (auc : AucLib Ω) {row : Auc3gRow} (h : Sound3g lib row) :
    aud3gOf auc (some row) = some (umtsData auc row) := by
  have halgo : algoOfInt row.algoId3g = .milenage := by rw [h.algo]; rfl
  have hopc : hexparseStmt auc (if row.op.isSome then row.op else row.opc) =
      some (auc.hexparse (opcText row) 16) := by
    rcases h.opc with ⟨op, hop, -, hkey⟩ | ⟨opc, hop, hopc, hkey⟩
    · simp [hop, opcText, hexparseStmt_of_isKey auc hkey]
    · simp [hop, hopc, opcText, hexparseStmt_of_isKey auc hkey]
  simp only [aud3gOf, hexparseStmt_of_isKey auc h.k, hopc, halgo, umtsData]

/-- The keys of a record are stored. -/
theorem keys_of_aucByImsi {imsi : CStr} {row : SubscriberRow} {auc2g : Option Auc2gRow}
    {auc3g : Option Auc3gRow} (h : aucByImsi c imsi = some (row, auc2g, auc3g)) :
    (∀ key ∈ auc2g, key ∈ c.auc2g) ∧ ∀ key ∈ auc3g, key ∈ c.auc3g := by
  obtain ⟨r, -, hfound⟩ := Option.map_eq_some_iff.1 h
  obtain ⟨rfl, hkeys⟩ := Prod.mk.inj hfound
  obtain ⟨rfl, rfl⟩ := Prod.mk.inj hkeys
  exact ⟨fun key hkey => List.mem_of_find?_eq_some hkey,
    fun key hkey => List.mem_of_find?_eq_some hkey⟩

/-- **Whatever is stored in sound tables is read**, unless SQLite fails. -/
theorem dbGetAuthData_sound (auc : AucLib Ω) (h : Sound lib t.toContents)
    (hbinds : f.binds 1 = false) (hstep : f.step = false) (imsi : CStr) :
    dbGetAuthData auc f t imsi = readBack auc (aucByImsi t.toContents imsi) := by
  unfold dbGetAuthData
  rw [hbinds, hstep]
  simp only [Bool.false_eq_true, if_false]
  cases hrecord : aucByImsi t.toContents imsi with
  | none => rfl
  | some record =>
      obtain ⟨row, auc2g, auc3g⟩ := record
      obtain ⟨h2g, h3g⟩ := keys_of_aucByImsi hrecord
      cases auc2g with
      | none =>
          cases auc3g with
          | none => rfl
          | some key3g =>
              have hread := aud3gOf_of_sound auc (h.auc3g key3g (h3g key3g rfl))
              simp [hread, readBack, aud2gOf, umtsData]
      | some key2g =>
          have hread2g := aud2gOf_of_sound auc (h.auc2g key2g (h2g key2g rfl))
          cases auc3g with
          | none => simp [hread2g, readBack, aud3gOf, gsmData]
          | some key3g =>
              have hread := aud3gOf_of_sound auc (h.auc3g key3g (h3g key3g rfl))
              simp [hread, hread2g, readBack, gsmData]

end Db
end OsmoHlr
