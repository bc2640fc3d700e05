import OsmoHlr.Auc.AucLibHost
import OsmoHlr.Auc.Vectors
import OsmoHlr.Db.FailedUpdates
import OsmoHlr.Lib.Machine

/-!
# Sequence numbers

A USIM refuses a vector whose sequence number it has seen.  Whatever fails in between, the
numbers of the vectors that are handed out for a subscriber only go up, as none is handed
out before the database has it.

* `storedSqn`, `keysOf` — what the database has about a subscriber.
* `getAucRuns` — all calls of `db_get_auc` without AUTS, one after the other.
* `auth_vectors_fresh` — what holds of all that they return.
-/

namespace OsmoHlr
namespace Auc

open CString CniPeerId Db

variable {Ω : Type} {lib : AucLib Ω} {env : GetEnv Ω} {t : Tables} {imsi : CStr} {id : Int}
  {aud2g aud3g : SubAuthData}

/-! ## What is stored -/

/-- The sequence number that is stored for a subscriber. -/
def storedSqn (c : Contents) (imsi : CStr) : Option Nat :=
  (aucByImsi c imsi).bind fun found => found.2.2.map Auc3gRow.sqn

/-- The 3G keys of a subscriber. -/
def keysOf (lib : AucLib Ω) (c : Contents) (imsi : CStr) : Option UmtsKeys :=
  (aucByImsi c imsi).bind fun found =>
    ((aud3gOf lib found.2.2).bind usable).map SubAuthData.toUmtsKeys

/-- `c` with the sequence number of a subscriber replaced. -/
def setSqn (sqn : Nat) (id : Int) (row : Auc3gRow) : Auc3gRow :=
  if row.subscriberId = id then { row with sqn := sqn } else row

theorem aucByImsi_aucUpdSqn (c : Contents) (imsi : CStr) (sqn : Nat) (id : Int) :
    aucByImsi (aucUpdSqn sqn id c).1 imsi =
      (aucByImsi c imsi).map fun found => (found.1, found.2.1, found.2.2.map (setSqn sqn id)) := by
  have hcomp (k : Int) : (fun row : Auc3gRow => decide (row.subscriberId = k)) ∘ setSqn sqn id =
      fun row => decide (row.subscriberId = k) := by
    funext row
    simp only [Function.comp_apply, setSqn]
    split <;> rfl
  simp only [aucByImsi, aucUpdSqn, Option.map_map]
  congr 1
  funext row
  simp only [Function.comp_apply]
  rw [show (fun row : Auc3gRow => if row.subscriberId = id then { row with sqn := sqn } else row) =
    setSqn sqn id from rfl, List.find?_map, hcomp]

/-- The sequence number that is stored is what is found then. -/
theorem storedSqn_aucUpdSqn {c : Contents} {row : SubscriberRow} {auc2g : Option Auc2gRow}
    {auc3g : Auc3gRow} (h : aucByImsi c imsi = some (row, auc2g, some auc3g)) (sqn : Nat) :
    storedSqn (aucUpdSqn sqn row.id c).1 imsi = some sqn := by
  have hid : auc3g.subscriberId = row.id := by
    obtain ⟨row', -, hfound⟩ := Option.map_eq_some_iff.1 h
    simp only [Prod.mk.injEq] at hfound
    obtain ⟨rfl, -, hfound⟩ := hfound
    simpa using List.find?_some hfound
  simp only [storedSqn, aucByImsi_aucUpdSqn, h, Option.map_some, Option.bind_some, setSqn,
    if_pos hid]

/-- Nothing else changes, as no two subscribers have the same id. -/
theorem storedSqn_aucUpdSqn_of_ne {row : SubscriberRow} {imsi' : CStr}
    {found : Option Auc2gRow × Option Auc3gRow} (h : aucByImsi t.toContents imsi = some (row, found))
    (hne : imsi' ≠ imsi) (sqn : Nat) :
    storedSqn (aucUpdSqn sqn row.id t.toContents).1 imsi' = storedSqn t.toContents imsi' := by
  unfold storedSqn
  rw [aucByImsi_aucUpdSqn]
  cases h' : aucByImsi t.toContents imsi' with
  | none => rfl
  | some found' =>
      obtain ⟨row', auc2g, auc3g⟩ := found'
      cases auc3g with
      | none => rfl
      | some auc3g =>
          obtain ⟨r, hr, hrow⟩ := Option.map_eq_some_iff.1 h
          obtain ⟨r', hr', hrow'⟩ := Option.map_eq_some_iff.1 h'
          simp only [Prod.mk.injEq] at hrow hrow'
          obtain ⟨rfl, -⟩ := hrow
          obtain ⟨rfl, -, hauc⟩ := hrow'
          have hid : auc3g.subscriberId = r'.id := by simpa using List.find?_some hauc
          have himsi : r.imsi = imsi := by simpa using List.find?_some hr
          have himsi' : r'.imsi = imsi' := by simpa using List.find?_some hr'
          have hids : r'.id ≠ r.id := by
            intro heq
            have hrows := List.inj_on_of_nodup_map t.valid.1 (List.mem_of_find?_eq_some hr')
              (List.mem_of_find?_eq_some hr) heq
            exact hne (himsi'.symm.trans ((congrArg SubscriberRow.imsi hrows).trans himsi))
          simp only [Option.map_some, Option.bind_some, setSqn, hid, if_neg hids]

theorem singleRow_aucUpdSqn (t : Tables) (sqn : Nat) (id : Int) :
    SingleRow t (aucUpdSqn sqn id) where
  le_one := countP_key_le_one t.valid.2.2.2.2 id
  eq_of_zero h := by
    have heq := map_eq_of_countP_eq_zero h fun row => { row with sqn := sqn }
    simp only [decide_eq_true_eq] at heq
    rw [aucUpdSqn, heq]

/-- Updating the sequence number fails and changes nothing, or does what it is to do. -/
theorem dbUpdateSqn_cases (f : Faults) (t : Tables) (id : Int) (sqn : Nat) :
    ((dbUpdateSqn f t id sqn).1 < 0 ∧ (dbUpdateSqn f t id sqn).2 = t) ∨
      ((dbUpdateSqn f t id sqn).1 = 0 ∧
        (dbUpdateSqn f t id sqn).2.toContents = (aucUpdSqn sqn id t.toContents).1) := by
  rcases updateOne_cases (singleRow_aucUpdSqn t sqn id) f 2 with
    ⟨hrc, htables, -⟩ | ⟨hrc, htables, -⟩ | ⟨hrc, htables, -⟩
  · exact Or.inl ⟨lt_of_eq_of_lt hrc (by decide), htables⟩
  · exact Or.inl ⟨lt_of_eq_of_lt hrc (by decide), htables⟩
  · exact Or.inr ⟨hrc, htables⟩

/-! ## One call -/

/-- 3G data that has an algorithm is from a row. -/
theorem aud3gOf_eq_some {auc3g : Option Auc3gRow} (h : aud3gOf lib auc3g = some aud3g)
    (halgo : aud3g.algo ≠ .none) :
    aud3g.type = .umts ∧ ∃ row, auc3g = some row ∧ aud3g.sqn = row.sqn := by
  unfold aud3gOf at h
  cases auc3g with
  | none =>
      cases h
      exact absurd rfl halgo
  | some row =>
      simp only at h
      split at h
      · cases h
      · split at h
        · cases h
        · cases h
          exact ⟨rfl, row, rfl, rfl⟩

theorem dbGetAuthData_error {f : Faults} {rc : Int} (h : dbGetAuthData lib f t imsi = .error rc) :
    rc < 0 := by
  unfold dbGetAuthData at h
  split at h
  · cases h
    decide
  · split at h
    · cases h
      decide
    · split at h
      · cases h
        decide
      · split at h
        · cases h
          decide
        · split at h
          · cases h
            decide
          · cases h

theorem dbGetAuthData_ok {f : Faults} (h : dbGetAuthData lib f t imsi = .ok (aud2g, aud3g, id)) :
    ∃ row auc2g auc3g, aucByImsi t.toContents imsi = some (row, auc2g, auc3g) ∧ row.id = id ∧
      aud3gOf lib auc3g = some aud3g := by
  unfold dbGetAuthData at h
  split at h
  · cases h
  · split at h
    · cases h
    · split at h
      · cases h
      next row auc2g auc3g hfound =>
          split at h
          · cases h
          next aud haud =>
              split at h
              · cases h
              · cases h
                exact ⟨row, auc2g, auc3g, hfound, rfl, haud⟩

/-- Only the sequence number of the 3G data changes. -/
theorem aucComputeVectors_aud3g (lib : AucLib Ω) (env : GenEnv Ω) (vec : Nat → AuthVector)
    (vtmp : AuthVector) (numVec : UInt32) (aud2g aud3g : SubAuthData)
    (randAuts auts : Option (List UInt8)) :
    ∃ sqn, (aucComputeVectors lib env vec vtmp numVec aud2g aud3g randAuts auts).aud3g =
      { aud3g with sqn := sqn } := by
  rcases aucComputeVectors_cases lib env vec vtmp numVec aud2g aud3g randAuts auts with
    hfailed | ⟨made, -, spec, heq⟩
  · rw [hfailed]
    exact ⟨aud3g.sqn, rfl⟩
  · rw [heq]
    rcases spec.umts with ⟨-, hnone⟩ | ⟨aud, sqn, hgiven, hnow⟩
    · exact ⟨aud3g.sqn, by rw [hnone]; rfl⟩
    · obtain rfl := usable_eq_some hgiven
      exact ⟨sqn, by rw [hnow]; rfl⟩

/-- What is left if keys are found. -/
theorem dbGetAuc_of_ok {auc3gInd : UInt32} {vec : Nat → AuthVector} {vtmp : AuthVector}
    {numVec : UInt32} {randAuts auts : Option (List UInt8)} {separationBit : Bool}
    (h : dbGetAuthData lib env.sel t imsi = .ok (aud2g, aud3g, id)) :
    dbGetAuc lib env t imsi auc3gInd vec vtmp numVec randAuts auts separationBit =
      let computed := aucComputeVectors lib env.gen vec vtmp numVec aud2g
        (aud3g.prepare auc3gInd separationBit) randAuts auts
      let ret := if computed.rc < 0 then -1 else computed.rc
      if aud3g.algo = .none then ⟨ret, computed.vec, t, computed.resyncs⟩
      else
        let stored := dbUpdateSqn env.upd t id computed.aud3g.sqn
        ⟨if stored.1 < 0 then -1 else ret, computed.vec, stored.2, computed.resyncs⟩ := by
  obtain ⟨sqn, hsqn⟩ := aucComputeVectors_aud3g lib env.gen vec vtmp numVec aud2g
    (aud3g.prepare auc3gInd separationBit) randAuts auts
  have halgo := congrArg (·.algo) hsqn
  simp only at halgo
  rw [dbGetAuc, h]
  simp only [halgo]
  rfl

/-- What sequence numbers are handed out while one that is stored is replaced by another: they go
up, from above the one to the other. -/
structure GoesUp (stored stored' : Option Nat) (sqns : List Nat) : Prop where
  up : sqns.Pairwise (· < ·)
  le : ∀ a ∈ stored, ∃ b ∈ stored', a ≤ b
  ge : ∀ b ∈ stored', ∃ a ∈ stored, a ≤ b
  between : ∀ sqn ∈ sqns, ∃ a ∈ stored, ∃ b ∈ stored', a < sqn ∧ sqn ≤ b

theorem GoesUp.refl (stored : Option Nat) : GoesUp stored stored [] where
  up := .nil
  le a ha := ⟨a, ha, Nat.le_refl a⟩
  ge a ha := ⟨a, ha, Nat.le_refl a⟩
  between _ h := (List.not_mem_nil h).elim

theorem GoesUp.trans {a b c : Option Nat} {sqns sqns' : List Nat} (h : GoesUp a b sqns)
    (h' : GoesUp b c sqns') : GoesUp a c (sqns ++ sqns') where
  up := by
    refine List.pairwise_append.2 ⟨h.up, h'.up, ?_⟩
    intro x hx y hy
    obtain ⟨-, -, m, hm, -, hxm⟩ := h.between x hx
    obtain ⟨m', hm', -, -, hmy, -⟩ := h'.between y hy
    obtain rfl := Option.mem_unique hm hm'
    exact Nat.lt_of_le_of_lt hxm hmy
  le := by
    intro x hx
    obtain ⟨m, hm, hxm⟩ := h.le x hx
    obtain ⟨y, hy, hmy⟩ := h'.le m hm
    exact ⟨y, hy, Nat.le_trans hxm hmy⟩
  ge := by
    intro y hy
    obtain ⟨m, hm, hmy⟩ := h'.ge y hy
    obtain ⟨x, hx, hxm⟩ := h.ge m hm
    exact ⟨x, hx, Nat.le_trans hxm hmy⟩
  between := by
    intro sqn hsqn
    rcases List.mem_append.1 hsqn with hsqn | hsqn
    · obtain ⟨x, hx, m, hm, hlt, hle⟩ := h.between sqn hsqn
      obtain ⟨y, hy, hmy⟩ := h'.le m hm
      exact ⟨x, hx, y, hy, hlt, Nat.le_trans hle hmy⟩
    · obtain ⟨m, hm, y, hy, hlt, hle⟩ := h'.between sqn hsqn
      obtain ⟨x, hx, hxm⟩ := h.ge m hm
      exact ⟨x, hx, y, hy, Nat.lt_of_le_of_lt hxm hlt, hle⟩

/-- The sequence numbers that a call hands out. -/
def Call.issued (lib : AucLib Ω) (t : Tables) (call : Call Ω) : List Nat :=
  match keysOf lib t.toContents call.imsi with
  | none => []
  | some keys => vectorSqns lib keys (call.got lib t).vec 0 (call.got lib t).ret.toNat

theorem goesUp_of_between {a b : Nat} {sqns : List Nat} (hle : a ≤ b) (h : Between a b sqns) :
    GoesUp (some a) (some b) sqns where
  up := h.up
  le := by
    rintro _ ⟨⟩
    exact ⟨b, rfl, hle⟩
  ge := by
    rintro _ ⟨⟩
    exact ⟨a, rfl, hle⟩
  between sqn hsqn := ⟨a, rfl, b, rfl, h.bounds sqn hsqn⟩

/-- What is computed counts if it is a number of vectors. -/
theorem between_of_rc {keys : UmtsKeys} {vec : Nat → AuthVector} {rc : Int} {a b : Nat}
    (h : ∀ n : Nat, rc = n → Between a b (vectorSqns lib keys vec 0 n)) :
    Between a b (vectorSqns lib keys vec 0 (if rc < 0 then (-1 : Int) else rc).toNat) := by
  split
  · exact between_nil a b
  next hpos => exact h rc.toNat (Int.toNat_of_nonneg (Int.not_lt.1 hpos)).symm

/-- What the caller says does not matter to whether there are keys. -/
theorem usable_prepare (h : usable aud3g = some aud3g) (ind : UInt32) (separationBit : Bool) :
    usable (aud3g.prepare ind separationBit) = some (aud3g.prepare ind separationBit) := by
  unfold usable at h ⊢
  split at h
  · cases h
  next hnot => exact if_neg hnot

theorem vectorSqns_zero (lib : AucLib Ω) (keys : UmtsKeys) (vec : Nat → AuthVector) :
    vectorSqns lib keys vec 0 0 = [] := rfl

theorem issued_of_not_pos {call : Call Ω} (h : (call.got lib t).ret ≤ 0) :
    call.issued lib t = [] := by
  unfold Call.issued
  split
  · rfl
  · rw [Int.toNat_of_nonpos h, vectorSqns_zero]

theorem issued_of_keysOf_none {call : Call Ω} (h : keysOf lib t.toContents call.imsi = none) :
    call.issued lib t = [] := by
  rw [Call.issued, h]

/-- What is computed in a call that finds keys. -/
def Call.computed (lib : AucLib Ω) (call : Call Ω) (aud2g aud3g : SubAuthData) : Computed :=
  aucComputeVectors lib call.env.gen call.vec call.vtmp call.numVec aud2g
    (aud3g.prepare call.auc3gInd call.separationBit) none none

/-- What a call that finds keys leaves. -/
theorem got_of_ok {call : Call Ω}
    (h : dbGetAuthData lib call.env.sel t call.imsi = .ok (aud2g, aud3g, id)) :
    call.got lib t =
      let computed := call.computed lib aud2g aud3g
      let ret := if computed.rc < 0 then -1 else computed.rc
      if aud3g.algo = .none then ⟨ret, computed.vec, t, computed.resyncs⟩
      else
        let stored := dbUpdateSqn call.env.upd t id computed.aud3g.sqn
        ⟨if stored.1 < 0 then -1 else ret, computed.vec, stored.2, computed.resyncs⟩ :=
  dbGetAuc_of_ok h

/-- **A call hands out numbers from above the one that was stored, to the one that is.** -/
theorem goesUp_call (lib : AucLib Ω) (t : Tables) (call : Call Ω) :
    GoesUp (storedSqn t.toContents call.imsi)
        (storedSqn (call.got lib t).tables.toContents call.imsi) [] ∧
      ((∀ sqn ∈ storedSqn (call.got lib t).tables.toContents call.imsi, sqn < 2 ^ 48) →
        GoesUp (storedSqn t.toContents call.imsi)
          (storedSqn (call.got lib t).tables.toContents call.imsi) (call.issued lib t)) ∧
      ∀ imsi, imsi ≠ call.imsi →
        storedSqn (call.got lib t).tables.toContents imsi = storedSqn t.toContents imsi := by
  cases hdata : dbGetAuthData lib call.env.sel t call.imsi with
  | error rc =>
      have hgot : call.got lib t = ⟨rc, call.vec, t, []⟩ := by
        rw [Call.got, dbGetAuc, hdata]
      have hret : (call.got lib t).ret ≤ 0 := by
        rw [hgot]
        exact Int.le_of_lt (dbGetAuthData_error hdata)
      rw [issued_of_not_pos hret, hgot]
      exact ⟨.refl _, fun _ => .refl _, fun _ _ => rfl⟩
  | ok data =>
      obtain ⟨aud2g, aud3g, id⟩ := data
      obtain ⟨row, auc2g, auc3g, hfound, rfl, haud⟩ := dbGetAuthData_ok hdata
      have hkeys : keysOf lib t.toContents call.imsi =
          (usable aud3g).map SubAuthData.toUmtsKeys := by
        simp only [keysOf, hfound, haud, Option.bind_some]
      have hgot := got_of_ok hdata
      by_cases halgo : aud3g.algo = .none
      · rw [if_pos halgo] at hgot
        rw [issued_of_keysOf_none (by rw [hkeys, usable, if_pos (Or.inl halgo)]; rfl), hgot]
        exact ⟨.refl _, fun _ => .refl _, fun _ _ => rfl⟩
      · rw [if_neg halgo] at hgot
        obtain ⟨htype, auc3g, rfl, hsqn⟩ := aud3gOf_eq_some haud halgo
        have husable : usable aud3g = some aud3g := by
          rw [usable, if_neg (by rw [htype]; simp [halgo])]
        rw [husable, Option.map_some] at hkeys
        obtain ⟨sqn, hlast, hle, hissued⟩ := sqn_aucComputeVectors lib call.env.gen call.vec
          call.vtmp call.numVec aud2g (usable_prepare husable call.auc3gInd call.separationBit) htype
        rcases dbUpdateSqn_cases call.env.upd t row.id (call.computed lib aud2g aud3g).aud3g.sqn
          with ⟨hrc, htables⟩ | ⟨hrc, htables⟩
        · -- the database fails, so that no vectors are handed out
          simp only [if_pos hrc, htables] at hgot
          have hret : (call.got lib t).ret ≤ 0 := by
            rw [hgot]
            show (-1 : Int) ≤ 0
            decide
          rw [issued_of_not_pos hret, hgot]
          exact ⟨.refl _, fun _ => .refl _, fun _ _ => rfl⟩
        · simp only [hrc, lt_irrefl, if_false] at hgot
          have hstored : storedSqn t.toContents call.imsi = some aud3g.sqn := by
            simp only [storedSqn, hfound, Option.bind_some, Option.map_some, hsqn]
          have hstored' : storedSqn (call.got lib t).tables.toContents call.imsi = some sqn := by
            rw [hgot, htables, Call.computed, hlast]
            exact storedSqn_aucUpdSqn hfound sqn
          rw [hstored, hstored']
          refine ⟨goesUp_of_between hle (between_nil _ _), ?_, ?_⟩
          · intro hfits
            rw [Call.issued, hkeys, hgot]
            refine goesUp_of_between hle (between_of_rc ?_)
            intro n hrc
            exact hissued n hrc (hfits sqn rfl)
          · intro imsi hne
            rw [hgot, htables]
            exact storedSqn_aucUpdSqn_of_ne hfound hne _

/-! ## All calls -/

/-- Calls one after the other; put out are the sequence numbers that are handed out, with the
subscriber that they are for. -/
def getAucRuns (lib : AucLib Ω) : Machine Tables (Call Ω) (CStr × Nat) where
  step t call := ((call.got lib t).tables, (call.issued lib t).map fun sqn => (call.imsi, sqn))

/-- The numbers that are for a subscriber. -/
def sqnsOf (imsi : CStr) (out : List (CStr × Nat)) : List Nat :=
  (out.filter fun issued => issued.1 = imsi).map Prod.snd

theorem sqnsOf_append (imsi : CStr) (out out' : List (CStr × Nat)) :
    sqnsOf imsi (out ++ out') = sqnsOf imsi out ++ sqnsOf imsi out' := by
  simp only [sqnsOf, List.filter_append, List.map_append]

theorem sqnsOf_self (imsi : CStr) (sqns : List Nat) :
    sqnsOf imsi (sqns.map fun sqn => (imsi, sqn)) = sqns := by
  simp [sqnsOf, List.filter_map, Function.comp_def]

theorem sqnsOf_of_ne {imsi imsi' : CStr} (h : imsi ≠ imsi') (sqns : List Nat) :
    sqnsOf imsi (sqns.map fun sqn => (imsi', sqn)) = [] := by
  simp [sqnsOf, List.filter_map, Function.comp_def, Ne.symm h]

/-- The number that is stored does not go back, whatever is handed out. -/
theorem stored_step (lib : AucLib Ω) (t : Tables) (call : Call Ω) (imsi : CStr) :
    GoesUp (storedSqn t.toContents imsi)
      (storedSqn ((getAucRuns lib).step t call).1.toContents imsi) [] := by
  obtain ⟨hstored, -, hframe⟩ := goesUp_call lib t call
  by_cases himsi : imsi = call.imsi
  · subst himsi
    exact hstored
  · simp only [getAucRuns, hframe imsi himsi]
    exact .refl _

theorem goesUp_step {call : Call Ω}
    (hfits : ∀ sqn ∈ storedSqn ((getAucRuns lib).step t call).1.toContents imsi, sqn < 2 ^ 48) :
    GoesUp (storedSqn t.toContents imsi)
      (storedSqn ((getAucRuns lib).step t call).1.toContents imsi)
      (sqnsOf imsi ((getAucRuns lib).step t call).2) := by
  obtain ⟨-, hup, hframe⟩ := goesUp_call lib t call
  by_cases himsi : imsi = call.imsi
  · subst himsi
    simp only [getAucRuns, sqnsOf_self]
    exact hup hfits
  · simp only [getAucRuns, sqnsOf_of_ne himsi, hframe imsi himsi]
    exact .refl _

theorem stored_run (lib : AucLib Ω) (t : Tables) (calls : List (Call Ω)) (imsi : CStr) :
    GoesUp (storedSqn t.toContents imsi)
      (storedSqn ((getAucRuns lib).run t calls).1.toContents imsi) [] := by
  induction calls generalizing t with
  | nil => exact .refl _
  | cons call calls ih => exact (stored_step lib t call imsi).trans (ih _)

/-- **Over all calls, the numbers that are handed out go up**, from above the one that was stored
to the one that is. -/
theorem goesUp_run {calls : List (Call Ω)}
    (hfits : ∀ sqn ∈ storedSqn ((getAucRuns lib).run t calls).1.toContents imsi, sqn < 2 ^ 48) :
    GoesUp (storedSqn t.toContents imsi)
      (storedSqn ((getAucRuns lib).run t calls).1.toContents imsi)
      (sqnsOf imsi ((getAucRuns lib).run t calls).2) := by
  induction calls generalizing t with
  | nil => exact .refl _
  | cons call calls ih =>
      rw [Machine.run_cons, sqnsOf_append]
      refine (goesUp_step ?_).trans (ih hfits)
      -- what is stored in between is not more than what is stored in the end
      intro sqn hsqn
      obtain ⟨last, hlast, hle⟩ :=
        (stored_run lib ((getAucRuns lib).step t call).1 calls imsi).le sqn hsqn
      exact Nat.lt_of_le_of_lt hle (hfits last hlast)

/-! ## What is returned -/

theorem rc_of_ret {rc : Int} {n : Nat} (h : (if rc < 0 then (-1 : Int) else rc) = n) : rc = n := by
  split at h
  · cases h
  · exact h

/-- A number of vectors that is returned says that so many are complete. -/
theorem returned_dbGetAuc {auc3gInd : UInt32} {vec : Nat → AuthVector} {vtmp : AuthVector}
    {numVec : UInt32} {randAuts auts : Option (List UInt8)} {separationBit : Bool} {n : Nat}
    (h : (dbGetAuc lib env t imsi auc3gInd vec vtmp numVec randAuts auts separationBit).ret = n) :
    ∃ aud2g aud3g id, dbGetAuthData lib env.sel t imsi = .ok (aud2g, aud3g, id) ∧
      Returned lib env.gen (givenAuts randAuts auts) (usable aud2g)
        (usable (aud3g.prepare auc3gInd separationBit)) numVec.toNat n vec
        (dbGetAuc lib env t imsi auc3gInd vec vtmp numVec randAuts auts separationBit).vec := by
  cases hdata : dbGetAuthData lib env.sel t imsi with
  | error rc =>
      have hneg := dbGetAuthData_error hdata
      rw [dbGetAuc, hdata] at h
      simp only at h
      omega
  | ok data =>
      obtain ⟨aud2g, aud3g, id⟩ := data
      refine ⟨aud2g, aud3g, id, rfl, ?_⟩
      rw [dbGetAuc_of_ok hdata] at h ⊢
      simp only at h ⊢
      split
      next halgo =>
          rw [if_pos halgo] at h
          exact returned_aucComputeVectors (rc_of_ret h)
      next halgo =>
          rw [if_neg halgo] at h
          simp only at h
          split at h
          · cases h
          · exact returned_aucComputeVectors (rc_of_ret h)

theorem resyncs_dbGetAuc {auc3gInd : UInt32} {vec : Nat → AuthVector} {vtmp : AuthVector}
    {numVec : UInt32} {randAuts auts : Option (List UInt8)} {separationBit : Bool} :
    ∀ i ∈ (dbGetAuc lib env t imsi auc3gInd vec vtmp numVec randAuts auts separationBit).resyncs,
      i = 0 := by
  cases hdata : dbGetAuthData lib env.sel t imsi with
  | error rc =>
      rw [dbGetAuc, hdata]
      intro i hi
      cases hi
  | ok data =>
      obtain ⟨aud2g, aud3g, id⟩ := data
      rw [dbGetAuc_of_ok hdata]
      simp only
      split
      · exact resyncs_aucComputeVectors
      · exact resyncs_aucComputeVectors

/-- **Sequence numbers never go back.**  Over all calls without AUTS, whatever fails in them, the
numbers that are handed out for a subscriber go up, and none is above the one that is stored by
then, as long as that fits into 48 bits.  A call, with or without AUTS, returns how many vectors
are complete, and only the first one is for a resynchronisation. -/
theorem auth_vectors_fresh (lib : AucLib Ω) :
    (∀ (t : Tables) (calls : List (Call Ω)) (imsi : CStr),
      (∀ sqn ∈ storedSqn ((getAucRuns lib).run t calls).1.toContents imsi, sqn < 2 ^ 48) →
      (sqnsOf imsi ((getAucRuns lib).run t calls).2).Pairwise (· < ·) ∧
        ∀ sqn ∈ sqnsOf imsi ((getAucRuns lib).run t calls).2,
          ∃ stored ∈ storedSqn ((getAucRuns lib).run t calls).1.toContents imsi, sqn ≤ stored) ∧
    ∀ (env : GetEnv Ω) (t : Tables) (imsi : CStr) (auc3gInd : UInt32) (vec : Nat → AuthVector)
      (vtmp : AuthVector) (numVec : UInt32) (randAuts auts : Option (List UInt8))
      (separationBit : Bool),
      let got := dbGetAuc lib env t imsi auc3gInd vec vtmp numVec randAuts auts separationBit
      (∀ n : Nat, got.ret = n →
        ∃ aud2g aud3g id, dbGetAuthData lib env.sel t imsi = .ok (aud2g, aud3g, id) ∧
          Returned lib env.gen (givenAuts randAuts auts) (usable aud2g)
            (usable (aud3g.prepare auc3gInd separationBit)) numVec.toNat n vec got.vec) ∧
      ∀ i ∈ got.resyncs, i = 0 := by
  refine ⟨?_, ?_⟩
  · intro t calls imsi hfits
    have hup := goesUp_run hfits
    refine ⟨hup.up, ?_⟩
    intro sqn hsqn
    obtain ⟨-, -, stored, hstored, -, hle⟩ := hup.between sqn hsqn
    exact ⟨stored, hstored, hle⟩
  · intro env t imsi auc3gInd vec vtmp numVec randAuts auts separationBit
    refine ⟨?_, resyncs_dbGetAuc⟩
    intro n hret
    exact returned_dbGetAuc hret

/-- A vector, and then no random numbers for another one. -/
theorem auth_vectors_fresh_two_calls :
    let calls := [Host.askOne (some (CStr.lit "39fa2f4e3d523d8619a73b4f65c3e14d")),
      Host.askOne none]
    let imsi := CStr.lit "262420000000001"
    let done := (getAucRuns Host.milenage.aucLib).run Host.withUsim calls
    storedSqn done.1.toContents imsi = some 32 ∧ sqnsOf imsi done.2 = [32] ∧
      (sqnsOf imsi done.2).Pairwise (· < ·) := by
  have hstored : storedSqn ((getAucRuns Host.milenage.aucLib).run Host.withUsim
      [Host.askOne (some (CStr.lit "39fa2f4e3d523d8619a73b4f65c3e14d")),
        Host.askOne none]).1.toContents (CStr.lit "262420000000001") = some 32 := by
    decide +kernel
  refine ⟨hstored, by decide +kernel, ?_⟩
  refine ((auth_vectors_fresh Host.milenage.aucLib).1 Host.withUsim _ _ ?_).1
  intro sqn hsqn
  rw [hstored] at hsqn
  cases hsqn
  decide

end Auc
end OsmoHlr
