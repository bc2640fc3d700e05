import OsmoHlr.Main.RecordRuns

/-!
# The HLR does not hand out a sequence number twice

Authentication vectors go with the responses to Send Auth Info requests, and so each of them has
been made from what the database held by then.  A USIM accepts a vector only if its sequence
number is above those before; whatever else happens meanwhile, and whatever fails, the numbers
that the HLR hands out for a subscriber go up, unless the subscriber asks for a
resynchronisation.

* `Fresh` — what is handed out while one number is stored after another.
* `FreshFor` — the vectors for a subscriber, between two states of the tables.
* `sqn_fresh_run` — whole runs.
-/

namespace OsmoHlr
namespace Main

open CString CniPeerId Gsup Db Auc

variable {Ω : Type} {lib : MainLib Ω}

/-! ## Numbers -/

/-- What is handed out while `stored` becomes `stored'`: it goes up, above the one and not above the
other.  There may be none at first. -/
structure Fresh (stored stored' : Option Nat) (sqns : List Nat) : Prop where
  le : ∀ a ∈ stored, ∃ b ∈ stored', a ≤ b
  up : sqns.Pairwise (· < ·)
  above : ∀ sqn ∈ sqns, ∀ a ∈ stored, a < sqn
  below : ∀ sqn ∈ sqns, ∃ b ∈ stored', sqn ≤ b

theorem Fresh.of_le {stored stored' : Option Nat} (h : ∀ a ∈ stored, ∃ b ∈ stored', a ≤ b) :
    Fresh stored stored' [] where
  le := h
  up := .nil
  above _ hsqn := by cases hsqn
  below _ hsqn := by cases hsqn

theorem Fresh.refl (stored : Option Nat) : Fresh stored stored [] :=
  .of_le fun a ha => ⟨a, ha, Nat.le_refl a⟩

theorem Fresh.of_goesUp {stored stored' : Option Nat} {sqns : List Nat}
    (h : GoesUp stored stored' sqns) : Fresh stored stored' sqns where
  le := h.le
  up := h.up
  above sqn hsqn a ha := by
    obtain ⟨x, hx, -, -, hlt, -⟩ := h.between sqn hsqn
    obtain rfl := Option.mem_unique ha hx
    exact hlt
  below sqn hsqn := by
    obtain ⟨-, -, b, hb, -, hle⟩ := h.between sqn hsqn
    exact ⟨b, hb, hle⟩

theorem Fresh.trans {a b c : Option Nat} {sqns sqns' : List Nat} (h : Fresh a b sqns)
    (h' : Fresh b c sqns') : Fresh a c (sqns ++ sqns') where
  le x hx := by
    obtain ⟨m, hm, hxm⟩ := h.le x hx
    obtain ⟨y, hy, hmy⟩ := h'.le m hm
    exact ⟨y, hy, Nat.le_trans hxm hmy⟩
  up := by
    refine List.pairwise_append.2 ⟨h.up, h'.up, fun x hx y hy => ?_⟩
    obtain ⟨m, hm, hxm⟩ := h.below x hx
    exact Nat.lt_of_le_of_lt hxm (h'.above y hy m hm)
  above sqn hsqn x hx := by
    rcases List.mem_append.1 hsqn with hsqn | hsqn
    · exact h.above sqn hsqn x hx
    · obtain ⟨m, hm, hxm⟩ := h.le x hx
      exact Nat.lt_of_le_of_lt hxm (h'.above sqn hsqn m hm)
  below sqn hsqn := by
    rcases List.mem_append.1 hsqn with hsqn | hsqn
    · obtain ⟨m, hm, hle⟩ := h.below sqn hsqn
      obtain ⟨y, hy, hmy⟩ := h'.le m hm
      exact ⟨y, hy, Nat.le_trans hle hmy⟩
    · exact h'.below sqn hsqn

/-! ## Keys -/

/-- The 3G keys of a record. -/
def recordKeys (lib : AucLib Ω) (r : Record) : Option UmtsKeys :=
  ((aud3gOf lib r.2.2).bind usable).map SubAuthData.toUmtsKeys

theorem keysOf_eq (lib : AucLib Ω) (c : Contents) (imsi : CStr) :
    keysOf lib c imsi = (aucByImsi c imsi).bind (recordKeys lib) := rfl

/-- The sequence number is none of the keys. -/
theorem recordKeys_stays (lib : AucLib Ω) {r r' : Record} (h : Stays r r') :
    recordKeys lib r' = recordKeys lib r := by
  obtain ⟨sqn, hsqn⟩ := h.auc3g
  unfold recordKeys
  rw [hsqn]
  cases r.2.2 with
  | none => rfl
  | some auc =>
      unfold aud3gOf
      simp only [Option.map_some]
      split
      · rfl
      · split
        · rfl
        · simp only [Option.bind_some, usable]
          split <;> rfl

/-- The numbers in vectors, for who has the keys. -/
def sqnsIn (lib : AucLib Ω) (keys : Option UmtsKeys) (vectors : List AuthVector) : List Nat :=
  match keys with
  | none => []
  | some keys => vectors.map (vectorSqn lib keys)

theorem sqnsIn_append (lib : AucLib Ω) (keys : Option UmtsKeys) (vs vs' : List AuthVector) :
    sqnsIn lib keys (vs ++ vs') = sqnsIn lib keys vs ++ sqnsIn lib keys vs' := by
  cases keys with
  | none => rfl
  | some keys => exact List.map_append

@[simp] theorem sqnsIn_nil (lib : AucLib Ω) (keys : Option UmtsKeys) : sqnsIn lib keys [] = [] := by
  cases keys <;> rfl

/-! ## One request -/

/-- The message does not ask for a resynchronisation. -/
def NoResync (ies : Ies) : Prop := ies.rand = none ∨ ies.auts = none

instance (ies : Ies) : Decidable (NoResync ies) := inferInstanceAs (Decidable (_ ∨ _))

/-- The call without AUTS. -/
def saiCall (env : SaiEnv Ω) (auc3gInd : UInt32) (imsi : CStr) (ies : Ies) : Call Ω where
  env := env.get
  imsi := imsi
  auc3gInd := auc3gInd
  vec _ := zeroVector
  vtmp := env.vtmp
  numVec := UInt32.ofNat (numAuthVectors ies)
  separationBit := ies.isEutranSgs

/-- RAND without AUTS, or AUTS without RAND, is refused. -/
theorem aucComputeVectors_half (lib : AucLib Ω) (env : GenEnv Ω) (vec : Nat → AuthVector)
    (vtmp : AuthVector) (numVec : UInt32) (aud2g aud3g : SubAuthData)
    {randAuts auts : Option (List UInt8)} (h : randAuts.isSome ≠ auts.isSome) :
    aucComputeVectors lib env vec vtmp numVec aud2g aud3g randAuts auts = ⟨-1, vec, aud3g, []⟩ := by
  unfold aucComputeVectors
  simp only
  split_ifs <;> rfl

/-- The number that is stored is the one that there is, or the new one. -/
theorem storedSqn_dbUpdateSqn (f : Faults) {t : Tables} {imsi : CStr} {record : Record}
    (hrecord : aucByImsi t.toContents imsi = some record) {auc3g : Auc3gRow}
    (hauc : record.2.2 = some auc3g) :
    storedSqn (dbUpdateSqn f t record.1.id auc3g.sqn).2.toContents imsi =
      storedSqn t.toContents imsi := by
  have hstored : storedSqn t.toContents imsi = some auc3g.sqn := by
    rw [storedSqn, hrecord, Option.bind_some, hauc, Option.map_some]
  rcases dbUpdateSqn_cases f t record.1.id auc3g.sqn with ⟨-, hsame⟩ | ⟨-, hcontents⟩
  · rw [hsame]
  · obtain ⟨row, auc2g, _⟩ := record
    cases hauc
    rw [hcontents, storedSqn_aucUpdSqn hrecord, hstored]

/-- Of what is refused, nothing is stored and nothing handed out. -/
theorem saiGot_half (lib : MainLib Ω) (env : SaiEnv Ω) (t : Tables) (auc3gInd : UInt32)
    (imsi : CStr) {ies : Ies} (h : ies.rand.isSome ≠ ies.auts.isSome) :
    (saiGot lib env t auc3gInd imsi ies).ret ≤ 0 ∧
      storedSqn (saiGot lib env t auc3gInd imsi ies).tables.toContents imsi =
        storedSqn t.toContents imsi := by
  unfold saiGot
  cases hdata : dbGetAuthData lib.auc env.get.sel t imsi with
  | error rc =>
      have hneg := dbGetAuthData_error hdata
      rw [dbGetAuc, hdata]
      exact ⟨Int.le_of_lt hneg, rfl⟩
  | ok data =>
      obtain ⟨aud2g, aud3g, id⟩ := data
      obtain ⟨row, auc2g, auc3g, hfound, rfl, haud⟩ := dbGetAuthData_ok hdata
      rw [dbGetAuc, hdata]
      simp only [aucComputeVectors_half lib.auc _ _ _ _ _ _ h]
      split
      · exact ⟨show (if (-1 : Int) < 0 then (-1 : Int) else -1) ≤ 0 by decide, rfl⟩
      next halgo =>
          have halgo : aud3g.algo ≠ .none := halgo
          obtain ⟨-, auc, rfl, hsqn⟩ := aud3gOf_eq_some haud halgo
          have hsqn : (aud3g.prepare auc3gInd ies.isEutranSgs).sqn = auc.sqn := hsqn
          simp only [hsqn]
          refine ⟨by split <;> decide, storedSqn_dbUpdateSqn env.get.upd hfound rfl⟩

/-- **The vectors of one call** are above what was stored before, and not above what is stored
then. -/
theorem fresh_saiGot (lib : MainLib Ω) (env : SaiEnv Ω) (t : Tables) (auc3gInd : UInt32)
    (imsi : CStr) {ies : Ies} (h : NoResync ies) :
    let got := saiGot lib env t auc3gInd imsi ies
    Fresh (storedSqn t.toContents imsi) (storedSqn got.tables.toContents imsi) [] ∧
      ((∀ sqn ∈ storedSqn got.tables.toContents imsi, sqn < 2 ^ 48) →
        Fresh (storedSqn t.toContents imsi) (storedSqn got.tables.toContents imsi)
          (sqnsIn lib.auc (keysOf lib.auc t.toContents imsi)
            ((List.range got.ret.toNat).map got.vec))) := by
  intro got
  by_cases hhalf : ies.rand.isSome = ies.auts.isSome
  · obtain ⟨hrand, hauts⟩ : ies.rand = none ∧ ies.auts = none := by
      rcases h with h | h <;> simp_all
    have hgot : got = (saiCall env auc3gInd imsi ies).got lib.auc t := by
      show saiGot lib env t auc3gInd imsi ies = _
      unfold saiGot
      rw [hrand, hauts]
      rfl
    obtain ⟨hle, hup, -⟩ := goesUp_call lib.auc t (saiCall env auc3gInd imsi ies)
    rw [hgot]
    refine ⟨.of_goesUp hle, fun hfits => ?_⟩
    have hissued : (saiCall env auc3gInd imsi ies).issued lib.auc t = sqnsIn lib.auc
        (keysOf lib.auc t.toContents imsi)
        ((List.range ((saiCall env auc3gInd imsi ies).got lib.auc t).ret.toNat).map
          ((saiCall env auc3gInd imsi ies).got lib.auc t).vec) := by
      have himsi : (saiCall env auc3gInd imsi ies).imsi = imsi := rfl
      rw [Call.issued, himsi]
      cases keysOf lib.auc t.toContents imsi with
      | none => rfl
      | some keys => simp [sqnsIn, vectorSqns, List.range_eq_range']
    exact hissued ▸ .of_goesUp (hup hfits)
  · obtain ⟨hret, hstored⟩ := saiGot_half lib env t auc3gInd imsi hhalf
    have hnone : got.ret.toNat = 0 := Int.toNat_of_nonpos hret
    have hsame : storedSqn got.tables.toContents imsi = storedSqn t.toContents imsi := hstored
    rw [hnone, hsame, List.range_zero, List.map_nil, sqnsIn_nil]
    exact ⟨.refl _, fun _ => .refl _⟩

/-! ## Records -/

/-- A change other than a new sequence number leaves the one that is stored. -/
theorem storedSqn_foldl {changes : List Change} (h : ∀ sqn, .sqn sqn ∉ changes)
    (record : Option Record) :
    ∀ a ∈ record.bind fun r => r.2.2.map Auc3gRow.sqn,
      a ∈ (changes.foldl Change.apply record).bind fun r => r.2.2.map Auc3gRow.sqn := by
  induction changes generalizing record with
  | nil => exact fun _ ha => ha
  | cons change changes ih =>
      intro a ha
      refine ih (fun sqn hmem => h sqn (List.mem_cons_of_mem change hmem)) _ a ?_
      cases record with
      | none => cases ha
      | some r =>
          cases change with
          | sqn sqn => exact absurd List.mem_cons_self (h sqn)
          | _ => exact ha

/-- What changes no sequence number hands none out. -/
theorem fresh_of_changed {imsi : CStr} {t t' : Tables} {changes : List Change}
    (h : Changed imsi t.toContents t'.toContents changes) (hsqn : ∀ sqn, .sqn sqn ∉ changes)
    (imsi' : CStr) :
    Fresh (storedSqn t.toContents imsi') (storedSqn t'.toContents imsi') [] := by
  by_cases himsi : imsi' = imsi
  · subst himsi
    refine .of_le fun a ha => ⟨a, ?_, Nat.le_refl a⟩
    rw [storedSqn, h.record]
    exact storedSqn_foldl hsqn _ a ha
  · unfold storedSqn
    rw [h.others imsi' himsi]
    exact .refl _

theorem fresh_createOnDemand (hlr : Config lib.toLibosmocore) (env : OnDemandEnv) (t : Tables)
    (imsi imsi' : CStr) :
    Fresh (storedSqn t.toContents imsi') (storedSqn
      (subscrCreateOnDemand lib.toDbLib hlr.toOnDemand env t imsi).2.toContents imsi') [] := by
  have hchanged := changed_createOnDemand lib.toDbLib hlr.toOnDemand env t imsi
  have hcases := onDemandChanges_cases lib.toDbLib hlr.toOnDemand env t imsi
  refine fresh_of_changed hchanged (fun sqn hmem => ?_) imsi'
  generalize onDemandChanges lib.toDbLib hlr.toOnDemand env t imsi = changes at hcases hmem
  cases hcases <;> simp at hmem

/-- Only sequence numbers change when vectors are made. -/
theorem keysOf_saiGot (env : SaiEnv Ω) (t : Tables) (auc3gInd : UInt32) (imsi : CStr) (ies : Ies) :
    keysOf lib.auc (saiGot lib env t auc3gInd imsi ies).tables.toContents imsi =
      keysOf lib.auc t.toContents imsi := by
  have hchanged := changed_dbGetAuc lib.auc env.get t imsi auc3gInd (fun _ => zeroVector) env.vtmp
    (UInt32.ofNat (numAuthVectors ies)) ies.rand ies.auts ies.isEutranSgs
  rw [keysOf_eq, keysOf_eq, saiGot, hchanged.record]
  unfold aucChanges
  split
  · rfl
  · simp only
    split
    · rfl
    · split
      · cases hrecord : aucByImsi t.toContents imsi with
        | none => rfl
        | some r => exact recordKeys_stays lib.auc (stays_sqn r _)
      · rfl

/-! ## One message -/

theorem vectorsOf_authVectors (imsi imsi' : CStr) (ref : Nat) (vectors : List AuthVector)
    {out : List Out} (hout : NoVectors out) :
    vectorsOf imsi (.authVectors ref imsi' vectors :: out) = if imsi' = imsi then vectors else [] := by
  have hcons : vectorsOf imsi (.authVectors ref imsi' vectors :: out) =
      (if imsi' = imsi then vectors else []) ++ vectorsOf imsi out := List.flatMap_cons
  rw [hcons, hout imsi, List.append_nil]

/-- The vectors of `rx_send_auth_info` are those that `db_get_auc` returns. -/
theorem rxSendAuthInfo_vectors (hlr : Config lib.toLibosmocore) (env : SaiEnv Ω) (t : Tables)
    (auc3gInd : UInt32) (req : GsupReq) (ies : Ies) :
    let got := saiGot lib env
      (subscrCreateOnDemand lib.toDbLib hlr.toOnDemand env.onDemand t req.gsup.imsi).2 auc3gInd
      req.gsup.imsi ies
    (rxSendAuthInfo lib hlr env t auc3gInd req ies).vectors =
      (List.range got.ret.toNat).map got.vec := by
  intro got
  unfold rxSendAuthInfo
  simp only
  split
  next hret =>
      have hnone : got.ret.toNat = 0 := Int.toNat_of_nonpos hret
      rw [hnone, List.range_zero, List.map_nil]
  next => rfl

/-- The vectors for a subscriber, between two states of the tables. -/
structure FreshFor (lib : MainLib Ω) (imsi : CStr) (t t' : Tables) (vectors : List AuthVector) :
    Prop where
  le : Fresh (storedSqn t.toContents imsi) (storedSqn t'.toContents imsi) []
  fresh : (∀ sqn ∈ storedSqn t'.toContents imsi, sqn < 2 ^ 48) →
    Fresh (storedSqn t.toContents imsi) (storedSqn t'.toContents imsi)
      (sqnsIn lib.auc (keysOf lib.auc t'.toContents imsi) vectors)
  /-- Who gets any is in the database. -/
  known : vectors ≠ [] → aucByImsi t'.toContents imsi ≠ none

theorem FreshFor.of_le {imsi : CStr} {t t' : Tables}
    (h : Fresh (storedSqn t.toContents imsi) (storedSqn t'.toContents imsi) []) :
    FreshFor lib imsi t t' [] where
  le := h
  fresh _ := by rwa [sqnsIn_nil]
  known hne := absurd rfl hne

/-- Vectors are returned for who is in the database. -/
theorem known_of_ret {env : SaiEnv Ω} {t : Tables} {auc3gInd : UInt32} {imsi : CStr} {ies : Ies}
    (h : 0 < (saiGot lib env t auc3gInd imsi ies).ret) : aucByImsi t.toContents imsi ≠ none := by
  unfold saiGot dbGetAuc at h
  split at h
  next rc hdata =>
      have hneg := dbGetAuthData_error hdata
      have hpos : 0 < rc := h
      omega
  next hdata =>
      obtain ⟨row, auc2g, auc3g, hfound, -, -⟩ := dbGetAuthData_ok hdata
      simp [hfound]

/-- **What a Send Auth Info request is answered with.** -/
theorem freshFor_sendAuthInfo (hlr : Config lib.toLibosmocore) (env : SaiEnv Ω) (t : Tables)
    (auc3gInd : UInt32) (req : GsupReq) {ies : Ies} (h : NoResync ies) :
    FreshFor lib req.gsup.imsi t (rxSendAuthInfo lib hlr env t auc3gInd req ies).tables
      (rxSendAuthInfo lib hlr env t auc3gInd req ies).vectors := by
  have hcreated := fresh_createOnDemand hlr env.onDemand t req.gsup.imsi req.gsup.imsi
  rw [rxSendAuthInfo_vectors, rxSendAuthInfo_tables]
  generalize (subscrCreateOnDemand lib.toDbLib hlr.toOnDemand env.onDemand t req.gsup.imsi).2 = mid
    at hcreated ⊢
  obtain ⟨hle, hup⟩ := fresh_saiGot lib env mid auc3gInd req.gsup.imsi h
  refine ⟨hcreated.trans hle, fun hfits => ?_, fun hne hnone => ?_⟩
  · rw [keysOf_saiGot]
    exact hcreated.trans (hup hfits)
  · have hpos : 0 < (saiGot lib env mid auc3gInd req.gsup.imsi ies).ret := by
      by_contra hret
      refine hne ?_
      rw [Int.toNat_of_nonpos (Int.not_lt.1 hret), List.range_zero, List.map_nil]
    have hchanged := changed_dbGetAuc lib.auc env.get mid req.gsup.imsi auc3gInd
      (fun _ => zeroVector) env.vtmp (UInt32.ofNat (numAuthVectors ies)) ies.rand ies.auts
      ies.isEutranSgs
    obtain ⟨r, hr⟩ := Option.ne_none_iff_exists'.1 (known_of_ret hpos)
    rw [saiGot, hchanged.record, hr] at hnone
    unfold aucChanges at hnone
    split at hnone
    · cases hnone
    · simp only at hnone
      split at hnone
      · cases hnone
      · split at hnone <;> cases hnone

/-- **What a handler puts out, and what it leaves**, for every subscriber. -/
theorem handle_freshFor {env : RxEnv lib} {s s' : Hlr} {conn : Conn} {ptr : ReqPtr} {ies : Ies}
    {out : List Out} (h : handle lib env s conn ptr ies = .ok (s', out)) (imsi : CStr)
    (hauts : ptr.req.gsup.imsi = imsi → NoResync ies) :
    FreshFor lib imsi s.tables s'.tables (vectorsOf imsi out) := by
  obtain ⟨changes, hchanged, hpermitted⟩ := handle_changedBy h
  have hothers : ptr.req.gsup.messageType ≠ lib.msgt .sendAuthInfo .request → NoVectors out →
      FreshFor lib imsi s.tables s'.tables (vectorsOf imsi out) := by
    intro htype hout
    rw [hout imsi]
    refine .of_le (fresh_of_changed hchanged (fun sqn hmem => ?_) imsi)
    cases hpermitted _ hmem with
    | sqn sqn hsai => exact htype hsai
  by_cases htype : ptr.req.gsup.messageType = lib.msgt .sendAuthInfo .request
  · have hhandler : handlerOf lib ptr.req.gsup.messageType = .rxSendAuthInfo := if_pos htype
    unfold handle at h
    rw [hhandler] at h
    cases h
    by_cases himsi : ptr.req.gsup.imsi = imsi
    · subst himsi
      rw [vectorsOf_authVectors _ _ _ _ (noVectors_reqOut _ _), if_pos rfl]
      exact freshFor_sendAuthInfo env.config env.sai s.tables _ ptr.req (hauts rfl)
    · rw [vectorsOf_authVectors _ _ _ _ (noVectors_reqOut _ _), if_neg himsi]
      refine .of_le ?_
      unfold storedSqn
      rw [hchanged.others imsi (Ne.symm himsi)]
      exact .refl _
  · refine hothers htype ?_
    unfold handle at h
    split at h
    next hhandler => exact absurd ((handlerOf_spec lib _).1 hhandler) htype
    next => cases h; exact noVectors_lu _
    next => cases h; exact noVectors_reqOut _ _
    next =>
        split at h
        · cases h
        · cases h
          exact noVectors_ss _
    next => cases h; exact noVectors_ss _
    next => cases h; exact noVectors_lu _
    next => cases h; exact noVectors_reqOut _ _
    next => cases h; exact noVectors_reqOut _ _

/-! ## Runs -/

variable {myName : CStr} {s s' : Hlr} {out : List Out} {imsi : CStr}

/-- No message about an IMSI asks for a resynchronisation. -/
def NeverResyncs (lib : MainLib Ω) (imsi : CStr) (input : Input lib) : Prop :=
  ∀ ref l2 env gsup, input = .rx ref l2 env → lib.gsupDecode l2 = some gsup → gsup.imsi = imsi →
    NoResync (lib.ies l2)

theorem apply_freshFor {input : Input lib} (h : apply lib myName s input = .ok (s', out))
    (hauts : NeverResyncs lib imsi input) :
    FreshFor lib imsi s.tables s'.tables (vectorsOf imsi out) := by
  rcases apply_cases h with ⟨htables, hvectors⟩ | ⟨ref, l2, env, conn, req, hinput, -, hreq, mid,
    pre, post, hmid, hpre, rfl, hhandle⟩
  · rw [htables, hvectors imsi]
    exact .of_le (.refl _)
  · have hdecode : lib.gsupDecode l2 = some req.gsup := by
      rcases osmoGsupConnRx_cases lib.toGsupLib s.peers.gs conn l2 with
        ⟨-, hnone⟩ | ⟨gsup, source, hgsup, -, ⟨-, -, hsome⟩ | ⟨-, -, -, hgranted⟩⟩
      · rw [hnone] at hreq
        cases hreq
      · obtain rfl := Option.some.inj (hsome.symm.trans hreq)
        exact hgsup
      · rw [hgranted] at hreq
        split at hreq
        · obtain rfl := Option.some.inj hreq
          exact hgsup
        · cases hreq
    have hfresh := handle_freshFor hhandle imsi fun himsi =>
      hauts ref l2 env req.gsup hinput hdecode himsi
    rw [hmid] at hfresh
    rw [vectorsOf_append, hpre imsi, List.nil_append]
    exact hfresh

/-- **One after the other**, if a record that is there stays. -/
theorem FreshFor.trans {t t' t'' : Tables} {vectors vectors' : List AuthVector}
    (h : FreshFor lib imsi t t' vectors) (h' : FreshFor lib imsi t' t'' vectors')
    (hstays : ∀ r, aucByImsi t'.toContents imsi = some r →
      ∃ r', aucByImsi t''.toContents imsi = some r' ∧ Stays r r') :
    FreshFor lib imsi t t'' (vectors ++ vectors') where
  le := h.le.trans h'.le
  fresh hfits := by
    -- what is stored in between fits, too, and the keys are the same if there have been vectors
    have hmid : ∀ sqn ∈ storedSqn t'.toContents imsi, sqn < 2 ^ 48 := by
      intro sqn hsqn
      obtain ⟨last, hlast, hle⟩ := h'.le.le sqn hsqn
      exact Nat.lt_of_le_of_lt hle (hfits last hlast)
    have hkeys : sqnsIn lib.auc (keysOf lib.auc t''.toContents imsi) vectors =
        sqnsIn lib.auc (keysOf lib.auc t'.toContents imsi) vectors := by
      by_cases hnil : vectors = []
      · rw [hnil, sqnsIn_nil, sqnsIn_nil]
      · obtain ⟨r, hr⟩ := Option.ne_none_iff_exists'.1 (h.known hnil)
        obtain ⟨r', hr', hsame⟩ := hstays r hr
        rw [keysOf_eq, keysOf_eq, hr, hr', Option.bind_some, Option.bind_some,
          recordKeys_stays lib.auc hsame]
    rw [sqnsIn_append, hkeys]
    exact (h.fresh hmid).trans (h'.fresh hfits)
  known hne hnone := by
    by_cases hnil : vectors' = []
    · subst hnil
      rw [List.append_nil] at hne
      obtain ⟨r, hr⟩ := Option.ne_none_iff_exists'.1 (h.known hne)
      obtain ⟨r', hr', -⟩ := hstays r hr
      rw [hr'] at hnone
      cases hnone
    · exact h'.known hnil hnone

/-- **No sequence number is handed out twice.**  In any run of the HLR in which no message about an
IMSI asks for a resynchronisation: the numbers in the vectors for it, of all responses together,
go up, from above the one that was stored at first and not above the one that is stored in the
end, as long as that fits into 48 bits. -/
theorem sqn_fresh_run (lib : MainLib Ω) (myName : CStr) (s : Hlr) (inputs : List (Input lib))
    (h : ((machine lib myName).run (.ok s) inputs).1 = .ok s')
    (hauts : ∀ input ∈ inputs, NeverResyncs lib imsi input)
    (hfits : ∀ sqn ∈ storedSqn s'.tables.toContents imsi, sqn < 2 ^ 48) :
    Fresh (storedSqn s.tables.toContents imsi) (storedSqn s'.tables.toContents imsi)
      (sqnsIn lib.auc (keysOf lib.auc s'.tables.toContents imsi)
        (vectorsOf imsi ((machine lib myName).run (.ok s) inputs).2)) := by
  have hrun : FreshFor lib imsi s.tables s'.tables
      (vectorsOf imsi ((machine lib myName).run (.ok s) inputs).2) := by
    clear hfits
    induction inputs using List.reverseRecOn generalizing s' with
    | nil =>
        cases h
        exact .of_le (.refl _)
    | append_singleton inputs input ih =>
        rw [Machine.run_concat] at h ⊢
        obtain ⟨mid, out, hmid, happly, hout⟩ := step_eq_ok h
        have hbefore := ih hmid fun x hx => hauts x (List.mem_append_left _ hx)
        have hstep := apply_freshFor happly (hauts input (by simp))
        have hout : ((machine lib myName).step ((machine lib myName).run (.ok s) inputs).1 input).2 =
          out := hout
        rw [vectorsOf_append, hout]
        exact hbefore.trans hstep fun r hr => apply_stays happly hr
  exact hrun.fresh hfits

/-- Three vectors for the subscriber, of two responses. -/
theorem sqn_fresh_run_askTwice :
    let done := (machine Host.mainLib Host.hlrName).run (.ok (Hlr.start Host.withUsim)) Host.askTwice
    ∃ s', done.1 = .ok s' ∧
      sqnsIn Host.mainLib.auc (keysOf Host.mainLib.auc s'.tables.toContents Host.usimImsi)
        (vectorsOf Host.usimImsi done.2) = [32, 33, 34] ∧
      Fresh (some 31) (storedSqn s'.tables.toContents Host.usimImsi)
        (sqnsIn Host.mainLib.auc (keysOf Host.mainLib.auc s'.tables.toContents Host.usimImsi)
          (vectorsOf Host.usimImsi done.2)) := by
  intro done
  obtain ⟨s', hs'⟩ := exists_run (Hlr.start Host.withUsim) Host.askTwice (by decide +kernel)
  have hsqns : (done.1.toOption.map fun s =>
      (storedSqn s.tables.toContents Host.usimImsi,
        sqnsIn Host.mainLib.auc (keysOf Host.mainLib.auc s.tables.toContents Host.usimImsi)
          (vectorsOf Host.usimImsi done.2))) = some (some 34, [32, 33, 34]) := by decide +kernel
  have hdone : done.1 = .ok s' := hs'
  rw [hdone, Except.toOption, Option.map_some, Option.some.injEq, Prod.mk.injEq] at hsqns
  have hstart : storedSqn (Hlr.start Host.withUsim).tables.toContents Host.usimImsi = some 31 := by
    decide +kernel
  refine ⟨s', hs', hsqns.2, ?_⟩
  rw [← hstart]
  refine sqn_fresh_run Host.mainLib Host.hlrName _ Host.askTwice hs' ?_ ?_
  · intro input hmem ref l2 env gsup hinput _ _
    simp only [Host.askTwice, List.mem_cons, List.not_mem_nil, or_false] at hmem
    rcases hmem with rfl | rfl | rfl | rfl
    · cases hinput
    · cases hinput
    · cases hinput
      decide +kernel
    · cases hinput
      decide +kernel
  · rw [hsqns.1]
    rintro _ ⟨⟩
    decide

end Main
end OsmoHlr
