import OsmoHlr.Main.RequestLedger
import OsmoHlr.Main.SqnFresh

/-!
# What a request is answered

Send Auth Info, Purge MS and Check IMEI requests are answered while `read_cb` has them.  Whatever
comes before and after, there is one response for each, and what it says about the subscriber is so.

* `Granted`, `Refused` — what a result and an error of a procedure say.
* `answered_handle` — what the handlers put out.
* `answered_once` — in any run, for each request that is left here.
-/

namespace OsmoHlr
namespace Main

open CString CniPeerId Gsup Db Auc Ownership

variable {Ω : Type} (lib : MainLib Ω)

/-! ## What responses say -/

/-- A result says that there are vectors, that the subscriber is purged, or that its IMEI is stored
or need not be.  The records are those before and after. -/
def Granted (hlr : Config lib.toLibosmocore) (ies : Ies) (p : Procedure) (req : GsupReq)
    (record record' : Option Record) (vectors : List AuthVector) : Prop :=
  match p with
  | .sendAuthInfo => vectors ≠ [] ∧ vectors.length ≤ numAuthVectors ies ∧
      ∃ r, record' = some r ∧ r.2 ≠ (none, none)
  | .purgeMs => ∃ r, record = some r ∧
      record' = some ((Change.purged (reqIsPs req)).onRow r.1, r.2)
  | .checkImei => ∃ imei, imeiOf lib ies = some imei ∧
      ∃ r, record' = some r ∧ (hlr.storeImei = true → r.1.imei = some imei)
  | _ => False

/-- An error says that there are no vectors, or that the subscriber is as it was. -/
def Refused (p : Procedure) (record record' : Option Record) (vectors : List AuthVector) : Prop :=
  match p with
  | .sendAuthInfo => vectors = []
  | .purgeMs => record' = record
  | .checkImei => record ≠ none → record' = record
  | _ => False

/-- A request is answered once, and then freed; what the response says is so. -/
structure Answered (hlr : Config lib.toLibosmocore) (ies : Ies) (p : Procedure) (req : GsupReq)
    (t t' : Tables) (vectors : List AuthVector) (calls : List ReqCall) : Prop where
  answered : ∃ response, calls = [.sendResponseCb req response, .free req] ∧
    response.imsi = req.gsup.imsi ∧
      (response.messageType = lib.msgt p .result ∧
          Granted lib hlr ies p req (aucByImsi t.toContents req.gsup.imsi)
            (aucByImsi t'.toContents req.gsup.imsi) vectors ∨
        response.messageType = lib.msgt p .error ∧
          Refused p (aucByImsi t.toContents req.gsup.imsi)
            (aucByImsi t'.toContents req.gsup.imsi) vectors)

variable {lib} {myName : CStr} {hlr : Config lib.toLibosmocore} {ies : Ies} {p : Procedure}
  {req : GsupReq} {t t' : Tables} {vectors : List AuthVector}

/-- A response that only has a type and a cause is sent to whom the request is about. -/
theorem respond_bare (hcb : req.sendResponseCb = true) (messageType cause : UInt8) (error : Bool) :
    ∃ response, (osmoGsupReqRespond lib.toGsupLib req
          { GsupMessage.zero with messageType := messageType, cause := cause } error true).2 =
        [.sendResponseCb req response, .free req] ∧
      response.imsi = req.gsup.imsi ∧
      response.messageType =
        if messageType = 0 then
          if error then lib.toMsgtError req.gsup.messageType
          else lib.toMsgtResult req.gsup.messageType
        else messageType := by
  have hrc := osmoGsupMakeResponse_fst lib.toGsupProtocol
    { GsupMessage.zero with messageType := messageType, cause := cause } req.gsup error true
    (Or.inl rfl) rfl rfl rfl
  refine ⟨_, congrArg Prod.snd (osmoGsupReqRespond_spec hcb hrc), ?_, rfl⟩
  simp [fillResponse, GsupMessage.zero, CStr.empty]

/-- A request is granted. -/
theorem answered_result (hcb : req.sendResponseCb = true) (error : Bool)
    (h : Granted lib hlr ies p req (aucByImsi t.toContents req.gsup.imsi)
      (aucByImsi t'.toContents req.gsup.imsi) vectors) :
    Answered lib hlr ies p req t t' vectors
      (osmoGsupReqRespond lib.toGsupLib req
        { GsupMessage.zero with messageType := lib.msgt p .result } error true).2 := by
  obtain ⟨response, hcalls, himsi, htype⟩ := respond_bare hcb (lib.msgt p .result) 0 error
  rw [if_neg (lib.msgt_ne p .result).1] at htype
  exact ⟨response, hcalls, himsi, Or.inl ⟨htype, h⟩⟩

/-- A request is refused. -/
theorem answered_error (hcb : req.sendResponseCb = true)
    (hreq : req.gsup.messageType = lib.msgt p .request) (cause : UInt8)
    (h : Refused p (aucByImsi t.toContents req.gsup.imsi)
      (aucByImsi t'.toContents req.gsup.imsi) vectors) :
    Answered lib hlr ies p req t t' vectors
      (osmoGsupReqRespondErr lib.toGsupLib req cause) := by
  obtain ⟨response, hcalls, himsi, htype⟩ := respond_bare hcb 0 cause true
  have hisreq : lib.isMsgtRequest req.gsup.messageType = true := by
    rw [hreq, (lib.is_msgt p .request).1]
    rfl
  have hrespond : osmoGsupReqRespondErr lib.toGsupLib req cause =
      [.sendResponseCb req response, .free req] := by
    rw [osmoGsupReqRespondErr, hisreq]
    exact hcalls
  refine ⟨response, hrespond, himsi, Or.inr ⟨?_, h⟩⟩
  rw [htype, hreq]
  simpa using (lib.to_msgt p .request).1

/-! ## Send Auth Info -/

/-- There are at most as many vectors as are asked for. -/
theorem ret_saiGot_le (env : SaiEnv Ω) (t : Tables) (auc3gInd : UInt32) (imsi : CStr) (ies : Ies) :
    (saiGot lib env t auc3gInd imsi ies).ret.toNat ≤ numAuthVectors ies := by
  have hnum : (UInt32.ofNat (numAuthVectors ies)).toNat = numAuthVectors ies := by
    refine UInt32.toNat_ofNat_of_lt' ?_
    unfold numAuthVectors
    split
    next hle => exact Nat.lt_of_le_of_lt hle.2 (by decide)
    next => decide
  unfold saiGot dbGetAuc
  cases hdata : dbGetAuthData lib.auc env.get.sel t imsi with
  | error rc =>
      have hneg := dbGetAuthData_error hdata
      show rc.toNat ≤ _
      omega
  | ok data =>
      simp only
      generalize hcomputed : aucComputeVectors lib.auc env.get.gen _ _ _ _ _ _ _ = computed
      have hle : computed.rc.toNat ≤ numAuthVectors ies := by
        cases hrc : computed.rc with
        | ofNat n =>
            rw [← hcomputed] at hrc
            exact hnum ▸ (returned_aucComputeVectors hrc).le
        | negSucc n => exact Nat.zero_le _
      split_ifs
      · exact Nat.zero_le _
      · exact hle
      · exact Nat.zero_le _
      · exact Nat.zero_le _
      · exact hle

/-- Who has vectors has keys. -/
theorem keys_of_ret {env : SaiEnv Ω} {auc3gInd : UInt32} {imsi : CStr}
    (h : 0 < (saiGot lib env t auc3gInd imsi ies).ret) :
    ∃ r, aucByImsi t.toContents imsi = some r ∧ r.2 ≠ (none, none) := by
  cases hrecord : aucByImsi t.toContents imsi with
  | none => exact absurd hrecord (known_of_ret h)
  | some r =>
      refine ⟨r, rfl, fun hnone => ?_⟩
      have hnokey : ∃ rc, dbGetAuthData lib.auc env.get.sel t imsi = .error rc := by
        obtain ⟨row, auc2g, auc3g⟩ := r
        obtain ⟨rfl, rfl⟩ := Prod.mk.inj hnone
        unfold dbGetAuthData
        rw [hrecord]
        split_ifs <;> exact ⟨_, rfl⟩
      obtain ⟨rc, hrc⟩ := hnokey
      have hneg := dbGetAuthData_error hrc
      have hret : (saiGot lib env t auc3gInd imsi ies).ret = rc := by
        simp only [saiGot, dbGetAuc, hrc]
      omega

/-- A sequence number is none of the keys. -/
theorem keys_sqn {changes : List Change} (h : ∀ change ∈ changes, ∃ sqn, change = .sqn sqn)
    {r : Record} (hkeys : r.2 ≠ (none, none)) :
    ∃ r', changes.foldl Change.apply (some r) = some r' ∧ r'.2 ≠ (none, none) := by
  induction changes generalizing r with
  | nil => exact ⟨r, rfl, hkeys⟩
  | cons change changes ih =>
      obtain ⟨sqn, rfl⟩ := h change List.mem_cons_self
      refine ih (fun x hx => h x (List.mem_cons_of_mem _ hx)) (r := _) fun hnone => hkeys ?_
      obtain ⟨row, auc2g, auc3g⟩ := r
      obtain ⟨rfl, hauc3g⟩ := Prod.mk.inj hnone
      exact Prod.ext rfl (Option.map_eq_none_iff.1 hauc3g)

/-- Only a sequence number is stored. -/
theorem sqn_of_aucChanges {env : GetEnv Ω} {imsi : CStr} {auc3gInd : UInt32}
    {vec : Nat → AuthVector} {vtmp : AuthVector} {numVec : UInt32}
    {randAuts auts : Option (List UInt8)} {separationBit : Bool} :
    ∀ change ∈ aucChanges lib.auc env t imsi auc3gInd vec vtmp numVec randAuts auts separationBit,
      ∃ sqn, change = .sqn sqn := by
  intro change hchange
  unfold aucChanges at hchange
  split at hchange
  · cases hchange
  · simp only at hchange
    split at hchange
    · cases hchange
    · split at hchange
      · exact ⟨_, List.mem_singleton.1 hchange⟩
      · cases hchange

/-- **A Send Auth Info request is answered**: with vectors, or with an error. -/
theorem answered_rxSendAuthInfo (hcb : req.sendResponseCb = true)
    (hreq : req.gsup.messageType = lib.msgt .sendAuthInfo .request) (env : SaiEnv Ω) (t : Tables)
    (auc3gInd : UInt32) :
    Answered lib hlr ies .sendAuthInfo req t
      (rxSendAuthInfo lib hlr env t auc3gInd req ies).tables
      (rxSendAuthInfo lib hlr env t auc3gInd req ies).vectors
      (rxSendAuthInfo lib hlr env t auc3gInd req ies).calls := by
  unfold rxSendAuthInfo
  simp only
  generalize (subscrCreateOnDemand lib.toDbLib hlr.toOnDemand env.onDemand t req.gsup.imsi).2 = mid
  split
  · exact answered_error hcb hreq _ rfl
  next hret =>
      have hpos : 0 < (saiGot lib env mid auc3gInd req.gsup.imsi ies).ret := Int.not_le.1 hret
      refine answered_result hcb false ⟨?_, ?_, ?_⟩
      · simp only [ne_eq, List.map_eq_nil_iff, List.range_eq_nil]
        omega
      · rw [List.length_map, List.length_range]
        exact ret_saiGot_le env mid auc3gInd req.gsup.imsi ies
      · obtain ⟨r, hr, hkeys⟩ := keys_of_ret hpos
        have hchanged := changed_dbGetAuc lib.auc env.get mid req.gsup.imsi auc3gInd
          (fun _ => zeroVector) env.vtmp (UInt32.ofNat (numAuthVectors ies)) ies.rand ies.auts
          ies.isEutranSgs
        obtain ⟨r', hr', hkeys'⟩ := keys_sqn sqn_of_aucChanges hkeys
        exact ⟨r', hchanged.record.trans (hr ▸ hr'), hkeys'⟩

/-! ## Purge MS -/

/-- Who has been updated is in the database. -/
theorem known_of_updateByImsi {f : Faults} {n : Nat} {imsi : CStr} {stmt : Stmt}
    {set : SubscriberRow → SubscriberRow}
    (hstmt : stmt = updateSubscriber (fun row => row.imsi = imsi) set)
    (hrc : (updateOne f n t stmt).1 = 0) : ∃ r, aucByImsi t.toContents imsi = some r := by
  subst hstmt
  rcases updateOne_cases (singleRow_updateByImsi t imsi set) f n with
    ⟨heio, -⟩ | ⟨hnoent, -⟩ | ⟨-, -, -, -, hone⟩
  · exact absurd (heio.symm.trans hrc) (by decide)
  · exact absurd (hnoent.symm.trans hrc) (by decide)
  · have hone : t.subscriber.countP (fun row => row.imsi = imsi) = 1 := hone
    obtain ⟨row, hrow, himsi⟩ := List.countP_pos_iff.1 (hone ▸ Nat.one_pos)
    have hfound : (t.subscriber.find? fun row => row.imsi = imsi).isSome = true :=
      List.find?_isSome.2 ⟨row, hrow, himsi⟩
    obtain ⟨found, hfound⟩ := Option.isSome_iff_exists.1 hfound
    exact ⟨_, congrArg (Option.map _) hfound⟩

/-- **A Purge MS request is answered**: the subscriber is purged, or is as it was. -/
theorem answered_rxPurgeMsReq (hcb : req.sendResponseCb = true)
    (hreq : req.gsup.messageType = lib.msgt .purgeMs .request) (f : Faults) (t : Tables) :
    Answered lib hlr ies .purgeMs req t (rxPurgeMsReq lib f t req).1 []
      (rxPurgeMsReq lib f t req).2 := by
  have hchanged := changed_rxPurgeMsReq lib f t req
  have hknown : (dbSubscrPurge f t req.gsup.imsi true (reqIsPs req)).1 = 0 →
      ∃ r, aucByImsi t.toContents req.gsup.imsi = some r := by
    have hstmt : (if reqIsPs req then updPurgePsByImsi true req.gsup.imsi
        else updPurgeCsByImsi true req.gsup.imsi) =
          updateSubscriber (fun row => row.imsi = req.gsup.imsi)
            (Change.purged (reqIsPs req)).onRow := by
      cases reqIsPs req <;> rfl
    exact known_of_updateByImsi hstmt
  unfold purgeChanges at hchanged
  unfold rxPurgeMsReq at hchanged ⊢
  simp only at hchanged ⊢
  by_cases hrc : (dbSubscrPurge f t req.gsup.imsi true (reqIsPs req)).1 = 0
  · rw [if_pos hrc] at hchanged ⊢
    obtain ⟨r, hr⟩ := hknown hrc
    refine answered_result hcb _ ⟨r, hr, ?_⟩
    rw [hchanged.record, hr]
    rfl
  · rw [if_neg hrc] at hchanged ⊢
    split
    · exact answered_error hcb hreq _ hchanged.record
    · exact answered_error hcb hreq _ hchanged.record

/-! ## Check IMEI -/

/-- An IMEI is only stored for who is in the database. -/
theorem updateImei_of_nonneg {f : Faults} {imsi imei : CStr}
    (h : 0 ≤ (dbSubscrUpdateImeiByImsi lib.toDbLib f t imsi (some imei)).1) :
    (dbSubscrUpdateImeiByImsi lib.toDbLib f t imsi (some imei)).1 = 0 ∧
      ∃ r, aucByImsi t.toContents imsi = some r := by
  unfold dbSubscrUpdateImeiByImsi at h ⊢
  simp only at h ⊢
  split at h
  next =>
      have hneg : ¬(0 : Int) ≤ einval := by decide
      exact absurd h hneg
  next hvalid =>
      rw [if_neg hvalid]
      have hrc : (updateOne f 2 t (updImeiByImsi (some imei) imsi)).1 = 0 := by
        rcases updateOne_cases (singleRow_updateByImsi t imsi _) f 2 with
          ⟨heio, -⟩ | ⟨hnoent, -⟩ | ⟨hzero, -⟩
        · exact absurd (heio ▸ h) (by decide)
        · exact absurd (hnoent ▸ h) (by decide)
        · exact hzero
      exact ⟨hrc, known_of_updateByImsi rfl hrc⟩

/-- The IMEI is stored if it is to be, and the subscriber is there. -/
theorem storeImei_true {env : CheckImeiEnv} {imsi imei : CStr}
    (h : (storeImei lib hlr env t imsi imei).1 = true) :
    ∃ r, aucByImsi (storeImei lib hlr env t imsi imei).2.toContents imsi = some r ∧
      (hlr.storeImei = true → r.1.imei = some imei) := by
  have hchanged := changed_storeImei lib hlr env t imsi imei
  unfold imeiChanges at hchanged
  cases hstore : hlr.storeImei with
  | false =>
      simp only [storeImei, hstore, Bool.false_eq_true, if_false] at h ⊢
      cases hget : dbSubscrGetByImsi lib.toSelLib env.get t imsi with
      | error rc =>
          have hneg := dbSubscrGetByImsi_error hget
          rw [hget] at h
          have hrc : 0 ≤ rc := of_decide_eq_true h
          omega
      | ok subscr =>
          obtain ⟨row, hrow, -⟩ := dbSubscrGetByImsi_ok hget
          exact ⟨_, congrArg (Option.map _) hrow, fun hfalse => by cases hfalse⟩
  | true =>
      simp only [storeImei, hstore, if_true, true_and] at h hchanged ⊢
      obtain ⟨hrc, r, hr⟩ := updateImei_of_nonneg (of_decide_eq_true h)
      rw [if_pos hrc] at hchanged
      refine ⟨({ r.1 with imei := some imei }, r.2), ?_, fun _ => rfl⟩
      rw [hchanged.record, hr]
      rfl

/-- Otherwise the subscriber is as it was. -/
theorem storeImei_false {env : CheckImeiEnv} {imsi imei : CStr}
    (h : (storeImei lib hlr env t imsi imei).1 = false) :
    aucByImsi (storeImei lib hlr env t imsi imei).2.toContents imsi =
      aucByImsi t.toContents imsi := by
  have hchanged := changed_storeImei lib hlr env t imsi imei
  have hnothing : imeiChanges lib hlr env t imsi imei = [] := by
    refine if_neg ?_
    rintro ⟨hstore, hrc⟩
    simp only [storeImei, hstore, if_true, hrc] at h
    cases h
  rw [hchanged.record, hnothing, List.foldl_nil]

/-- Who is in the database is not created. -/
theorem record_createOnDemand (hlr : Config lib.toLibosmocore) (env : OnDemandEnv) (t : Tables)
    (imsi : CStr) (h : aucByImsi t.toContents imsi ≠ none) :
    aucByImsi (subscrCreateOnDemand lib.toDbLib hlr.toOnDemand env t imsi).2.toContents imsi =
      aucByImsi t.toContents imsi := by
  have hchanged := changed_createOnDemand lib.toDbLib hlr.toOnDemand env t imsi
  have hcases := onDemandChanges_cases lib.toDbLib hlr.toOnDemand env t imsi
  generalize onDemandChanges lib.toDbLib hlr.toOnDemand env t imsi = changes at hchanged hcases
  cases hcases with
  | nothing => exact hchanged.record
  | created found hon hvalid hnew => exact absurd hnew h
  | assigned found msisdn hon hvalid hnew => exact absurd hnew h

/-- **A Check IMEI request is answered**: the subscriber is there, with the IMEI if that is stored. -/
theorem answered_rxCheckImeiReq (hcb : req.sendResponseCb = true)
    (hreq : req.gsup.messageType = lib.msgt .checkImei .request) (env : CheckImeiEnv)
    (t : Tables) :
    Answered lib hlr ies .checkImei req t (rxCheckImeiReq lib hlr env t req ies).1 []
      (rxCheckImeiReq lib hlr env t req ies).2 := by
  unfold rxCheckImeiReq
  cases himei : imeiOf lib ies with
  | none => exact answered_error hcb hreq _ fun _ => rfl
  | some imei =>
      have hrecord := record_createOnDemand hlr env.onDemand t req.gsup.imsi
      simp only
      generalize (subscrCreateOnDemand lib.toDbLib hlr.toOnDemand env.onDemand t
        req.gsup.imsi).2 = mid at hrecord ⊢
      cases hstored : (storeImei lib hlr env mid req.gsup.imsi imei).1 with
      | true =>
          obtain ⟨r, hr, himeis⟩ := storeImei_true hstored
          exact answered_result hcb false ⟨imei, himei, r, hr, himeis⟩
      | false =>
          exact answered_error hcb hreq _ fun hthere =>
            (storeImei_false hstored).trans (hrecord hthere)

/-! ## The handler -/

/-- A request that is answered while `read_cb` has it. -/
def AnswersAtOnce (p : Procedure) : Prop := p = .sendAuthInfo ∨ p = .purgeMs ∨ p = .checkImei

/-- **The handler of a request that is answered at once** puts out the answer, and the vectors that
go with it. -/
theorem answered_handle (s : Hlr) (conn : Conn) (ptr : ReqPtr) (hp : AnswersAtOnce p)
    (hcb : ptr.req.sendResponseCb = true)
    (hreq : ptr.req.gsup.messageType = lib.msgt p .request) (env : RxEnv lib) (ies : Ies) :
    ∃ next out calls, handle lib env s conn ptr ies = .ok (next, out) ∧
      reqEvents out = ptr.events calls ∧
      Answered lib env.config ies p ptr.req s.tables next.tables
        (vectorsOf ptr.req.gsup.imsi out) calls := by
  have hvectors : ∀ calls, vectorsOf ptr.req.gsup.imsi (reqOut ptr calls) = [] := fun calls =>
    noVectors_reqOut ptr calls _
  unfold handle
  rcases hp with rfl | rfl | rfl
  · have hhandler : handlerOf lib ptr.req.gsup.messageType = .rxSendAuthInfo := by
      simp [handlerOf, hreq]
    simp only [hhandler]
    refine ⟨_, _, _, rfl, reqEvents_reqOut ptr _, ?_⟩
    rw [vectorsOf_authVectors _ _ _ _ (noVectors_reqOut ptr _), if_pos rfl]
    exact answered_rxSendAuthInfo hcb hreq env.sai s.tables _
  · have hhandler : handlerOf lib ptr.req.gsup.messageType = .rxPurgeMsReq := by
      simp [handlerOf, hreq, lib.msgt_eq_iff]
    simp only [hhandler]
    refine ⟨_, _, _, rfl, reqEvents_reqOut ptr _, ?_⟩
    rw [hvectors]
    exact answered_rxPurgeMsReq hcb hreq env.purge s.tables
  · have hhandler : handlerOf lib ptr.req.gsup.messageType = .rxCheckImeiReq := by
      simp [handlerOf, hreq, lib.msgt_eq_iff]
    simp only [hhandler]
    refine ⟨_, _, _, rfl, reqEvents_reqOut ptr _, ?_⟩
    rw [hvectors]
    exact answered_rxCheckImeiReq hcb hreq env.checkImei s.tables

/-! ## Runs -/

/-- **One step**: a request that is left here is answered. -/
theorem answered_apply {s : Hlr} (htidy : Tidy lib s) {ref : Nat} {l2 : List UInt8} {conn : Conn}
    (hcomes : Comes lib s ref l2 req conn) (hpeer : ¬ForPeer (ipaNameSetStr myName) req.gsup)
    (env : RxEnv lib) (hleft : LeftHere lib env s req.gsup.imsi) (hp : AnswersAtOnce p)
    (hreq : req.gsup.messageType = lib.msgt p .request) :
    ∃ next out, apply lib myName s (.rx ref l2 env) = .ok (next, out) ∧
      Answered lib env.config (lib.ies l2) p req s.tables next.tables
        (vectorsOf req.gsup.imsi out) (callsTo (reqEvents out) s.allocs) := by
  obtain ⟨-, hcb⟩ := request_of_osmoGsupConnRx hcomes.request
  have happly := apply_of_comes env hcomes myName
  generalize (osmoGsupConnRx lib.toGsupLib s.peers.gs conn l2).server = server at happly
  generalize (osmoGsupConnRx lib.toGsupLib s.peers.gs conn l2).sent = sent at happly
  obtain ⟨here, hpassed, hhere⟩ : ∃ here, PassedOn lib (s.withRequest server) here ∧
      readCbHere lib env (s.withRequest server) conn ⟨s.allocs, req⟩ (lib.ies l2) =
        handle lib env here conn ⟨s.allocs, req⟩ (lib.ies l2) :=
    readCbHere_of_leftHere (htidy.withRequest server) conn (lib.ies l2) hleft
  obtain ⟨next, out, calls, hhandle, hevents, hanswered⟩ :=
    answered_handle here conn ⟨s.allocs, req⟩ hp hcb hreq env (lib.ies l2)
  have hhandled : readCbReq lib myName env (s.withRequest server) conn ⟨s.allocs, req⟩ l2 =
      .ok (next, out) := by
    unfold readCbReq
    rw [readCbDestination_of_not_forPeer hpeer]
    exact hhere.trans hhandle
  have hcalls : callsTo (reqEvents (sent.map Out.sent ++ out)) s.allocs = calls := by
    rw [reqEvents_append, reqEvents_sent, List.nil_append, hevents]
    exact callsTo_events_self ⟨s.allocs, req⟩ calls
  have hvectors : vectorsOf req.gsup.imsi (sent.map Out.sent ++ out) =
      vectorsOf req.gsup.imsi out := by
    rw [vectorsOf_append, noVectors_sent sent, List.nil_append]
  refine ⟨next, sent.map Out.sent ++ out, happly.trans (by rw [hhandled]; rfl), ?_⟩
  rw [hcalls, hvectors]
  rw [hpassed.tables] at hanswered
  exact hanswered

/-- What is known of a run that has not ended. -/
theorem known_of_ok {inputs : List (Input lib)} {s : Hlr}
    (h : ((machine lib myName).run (.ok (Hlr.start t)) inputs).1 = .ok s) :
    ∃ seen, Known lib myName t seen inputs s := by
  rcases known_or_ended lib myName t inputs with
    ⟨s', seen, hknown⟩ | ⟨ended, pre, s', seen, -, hrun⟩
  · obtain rfl := Except.ok.inj (hknown.run.symm.trans h)
    exact ⟨seen, hknown⟩
  · rw [hrun] at h
    cases h

/-- What is done with a request once it is released is nothing. -/
theorem usesOf_after {t : Tables} {pre : List (Input lib)} {ref : Nat}
    (hreleased : Released ReqUse.isFree
      (usesOf ((machine lib myName).run (.ok (Hlr.start t)) pre).2 ref))
    (post : List (Input lib)) :
    usesOf ((machine lib myName).run
      ((machine lib myName).run (.ok (Hlr.start t)) pre).1 post).2 ref = [] := by
  have hrun := kept_or_released_run lib myName t (pre ++ post) ref
  rw [Machine.run_append, usesOf_append] at hrun
  exact hrun.elim (fun hkept => absurd hkept hreleased.not_kept_append) hreleased.append_iff.1

/-- **Every Send Auth Info, Purge MS and Check IMEI request that is left here is answered once**,
whatever came before and comes after, and what it is answered is so. -/
theorem answered_once (lib : MainLib Ω) (myName : CStr) (t : Tables) {pre : List (Input lib)}
    {s : Hlr} (hpre : ((machine lib myName).run (.ok (Hlr.start t)) pre).1 = .ok s) {ref : Nat}
    {l2 : List UInt8} {req : GsupReq} {conn : Conn} (hcomes : Comes lib s ref l2 req conn)
    (hpeer : ¬ForPeer (ipaNameSetStr myName) req.gsup) (env : RxEnv lib)
    (hleft : LeftHere lib env s req.gsup.imsi) {p : Procedure} (hp : AnswersAtOnce p)
    (hreq : req.gsup.messageType = lib.msgt p .request) (post : List (Input lib)) :
    ∃ next out, apply lib myName s (.rx ref l2 env) = .ok (next, out) ∧
      Answered lib env.config (lib.ies l2) p req s.tables next.tables
        (vectorsOf req.gsup.imsi out)
        (callsTo (reqEvents ((machine lib myName).run (.ok (Hlr.start t))
          (pre ++ .rx ref l2 env :: post)).2) s.allocs) := by
  obtain ⟨seen, hknown⟩ := known_of_ok hpre
  obtain ⟨next, out, happly, hanswered⟩ :=
    answered_apply hknown.tidy hcomes hpeer env hleft hp hreq
  refine ⟨next, out, happly, ?_⟩
  have hself : (ReqPtr.mk s.allocs req).ref = s.allocs := rfl
  have hbefore : callsTo (reqEvents ((machine lib myName).run (.ok (Hlr.start t)) pre).2)
      s.allocs = [] :=
    List.map_eq_nil_iff.1 (hknown.notMem hself).2
  have hrun : (machine lib myName).run (.ok (Hlr.start t)) (pre ++ [.rx ref l2 env]) =
      (.ok next, ((machine lib myName).run (.ok (Hlr.start t)) pre).2 ++ out) := by
    rw [Machine.run_concat, hpre, step_of_apply happly]
  have hreleased : Released ReqUse.isFree (usesOf ((machine lib myName).run (.ok (Hlr.start t))
      (pre ++ [.rx ref l2 env])).2 s.allocs) := by
    obtain ⟨response, hcalls, -⟩ := hanswered.answered
    rw [hrun, usesOf, reqEvents_append, callsTo_append, hbefore, hcalls]
    exact (released_cons rfl).2 ((released_cons_free rfl).2 rfl)
  have hafter := usesOf_after hreleased post
  have hsplit : pre ++ .rx ref l2 env :: post = pre ++ [.rx ref l2 env] ++ post := by simp
  rw [hsplit, Machine.run_append, reqEvents_append, callsTo_append, List.map_eq_nil_iff.1 hafter,
    hrun, reqEvents_append, callsTo_append, hbefore, List.nil_append, List.append_nil]
  exact hanswered

/-- The first request for two vectors is answered; the second one comes afterwards. -/
theorem answered_once_askTwice : ∃ s next : Hlr, ∃ req vectors,
    ((machine Host.mainLib Host.hlrName).run (.ok (Hlr.start Host.withUsim))
        (Host.askTwice.take 2)).1 = .ok s ∧
      Answered Host.mainLib Host.onDemandConfig (Host.mainLib.ies (Host.msgOf 0x08 1 [0x52, 1, 2]))
        .sendAuthInfo req s.tables next.tables vectors
        (callsTo (reqEvents ((machine Host.mainLib Host.hlrName).run
          (.ok (Hlr.start Host.withUsim)) Host.askTwice).2) s.allocs) := by
  have hcheck : (((machine Host.mainLib Host.hlrName).run (.ok (Hlr.start Host.withUsim))
      (Host.askTwice.take 2)).1.toOption.any fun s => (s.peers.gs.lookup 0).any fun conn =>
        (osmoGsupConnRx Host.mainLib.toGsupLib s.peers.gs conn
          (Host.msgOf 0x08 1 [0x52, 1, 2])).req.any fun req =>
            req.gsup.destinationName = [] ∧
              dbSubscrExistsByImsi CodedFaults.none s.tables req.gsup.imsi = 0 ∧
              req.gsup.messageType = Host.mainLib.msgt .sendAuthInfo .request) = true := by
    decide +kernel
  obtain ⟨s, hs⟩ := exists_run (Hlr.start Host.withUsim) (Host.askTwice.take 2) (by decide +kernel)
  rw [hs, Except.toOption, Option.any_some, Option.any_eq_true] at hcheck
  obtain ⟨conn, hconn, hcheck⟩ := hcheck
  obtain ⟨req, hreq, hcheck⟩ := (Option.any_eq_true _ _).1 hcheck
  obtain ⟨hname, hexists, htype⟩ := of_decide_eq_true hcheck
  obtain ⟨next, out, -, hanswered⟩ := answered_once Host.mainLib Host.hlrName Host.withUsim hs
    ⟨hconn, hreq⟩ (fun hpeer => hpeer.1 hname) Host.rxEnv (fun _ => hexists) (Or.inl rfl)
    htype (Host.askTwice.drop 3)
  exact ⟨s, next, req, _, hs, hanswered⟩

end Main
end OsmoHlr
