import OsmoHlr.Dgsm.ProxyLu

/-!
# The MSISDNs of the proxy

An entry learns its MSISDN from an Insert Data Request of the home HLR.  Entries are told
apart by their IMSIs only, so that a number which moves to another subscriber stays with
the old one as well, for as long as there is an entry.

* `keepsMsisdns_step` — only Insert Data Requests give a number to an entry.
* `latest` — for whom the last Insert Data Request with a number was.
* `maps_uniquely_iff` — in which runs numbers are as unique as IMSIs.
-/

namespace OsmoHlr
namespace Dgsm

open CString CniPeerId Gsup

/-- `_proxy_get_by_msisdn` -/
def proxyGetByMsisdn (proxy : Proxy) (msisdn : CStr) : Option ProxySubscrListentry :=
  Keyed.find (fun e => e.data.msisdn) proxy.subscrList.entries msisdn

/-- `proxy_subscr_get_by_msisdn` -/
def proxySubscrGetByMsisdn (proxy : Proxy) (msisdn : CStr) : Option ProxySubscr :=
  (proxyGetByMsisdn proxy msisdn).map ProxySubscrListentry.data

/-- The MSISDN that an Insert Data Request carries. -/
def carriedMsisdn (lib : ProxyLib) (gsup : GsupMessage) : Option CStr :=
  if gsup.messageType ≠ lib.msgt .insertData .request ∨ gsup.msisdnEnc = [] then none
  else (lib.gsm48DecodeBcdNumber2 (lib.msisdnMaxDigits + 1) gsup.msisdnEnc).filter lib.msisdnStrValid

variable {lib : ProxyLib} {env : Env} {now : Int} {proxy proxy' : Proxy} {s s' : State}
  {subscr : ProxySubscr} {imsi msisdn : CStr} {ptr : ReqPtr} {gsup : GsupMessage}

/-! ## Entries -/

theorem proxySubscrGetByImsi_eq_some_iff :
    proxySubscrGetByImsi proxy imsi = some subscr ↔
      (∃ e ∈ proxy.subscrList.entries, e.data = subscr) ∧ subscr.imsi = imsi := by
  rw [proxySubscrGetByImsi, proxyGetByImsi, Option.map_eq_some_iff]
  constructor
  · rintro ⟨e, hfind, rfl⟩
    obtain ⟨he, himsi⟩ := (Keyed.find_eq_some_iff proxy.subscrList.imsis_nodup).1 hfind
    exact ⟨⟨e, he, rfl⟩, himsi⟩
  · rintro ⟨⟨e, he, rfl⟩, himsi⟩
    exact ⟨e, (Keyed.find_eq_some_iff proxy.subscrList.imsis_nodup).2 ⟨he, himsi⟩, rfl⟩

/-- What is found for a number has it, and is found for its IMSI. -/
theorem get_of_proxySubscrGetByMsisdn (h : proxySubscrGetByMsisdn proxy msisdn = some subscr) :
    subscr.msisdn = msisdn ∧ proxySubscrGetByImsi proxy subscr.imsi = some subscr := by
  obtain ⟨e, hfind, rfl⟩ := Option.map_eq_some_iff.1 h
  refine ⟨by simpa using List.find?_some hfind, ?_⟩
  exact proxySubscrGetByImsi_eq_some_iff.2 ⟨⟨e, List.mem_of_find?_eq_some hfind, rfl⟩, rfl⟩

/-- Something is found for the number of an entry. -/
theorem proxySubscrGetByMsisdn_isSome (h : proxySubscrGetByImsi proxy imsi = some subscr) :
    ∃ found, proxySubscrGetByMsisdn proxy subscr.msisdn = some found := by
  obtain ⟨⟨e, he, rfl⟩, -⟩ := proxySubscrGetByImsi_eq_some_iff.1 h
  cases hfind : proxyGetByMsisdn proxy e.data.msisdn with
  | none => exact absurd rfl (Keyed.find_eq_none_iff.1 hfind e he)
  | some found => exact ⟨found.data, congrArg (Option.map _) hfind⟩

/-! ## Who gives a number to an entry -/

/-- No entry has a number that it did not have. -/
def KeepsMsisdns (proxy proxy' : Proxy) : Prop :=
  ∀ imsi new, proxySubscrGetByImsi proxy' imsi = some new →
    new.msisdn = CStr.empty ∨
      ∃ old, proxySubscrGetByImsi proxy imsi = some old ∧ old.msisdn = new.msisdn

theorem KeepsMsisdns.of_subscrList (h : proxy'.subscrList = proxy.subscrList) :
    KeepsMsisdns proxy proxy' := by
  intro imsi new hnew
  rw [proxySubscrGetByImsi_congr h] at hnew
  exact Or.inr ⟨new, hnew, rfl⟩

theorem KeepsMsisdns.trans {proxy'' : Proxy} (h : KeepsMsisdns proxy proxy')
    (h' : KeepsMsisdns proxy' proxy'') : KeepsMsisdns proxy proxy'' := by
  intro imsi new hnew
  rcases h' imsi new hnew with hempty | ⟨old, hold, hmsisdn⟩
  · exact Or.inl hempty
  · rw [← hmsisdn]
    exact h imsi old hold

theorem Deletes.keepsMsisdns (h : Deletes proxy proxy') : KeepsMsisdns proxy proxy' := by
  intro imsi new hnew
  rcases h imsi with hnone | hsame
  · rw [hnone] at hnew
    cases hnew
  · rw [hsame] at hnew
    exact Or.inr ⟨new, hnew, rfl⟩

/-- What is stored has no number, or the one that its entry has. -/
theorem keepsMsisdns_createOrUpdate {new : ProxySubscr}
    (h : new.msisdn = CStr.empty ∨
      ∃ old, proxySubscrGetByImsi proxy new.imsi = some old ∧ old.msisdn = new.msisdn) :
    KeepsMsisdns proxy (proxySubscrCreateOrUpdate now proxy new) := by
  intro imsi found hfound
  rw [proxySubscrGetByImsi_createOrUpdate] at hfound
  split at hfound
  next himsi =>
      obtain rfl := Option.some.inj hfound
      rwa [← himsi]
  next => exact Or.inr ⟨found, hfound, rfl⟩

/-- An entry is written to and keeps its number. -/
theorem keepsMsisdns_update {new : ProxySubscr}
    (hget : proxySubscrGetByImsi proxy imsi = some subscr) (himsi : new.imsi = subscr.imsi)
    (hmsisdn : new.msisdn = subscr.msisdn) :
    KeepsMsisdns proxy (proxySubscrCreateOrUpdate now proxy new) := by
  refine keepsMsisdns_createOrUpdate (Or.inr ⟨subscr, ?_, hmsisdn.symm⟩)
  rw [himsi, imsi_of_proxySubscrGetByImsi hget]
  exact hget

theorem keepsMsisdns_acknowledgeTo (lib : ProxyLib) (now : Int)
    (hget : proxySubscrGetByImsi proxy imsi = some subscr) (req : GsupReq) :
    KeepsMsisdns proxy (proxyAcknowledgeGsupToRemoteHlr lib now proxy subscr req).2 := by
  obtain ⟨himsi, hmsisdn, -⟩ := setPreliminary_frame subscr req
  unfold proxyAcknowledgeGsupToRemoteHlr
  split
  · exact .of_subscrList rfl
  · split
    · simp only
      split
      · exact .of_subscrList rfl
      · exact keepsMsisdns_update hget himsi hmsisdn
    · exact .of_subscrList rfl

theorem keepsMsisdns_resolved (lib : ProxyLib) (env : Env)
    (hget : proxySubscrGetByImsi s.proxy imsi = some subscr) (addr : SockaddrStr) :
    KeepsMsisdns s.proxy (proxySubscrRemoteHlrResolved lib env s subscr addr).1.proxy := by
  have hstored : KeepsMsisdns s.proxy
      (s.createOrUpdate env.now { subscr with remoteHlrAddr := addr }).proxy :=
    keepsMsisdns_update hget rfl rfl
  unfold proxySubscrRemoteHlrResolved
  split
  · exact .of_subscrList rfl
  · simp only
    split
    · exact hstored.trans (.of_subscrList (subscrList_getOrConnect _ addr true true))
    · exact hstored

theorem keepsMsisdns_forward (lib : ProxyLib) (env : Env)
    (hget : proxySubscrGetByImsi s.proxy imsi = some subscr) (ptr : ReqPtr) :
    KeepsMsisdns s.proxy (proxySubscrForwardToRemoteHlr lib env s subscr ptr).2.1.proxy := by
  have hack := keepsMsisdns_acknowledgeTo lib env.now hget ptr.req
  unfold proxySubscrForwardToRemoteHlr
  generalize proxyAcknowledgeGsupToRemoteHlr lib env.now s.proxy subscr ptr.req = ack at hack
  simp only
  split
  · exact hack
  · exact hack.trans (.of_subscrList (subscrList_forwardAllowed env _ _ _))

theorem keepsMsisdns_lookUpHlr (env : Env) (hget : proxySubscrGetByImsi s.proxy imsi = some subscr)
    (ptr : ReqPtr) : KeepsMsisdns s.proxy (lookUpHlr lib env s subscr ptr).2.1.proxy := by
  have hforward := keepsMsisdns_forward lib env hget ptr
  unfold lookUpHlr
  simp only
  split
  · exact hforward
  · split
    · exact hforward.trans (deletes_del lib _ (imsiOf ptr)).keepsMsisdns
    · exact hforward

theorem keepsMsisdns_forwardToGateway (env : Env)
    (hget : proxySubscrGetByImsi s.proxy (imsiOf ptr) = some subscr) :
    KeepsMsisdns s.proxy (forwardToGateway lib env s subscr ptr).1.proxy := by
  obtain ⟨new, hnew, -⟩ := proxySubscrGetByImsi_resolved lib env hget env.gsupGatewayProxy
  have hresolved := keepsMsisdns_resolved lib env hget env.gsupGatewayProxy
  unfold forwardToGateway Res.andThen
  simp only [hnew]
  exact hresolved.trans (keepsMsisdns_forward lib env hnew ptr)

theorem keepsMsisdns_readCb (env : Env) (s : State) (ptr : ReqPtr) :
    KeepsMsisdns s.proxy (readCb lib env s ptr).1.proxy := by
  have hchecked : KeepsMsisdns s.proxy (dgsmCheckForwardGsupMsg lib env s ptr).2.1.proxy := by
    unfold dgsmCheckForwardGsupMsg
    split
    · exact .of_subscrList rfl
    · split
      next subscr hget => exact keepsMsisdns_forward lib env hget ptr
      next hnone =>
          have hcreated : KeepsMsisdns s.proxy
              (s.createOrUpdate env.now (ProxySubscr.ofImsi (imsiOf ptr))).proxy :=
            keepsMsisdns_createOrUpdate (Or.inl rfl)
          have hget : proxySubscrGetByImsi
              (s.createOrUpdate env.now (ProxySubscr.ofImsi (imsiOf ptr))).proxy (imsiOf ptr) =
                some (ProxySubscr.ofImsi (imsiOf ptr)) := by
            rw [State.createOrUpdate, proxySubscrGetByImsi_createOrUpdate]
            exact if_pos rfl
          simp only
          split
          · exact hcreated.trans (keepsMsisdns_forwardToGateway env hget)
          · split
            · exact hcreated
            · exact hcreated.trans (keepsMsisdns_lookUpHlr env hget ptr)
  unfold readCb
  split
  · simp only
    split
    · exact hchecked
    · exact hchecked
  · exact .of_subscrList rfl

theorem keepsMsisdns_resolveHlrResultCb (env : Env) (s : State) (query : Mslookup.Query)
    (result : Mslookup.Result) :
    KeepsMsisdns s.proxy (resolveHlrResultCb lib env s query result).1.proxy := by
  unfold resolveHlrResultCb
  split
  next imsi _ =>
      split
      · exact (deletes_del lib s.proxy imsi).keepsMsisdns
      · simp only
        split
        · exact (deletes_del lib s.proxy imsi).keepsMsisdns
        · split
          · exact .of_subscrList rfl
          next subscr hget => exact keepsMsisdns_resolved lib env hget _
  · exact .of_subscrList rfl

/-- **No step gives a number to an entry, unless a message of a remote HLR comes.** -/
theorem keepsMsisdns_step (s : State) {input : Input} (hlocal : input.isLocal = true) :
    KeepsMsisdns s.proxy (step lib s input).1.proxy := by
  cases input with
  | rx req env => exact keepsMsisdns_readCb env { s with allocs := s.allocs + 1 } ⟨s.allocs, req⟩
  | remoteRx ref msg env => cases hlocal
  | result query result env =>
      rw [step]
      split
      · exact keepsMsisdns_resolveHlrResultCb env _ query result
      · exact .of_subscrList rfl
  | updown ref up =>
      rw [step, onRemoteHlr]
      split
      · exact .of_subscrList rfl
      next rh _ => exact .of_subscrList (subscrList_updown s rh up)
  | lost ref =>
      rw [step, onRemoteHlr]
      split <;> exact .of_subscrList rfl
  | gcTimer now =>
      rw [step]
      split
      · exact (deletes_filter s.proxy _).keepsMsisdns
      · exact .of_subscrList rfl
  | setGcPeriod gcPeriod now => exact (deletes_filter s.proxy _).keepsMsisdns
  | subscrDel imsi => exact (deletes_del lib s.proxy imsi).keepsMsisdns

/-- What a message of a remote HLR writes to an entry: it keeps its number, or has the one that the
message carries. -/
theorem acknowledgeFrom_cases (lib : ProxyLib) (now : Int) (proxy : Proxy) (subscr : ProxySubscr)
    (gsup : GsupMessage) (destination viaPeer : IpaName) :
    (proxyAcknowledgeGsupFromRemoteHlr lib now proxy subscr gsup destination viaPeer).2 = proxy ∨
      ∃ new, (proxyAcknowledgeGsupFromRemoteHlr lib now proxy subscr gsup destination viaPeer).2 =
          proxySubscrCreateOrUpdate now proxy new ∧
        new.imsi = subscr.imsi ∧
        (new.msisdn = subscr.msisdn ∨ carriedMsisdn lib gsup = some new.msisdn) := by
  unfold proxyAcknowledgeGsupFromRemoteHlr
  simp only
  split
  next hinsert =>
      unfold storeMsisdn
      split
      · exact Or.inl rfl
      next henc =>
          split
          · exact Or.inl rfl
          next msisdn hdecode =>
              split
              · exact Or.inl rfl
              next hvalid =>
                  split
                  · exact Or.inl rfl
                  · refine Or.inr ⟨_, rfl, rfl, Or.inr ?_⟩
                    simp only [Bool.not_eq_true', Bool.not_eq_false] at hvalid
                    simp [carriedMsisdn, hinsert, henc, hdecode, hvalid]
  · split
    · unfold storeLu
      simp only
      split
      · exact Or.inl rfl
      · exact Or.inr ⟨_, rfl, rfl, Or.inl rfl⟩
    · exact Or.inl rfl

/-- **What a step does to the entries if it is about a message of a remote HLR.** -/
theorem remoteRx_cases (lib : ProxyLib) (s : State) {input : Input}
    (hremote : input.isLocal = false) :
    (step lib s input).1.proxy = s.proxy ∨
      ∃ env gsup old new, receives lib s input = some (env, gsup) ∧
        proxySubscrGetByImsi s.proxy gsup.imsi = some old ∧
        (step lib s input).1.proxy = proxySubscrCreateOrUpdate env.now s.proxy new ∧
        new.imsi = gsup.imsi ∧
        (new.msisdn = old.msisdn ∨ carriedMsisdn lib gsup = some new.msisdn) := by
  cases input with
  | remoteRx ref msg env =>
      rw [step, onRemoteHlr, receives]
      cases Keyed.find RemoteHlr.ref s.remoteHlrs ref with
      | none => exact Or.inl rfl
      | some rh =>
          simp only [remoteHlrRx_fst]
          cases lib.gsupDecode msg with
          | none => exact Or.inl rfl
          | some gsup =>
              cases hreaches : reaches lib env s gsup with
              | none =>
                  left
                  simp only [hreaches]
              | some reached =>
                  have hget := get_of_reaches hreaches
                  simp only [hreaches, Option.map_some, Option.some.injEq, Prod.mk.injEq]
                  rcases acknowledgeFrom_cases lib env.now s.proxy reached.1 gsup
                    (destinationOf gsup) (env.peerName reached.2) with hsame | ⟨new, hnew, himsi, hm⟩
                  · exact Or.inl hsame
                  · rw [imsi_of_proxySubscrGetByImsi hget] at himsi
                    exact Or.inr ⟨env, gsup, reached.1, new, ⟨rfl, rfl⟩, hget, hnew, himsi, hm⟩
  | _ => cases hremote

/-! ## Whose number it is -/

/-- An input of the whole, or a call of `proxy_subscr_create_or_update`. -/
inductive CacheInput where
  | dgsm (input : Input)
  | createOrUpdate (now : Int) (subscr : ProxySubscr)

/-- The state, and the Insert Data Requests that have come: number and IMSI, the latest first. -/
structure Cached where
  state : State
  requests : List (CStr × CStr)

/-- The IMSI that the most recent Insert Data Request with a number is for. -/
def latest (requests : List (CStr × CStr)) (msisdn : CStr) : Option CStr :=
  (Keyed.find Prod.fst requests msisdn).map Prod.snd

/-- The number that an Insert Data Request brings, and for which IMSI. -/
def brings (lib : ProxyLib) (s : State) (input : Input) : Option (CStr × CStr) :=
  match receives lib s input with
  | none => none
  | some (_, gsup) => (carriedMsisdn lib gsup).map fun msisdn => (msisdn, gsup.imsi)

/-- The whole as a machine that keeps in mind which Insert Data Requests have come. -/
def cacheMachine (lib : ProxyLib) : Machine Cached CacheInput Out where
  step t
    | .dgsm input =>
        (⟨(step lib t.state input).1, (brings lib t.state input).toList ++ t.requests⟩,
          (step lib t.state input).2)
    | .createOrUpdate now subscr => (⟨t.state.createOrUpdate now subscr, t.requests⟩, [])

/-- No IMSI has two entries, no number has two entries, and what is found for a number is the entry
of the IMSI that the most recent Insert Data Request with it was for. -/
structure Unique (t : Cached) : Prop where
  imsis : (t.state.proxy.subscrList.entries.map ProxySubscrListentry.imsi).Nodup
  msisdns : ∀ e ∈ t.state.proxy.subscrList.entries, ∀ e' ∈ t.state.proxy.subscrList.entries,
    e.data.msisdn ≠ CStr.empty → e.data.msisdn = e'.data.msisdn → e = e'
  latest : ∀ msisdn subscr, msisdn ≠ CStr.empty →
    proxySubscrGetByMsisdn t.state.proxy msisdn = some subscr →
    latest t.requests msisdn = some subscr.imsi

/-- Identities are unique after a step. -/
def MapsUniquely (lib : ProxyLib) (t : Cached) (i : CacheInput) : Prop :=
  Unique ((cacheMachine lib).step t i).1

/-- An Insert Data Request brings no number that the entry of another IMSI has, and nothing is
stored with a number but for the IMSI that the most recent Insert Data Request was for. -/
def NotMoved (lib : ProxyLib) (t : Cached) : CacheInput → Prop
  | .dgsm input => ∀ msisdn imsi, brings lib t.state input = some (msisdn, imsi) →
      ∀ imsi' subscr, proxySubscrGetByImsi t.state.proxy imsi' = some subscr →
        subscr.msisdn = msisdn → imsi' = imsi
  | .createOrUpdate _ subscr =>
      subscr.msisdn = CStr.empty ∨ latest t.requests subscr.msisdn = some subscr.imsi

/-- Each number is that of the IMSI for which the most recent Insert Data Request was. -/
def Latest (t : Cached) : Prop :=
  ∀ imsi subscr, proxySubscrGetByImsi t.state.proxy imsi = some subscr →
    subscr.msisdn ≠ CStr.empty → latest t.requests subscr.msisdn = some imsi

variable {t : Cached}

theorem latest_cons (msisdn imsi : CStr) (requests : List (CStr × CStr)) (msisdn' : CStr) :
    latest ((msisdn, imsi) :: requests) msisdn' =
      if msisdn = msisdn' then some imsi else latest requests msisdn' := by
  rw [latest, Keyed.find_cons]
  split <;> rfl

/-- **Numbers are unique exactly if each of them is with the IMSI that got it last.** -/
theorem unique_iff_latest : Unique t ↔ Latest t := by
  constructor
  · intro h imsi subscr hget hne
    obtain ⟨⟨e, he, rfl⟩, rfl⟩ := proxySubscrGetByImsi_eq_some_iff.1 hget
    obtain ⟨found, hfound⟩ := proxySubscrGetByMsisdn_isSome hget
    obtain ⟨hmsisdn, hback⟩ := get_of_proxySubscrGetByMsisdn hfound
    obtain ⟨⟨e', he', rfl⟩, -⟩ := proxySubscrGetByImsi_eq_some_iff.1 hback
    obtain rfl := h.msisdns e he e' he' hne hmsisdn.symm
    exact h.latest _ _ hne hfound
  · intro h
    have himsi : ∀ e ∈ t.state.proxy.subscrList.entries, e.data.msisdn ≠ CStr.empty →
        latest t.requests e.data.msisdn = some e.imsi := fun e he =>
      h e.imsi e.data (proxySubscrGetByImsi_eq_some_iff.2 ⟨⟨e, he, rfl⟩, rfl⟩)
    refine ⟨t.state.proxy.subscrList.imsis_nodup, ?_, ?_⟩
    · intro e he e' he' hne heq
      have hlatest := himsi e he hne
      rw [heq, himsi e' he' (heq ▸ hne)] at hlatest
      exact List.inj_on_of_nodup_map t.state.proxy.subscrList.imsis_nodup he he'
        (Option.some.inj hlatest).symm
    · intro msisdn subscr hne hget
      obtain ⟨rfl, hback⟩ := get_of_proxySubscrGetByMsisdn hget
      exact h _ _ hback hne

theorem Latest.of_keeps (h : Latest t) {s' : State} (hkeeps : KeepsMsisdns t.state.proxy s'.proxy) :
    Latest ⟨s', t.requests⟩ := by
  intro imsi new hnew hne
  rcases hkeeps imsi new hnew with hempty | ⟨old, hold, hmsisdn⟩
  · exact absurd hempty hne
  · rw [← hmsisdn] at hne ⊢
    exact h imsi old hold hne

theorem carriedMsisdn_ne_empty (h : carriedMsisdn lib gsup = some msisdn) :
    msisdn ≠ CStr.empty := by
  unfold carriedMsisdn at h
  split at h
  · cases h
  · rintro rfl
    have hlen := (lib.msisdn_digits _ (Option.filter_eq_some_iff.1 h).2).2.1
    exact absurd hlen (by decide)

theorem brings_eq_some_iff {s : State} {input : Input} :
    brings lib s input = some (msisdn, imsi) ↔
      ∃ env gsup, receives lib s input = some (env, gsup) ∧
        carriedMsisdn lib gsup = some msisdn ∧ gsup.imsi = imsi := by
  unfold brings
  cases receives lib s input with
  | none => simp
  | some received => simp [Prod.ext_iff]

/-- What an Insert Data Request does: it may bring its number to the entry of its IMSI. -/
theorem get_step_of_brings {s : State} {input : Input}
    (hbrings : brings lib s input = some (msisdn, imsi)) :
    (∀ imsi', imsi' ≠ imsi → proxySubscrGetByImsi (step lib s input).1.proxy imsi' =
      proxySubscrGetByImsi s.proxy imsi') ∧
    ∀ imsi' new, proxySubscrGetByImsi (step lib s input).1.proxy imsi' = some new →
      (imsi' = imsi ∧ new.msisdn = msisdn) ∨
        ∃ old, proxySubscrGetByImsi s.proxy imsi' = some old ∧ old.msisdn = new.msisdn := by
  obtain ⟨env, gsup, hreceives, hcarried, rfl⟩ := brings_eq_some_iff.1 hbrings
  rcases remoteRx_cases lib s (isLocal_eq_false hreceives) with
    hsame | ⟨env', gsup', old, new, hreceives', hget, hstep, himsi, hmsisdn⟩
  · rw [hsame]
    exact ⟨fun _ _ => rfl, fun _ new hnew => Or.inr ⟨new, hnew, rfl⟩⟩
  · obtain ⟨rfl, rfl⟩ := Prod.mk.inj (Option.some.inj (hreceives.symm.trans hreceives'))
    rw [hstep]
    simp only [proxySubscrGetByImsi_createOrUpdate, himsi]
    refine ⟨fun imsi' hne => if_neg hne.symm, ?_⟩
    intro imsi' found hfound
    split at hfound
    next heq =>
        obtain rfl := heq
        obtain rfl := Option.some.inj hfound
        rcases hmsisdn with hold | hcarried'
        · exact Or.inr ⟨old, hget, hold.symm⟩
        · exact Or.inl ⟨rfl, Option.some.inj (hcarried'.symm.trans hcarried)⟩
    next => exact Or.inr ⟨found, hfound, rfl⟩

/-- Without a number in an Insert Data Request, no step gives one to an entry. -/
theorem keepsMsisdns_of_brings_eq_none {s : State} {input : Input}
    (hbrings : brings lib s input = none) :
    KeepsMsisdns s.proxy (step lib s input).1.proxy := by
  cases hlocal : input.isLocal with
  | true => exact keepsMsisdns_step s hlocal
  | false =>
      rcases remoteRx_cases lib s hlocal with
        hsame | ⟨env, gsup, old, new, hreceives, hget, hstep, himsi, hmsisdn⟩
      · exact .of_subscrList (congrArg Proxy.subscrList hsame)
      · rw [hstep]
        have hnone : carriedMsisdn lib gsup = none := by
          simpa [brings, hreceives] using hbrings
        rcases hmsisdn with hold | hcarried
        · exact keepsMsisdns_update hget (himsi.trans (imsi_of_proxySubscrGetByImsi hget).symm) hold
        · rw [hnone] at hcarried
          cases hcarried

/-- **A step keeps identities unique exactly if no number moves to another IMSI.** -/
theorem mapsUniquely_iff (h : Latest t) (i : CacheInput) :
    MapsUniquely lib t i ↔ NotMoved lib t i := by
  rw [MapsUniquely, unique_iff_latest]
  cases i with
  | createOrUpdate now subscr =>
      show Latest ⟨t.state.createOrUpdate now subscr, t.requests⟩ ↔
        (subscr.msisdn = CStr.empty ∨ latest t.requests subscr.msisdn = some subscr.imsi)
      have hget : ∀ imsi, proxySubscrGetByImsi (t.state.createOrUpdate now subscr).proxy imsi = _ :=
        proxySubscrGetByImsi_createOrUpdate now t.state.proxy subscr
      constructor
      · intro hlatest
        by_cases hempty : subscr.msisdn = CStr.empty
        · exact Or.inl hempty
        · exact Or.inr (hlatest subscr.imsi subscr ((hget _).trans (if_pos rfl)) hempty)
      · intro hstored imsi found hfound hne
        replace hfound : proxySubscrGetByImsi (t.state.createOrUpdate now subscr).proxy imsi =
          some found := hfound
        rw [hget] at hfound
        split at hfound
        next himsi =>
            obtain rfl := Option.some.inj hfound
            rw [← himsi]
            exact hstored.resolve_left hne
        next => exact h imsi found hfound hne
  | dgsm input =>
      show Latest ⟨(step lib t.state input).1, (brings lib t.state input).toList ++ t.requests⟩ ↔
        ∀ msisdn imsi, brings lib t.state input = some (msisdn, imsi) → _
      cases hbrings : brings lib t.state input with
      | none =>
          refine iff_of_true (h.of_keeps (keepsMsisdns_of_brings_eq_none hbrings)) ?_
          intro _ _ hsome
          cases hsome
      | some brought =>
          obtain ⟨msisdn, imsi⟩ := brought
          obtain ⟨hframe, hcases⟩ := get_step_of_brings hbrings
          have hlatest : ∀ m, latest ((some (msisdn, imsi)).toList ++ t.requests) m = _ :=
            latest_cons msisdn imsi t.requests
          constructor
          · rintro hafter _ _ ⟨⟩ imsi' subscr hget rfl
            by_contra hne
            obtain ⟨_, _, -, hcarried, -⟩ := brings_eq_some_iff.1 hbrings
            have hmine := hafter imsi' subscr ((hframe imsi' hne).trans hget)
              (carriedMsisdn_ne_empty hcarried)
            rw [hlatest, if_pos rfl] at hmine
            exact hne (Option.some.inj hmine).symm
          · intro hmoved imsi' new hnew hne
            show latest ((some (msisdn, imsi)).toList ++ t.requests) new.msisdn = some imsi'
            rw [hlatest]
            rcases hcases imsi' new hnew with ⟨rfl, rfl⟩ | ⟨old, hold, hmsisdn⟩
            · exact if_pos rfl
            · rw [← hmsisdn] at hne ⊢
              split
              next heq => rw [hmoved msisdn imsi rfl imsi' old hold heq.symm]
              next => exact h imsi' old hold hne

theorem latest_init : Latest ⟨State.init, []⟩ := by
  intro imsi subscr hget
  cases hget

/-- **In a run, identities are unique after each step if and only if no number moves to another IMSI
while an entry has it.** -/
theorem maps_uniquely_iff (lib : ProxyLib) (inputs : List CacheInput) :
    (cacheMachine lib).Guarded (MapsUniquely lib) ⟨State.init, []⟩ inputs ↔
      (cacheMachine lib).Guarded (NotMoved lib) ⟨State.init, []⟩ inputs :=
  (cacheMachine lib).guarded_congr (P := Latest) (H := fun _ => True)
    (fun _ _ _ _ hunique => unique_iff_latest.1 hunique) (fun _ i h _ => mapsUniquely_iff h i)
    latest_init (fun _ _ => trivial)

/-- A number moves to another subscriber, and the proxy still has it for the old one as well. -/
theorem number_moved :
    ¬(cacheMachine Host.proxyLib).Guarded (MapsUniquely Host.proxyLib) ⟨State.init, []⟩
      [.dgsm (.rx (Host.updateLocation "msc" .cs) Host.dgsmEnv), .dgsm Host.hlrFound,
        .dgsm (.updown 1 true),
        .dgsm (.remoteRx 1 ((Host.gsupEncode (Host.insertData Host.roamer)).getD []) Host.dgsmEnv),
        .dgsm (.rx Host.visit Host.dgsmEnv),
        .dgsm (.remoteRx 1 ((Host.gsupEncode (Host.insertData Host.visitor)).getD [])
          Host.dgsmEnv)] := by
  rintro ⟨-, -, -, -, -, hunique, -⟩
  have hmoved := unique_iff_latest.1 hunique Host.roamer
  revert hmoved
  decide +kernel

end Dgsm
end OsmoHlr
