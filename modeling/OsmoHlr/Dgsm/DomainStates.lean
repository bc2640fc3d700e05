import OsmoHlr.Dgsm.ProxyOrder

/-!
# What the proxy knows of a domain

For each IMSI an entry says which VLR serves it in each of the two domains.  Requests only
write down who asks, and an Update Location Result makes of it what is known.  All else
leaves it alone, or deletes the entry.

* `stateOf` — what is known of a domain; nothing without an entry.
* `effect_step` — what any step does to it, unless it is about a message of a remote HLR.
* `stateOf_storeLu` — what an Update Location Result does to it.
-/

namespace OsmoHlr
namespace Dgsm

open CString CniPeerId Gsup

/-- The two domains of an entry. -/
inductive Domain where
  | cs
  | ps
  deriving DecidableEq

/-- What an entry says about a domain. -/
def ProxySubscr.state (subscr : ProxySubscr) : Domain → DomainState
  | .cs => subscr.cs
  | .ps => subscr.ps

/-- What is known of a domain of an IMSI. -/
def stateOf (proxy : Proxy) (imsi : CStr) (d : Domain) : DomainState :=
  match proxySubscrGetByImsi proxy imsi with
  | none => DomainState.zero
  | some subscr => subscr.state d

/-- The domain that a request names. -/
def named : CnDomain → Option Domain
  | .cs => some .cs
  | .ps => some .ps
  | _ => none

/-- The proxy takes it for a Location Update. -/
def AsksLu (lib : ProxyLib) (ptr : ReqPtr) : Prop :=
  ptr.req.gsup.messageType = lib.msgt .updateLocation .request ∧
    ptr.req.sourceName.type = .ipaName

instance (lib : ProxyLib) (ptr : ReqPtr) : Decidable (AsksLu lib ptr) :=
  inferInstanceAs (Decidable (_ ∧ _))

/-- Who asks is written down. -/
def asked (ptr : ReqPtr) (imsi : CStr) (d : Domain) (state : DomainState) : DomainState :=
  if imsiOf ptr = imsi ∧ named ptr.req.gsup.cnDomain = some d then
    { state with vlrNamePreliminary := ptr.req.sourceName.ipaName }
  else state

/-- All who ask are written down. -/
def askedAll (lib : ProxyLib) (ptrs : List ReqPtr) (imsi : CStr) (d : Domain)
    (state : DomainState) : DomainState :=
  (ptrs.filter fun ptr => AsksLu lib ptr).foldr (fun ptr state => asked ptr imsi d state) state

variable {lib : ProxyLib} {env : Env} {now : Int} {proxy proxy' : Proxy} {s s' : State}
  {subscr : ProxySubscr} {imsi : CStr} {ptr : ReqPtr} {rh : RemoteHlr} {addr : SockaddrStr}

/-! ## Entries -/

theorem stateOf_eq (h : proxySubscrGetByImsi proxy imsi = some subscr) (d : Domain) :
    stateOf proxy imsi d = subscr.state d := by
  rw [stateOf, h]

theorem stateOf_eq_zero (h : proxySubscrGetByImsi proxy imsi = none) (d : Domain) :
    stateOf proxy imsi d = DomainState.zero := by
  rw [stateOf, h]

theorem stateOf_congr (h : proxySubscrGetByImsi proxy' imsi = proxySubscrGetByImsi proxy imsi)
    (d : Domain) : stateOf proxy' imsi d = stateOf proxy imsi d := by
  rw [stateOf, stateOf, h]

theorem proxySubscrGetByImsi_congr (h : proxy'.subscrList = proxy.subscrList) (imsi : CStr) :
    proxySubscrGetByImsi proxy' imsi = proxySubscrGetByImsi proxy imsi := by
  rw [proxySubscrGetByImsi, proxySubscrGetByImsi, proxyGetByImsi, proxyGetByImsi, h]

theorem stateOf_createOrUpdate (now : Int) (proxy : Proxy) (subscr : ProxySubscr) (imsi : CStr)
    (d : Domain) :
    stateOf (proxySubscrCreateOrUpdate now proxy subscr) imsi d =
      if subscr.imsi = imsi then subscr.state d else stateOf proxy imsi d := by
  rw [stateOf, proxySubscrGetByImsi_createOrUpdate]
  by_cases himsi : subscr.imsi = imsi
  · rw [if_pos himsi, if_pos himsi]
  · rw [if_neg himsi, if_neg himsi]
    rfl

/-- An entry is written to and says the same about both domains. -/
theorem stateOf_createOrUpdate_same {new : ProxySubscr}
    (h : ∀ d, new.state d = stateOf proxy new.imsi d) (imsi : CStr) (d : Domain) :
    stateOf (proxySubscrCreateOrUpdate now proxy new) imsi d = stateOf proxy imsi d := by
  rw [stateOf_createOrUpdate]
  split
  next himsi => rw [h, himsi]
  next => rfl

/-! ## Requests -/

theorem state_setPreliminary (subscr : ProxySubscr) (ptr : ReqPtr) (h : subscr.imsi = imsiOf ptr)
    (d : Domain) :
    (subscr.setPreliminary ptr.req).state d = asked ptr subscr.imsi d (subscr.state d) := by
  unfold ProxySubscr.setPreliminary asked named
  rw [h]
  cases hdomain : ptr.req.gsup.cnDomain <;> cases d <;> simp [ProxySubscr.state]

theorem asked_of_ne (h : imsiOf ptr ≠ imsi) (d : Domain) (state : DomainState) :
    asked ptr imsi d state = state := if_neg fun himsi => h himsi.1

/-- The names of both VLRs stay, so that nothing is said that was not known. -/
theorem state_eq_of_unchanged {new : ProxySubscr}
    (h : ∀ d, new.state d = asked ptr imsi d (subscr.state d))
    (hcs : new.cs.vlrNamePreliminary = subscr.cs.vlrNamePreliminary)
    (hps : new.ps.vlrNamePreliminary = subscr.ps.vlrNamePreliminary) (d : Domain) :
    asked ptr imsi d (subscr.state d) = subscr.state d := by
  have hname : (new.state d).vlrNamePreliminary = (subscr.state d).vlrNamePreliminary := by
    cases d
    · exact hcs
    · exact hps
  rw [h d] at hname
  unfold asked at hname ⊢
  split at hname
  next hnamed =>
      rw [if_pos hnamed]
      exact congrArg (fun name => { subscr.state d with vlrNamePreliminary := name }) hname
  next hnamed => rw [if_neg hnamed]

/-- **A request writes down who asks, if it asks for a Location Update and names a domain.** -/
theorem stateOf_acknowledgeTo (lib : ProxyLib) (now : Int)
    (hget : proxySubscrGetByImsi proxy (imsiOf ptr) = some subscr) (imsi : CStr) (d : Domain) :
    stateOf (proxyAcknowledgeGsupToRemoteHlr lib now proxy subscr ptr.req).2 imsi d =
      if AsksLu lib ptr then asked ptr imsi d (stateOf proxy imsi d)
      else stateOf proxy imsi d := by
  have himsi := imsi_of_proxySubscrGetByImsi hget
  have hnew := state_setPreliminary subscr ptr himsi
  have hframe := (setPreliminary_frame subscr ptr.req).1
  rw [himsi] at hnew hframe
  by_cases hasks : AsksLu lib ptr
  · rw [if_pos hasks, proxyAcknowledgeGsupToRemoteHlr, if_neg (not_not.2 hasks.2), if_pos hasks.1]
    generalize subscr.setPreliminary ptr.req = new at hnew hframe
    have hasked : imsiOf ptr = imsi → new.state d = asked ptr imsi d (stateOf proxy imsi d) := by
      rintro rfl
      rw [stateOf_eq hget, hnew]
    simp only
    split
    next hunchanged =>
        simp only [decide_eq_true_eq, not_or, not_not, ipaNameCmp_eq_zero_iff] at hunchanged
        by_cases hp : imsiOf ptr = imsi
        · rw [← hp, stateOf_eq hget]
          exact (state_eq_of_unchanged hnew hunchanged.1 hunchanged.2 d).symm
        · exact (asked_of_ne hp d _).symm
    next =>
        rw [stateOf_createOrUpdate, hframe]
        split
        next hp => exact hasked hp
        next hp => exact (asked_of_ne hp d _).symm
  · rw [if_neg hasks, proxyAcknowledgeGsupToRemoteHlr]
    split
    · rfl
    next hipa =>
        rw [if_neg fun htype => hasks ⟨htype, not_not.1 hipa⟩]

/-- Requests are received and write down who asks, and nothing else is said about any domain. -/
def Evolves (lib : ProxyLib) (received : List ReqPtr) (proxy proxy' : Proxy) : Prop :=
  ∀ imsi d, stateOf proxy' imsi d = askedAll lib received imsi d (stateOf proxy imsi d)

theorem Evolves.of_subscrList (h : proxy'.subscrList = proxy.subscrList) :
    Evolves lib [] proxy proxy' := fun imsi d =>
  stateOf_congr (proxySubscrGetByImsi_congr h imsi) d

theorem Evolves.trans {proxy'' : Proxy} {received : List ReqPtr} (h : Evolves lib [] proxy proxy')
    (h' : Evolves lib received proxy' proxy'') : Evolves lib received proxy proxy'' :=
  fun imsi d => (h' imsi d).trans (congrArg _ (h imsi d))

theorem evolves_ofImsi (now : Int) (h : proxySubscrGetByImsi proxy imsi = none) :
    Evolves lib [] proxy (proxySubscrCreateOrUpdate now proxy (ProxySubscr.ofImsi imsi)) := by
  refine stateOf_createOrUpdate_same fun d => ?_
  rw [ProxySubscr.ofImsi, stateOf_eq_zero h]
  cases d <;> rfl

theorem evolves_resolved (env : Env) (hget : proxySubscrGetByImsi s.proxy imsi = some subscr)
    (addr : SockaddrStr) :
    Evolves lib [] s.proxy (proxySubscrRemoteHlrResolved lib env s subscr addr).1.proxy := by
  have himsi := imsi_of_proxySubscrGetByImsi hget
  have hstored : Evolves lib [] s.proxy
      (s.createOrUpdate env.now { subscr with remoteHlrAddr := addr }).proxy := by
    refine stateOf_createOrUpdate_same fun d => ?_
    rw [himsi, stateOf_eq hget]
    cases d <;> rfl
  unfold proxySubscrRemoteHlrResolved
  split
  · exact .of_subscrList rfl
  · simp only
    split
    · exact hstored.trans (.of_subscrList (subscrList_getOrConnect _ addr true true))
    · exact hstored

theorem subscrList_forwardAllowed (env : Env) (s : State) (subscr : ProxySubscr) (ptr : ReqPtr) :
    (forwardAllowed lib env s subscr ptr).1.proxy.subscrList = s.proxy.subscrList := by
  unfold forwardAllowed
  split
  · rfl
  · simp only
    split
    · rfl
    · exact subscrList_getOrConnect _ subscr.remoteHlrAddr true true

theorem askedAll_singleton (ptr : ReqPtr) (imsi : CStr) (d : Domain) (state : DomainState) :
    askedAll lib [ptr] imsi d state = if AsksLu lib ptr then asked ptr imsi d state else state := by
  unfold askedAll
  by_cases h : AsksLu lib ptr <;> simp [h]

theorem evolves_forward (env : Env)
    (hget : proxySubscrGetByImsi s.proxy (imsiOf ptr) = some subscr) :
    Evolves lib [ptr] s.proxy (proxySubscrForwardToRemoteHlr lib env s subscr ptr).2.1.proxy := by
  have hack : Evolves lib [ptr] s.proxy
      (proxyAcknowledgeGsupToRemoteHlr lib env.now s.proxy subscr ptr.req).2 := fun imsi d =>
    (stateOf_acknowledgeTo lib env.now hget imsi d).trans (askedAll_singleton ptr imsi d _).symm
  unfold proxySubscrForwardToRemoteHlr
  generalize proxyAcknowledgeGsupToRemoteHlr lib env.now s.proxy subscr ptr.req = ack at hack
  simp only
  split
  · exact hack
  · intro imsi d
    rw [← hack imsi d]
    exact stateOf_congr (proxySubscrGetByImsi_congr (subscrList_forwardAllowed env _ _ _) imsi) d

/-! ## Entries that are deleted -/

/-- Requests are received and write down who asks; then entries may be deleted, and nothing is known
of them any more. -/
def Effect (lib : ProxyLib) (received : List ReqPtr) (proxy proxy' : Proxy) : Prop :=
  ∀ imsi d, stateOf proxy' imsi d =
    if (proxySubscrGetByImsi proxy' imsi).isSome then
      askedAll lib received imsi d (stateOf proxy imsi d)
    else DomainState.zero

/-- Entries are left alone or deleted. -/
def Deletes (proxy proxy' : Proxy) : Prop :=
  ∀ imsi, proxySubscrGetByImsi proxy' imsi = none ∨
    proxySubscrGetByImsi proxy' imsi = proxySubscrGetByImsi proxy imsi

theorem deletes_del (lib : ProxyLib) (proxy : Proxy) (imsi : CStr) :
    Deletes proxy (proxySubscrDel lib proxy imsi).1 := by
  intro imsi'
  rw [proxySubscrGetByImsi_del]
  split
  · exact Or.inl rfl
  · exact Or.inr rfl

theorem deletes_filter (proxy : Proxy) (keep : ProxySubscrListentry → Bool) :
    Deletes proxy { proxy with subscrList := proxy.subscrList.filter keep } := by
  intro imsi
  rw [proxySubscrGetByImsi_filter, proxySubscrGetByImsi]
  cases proxyGetByImsi proxy imsi with
  | none => exact Or.inl rfl
  | some e =>
      rw [Option.filter_some]
      split
      · exact Or.inr rfl
      · exact Or.inl rfl

variable {received : List ReqPtr}

theorem Evolves.deletes {proxy'' : Proxy} (h : Evolves lib received proxy proxy')
    (hdeletes : Deletes proxy' proxy'') : Effect lib received proxy proxy'' := by
  intro imsi d
  rcases hdeletes imsi with hnone | hsame
  · rw [hnone, stateOf_eq_zero hnone]
    rfl
  · split
    · rw [stateOf_congr hsame]
      exact h imsi d
    next hnone => exact stateOf_eq_zero (Option.not_isSome_iff_eq_none.1 hnone) d

/-- Entries evolve, and then a step has an effect. -/
theorem Evolves.effect_trans {proxy'' : Proxy} (h : Evolves lib [] proxy proxy')
    (h' : Effect lib received proxy' proxy'') : Effect lib received proxy proxy'' := by
  intro imsi d
  rw [h' imsi d, h imsi d]
  rfl

theorem Evolves.effect (h : Evolves lib received proxy proxy') :
    Effect lib received proxy proxy' := h.deletes fun _ => Or.inr rfl

theorem effect_del (lib : ProxyLib) (proxy : Proxy) (imsi : CStr) :
    Effect lib [] proxy (proxySubscrDel lib proxy imsi).1 :=
  (Evolves.of_subscrList rfl).deletes (deletes_del lib proxy imsi)

theorem effect_lookUpHlr (env : Env)
    (hget : proxySubscrGetByImsi s.proxy (imsiOf ptr) = some subscr) :
    Effect lib [ptr] s.proxy (lookUpHlr lib env s subscr ptr).2.1.proxy := by
  have hforward : Evolves lib [ptr] s.proxy _ := evolves_forward env hget
  unfold lookUpHlr
  simp only
  split
  · exact hforward.effect
  · split
    · exact hforward.deletes (deletes_del lib _ (imsiOf ptr))
    · exact hforward.effect

theorem evolves_forwardToGateway (env : Env)
    (hget : proxySubscrGetByImsi s.proxy (imsiOf ptr) = some subscr) :
    Evolves lib [ptr] s.proxy (forwardToGateway lib env s subscr ptr).1.proxy := by
  obtain ⟨new, hnew, -⟩ := proxySubscrGetByImsi_resolved lib env hget env.gsupGatewayProxy
  have hresolved : Evolves lib [] s.proxy _ := evolves_resolved env hget env.gsupGatewayProxy
  unfold forwardToGateway Res.andThen
  simp only [hnew]
  exact hresolved.trans (evolves_forward env hnew)

/-! ## Steps -/

theorem effect_dgsmCheckForwardGsupMsg (env : Env) (hlinks : LinksDistinct lib s)
    (harmed : Armed lib s) (ptr : ReqPtr) :
    Effect lib (receivedOf (dgsmCheckForwardGsupMsg lib env s ptr).2.2) s.proxy
      (dgsmCheckForwardGsupMsg lib env s ptr).2.1.proxy := by
  unfold dgsmCheckForwardGsupMsg
  split
  · exact (Evolves.of_subscrList rfl).effect
  · cases hget : proxySubscrGetByImsi s.proxy (imsiOf ptr) with
    | some subscr =>
        simp only
        rw [(keeps_forward env hlinks harmed hget).flows.received]
        exact (evolves_forward env hget).effect
    | none =>
        simp only
        have hevolves : Evolves lib [] s.proxy
            (s.createOrUpdate env.now (ProxySubscr.ofImsi (imsiOf ptr))).proxy :=
          evolves_ofImsi env.now hget
        have hcreated := created_ofImsi hlinks harmed env.now (imsiOf ptr)
        generalize ProxySubscr.ofImsi (imsiOf ptr) = new at hevolves hcreated
        split
        · have hkeeps := keeps_forwardToGateway env hcreated.links hcreated.armed hcreated.get
          rw [hkeeps.flows.received]
          exact (hevolves.trans (evolves_forwardToGateway env hcreated.get)).effect
        · split
          · exact hevolves.effect
          · have hkeeps := keeps_lookUpHlr env hcreated.links hcreated.armed hcreated.get
            rw [hkeeps.flows.received]
            exact hevolves.effect_trans (effect_lookUpHlr env hcreated.get)

theorem effect_readCb (env : Env) (hlinks : LinksDistinct lib s) (harmed : Armed lib s)
    (ptr : ReqPtr) :
    Effect lib (receivedOf (readCb lib env s ptr).2) s.proxy (readCb lib env s ptr).1.proxy := by
  have hchecked := effect_dgsmCheckForwardGsupMsg env hlinks harmed ptr
  unfold readCb
  split
  · simp only
    split
    · exact hchecked
    · rw [receivedOf_append]
      exact (List.append_nil (receivedOf _)).symm ▸ hchecked
  · exact (Evolves.of_subscrList rfl).effect

theorem effect_resolveHlrResultCb (env : Env) (s : State) (query : Mslookup.Query)
    (result : Mslookup.Result) :
    Effect lib [] s.proxy (resolveHlrResultCb lib env s query result).1.proxy := by
  unfold resolveHlrResultCb
  split
  next imsi _ =>
      split
      · exact effect_del lib s.proxy imsi
      · simp only
        split
        · exact effect_del lib s.proxy imsi
        · split
          · exact (Evolves.of_subscrList rfl).effect
          next subscr hget => exact (evolves_resolved env hget _).effect
  · exact (Evolves.of_subscrList rfl).effect

/-- It is not about a message of a remote HLR. -/
def Input.isLocal : Input → Bool
  | .remoteRx .. => false
  | _ => true

theorem receivedOf_step_eq_nil (hlinks : LinksDistinct lib s) (harmed : Armed lib s)
    {input : Input} (h : input.request s = []) : receivedOf (step lib s input).2 = [] := by
  obtain ⟨received, hsublist, hkeeps⟩ := keeps_step hlinks harmed input
  rw [h, List.sublist_nil] at hsublist
  exact hkeeps.flows.received.trans hsublist

theorem subscrList_updown (s : State) (rh : RemoteHlr) (up : Bool) :
    (gsupClientUpdownCb lib s rh up).1.proxy.subscrList = s.proxy.subscrList := by
  cases up with
  | false => rfl
  | true => exact subscrList_upCallbacks _ _ _

/-- **What a step does to what is known of domains, unless a message of a remote HLR comes.** -/
theorem effect_step (hlinks : LinksDistinct lib s) (harmed : Armed lib s) {input : Input}
    (hlocal : input.isLocal = true) :
    Effect lib (receivedOf (step lib s input).2) s.proxy (step lib s input).1.proxy := by
  cases input with
  | rx req env =>
      have hlinks' : LinksDistinct lib { s with allocs := s.allocs + 1 } :=
        hlinks.of_eq rfl (Nat.le_succ _)
      exact effect_readCb env hlinks' harmed ⟨s.allocs, req⟩
  | remoteRx ref msg env => cases hlocal
  | result query result env =>
      rw [receivedOf_step_eq_nil hlinks harmed rfl, step]
      split
      · exact effect_resolveHlrResultCb env _ query result
      · exact (Evolves.of_subscrList rfl).effect
  | updown ref up =>
      rw [receivedOf_step_eq_nil hlinks harmed rfl, step, onRemoteHlr]
      split
      · exact (Evolves.of_subscrList rfl).effect
      next rh _ => exact (Evolves.of_subscrList (subscrList_updown s rh up)).effect
  | lost ref =>
      rw [receivedOf_step_eq_nil hlinks harmed rfl, step, onRemoteHlr]
      split <;> exact (Evolves.of_subscrList rfl).effect
  | gcTimer now =>
      rw [receivedOf_step_eq_nil hlinks harmed rfl, step]
      split
      · exact (Evolves.of_subscrList rfl).deletes (deletes_filter s.proxy _)
      · exact (Evolves.of_subscrList rfl).effect
  | setGcPeriod gcPeriod now =>
      rw [receivedOf_step_eq_nil hlinks harmed rfl]
      exact (Evolves.of_subscrList rfl).deletes (deletes_filter s.proxy _)
  | subscrDel imsi =>
      rw [receivedOf_step_eq_nil hlinks harmed rfl]
      exact effect_del lib s.proxy imsi

/-! ## Update Location Results -/

/-- The proxy that a message went through on its way to the VLR. -/
def viaProxy (viaPeer destination : IpaName) : IpaName :=
  if ipaNameCmp viaPeer destination ≠ 0 then viaPeer else IpaName.zero

/-- **A result is accepted if the VLR has asked for one of the domains.** -/
theorem storeLu_eq_zero_iff (lib : ProxyLib) (now : Int) (proxy : Proxy) (subscr : ProxySubscr)
    (destination via : IpaName) :
    (storeLu lib now proxy subscr destination via).1 = 0 ↔
      ∃ d, (subscr.state d).vlrNamePreliminary = destination := by
  have hcause : (((lib.causeNum .gmmProtoErrUnspec).toNat : Int) = 0) ↔ False := by
    have hne := lib.causeNum_ne .gmmProtoErrUnspec
    simpa [← UInt8.toNat_inj] using hne
  unfold storeLu
  simp only [decide_eq_true_eq, ipaNameCmp_eq_zero_iff]
  split
  next hnone =>
      rw [hcause, false_iff]
      rintro ⟨d, hd⟩
      rw [not_or] at hnone
      cases d
      · exact hnone.1 hd.symm
      · exact hnone.2 hd.symm
  next hsome =>
      refine iff_of_true rfl ?_
      rcases not_not.1 hsome with hcs | hps
      · exact ⟨.cs, hcs.symm⟩
      · exact ⟨.ps, hps.symm⟩

/-- **A result updates exactly the domains for which the VLR has asked last.** -/
theorem stateOf_storeLu (lib : ProxyLib) (now : Int) {imsi : CStr}
    (hget : proxySubscrGetByImsi proxy imsi = some subscr) (destination via : IpaName)
    (imsi' : CStr) (d : Domain) :
    stateOf (storeLu lib now proxy subscr destination via).2 imsi' d =
      if imsi' = imsi ∧ (stateOf proxy imsi d).vlrNamePreliminary = destination then
        .updated now destination via
      else stateOf proxy imsi' d := by
  have himsi := imsi_of_proxySubscrGetByImsi hget
  rw [stateOf_eq hget]
  unfold storeLu
  simp only [decide_eq_true_eq, ipaNameCmp_eq_zero_iff]
  split
  next hnone =>
      rw [not_or] at hnone
      rw [if_neg]
      rintro ⟨-, hd⟩
      cases d
      · exact hnone.1 hd.symm
      · exact hnone.2 hd.symm
  next =>
      rw [stateOf_createOrUpdate]
      by_cases h : imsi' = imsi
      · rw [if_pos (himsi.trans h.symm), h, stateOf_eq hget]
        cases d <;> simp [ProxySubscr.state, eq_comm]
      · rw [if_neg fun heq => h (heq.symm.trans himsi), if_neg fun heq => h heq.1]

theorem evolves_storeMsisdn (now : Int) (hget : proxySubscrGetByImsi proxy imsi = some subscr)
    (gsup : GsupMessage) : Evolves lib [] proxy (storeMsisdn lib now proxy subscr gsup) := by
  have himsi := imsi_of_proxySubscrGetByImsi hget
  unfold storeMsisdn
  split
  · exact .of_subscrList rfl
  · split
    · exact .of_subscrList rfl
    next msisdn _ =>
        split
        · exact .of_subscrList rfl
        · split
          · exact .of_subscrList rfl
          · refine stateOf_createOrUpdate_same fun d => ?_
            rw [himsi, stateOf_eq hget]
            cases d <;> rfl

theorem stateOf_acknowledgeFrom (lib : ProxyLib) (now : Int) {imsi : CStr}
    (hget : proxySubscrGetByImsi proxy imsi = some subscr) (gsup : GsupMessage)
    (destination viaPeer : IpaName) (imsi' : CStr) (d : Domain) :
    stateOf (proxyAcknowledgeGsupFromRemoteHlr lib now proxy subscr gsup destination viaPeer).2
        imsi' d =
      if gsup.messageType = lib.msgt .updateLocation .result ∧ imsi' = imsi ∧
          (stateOf proxy imsi d).vlrNamePreliminary = destination then
        .updated now destination (viaProxy viaPeer destination)
      else stateOf proxy imsi' d := by
  have hne : lib.msgt .insertData .request ≠ lib.msgt .updateLocation .result := fun heq =>
    absurd (lib.msgt_eq_iff.1 heq).1 (by decide)
  unfold proxyAcknowledgeGsupFromRemoteHlr
  simp only
  split
  next hinsert =>
      rw [if_neg fun h => hne (hinsert.symm.trans h.1)]
      exact evolves_storeMsisdn now hget gsup imsi' d
  next =>
      by_cases htype : gsup.messageType = lib.msgt .updateLocation .result
      · simp only [htype, true_and, if_true]
        exact stateOf_storeLu lib now hget destination _ imsi' d
      · rw [if_neg htype, if_neg fun h => htype h.1]

theorem acknowledgeFrom_eq_zero_iff (lib : ProxyLib) (now : Int) (proxy : Proxy)
    (subscr : ProxySubscr) {gsup : GsupMessage}
    (htype : gsup.messageType = lib.msgt .updateLocation .result)
    (destination viaPeer : IpaName) :
    (proxyAcknowledgeGsupFromRemoteHlr lib now proxy subscr gsup destination viaPeer).1 = 0 ↔
      ∃ d, (subscr.state d).vlrNamePreliminary = destination := by
  have hne : gsup.messageType ≠ lib.msgt .insertData .request := fun heq =>
    absurd (lib.msgt_eq_iff.1 (htype.symm.trans heq)).1 (by decide)
  unfold proxyAcknowledgeGsupFromRemoteHlr
  simp only
  rw [if_neg hne, if_pos htype]
  exact storeLu_eq_zero_iff lib now proxy subscr destination _

/-! ## Messages of remote HLRs -/

/-- The VLR that a message is for. -/
def destinationOf (gsup : GsupMessage) : IpaName :=
  (ipaNameSet IpaName.zero gsup.destinationName).2

/-- A message from a remote HLR is for a subscriber with an entry and for a VLR that is connected:
the entry, and the connection. -/
def reaches (lib : ProxyLib) (env : Env) (s : State) (gsup : GsupMessage) :
    Option (ProxySubscr × Nat) :=
  if !lib.imsiStrValid gsup.imsi then none
  else
    match proxySubscrGetByImsi s.proxy gsup.imsi with
    | none => none
    | some subscr =>
        if (ipaNameSet IpaName.zero gsup.destinationName).1 ≠ 0 then none
        else (gsupRouteFindByIpaName env.routes (destinationOf gsup)).map fun conn => (subscr, conn)

theorem get_of_reaches {gsup : GsupMessage} {conn : Nat}
    (h : reaches lib env s gsup = some (subscr, conn)) :
    proxySubscrGetByImsi s.proxy gsup.imsi = some subscr := by
  unfold reaches at h
  split at h
  · cases h
  · split at h
    · cases h
    next found hget =>
        split at h
        · cases h
        · obtain ⟨conn', -, heq⟩ := Option.map_eq_some_iff.1 h
          rw [hget, (Prod.mk.inj heq).1]

theorem forwardToVlr_fst (lib : ProxyLib) (env : Env) (s : State) (subscr : ProxySubscr)
    (gsup : GsupMessage) :
    (proxySubscrForwardToVlr lib env s subscr gsup).2.1 =
      if (ipaNameSet IpaName.zero gsup.destinationName).1 ≠ 0 then s
      else
        match gsupRouteFindByIpaName env.routes (destinationOf gsup) with
        | none => s
        | some conn =>
            { s with proxy := (proxyAcknowledgeGsupFromRemoteHlr lib env.now s.proxy subscr gsup
                (destinationOf gsup) (env.peerName conn)).2 } := by
  unfold proxySubscrForwardToVlr destinationOf
  simp only
  split
  · rfl
  · cases gsupRouteFindByIpaName env.routes (ipaNameSet IpaName.zero gsup.destinationName).2 with
    | none => rfl
    | some conn =>
        simp only
        split
        · rfl
        · cases lib.gsupEncode gsup <;> rfl

/-- **Only messages that reach the proxy do something there.** -/
theorem remoteHlrRx_fst (lib : ProxyLib) (env : Env) (s : State) (rh : RemoteHlr)
    (msg : List UInt8) :
    (remoteHlrRx lib env s rh msg).1 =
      match lib.gsupDecode msg with
      | none => s
      | some gsup =>
          match reaches lib env s gsup with
          | none => s
          | some (subscr, conn) =>
              { s with proxy := (proxyAcknowledgeGsupFromRemoteHlr lib env.now s.proxy subscr gsup
                  (destinationOf gsup) (env.peerName conn)).2 } := by
  unfold remoteHlrRx
  cases lib.gsupDecode msg with
  | none => rfl
  | some gsup =>
      simp only [reaches]
      split
      · rfl
      · cases hget : proxySubscrGetByImsi s.proxy gsup.imsi with
        | none => rfl
        | some subscr =>
            have hforwarded := forwardToVlr_fst lib env s subscr gsup
            simp only
            generalize proxySubscrForwardToVlr lib env s subscr gsup = forwarded at hforwarded
            have hstate : ∀ out, (if forwarded.1 ≠ 0 then (forwarded.2.1, forwarded.2.2 ++ out)
                else forwarded.2).1 = forwarded.2.1 := fun out => by split <;> rfl
            rw [hstate, hforwarded]
            split
            · rfl
            · cases gsupRouteFindByIpaName env.routes (destinationOf gsup) <;> rfl

/-- An Update Location Result that reaches the proxy, and when. -/
structure LuResult where
  imsi : CStr
  destination : IpaName
  via : IpaName
  now : Int

/-- The message that comes over a link. -/
def receives (lib : ProxyLib) (s : State) : Input → Option (Env × GsupMessage)
  | .remoteRx ref msg env =>
      match Keyed.find RemoteHlr.ref s.remoteHlrs ref with
      | none => none
      | some _ => (lib.gsupDecode msg).map fun gsup => (env, gsup)
  | _ => none

/-- The Update Location Result that reaches the proxy. -/
def luResult (lib : ProxyLib) (s : State) (input : Input) : Option LuResult :=
  match receives lib s input with
  | none => none
  | some (env, gsup) =>
      if gsup.messageType = lib.msgt .updateLocation .result then
        (reaches lib env s gsup).map fun reached =>
          ⟨gsup.imsi, destinationOf gsup, viaProxy (env.peerName reached.2) (destinationOf gsup),
            env.now⟩
      else none

/-- What is known of a domain after an Update Location Result. -/
def LuResult.apply (r : LuResult) (imsi : CStr) (state : DomainState) : DomainState :=
  if imsi = r.imsi ∧ state.vlrNamePreliminary = r.destination then
    .updated r.now r.destination r.via
  else state

/-- **A message of a remote HLR only does something to what is known of domains if it is an Update
Location Result that reaches the proxy.** -/
theorem stateOf_remoteRx (lib : ProxyLib) (s : State) {input : Input}
    (hremote : input.isLocal = false) (imsi : CStr) (d : Domain) :
    stateOf (step lib s input).1.proxy imsi d =
      match luResult lib s input with
      | none => stateOf s.proxy imsi d
      | some r => r.apply imsi (stateOf s.proxy imsi d) := by
  cases input with
  | remoteRx ref msg env =>
      rw [step, onRemoteHlr, luResult, receives]
      cases Keyed.find RemoteHlr.ref s.remoteHlrs ref with
      | none => rfl
      | some rh =>
          simp only [remoteHlrRx_fst]
          cases lib.gsupDecode msg with
          | none => rfl
          | some gsup =>
              simp only [Option.map_some]
              cases hreaches : reaches lib env s gsup with
              | none =>
                  by_cases htype : gsup.messageType = lib.msgt .updateLocation .result
                  · rw [if_pos htype]
                    rfl
                  · rw [if_neg htype]
              | some reached =>
                  have hget := get_of_reaches hreaches
                  simp only
                  rw [stateOf_acknowledgeFrom lib env.now hget]
                  by_cases htype : gsup.messageType = lib.msgt .updateLocation .result
                  · rw [if_pos htype]
                    by_cases himsi : imsi = gsup.imsi
                    · subst himsi
                      simp [LuResult.apply, htype]
                    · simp [LuResult.apply, himsi]
                  · rw [if_neg htype, if_neg fun h => htype h.1]
  | _ => cases hremote

end Dgsm
end OsmoHlr
