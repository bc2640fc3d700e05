import OsmoHlr.Dgsm.DomainStates
import OsmoHlr.Dgsm.ProxyLibHost

/-!
# Location Updates through the proxy

An Update Location Result says neither which request it answers nor for which domain, so
that the proxy goes by who has asked last for each domain.  Here runs are seen together with
what has happened in them, and with the request that each answer of the home HLR is to.

* `holder` — who has asked last for a domain and has had no result since.
* `tracks_run` — that is who an entry takes a result for.
* `answers_accepted_iff` — which answers are accepted.
* `changes_only_by_answers_iff` — which results change only what they are about.
-/

namespace OsmoHlr
namespace Dgsm

open CString CniPeerId Gsup

/-! ## What has happened -/

/-- Something that has happened. -/
inductive LuEvent where
  /-- The proxy lets a request for a Location Update pass. -/
  | request (ptr : ReqPtr)
  /-- A request is forwarded to the home HLR. -/
  | forwarded (ptr : ReqPtr)
  /-- The home HLR has answered a request. -/
  | answered (ref : Nat)
  /-- An Update Location Result has reached the proxy. -/
  | result (imsi : CStr) (destination : IpaName)
  /-- There are entries for these IMSIs, and for no others. -/
  | entries (imsis : List CStr)
  deriving DecidableEq

/-- The VLR that has last asked for a domain by name, unless a result for it has come since, or the
entry is gone.  The latest that has happened is the first. -/
def holder (imsi : CStr) (d : Domain) : List LuEvent → IpaName
  | [] => IpaName.zero
  | .request ptr :: history =>
      if imsiOf ptr = imsi ∧ named ptr.req.gsup.cnDomain = some d then ptr.req.sourceName.ipaName
      else holder imsi d history
  | .result imsi' destination :: history =>
      if imsi = imsi' ∧ holder imsi d history = destination then IpaName.zero
      else holder imsi d history
  | .entries imsis :: history => if imsi ∈ imsis then holder imsi d history else IpaName.zero
  | .forwarded _ :: history => holder imsi d history
  | .answered _ :: history => holder imsi d history

/-- The state, and what has happened. -/
structure Tracked where
  state : State
  history : List LuEvent

/-- An input, and the request to which a message of the home HLR is the answer. -/
structure TrackedInput where
  input : Input
  answers : Option Nat

variable (lib : ProxyLib)

/-- The request that is answered. -/
def answeredBy (s : State) (i : TrackedInput) : List Nat :=
  match receives lib s i.input with
  | none => []
  | some (_, gsup) =>
      if gsup.messageType = lib.msgt .updateLocation .result ∨
          gsup.messageType = lib.msgt .updateLocation .error then i.answers.toList
      else []

/-- The IMSIs that have an entry. -/
def imsisOf (proxy : Proxy) : List CStr :=
  proxy.subscrList.entries.map ProxySubscrListentry.imsi

/-- What happens in a step, the latest first. -/
def luEvents (s : State) (i : TrackedInput) : List LuEvent :=
  .entries (imsisOf (step lib s i.input).1.proxy) ::
    ((answeredBy lib s i).map .answered ++
      ((luResult lib s i.input).toList.map (fun r => .result r.imsi r.destination) ++
        ((forwardedOf (step lib s i.input).2).map .forwarded ++
          ((receivedOf (step lib s i.input).2).filter fun ptr => AsksLu lib ptr).map .request)))

/-- The whole as a machine that keeps in mind what has happened. -/
def trackedMachine : Machine Tracked TrackedInput Out where
  step t i :=
    (⟨(step lib t.state i.input).1, luEvents lib t.state i ++ t.history⟩,
      (step lib t.state i.input).2)

/-- Nothing has happened. -/
def Tracked.init : Tracked := ⟨State.init, []⟩

variable {lib} {imsi : CStr} {d : Domain} {history : List LuEvent} {t : Tracked} {i : TrackedInput}
  {proxy : Proxy}

/-! ## Who has asked last -/

theorem mem_imsisOf : imsi ∈ imsisOf proxy ↔ (proxySubscrGetByImsi proxy imsi).isSome := by
  rw [Option.isSome_iff_ne_none, ne_eq, proxySubscrGetByImsi, Option.map_eq_none_iff,
    proxyGetByImsi, Keyed.find_eq_none_iff, imsisOf, List.mem_map]
  simp

theorem holder_answered (refs : List Nat) :
    holder imsi d (refs.map .answered ++ history) = holder imsi d history := by
  induction refs with
  | nil => rfl
  | cons ref refs ih => exact ih

theorem holder_forwarded (ptrs : List ReqPtr) :
    holder imsi d (ptrs.map .forwarded ++ history) = holder imsi d history := by
  induction ptrs with
  | nil => rfl
  | cons ptr ptrs ih => exact ih

/-- Who asks is the one to have asked last. -/
theorem holder_requests {state : DomainState}
    (h : state.vlrNamePreliminary = holder imsi d history) (ptrs : List ReqPtr) :
    (ptrs.foldr (fun ptr state => asked ptr imsi d state) state).vlrNamePreliminary =
      holder imsi d (ptrs.map .request ++ history) := by
  induction ptrs with
  | nil => exact h
  | cons ptr ptrs ih =>
      rw [List.foldr_cons, asked, List.map_cons, List.cons_append, holder]
      by_cases hnamed : imsiOf ptr = imsi ∧ named ptr.req.gsup.cnDomain = some d
      · rw [if_pos hnamed, if_pos hnamed]
      · rw [if_neg hnamed, if_neg hnamed]
        exact ih

theorem holder_result {state : DomainState}
    (h : state.vlrNamePreliminary = holder imsi d history) (r : LuResult) :
    (r.apply imsi state).vlrNamePreliminary =
      holder imsi d (.result r.imsi r.destination :: history) := by
  rw [LuResult.apply, holder, ← h]
  by_cases hmatch : imsi = r.imsi ∧ state.vlrNamePreliminary = r.destination
  · rw [if_pos hmatch, if_pos hmatch]
    rfl
  · rw [if_neg hmatch, if_neg hmatch]

/-- What holds of the state and what has happened. -/
structure Tracks (lib : ProxyLib) (t : Tracked) : Prop where
  links : LinksDistinct lib t.state
  armed : Armed lib t.state
  holder_eq : ∀ imsi d, (stateOf t.state.proxy imsi d).vlrNamePreliminary = holder imsi d t.history

theorem holder_luEvents (s : State) (i : TrackedInput) :
    holder imsi d (luEvents lib s i ++ history) =
      if imsi ∈ imsisOf (step lib s i.input).1.proxy then
        holder imsi d
          ((luResult lib s i.input).toList.map (fun r => .result r.imsi r.destination) ++
            (((receivedOf (step lib s i.input).2).filter fun ptr => AsksLu lib ptr).map .request ++
              history))
      else IpaName.zero := by
  rw [luEvents, List.cons_append, holder, List.append_assoc, holder_answered, List.append_assoc]
  cases luResult lib s i.input with
  | none =>
      rw [Option.toList_none, List.map_nil, List.nil_append, List.nil_append, List.append_assoc,
        holder_forwarded]
  | some r =>
      simp only [Option.toList_some, List.map_cons, List.map_nil, List.singleton_append, holder,
        List.append_assoc, holder_forwarded]

theorem receives_eq_none {s : State} {input : Input} (h : input.isLocal = true) :
    receives lib s input = none := by
  cases input with
  | remoteRx ref msg env => cases h
  | _ => rfl

theorem luResult_eq_none {s : State} {input : Input} (h : input.isLocal = true) :
    luResult lib s input = none := by
  rw [luResult, receives_eq_none h]

theorem request_eq_nil {s : State} {input : Input} (h : input.isLocal = false) :
    input.request s = [] := by
  cases input with
  | remoteRx ref msg env => rfl
  | _ => cases h

/-- **A step takes a result for the one who has asked last.** -/
theorem Tracks.step (h : Tracks lib t) (i : TrackedInput) :
    Tracks lib ((trackedMachine lib).step t i).1 := by
  obtain ⟨_, -, hkeeps⟩ := keeps_step h.links h.armed i.input
  refine ⟨hkeeps.links, hkeeps.armed, ?_⟩
  intro imsi d
  show _ = holder imsi d (luEvents lib t.state i ++ t.history)
  rw [holder_luEvents]
  by_cases hmem : imsi ∈ imsisOf (Dgsm.step lib t.state i.input).1.proxy
  · rw [if_pos hmem]
    have hsome := mem_imsisOf.1 hmem
    cases hlocal : i.input.isLocal with
    | true =>
        rw [luResult_eq_none hlocal]
        have heffect := effect_step h.links h.armed hlocal imsi d
        rw [if_pos hsome] at heffect
        show (stateOf (Dgsm.step lib t.state i.input).1.proxy imsi d).vlrNamePreliminary = _
        rw [heffect]
        exact holder_requests (h.holder_eq imsi d) _
    | false =>
        rw [receivedOf_step_eq_nil h.links h.armed (request_eq_nil hlocal)]
        show (stateOf (Dgsm.step lib t.state i.input).1.proxy imsi d).vlrNamePreliminary = _
        rw [stateOf_remoteRx lib t.state hlocal]
        cases luResult lib t.state i.input with
        | none => exact h.holder_eq imsi d
        | some r => exact holder_result (h.holder_eq imsi d) r
  · rw [if_neg hmem]
    have hnone := Option.not_isSome_iff_eq_none.1 fun hsome => hmem (mem_imsisOf.2 hsome)
    show (stateOf (Dgsm.step lib t.state i.input).1.proxy imsi d).vlrNamePreliminary = _
    rw [stateOf_eq_zero hnone]
    rfl

theorem tracks_init (lib : ProxyLib) : Tracks lib Tracked.init :=
  ⟨(ran_init lib).links, (ran_init lib).armed, fun _ _ => rfl⟩

/-! ## Answers -/

/-- The domain that a request is about: without the IE, it is PS. -/
def domainOf : CnDomain → Option Domain
  | .cs => some .cs
  | .ps => some .ps
  | .absent => some .ps
  | .other _ => none

/-- An Update Location Result is the answer to a request that was forwarded and has had none, and is
addressed to its source. -/
structure Answers (lib : ProxyLib) (history : List LuEvent) (answers : Option Nat)
    (gsup : GsupMessage) (ptr : ReqPtr) : Prop where
  isResult : gsup.messageType = lib.msgt .updateLocation .result
  isRequest : ptr.req.gsup.messageType = lib.msgt .updateLocation .request
  ref : answers = some ptr.ref
  forwarded : .forwarded ptr ∈ history
  unanswered : .answered ptr.ref ∉ history
  imsi : gsup.imsi = imsiOf ptr
  destination : gsup.destinationName = ptr.req.sourceName.ipaName.val

/-- Each result that is the answer to a request is accepted, and updates the record of its
domain. -/
def AnswersAccepted (lib : ProxyLib) (t : Tracked) (i : TrackedInput) : Prop :=
  ∀ env gsup ptr d, receives lib t.state i.input = some (env, gsup) →
    Answers lib t.history i.answers gsup ptr → domainOf ptr.req.gsup.cnDomain = some d →
    (∃ subscr conn, reaches lib env t.state gsup = some (subscr, conn) ∧
      (proxyAcknowledgeGsupFromRemoteHlr lib env.now t.state.proxy subscr gsup
        (destinationOf gsup) (env.peerName conn)).1 = 0) ∧
    (stateOf (step lib t.state i.input).1.proxy gsup.imsi d).lastLu = env.now ∧
      (stateOf (step lib t.state i.input).1.proxy gsup.imsi d).vlrName = destinationOf gsup

/-- Each result that is the answer to a request is for a VLR that is connected and has asked last for
the domain of the request by name; or it is taken for the other domain, and the record of the
domain already says what it should. -/
def AnswersAwaited (lib : ProxyLib) (t : Tracked) (i : TrackedInput) : Prop :=
  ∀ env gsup ptr d, receives lib t.state i.input = some (env, gsup) →
    Answers lib t.history i.answers gsup ptr → domainOf ptr.req.gsup.cnDomain = some d →
    (reaches lib env t.state gsup).isSome ∧
      (holder gsup.imsi d t.history = destinationOf gsup ∨
        (∃ other, holder gsup.imsi other t.history = destinationOf gsup) ∧
          (stateOf t.state.proxy gsup.imsi d).lastLu = env.now ∧
          (stateOf t.state.proxy gsup.imsi d).vlrName = destinationOf gsup)

theorem luResult_of_reaches {s : State} {input : Input} {env : Env} {gsup : GsupMessage}
    {subscr : ProxySubscr} {conn : Nat} (hreceives : receives lib s input = some (env, gsup))
    (htype : gsup.messageType = lib.msgt .updateLocation .result)
    (hreaches : reaches lib env s gsup = some (subscr, conn)) :
    luResult lib s input = some ⟨gsup.imsi, destinationOf gsup,
      viaProxy (env.peerName conn) (destinationOf gsup), env.now⟩ := by
  rw [luResult, hreceives]
  simp only
  rw [if_pos htype, hreaches]
  rfl

theorem isLocal_eq_false {s : State} {input : Input} {m : Env × GsupMessage}
    (h : receives lib s input = some m) : input.isLocal = false := by
  cases hlocal : input.isLocal with
  | false => rfl
  | true =>
      rw [receives_eq_none hlocal] at h
      cases h

/-- **Exactly the results that are awaited are accepted.** -/
theorem answersAccepted_iff (h : Tracks lib t) (i : TrackedInput) :
    AnswersAccepted lib t i ↔ AnswersAwaited lib t i := by
  refine forall₄_congr fun env gsup ptr d => forall₃_congr fun hreceives hanswers hdomain => ?_
  cases hreaches : reaches lib env t.state gsup with
  | none =>
      refine iff_of_false ?_ fun hawaited => absurd hawaited.1 (by simp)
      rintro ⟨⟨subscr, conn, hsome, -⟩, -⟩
      cases hsome
  | some reached =>
      obtain ⟨subscr, conn⟩ := reached
      have hget := get_of_reaches hreaches
      have hresult := luResult_of_reaches hreceives hanswers.isResult hreaches
      have hholder : ∀ d, (subscr.state d).vlrNamePreliminary = holder gsup.imsi d t.history :=
        fun d => stateOf_eq hget d ▸ h.holder_eq gsup.imsi d
      have haccepted : (∃ found conn', some (subscr, conn) = some (found, conn') ∧
          (proxyAcknowledgeGsupFromRemoteHlr lib env.now t.state.proxy found gsup
            (destinationOf gsup) (env.peerName conn')).1 = 0) ↔
          ∃ other, holder gsup.imsi other t.history = destinationOf gsup := by
        constructor
        · rintro ⟨found, conn', heq, hzero⟩
          obtain ⟨rfl, rfl⟩ := Prod.mk.inj (Option.some.inj heq)
          obtain ⟨other, hother⟩ :=
            (acknowledgeFrom_eq_zero_iff lib env.now _ _ hanswers.isResult _ _).1 hzero
          exact ⟨other, (hholder other).symm.trans hother⟩
        · rintro ⟨other, hother⟩
          exact ⟨subscr, conn, rfl, (acknowledgeFrom_eq_zero_iff lib env.now _ _ hanswers.isResult
            _ _).2 ⟨other, (hholder other).trans hother⟩⟩
      rw [haccepted, stateOf_remoteRx lib t.state (isLocal_eq_false hreceives), hresult]
      simp only [LuResult.apply, h.holder_eq, true_and, Option.isSome_some]
      by_cases hd : holder gsup.imsi d t.history = destinationOf gsup
      · rw [if_pos hd]
        exact iff_of_true ⟨⟨d, hd⟩, rfl, rfl⟩ (Or.inl hd)
      · rw [if_neg hd, or_iff_right hd]

/-- **In a run, the proxy accepts all answers and updates their domains if and only if each of them
is for the VLR that has asked last for the domain by name.** -/
theorem answers_accepted_iff (lib : ProxyLib) (inputs : List TrackedInput) :
    (trackedMachine lib).Guarded (AnswersAccepted lib) Tracked.init inputs ↔
      (trackedMachine lib).Guarded (AnswersAwaited lib) Tracked.init inputs :=
  (trackedMachine lib).guarded_congr (P := Tracks lib) (H := fun _ => True)
    (fun _ i h _ _ => h.step i) (fun _ i h _ => answersAccepted_iff h i) (tracks_init lib)
    (fun _ _ => trivial)

theorem receives_remoteRx {s : State} {ref : Nat} {msg : List UInt8} (rh : RemoteHlr)
    {gsup : GsupMessage} (hfind : Keyed.find RemoteHlr.ref s.remoteHlrs ref = some rh)
    (hdecode : lib.gsupDecode msg = some gsup) (env : Env) :
    receives lib s (.remoteRx ref msg env) = some (env, gsup) := by
  rw [receives, hfind, hdecode]
  rfl

/-- An MSC asks without the CN Domain IE, is answered, and the answer is refused. -/
theorem answer_refused :
    ¬(trackedMachine Host.proxyLib).Guarded (AnswersAccepted Host.proxyLib) Tracked.init
      [⟨.rx (Host.updateLocation "msc" .absent) Host.dgsmEnv, none⟩, ⟨Host.hlrFound, none⟩,
        ⟨.updown 1 true, none⟩, ⟨.remoteRx 1 ((Host.gsupEncode
          (Host.updateLocationAnswer "msc" .result)).getD []) Host.dgsmEnv, some 0⟩] := by
  rintro ⟨-, -, -, haccepted, -⟩
  have hanswer := haccepted Host.dgsmEnv (Host.updateLocationAnswer "msc" .result)
    ⟨0, Host.updateLocation "msc" .absent⟩ .ps
    (receives_remoteRx ⟨1, Host.hlrAddr, true, 0⟩ (by decide +kernel) (by decide +kernel) _)
    ⟨by decide +kernel, by decide +kernel, rfl, by decide +kernel, by decide +kernel,
      by decide +kernel, by decide +kernel⟩ rfl
  have hlast := hanswer.2.1
  revert hlast
  decide +kernel

/-! ## Changes -/

/-- Which VLR serves a domain, since when and through which proxy. -/
def DomainState.location (state : DomainState) : IpaName × Int × IpaName :=
  (state.vlrName, state.lastLu, state.vlrViaProxy)

/-- Where an entry is, a domain is only updated by the answer to a request for it. -/
def ChangesOnlyByAnswers (lib : ProxyLib) (t : Tracked) (i : TrackedInput) : Prop :=
  ∀ imsi d, (proxySubscrGetByImsi t.state.proxy imsi).isSome →
    (proxySubscrGetByImsi (step lib t.state i.input).1.proxy imsi).isSome →
    (stateOf (step lib t.state i.input).1.proxy imsi d).location ≠
      (stateOf t.state.proxy imsi d).location →
    ∃ env gsup ptr, receives lib t.state i.input = some (env, gsup) ∧ gsup.imsi = imsi ∧
      Answers lib t.history i.answers gsup ptr ∧ domainOf ptr.req.gsup.cnDomain = some d

/-- A result is only for a VLR that has asked last for a domain if it is the answer to a request for
that domain, or says what is known. -/
def OnlyAnswersAwaited (lib : ProxyLib) (t : Tracked) (i : TrackedInput) : Prop :=
  ∀ r d, luResult lib t.state i.input = some r → holder r.imsi d t.history = r.destination →
    (stateOf t.state.proxy r.imsi d).location = (r.destination, r.now, r.via) ∨
      ∃ env gsup ptr, receives lib t.state i.input = some (env, gsup) ∧ gsup.imsi = r.imsi ∧
        Answers lib t.history i.answers gsup ptr ∧ domainOf ptr.req.gsup.cnDomain = some d

theorem location_askedAll (ptrs : List ReqPtr) (imsi : CStr) (d : Domain) (state : DomainState) :
    (askedAll lib ptrs imsi d state).location = state.location := by
  unfold askedAll
  induction ptrs.filter fun ptr => AsksLu lib ptr with
  | nil => rfl
  | cons ptr ptrs ih =>
      rw [List.foldr_cons, ← ih, asked]
      split <;> rfl

/-- A message of a remote HLR neither makes nor deletes an entry. -/
theorem isSome_step_remote (lib : ProxyLib) (s : State) {input : Input}
    (hremote : input.isLocal = false) (imsi : CStr) :
    (proxySubscrGetByImsi (Dgsm.step lib s input).1.proxy imsi).isSome =
      (proxySubscrGetByImsi s.proxy imsi).isSome := by
  cases input with
  | remoteRx ref msg env =>
      rw [Dgsm.step, onRemoteHlr]
      split
      · rfl
      next rh _ =>
          obtain ⟨proxy, hproxy, hsame⟩ := sameAddrs_remoteHlrRx lib env s rh msg
          rw [hproxy]
          have haddr := congrArg Option.isSome (hsame.addrs imsi)
          rwa [addrOf, addrOf, Option.isSome_map, Option.isSome_map] at haddr
  | _ => cases hremote

theorem isSome_of_luResult {s : State} {input : Input} {r : LuResult}
    (h : luResult lib s input = some r) : (proxySubscrGetByImsi s.proxy r.imsi).isSome = true := by
  unfold luResult at h
  split at h
  · cases h
  next env gsup _ =>
      split at h
      · obtain ⟨⟨subscr, conn⟩, hreaches, rfl⟩ := Option.map_eq_some_iff.1 h
        exact Option.isSome_iff_exists.2 ⟨subscr, get_of_reaches hreaches⟩
      · cases h

/-- **Exactly the results that are the answer to what the VLR has asked for change what they
should.** -/
theorem changesOnlyByAnswers_iff (h : Tracks lib t) (i : TrackedInput) :
    ChangesOnlyByAnswers lib t i ↔ OnlyAnswersAwaited lib t i := by
  cases hlocal : i.input.isLocal with
  | true =>
      refine iff_of_true ?_ ?_
      · intro imsi d _ hsome hne
        have heffect := effect_step h.links h.armed hlocal imsi d
        rw [if_pos hsome] at heffect
        rw [heffect, location_askedAll] at hne
        exact absurd rfl hne
      · intro r d hresult
        rw [luResult_eq_none hlocal] at hresult
        cases hresult
  | false =>
      have hstate := stateOf_remoteRx lib t.state hlocal
      cases hresult : luResult lib t.state i.input with
      | none =>
          simp only [hresult] at hstate
          refine iff_of_true ?_ ?_
          · intro imsi d _ _ hne
            exact absurd (congrArg _ (hstate imsi d)) hne
          · intro r d hr
            rw [hresult] at hr
            cases hr
      | some r =>
          simp only [hresult] at hstate
          have hget := isSome_of_luResult hresult
          constructor
          · intro honly r' d hr hholder
            obtain rfl := Option.some.inj (hresult.symm.trans hr)
            rw [← h.holder_eq] at hholder
            have happly : r.apply r.imsi (stateOf t.state.proxy r.imsi d) =
                .updated r.now r.destination r.via := if_pos ⟨rfl, hholder⟩
            by_cases hsame : (stateOf t.state.proxy r.imsi d).location =
                (r.destination, r.now, r.via)
            · exact Or.inl hsame
            · refine Or.inr (honly r.imsi d hget ?_ ?_)
              · rw [isSome_step_remote lib t.state hlocal]
                exact hget
              · rw [hstate, happly]
                exact fun heq => hsame heq.symm
          · intro hawaited imsi d _ _ hne
            rw [hstate, LuResult.apply] at hne
            split at hne
            next hmatch =>
                obtain ⟨rfl, hprelim⟩ := hmatch
                rw [h.holder_eq] at hprelim
                exact (hawaited r d hresult hprelim).resolve_left fun heq => hne heq.symm
            next => exact absurd rfl hne

/-- **In a run, what is known of a domain only changes by answers to requests for it if and only if
each result is the answer to what its VLR has asked for last, in each domain in which it has asked
last.** -/
theorem changes_only_by_answers_iff (lib : ProxyLib) (inputs : List TrackedInput) :
    (trackedMachine lib).Guarded (ChangesOnlyByAnswers lib) Tracked.init inputs ↔
      (trackedMachine lib).Guarded (OnlyAnswersAwaited lib) Tracked.init inputs :=
  (trackedMachine lib).guarded_congr (P := Tracks lib) (H := fun _ => True)
    (fun _ i h _ _ => h.step i) (fun _ i h _ => changesOnlyByAnswers_iff h i) (tracks_init lib)
    (fun _ _ => trivial)

/-- An MSC asks for CS and is refused, then it asks for PS, and the result changes CS as well. -/
theorem other_domain_changed :
    ¬(trackedMachine Host.proxyLib).Guarded (ChangesOnlyByAnswers Host.proxyLib) Tracked.init
      [⟨.rx (Host.updateLocation "msc" .cs) Host.dgsmEnv, none⟩, ⟨Host.hlrFound, none⟩,
        ⟨.updown 1 true, none⟩,
        ⟨.remoteRx 1 ((Host.gsupEncode (Host.updateLocationAnswer "msc" .error)).getD [])
          Host.dgsmEnv, some 0⟩,
        ⟨.rx (Host.updateLocation "msc" .ps) Host.dgsmEnv, none⟩,
        ⟨.remoteRx 1 ((Host.gsupEncode (Host.updateLocationAnswer "msc" .result)).getD [])
          Host.dgsmEnv, some 2⟩] := by
  rintro ⟨-, -, -, -, -, honly, -⟩
  obtain ⟨env, gsup, ptr, -, -, hanswers, hdomain⟩ := honly Host.roamer .cs (by decide +kernel)
    (by decide +kernel) (by decide +kernel)
  have href : some 2 = some ptr.ref := hanswers.ref
  -- the only request with that number is the second one
  have hforwarded := hanswers.forwarded
  generalize hhistory : Tracked.history _ = history at hforwarded
  have hall : history.all (fun event => match event with
      | .forwarded ptr => ptr.ref ≠ 2 ∨ domainOf ptr.req.gsup.cnDomain ≠ some .cs
      | _ => true) = true := by
    rw [← hhistory]
    decide +kernel
  have hptr := of_decide_eq_true (List.all_eq_true.1 hall _ hforwarded)
  rcases hptr with hptr | hptr
  · exact hptr (Option.some.inj href).symm
  · exact hptr hdomain

end Dgsm
end OsmoHlr
