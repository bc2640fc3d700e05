import OsmoHlr.Dgsm.ProxyWaiting
import OsmoHlr.Mslookup.Client

/-!
# Who takes a request

`dgsm_check_forward_gsup_msg` together with the client that it asks for the home HLR.  A lookup
is refused only for a query that is not valid, and `osmo_gsup_req_new` lets no request pass of
which such a query would be made, so that a request which waits is never given back.

* `Node` — D-GSM and its mslookup client, whose results it gets.
* `Taken`, `Untouched`, `Dropped` — what may have become of a request.
* `ran_runNode` — requests are accounted for, as without the client.
* `dgsmCheckForwardGsupMsg_agrees` — and the same is done, unless a handle is used again.
* `dgsmCheckForwardGsupMsg_spec` — a request is taken or dropped, or else untouched.
-/

namespace OsmoHlr
namespace Dgsm

open CString CniPeerId Gsup SharedQueue

/-! ## D-GSM and its client -/

/-- D-GSM, and `g_hlr->mslookup.client.client`.  The lookups are the requests of the client: those of
`State` stay empty. -/
structure Node where
  dgsm : State
  client : MslookupClient.Client

/-- No lookup has been requested yet. -/
def Node.init (lookupMethods : List Bool) : Node :=
  ⟨State.init, MslookupClient.Client.new lookupMethods⟩

/-- `osmo_mslookup_client_active`, of a client that is there. -/
def clientActive (client : MslookupClient.Client) : Bool := !client.lookupMethods.isEmpty

/-- The `handling` of `dgsm_check_forward_gsup_msg`. -/
def lookupHandling (resultTimeoutMilliseconds : UInt32) : MslookupClient.QueryHandling :=
  ⟨resultTimeoutMilliseconds, 0⟩

variable (lib : ProxyLib)

/-- The calls of `resolve_hlr_result_cb` among those that the client makes. -/
def resultCbs (env : Env) : List MslookupClient.Event → State → Res
  | [], s => (s, [])
  | .resultCb _ _ query result :: events, s =>
      (resolveHlrResultCb lib env s query result).andThen (resultCbs env events)
  | _ :: events, s => resultCbs env events s

/-- What a call into the client leaves, when its callbacks have been called. -/
def Node.onClient (n : Node) (env : Env)
    (called : MslookupClient.Client × List MslookupClient.Event) : Node × List Out :=
  let res := resultCbs lib env called.2 n.dgsm
  (⟨res.1, called.1⟩, res.2)

/-- An operation of D-GSM that does not ask the client. -/
def Node.onDgsm (n : Node) (res : Res) : Node × List Out := ({ n with dgsm := res.1 }, res.2)

/-- The part of `dgsm_check_forward_gsup_msg` behind the check for an active client: the request
waits, and the home HLR is looked up. -/
def Node.lookUpHlr (n : Node) (env : Env) (resultTimeoutMilliseconds : UInt32)
    (proxySubscr : ProxySubscr) (ptr : ReqPtr) : Bool × Node × List Out :=
  let spooled := proxySubscrForwardToRemoteHlr lib env n.dgsm proxySubscr ptr
  if spooled.1 ≠ 0 then (true, n.onDgsm spooled.2)
  else
    let requested := MslookupClient.request lib.toLibosmocore n.client (hlrQuery (imsiOf ptr))
      (lookupHandling resultTimeoutMilliseconds)
    let called := (n.onDgsm spooled.2).1.onClient lib env requested.2
    if requested.1 = 0 then
      let deleted := called.1.dgsm.onProxy (proxySubscrDel lib called.1.dgsm.proxy (imsiOf ptr))
      (false, { called.1 with dgsm := deleted.1 }, spooled.2.2 ++ called.2 ++ deleted.2)
    else (true, called.1, spooled.2.2 ++ called.2)

/-- `dgsm_check_forward_gsup_msg` with the client; what `env` has of it is not looked at. -/
def Node.dgsmCheckForwardGsupMsg (n : Node) (env : Env) (resultTimeoutMilliseconds : UInt32)
    (ptr : ReqPtr) : Bool × Node × List Out :=
  if env.dbSubscrExistsByImsi (imsiOf ptr) = 0 then (false, n, [])
  else
    match proxySubscrGetByImsi n.dgsm.proxy (imsiOf ptr) with
    | some proxySubscr =>
        (true, n.onDgsm (proxySubscrForwardToRemoteHlr lib env n.dgsm proxySubscr ptr).2)
    | none =>
        let proxySubscr := ProxySubscr.ofImsi (imsiOf ptr)
        let n := { n with dgsm := n.dgsm.createOrUpdate env.now proxySubscr }
        if lib.sockaddrStrIsNonzero env.gsupGatewayProxy then
          (true, n.onDgsm (forwardToGateway lib env n.dgsm proxySubscr ptr))
        else if !clientActive n.client then (false, n, [])
        else n.lookUpHlr lib env resultTimeoutMilliseconds proxySubscr ptr

/-- The part of `read_cb` that is about D-GSM. -/
def Node.readCb (n : Node) (env : Env) (resultTimeoutMilliseconds : UInt32) (ptr : ReqPtr) :
    Node × List Out :=
  if clientActive n.client ∨ lib.sockaddrStrIsNonzero env.gsupGatewayProxy then
    let checked := n.dgsmCheckForwardGsupMsg lib env resultTimeoutMilliseconds ptr
    if checked.1 then checked.2 else (checked.2.1, checked.2.2 ++ [.local ptr])
  else (n, [.local ptr])

/-- What may happen. -/
inductive NodeInput where
  /-- A request comes to `read_cb`. -/
  | rx (req : GsupReq) (env : Env) (resultTimeoutMilliseconds : UInt32)
  /-- A method has a result for a handle. -/
  | rxResult (requestHandle : UInt32) (result : Mslookup.Result) (env : Env)
  /-- The timer of a lookup expires. -/
  | timeout (ref : Nat) (env : Env)
  /-- Methods are added and deleted. -/
  | methods (lookupMethods : List Bool)
  /-- Something else, neither a request nor a result. -/
  | other (input : Input)

/-- The request for which room is allocated. -/
def Node.alloc (n : Node) (req : GsupReq) : Node × ReqPtr :=
  ({ n with dgsm := { n.dgsm with allocs := n.dgsm.allocs + 1 } }, ⟨n.dgsm.allocs, req⟩)

/-- One of them. -/
def stepNode (n : Node) : NodeInput → Node × List Out
  | .rx req env resultTimeoutMilliseconds =>
      (n.alloc req).1.readCb lib env resultTimeoutMilliseconds (n.alloc req).2
  | .rxResult requestHandle result env =>
      n.onClient lib env (MslookupClient.rxResult n.client requestHandle result)
  | .timeout ref env => n.onClient lib env (MslookupClient.timerExpires n.client ref)
  | .methods lookupMethods =>
      ({ n with client := { n.client with lookupMethods := lookupMethods } }, [])
  | .other (.rx _ _) | .other (.result _ _ _) => (n, [])
  | .other input => n.onDgsm (step lib n.dgsm input)

/-- D-GSM and its client as a machine. -/
def nodeMachine : Machine Node NodeInput Out := ⟨stepNode lib⟩

/-! ## What becomes of a request -/

/-- How many entries of the queue hold a request. -/
def entriesOf (s : State) (ptr : ReqPtr) : Nat :=
  s.proxy.pendingGsupReqs.countP fun p => p.ref = ptr.ref

/-- A request was forwarded, answered or placed in one deferred entry. -/
inductive Taken (s : State) (out : List Out) (ptr : ReqPtr) : Prop
  | forwarded (addr : SockaddrStr) (msg : List UInt8)
      (hout : about ptr.ref out = .forwarded ptr addr msg :: reqOut ptr [.free ptr.req])
      (hentries : entriesOf s ptr = 0) : Taken s out ptr
  | answered (response : GsupMessage)
      (hout : about ptr.ref out = reqOut ptr [.sendResponseCb ptr.req response, .free ptr.req])
      (hentries : entriesOf s ptr = 0) : Taken s out ptr
  | deferred (hout : about ptr.ref out = []) (hentries : entriesOf s ptr = 1) : Taken s out ptr

/-- A request was freed without an answer, since there is none for its type or nothing to send one
with. -/
structure Dropped (s : State) (out : List Out) (ptr : ReqPtr) : Prop where
  out_eq : about ptr.ref out = reqOut ptr [.free ptr.req]
  entries : entriesOf s ptr = 0
  unanswerable : lib.isMsgtRequest ptr.req.gsup.messageType = false ∨
    ptr.req.sendResponseCb = false

/-- A request was neither answered nor freed, and no deferred entry has it. -/
structure Untouched (s : State) (out : List Out) (ptr : ReqPtr) : Prop where
  out_eq : about ptr.ref out = []
  entries : entriesOf s ptr = 0

/-- The call of `dgsm_check_forward_gsup_msg` for a new request. -/
def Node.checkNew (n : Node) (env : Env) (resultTimeoutMilliseconds : UInt32) (req : GsupReq) :
    Bool × Node × List Out :=
  (n.alloc req).1.dgsmCheckForwardGsupMsg lib env resultTimeoutMilliseconds (n.alloc req).2

/-- A new request is taken, or left untouched. -/
def TakesOrLeaves (n : Node) (env : Env) (resultTimeoutMilliseconds : UInt32) (req : GsupReq) :
    Prop :=
  let checked := n.checkNew lib env resultTimeoutMilliseconds req
  if checked.1 then Taken checked.2.1.dgsm checked.2.2 (n.alloc req).2
  else Untouched checked.2.1.dgsm checked.2.2 (n.alloc req).2

/-- A new request is taken or dropped, or left untouched. -/
def TakesDropsOrLeaves (n : Node) (env : Env) (resultTimeoutMilliseconds : UInt32)
    (req : GsupReq) : Prop :=
  let checked := n.checkNew lib env resultTimeoutMilliseconds req
  if checked.1 then
    Taken checked.2.1.dgsm checked.2.2 (n.alloc req).2 ∨
      Dropped lib checked.2.1.dgsm checked.2.2 (n.alloc req).2
  else Untouched checked.2.1.dgsm checked.2.2 (n.alloc req).2

variable {lib} {env : Env} {n : Node} {s s' : State} {subscr : ProxySubscr} {ptr : ReqPtr}
  {req : GsupReq} {received : List ReqPtr} {out out' : List Out} {resultTimeoutMilliseconds : UInt32}

/-! ## The queue of a node -/

theorem keeps_resultCbs (env : Env) (events : List MslookupClient.Event)
    (hlinks : LinksDistinct lib s) (harmed : Armed lib s) :
    Keeps lib [] s (resultCbs lib env events s) := by
  induction events generalizing s with
  | nil => exact .refl hlinks harmed
  | cons event events ih =>
      cases event with
      | resultCb ref requestHandle query result =>
          have hresolved := keeps_resolveHlrResultCb env hlinks harmed query result
          exact hresolved.andThen _ (ih hresolved.links hresolved.armed)
      | methodRequest _ _ _ => exact ih hlinks harmed
      | methodCleanup _ _ => exact ih hlinks harmed
      | returned _ _ => exact ih hlinks harmed

/-- What a step does to the queue of a node, and what it keeps. -/
abbrev KeepsNode (lib : ProxyLib) (received : List ReqPtr) (s : State) (res : Node × List Out) :
    Prop := Keeps lib received s (res.1.dgsm, res.2)

theorem keepsNode_lookUpHlr (env : Env) (resultTimeoutMilliseconds : UInt32)
    (hlinks : LinksDistinct lib n.dgsm) (harmed : Armed lib n.dgsm)
    (hget : proxySubscrGetByImsi n.dgsm.proxy (imsiOf ptr) = some subscr) :
    KeepsNode lib [ptr] n.dgsm (n.lookUpHlr lib env resultTimeoutMilliseconds subscr ptr).2 := by
  have hspooled := keeps_forward env hlinks harmed hget
  unfold Node.lookUpHlr
  simp only
  split
  · exact hspooled
  · generalize MslookupClient.request lib.toLibosmocore n.client (hlrQuery (imsiOf ptr))
      (lookupHandling resultTimeoutMilliseconds) = requested
    have hcalled := hspooled.andThen _
      (keeps_resultCbs env requested.2.2 hspooled.links hspooled.armed)
    split
    · exact hcalled.andThen (fun s => s.onProxy (proxySubscrDel lib s.proxy (imsiOf ptr)))
        (keeps_del hcalled.links hcalled.armed (imsiOf ptr))
    · exact hcalled

/-- What is taken has been received. -/
theorem keepsNode_dgsmCheckForwardGsupMsg (env : Env) (resultTimeoutMilliseconds : UInt32)
    (hlinks : LinksDistinct lib n.dgsm) (harmed : Armed lib n.dgsm) (ptr : ReqPtr) :
    ∃ received, received.Sublist [ptr] ∧
      KeepsNode lib received n.dgsm
        (n.dgsmCheckForwardGsupMsg lib env resultTimeoutMilliseconds ptr).2 ∧
      ((n.dgsmCheckForwardGsupMsg lib env resultTimeoutMilliseconds ptr).1 = true →
        received = [ptr]) := by
  unfold Node.dgsmCheckForwardGsupMsg
  split
  · exact ⟨[], List.nil_sublist _, .refl hlinks harmed, fun h => by cases h⟩
  · split
    next subscr hget =>
        exact ⟨[ptr], List.Sublist.refl _, keeps_forward env hlinks harmed hget, fun _ => rfl⟩
    next =>
        simp only
        have hcreated := created_ofImsi hlinks harmed env.now (imsiOf ptr)
        generalize ProxySubscr.ofImsi (imsiOf ptr) = new at hcreated
        split
        · exact ⟨[ptr], List.Sublist.refl _,
            (keeps_forwardToGateway env hcreated.links hcreated.armed hcreated.get).of_flows
              hcreated.flows (Nat.le_refl _), fun _ => rfl⟩
        · split
          · exact ⟨[], List.nil_sublist _, (Keeps.refl hcreated.links hcreated.armed).of_flows
              hcreated.flows (Nat.le_refl _), fun h => by cases h⟩
          · have hlookUp := keepsNode_lookUpHlr env resultTimeoutMilliseconds
              (n := { n with dgsm := n.dgsm.createOrUpdate env.now new }) hcreated.links
              hcreated.armed hcreated.get
            exact ⟨[ptr], List.Sublist.refl _,
              hlookUp.of_flows hcreated.flows (Nat.le_refl _), fun _ => rfl⟩

/-- The query for the home HLR of a valid IMSI is valid. -/
theorem queryValid_hlrQuery (lib : ProxyLib) {imsi : CStr} (h : lib.imsiStrValid imsi = true) :
    MslookupClient.queryValid lib.toLibosmocore (hlrQuery imsi) = true := by
  have hservice : Mslookup.serviceValid (hlrQuery imsi).service = true := by
    show Mslookup.serviceValid (CStr.lit "gsup.hlr") = true
    decide
  have hid : Mslookup.idValid lib.toLibosmocore (hlrQuery imsi).id = true := h
  simp [MslookupClient.queryValid, hservice, hid]

/-- **No lookup for a valid IMSI is refused.** -/
theorem request_ne_zero (client : MslookupClient.Client) (handling : MslookupClient.QueryHandling)
    {imsi : CStr} (h : lib.imsiStrValid imsi = true) :
    (MslookupClient.request lib.toLibosmocore client (hlrQuery imsi) handling).1 ≠ 0 := by
  have hhandle := MslookupClient.newHandle_ne_zero client
  unfold MslookupClient.request
  rw [queryValid_hlrQuery lib h]
  exact hhandle

/-- What is looked up for a valid IMSI is taken. -/
theorem lookUpHlr_fst (env : Env) (resultTimeoutMilliseconds : UInt32) (n : Node)
    (subscr : ProxySubscr) (h : lib.imsiStrValid (imsiOf ptr) = true) :
    (n.lookUpHlr lib env resultTimeoutMilliseconds subscr ptr).1 = true := by
  unfold Node.lookUpHlr
  simp only
  split
  · rfl
  · rw [if_neg (request_ne_zero n.client _ h)]

/-- **Who is given back is where it was**: nothing is put out, and nobody is queued. -/
theorem dgsmCheckForwardGsupMsg_false (h : lib.imsiStrValid (imsiOf ptr) = true)
    (hfalse : (n.dgsmCheckForwardGsupMsg lib env resultTimeoutMilliseconds ptr).1 = false) :
    (n.dgsmCheckForwardGsupMsg lib env resultTimeoutMilliseconds ptr).2.2 = [] ∧
      (n.dgsmCheckForwardGsupMsg lib env resultTimeoutMilliseconds ptr).2.1.dgsm.proxy.pendingGsupReqs
        = n.dgsm.proxy.pendingGsupReqs := by
  unfold Node.dgsmCheckForwardGsupMsg at hfalse ⊢
  split at hfalse
  next hknown =>
      rw [if_pos hknown]
      exact ⟨rfl, rfl⟩
  next hunknown =>
      rw [if_neg hunknown]
      split at hfalse
      next => cases hfalse
      next =>
          simp only at hfalse ⊢
          split at hfalse
          next => cases hfalse
          next hgateway =>
              rw [if_neg hgateway]
              split at hfalse
              next hinactive =>
                  rw [if_pos hinactive]
                  exact ⟨rfl, pending_createOrUpdate _ _ _⟩
              next => rw [lookUpHlr_fst env _ _ _ h] at hfalse; cases hfalse

/-! ## Runs of a node -/

theorem keepsNode_readCb (env : Env) (resultTimeoutMilliseconds : UInt32)
    (hlinks : LinksDistinct lib n.dgsm) (harmed : Armed lib n.dgsm) (ptr : ReqPtr) :
    ∃ received, received.Sublist [ptr] ∧ KeepsNode lib received n.dgsm
      (n.readCb lib env resultTimeoutMilliseconds ptr) := by
  obtain ⟨received, hreceived, hchecked, -⟩ :=
    keepsNode_dgsmCheckForwardGsupMsg env resultTimeoutMilliseconds hlinks harmed ptr
  unfold Node.readCb
  split
  · simp only
    split
    · exact ⟨received, hreceived, hchecked⟩
    · exact ⟨received, hreceived, hchecked.handleLocally ptr⟩
  · exact ⟨[], List.nil_sublist _, (Keeps.refl hlinks harmed).handleLocally ptr⟩

/-- Nothing is received. -/
theorem Ran.of_keepsNode {res : Node × List Out} (h : Ran lib s out)
    (hkeeps : KeepsNode lib [] s res) : Ran lib res.1.dgsm (out ++ res.2) :=
  h.of_keeps hkeeps rfl (Nat.le_refl _) (fun _ hp => by cases hp) List.Pairwise.nil

/-- **Requests are accounted for after each step**, as they are without a client. -/
theorem Ran.stepNode (h : Ran lib n.dgsm out) (input : NodeInput) :
    Ran lib (Dgsm.stepNode lib n input).1.dgsm (out ++ (Dgsm.stepNode lib n input).2) := by
  have hcalled : ∀ env called, Ran lib (n.onClient lib env called).1.dgsm
      (out ++ (n.onClient lib env called).2) := fun env called =>
    h.of_keepsNode (keeps_resultCbs env called.2 h.links h.armed)
  have hnothing : Ran lib n.dgsm (out ++ []) := by
    rw [List.append_nil]
    exact h
  cases input with
  | rx req env resultTimeoutMilliseconds =>
      obtain ⟨received, hreceived, hkeeps⟩ := keepsNode_readCb (n := (n.alloc req).1) env
        resultTimeoutMilliseconds (h.links.of_eq rfl (Nat.le_succ _)) h.armed (n.alloc req).2
      exact h.of_keeps_one hreceived hkeeps
  | rxResult requestHandle result env => exact hcalled env _
  | timeout ref env => exact hcalled env _
  | methods lookupMethods => exact hnothing
  | other input =>
      cases input with
      | rx req env => exact hnothing
      | result query result env => exact hnothing
      | _ => exact h.step _

theorem ran_runNode (lib : ProxyLib) (lookupMethods : List Bool) (inputs : List NodeInput) :
    Ran lib ((nodeMachine lib).run (Node.init lookupMethods) inputs).1.dgsm
      ((nodeMachine lib).run (Node.init lookupMethods) inputs).2 :=
  (nodeMachine lib).run_induction (P := fun _ n out => Ran lib n.dgsm out) (ran_init lib)
    (fun _ _ _ input h => h.stepNode input) inputs

/-! ## The client as it is seen without it -/

/-- The calls to methods are none of `resolve_hlr_result_cb`. -/
theorem resultCbs_methods (env : Env) (s : State) (lookupMethods : List Bool)
    (query : Mslookup.Query) (requestHandle : UInt32) :
    resultCbs lib env (MslookupClient.requestCalls lookupMethods query requestHandle) s =
      (s, []) := by
  have hmethods : ∀ events : List MslookupClient.Event,
      (∀ e ∈ events, ∃ i, e = .methodRequest i query requestHandle) →
        resultCbs lib env events s = (s, []) := by
    intro events
    induction events with
    | nil => exact fun _ => rfl
    | cons event events ih =>
        intro hall
        obtain ⟨⟨i, rfl⟩, hrest⟩ := List.forall_mem_cons.1 hall
        exact ih hrest
  refine hmethods _ fun e he => ?_
  obtain ⟨i, -, rfl⟩ := List.mem_mapIdx.1 he
  exact ⟨i, rfl⟩

/-- A node does what D-GSM does. -/
structure Agrees (checked : Bool × Node × List Out) (checked' : Bool × Res) : Prop where
  handled : checked.1 = checked'.1
  out : checked.2.2 = checked'.2.2
  proxy : checked.2.1.dgsm.proxy = checked'.2.1.proxy

/-- No callback comes before a new request, unless an older one has its handle. -/
theorem resultCbs_request (env : Env) (s : State) {client : MslookupClient.Client}
    (hfree : client.holder client.newHandle = none) (query : Mslookup.Query)
    (handling : MslookupClient.QueryHandling) :
    resultCbs lib env
      (MslookupClient.request lib.toLibosmocore client query handling).2.2 s = (s, []) := by
  unfold MslookupClient.request
  split
  · rfl
  · have hholder : MslookupClient.Client.holder { client with
        nextRequestHandle := client.newHandle + 1
        allocated := client.allocated + 1 } client.newHandle = none := hfree
    simp only [hholder, List.nil_append]
    exact resultCbs_methods env s _ _ _

theorem lookUpHlr_agrees (n : Node) (hfree : n.client.holder n.client.newHandle = none)
    (hrequest : ∀ query, env.mslookupClientRequest query =
      (MslookupClient.request lib.toLibosmocore n.client query
        (lookupHandling resultTimeoutMilliseconds)).1) (subscr : ProxySubscr) (ptr : ReqPtr) :
    Agrees (n.lookUpHlr lib env resultTimeoutMilliseconds subscr ptr)
      (lookUpHlr lib env n.dgsm subscr ptr) := by
  unfold Node.lookUpHlr lookUpHlr
  simp only [hrequest, Node.onClient, resultCbs_request env _ hfree, Node.onDgsm, Res.andThen,
    List.append_nil]
  split
  · exact ⟨rfl, rfl, rfl⟩
  · split
    · exact ⟨rfl, rfl, rfl⟩
    · exact ⟨rfl, rfl, rfl⟩

/-- **If no older request has the new handle, D-GSM does with the client what it does without it**:
the client is active, and gives a handle. -/
theorem dgsmCheckForwardGsupMsg_agrees (n : Node)
    (hfree : n.client.holder n.client.newHandle = none)
    (hactive : env.mslookupClientActive = clientActive n.client)
    (hrequest : ∀ query, env.mslookupClientRequest query =
      (MslookupClient.request lib.toLibosmocore n.client query
        (lookupHandling resultTimeoutMilliseconds)).1) (ptr : ReqPtr) :
    Agrees (n.dgsmCheckForwardGsupMsg lib env resultTimeoutMilliseconds ptr)
      (dgsmCheckForwardGsupMsg lib env n.dgsm ptr) := by
  unfold Node.dgsmCheckForwardGsupMsg dgsmCheckForwardGsupMsg
  split
  · exact ⟨rfl, rfl, rfl⟩
  · cases proxySubscrGetByImsi n.dgsm.proxy (imsiOf ptr) with
    | some subscr => exact ⟨rfl, rfl, rfl⟩
    | none =>
        simp only [hactive]
        split
        · exact ⟨rfl, rfl, rfl⟩
        · split
          · exact ⟨rfl, rfl, rfl⟩
          · exact lookUpHlr_agrees
              { n with dgsm := n.dgsm.createOrUpdate env.now (ProxySubscr.ofImsi (imsiOf ptr)) }
              hfree hrequest _ ptr

/-! ## Who takes a request -/

/-- **An error is answered or not**: it is not if there is no answer to the type of the message, or
nothing to send it with. -/
theorem osmoGsupReqRespondErr_cases (lib : GsupProtocol) (req : GsupReq) (cause : UInt8) :
    (∃ response, osmoGsupReqRespondErr lib.toGsupLib req cause =
        [.sendResponseCb req response, .free req]) ∨
      osmoGsupReqRespondErr lib.toGsupLib req cause = [.free req] ∧
        (lib.isMsgtRequest req.gsup.messageType = false ∨ req.sendResponseCb = false) := by
  have hrc := osmoGsupMakeResponse_fst lib { GsupMessage.zero with cause := cause } req.gsup true
    true (Or.inl rfl) rfl rfl rfl
  unfold osmoGsupReqRespondErr
  cases hreq : lib.isMsgtRequest req.gsup.messageType with
  | false => exact Or.inr ⟨rfl, Or.inl rfl⟩
  | true =>
      cases hcb : req.sendResponseCb with
      | true =>
          exact Or.inl ⟨_, congrArg Prod.snd (osmoGsupReqRespond_spec hcb hrc)⟩
      | false =>
          refine Or.inr ⟨?_, Or.inr rfl⟩
          simp [osmoGsupReqRespond, hrc, hcb]

/-- No entry holds a request that is new. -/
theorem entriesOf_eq_zero (h : Ran lib s out) (hnew : s.allocs ≤ ptr.ref) :
    entriesOf s ptr = 0 := by
  obtain ⟨arrived, refused, served, -, hperm⟩ := h.queued
  refine List.countP_eq_zero.2 fun p hp => ?_
  have hlt := h.ref_lt p (hperm.mem_iff.2 (List.mem_append_left _ hp))
  simpa using Nat.ne_of_lt (Nat.lt_of_lt_of_le hlt hnew)

/-- The entries of a request that was received are those of its address. -/
theorem entriesOf_eq_count (h : Ran lib s out) (hptr : ptr ∈ receivedOf out) :
    entriesOf s ptr = s.proxy.pendingGsupReqs.count ptr := by
  obtain ⟨arrived, refused, served, -, hperm⟩ := h.queued
  have hrefs : ((receivedOf out).map ReqPtr.ref).Nodup :=
    List.pairwise_map.2 (h.sorted.imp fun hlt => Nat.ne_of_lt hlt)
  refine List.countP_congr fun p hp => ?_
  have hreceived := hperm.mem_iff.2 (List.mem_append_left _ hp)
  simp only [decide_eq_true_eq, beq_iff_eq]
  exact ⟨fun heq => List.inj_on_of_nodup_map hrefs hreceived hptr heq, congrArg ReqPtr.ref⟩

/-- Who is concluded was forwarded, answered or dropped. -/
theorem Concludes.taken_or_dropped (h : Concludes lib ptr (about ptr.ref out))
    (hentries : entriesOf s ptr = 0) : Taken s out ptr ∨ Dropped lib s out ptr := by
  generalize hout : about ptr.ref out = block at h
  cases h with
  | forwarded addr msg => exact Or.inl (.forwarded addr msg hout hentries)
  | refused cause =>
      rcases osmoGsupReqRespondErr_cases lib.toGsupProtocol ptr.req (lib.causeNum cause) with
        ⟨response, hcalls⟩ | ⟨hcalls, hunanswerable⟩
      · rw [refuse, hcalls] at hout
        exact Or.inl (.answered response hout hentries)
      · rw [refuse, hcalls] at hout
        exact Or.inr ⟨hout, hentries, hunanswerable⟩

/-- Who was new and has been received is taken or dropped. -/
theorem Ran.taken_or_dropped (h : Ran lib s out) (hran : Ran lib s' (out ++ out'))
    (hnew : s.allocs ≤ ptr.ref) (hmine : ptr ∈ receivedOf out') :
    Taken s' out' ptr ∨ Dropped lib s' out' ptr := by
  have hreceived : ptr ∈ receivedOf (out ++ out') := by
    rw [receivedOf_append]
    exact List.mem_append_right _ hmine
  have habout : about ptr.ref (out ++ out') = about ptr.ref out' := by
    rw [about_append, h.about_eq_nil hnew, List.nil_append]
  have hentries := entriesOf_eq_count hran hreceived
  have haccounted := hran.accounted hreceived
  rw [Accounted, habout] at haccounted
  rcases haccounted with ⟨hconcludes, hcount⟩ | ⟨hnothing, hcount⟩
  · exact hconcludes.taken_or_dropped (hentries.trans hcount)
  · exact Or.inl (.deferred hnothing (hentries.trans hcount))

/-- What is put out about a new request that D-GSM takes is all that has happened to it. -/
theorem Ran.checkNew (h : Ran lib n.dgsm out) (env : Env) (resultTimeoutMilliseconds : UInt32)
    (req : GsupReq) (htrue : (n.checkNew lib env resultTimeoutMilliseconds req).1 = true) :
    Ran lib (n.checkNew lib env resultTimeoutMilliseconds req).2.1.dgsm
        (out ++ (n.checkNew lib env resultTimeoutMilliseconds req).2.2) ∧
      (n.alloc req).2 ∈ receivedOf (n.checkNew lib env resultTimeoutMilliseconds req).2.2 := by
  obtain ⟨received, hreceived, hkeeps, htaken⟩ := keepsNode_dgsmCheckForwardGsupMsg
    (n := (n.alloc req).1) env resultTimeoutMilliseconds (h.links.of_eq rfl (Nat.le_succ _))
    h.armed (n.alloc req).2
  refine ⟨h.of_keeps_one hreceived hkeeps, ?_⟩
  obtain rfl := htaken htrue
  have hmine := hkeeps.flows.received
  exact hmine ▸ List.mem_singleton_self _

/-- **A new request with a valid IMSI is taken or dropped, or else untouched.** -/
theorem takesDropsOrLeaves_of_ran (h : Ran lib n.dgsm out) (env : Env)
    (resultTimeoutMilliseconds : UInt32) (himsi : lib.imsiStrValid req.gsup.imsi = true) :
    TakesDropsOrLeaves lib n env resultTimeoutMilliseconds req := by
  have hnew : n.dgsm.allocs ≤ (n.alloc req).2.ref := Nat.le_refl _
  unfold TakesDropsOrLeaves
  simp only
  split
  next htrue =>
      obtain ⟨hran, hmine⟩ := h.checkNew env resultTimeoutMilliseconds req htrue
      exact h.taken_or_dropped hran hnew hmine
  next hfalse =>
      rw [Bool.not_eq_true] at hfalse
      obtain ⟨hout, hpending⟩ := dgsmCheckForwardGsupMsg_false himsi hfalse
      have hnone : entriesOf n.dgsm (n.alloc req).2 = 0 := entriesOf_eq_zero h hnew
      exact ⟨congrArg (about _) hout, (congrArg (List.countP _) hpending).trans hnone⟩

/-- A request that `osmo_gsup_req_new` returns has a valid IMSI. -/
theorem imsi_of_osmoGsupReqNew {lib : GsupLib} {fromPeer : Option PeerId} {l2 : List UInt8}
    {sendResponseCb : Bool} (h : (osmoGsupReqNew lib fromPeer l2 sendResponseCb).1 = some req) :
    lib.imsiStrValid req.gsup.imsi = true := by
  unfold osmoGsupReqNew at h
  split at h
  next => cases h
  next =>
      split at h
      next => cases h
      next =>
          split at h
          next => cases h
          next =>
              simp only at h
              split at h
              next => cases h
              next =>
                  split at h
                  next => cases h
                  next hvalid =>
                      obtain rfl := Option.some.inj h
                      simpa using hvalid

/-- **D-GSM takes a message, drops it if no answer to it can be sent, or else leaves it untouched**,
in whatever state it and its client are. -/
theorem dgsmCheckForwardGsupMsg_spec (lib : ProxyLib) (lookupMethods : List Bool)
    (inputs : List NodeInput) (env : Env) (resultTimeoutMilliseconds : UInt32)
    {fromPeer : Option PeerId} {l2 : List UInt8} {sendResponseCb : Bool} {req : GsupReq}
    (h : (osmoGsupReqNew lib.toGsupLib fromPeer l2 sendResponseCb).1 = some req) :
    TakesDropsOrLeaves lib ((nodeMachine lib).run (Node.init lookupMethods) inputs).1 env
      resultTimeoutMilliseconds req :=
  takesDropsOrLeaves_of_ran (ran_runNode lib lookupMethods inputs) env resultTimeoutMilliseconds
    (imsi_of_osmoGsupReqNew h)

/-- A message of an MSC about a subscriber, as it comes to `osmo_gsup_req_new`. -/
def l2Of (messageType : UInt8) : List UInt8 :=
  (Host.gsupEncode { GsupMessage.zero with
    messageType := messageType, imsi := Host.roamer }).getD []

/-- And what `osmo_gsup_req_new` makes of it. -/
def reqOf (messageType : UInt8) : GsupReq where
  gsup := { GsupMessage.zero with messageType := messageType, imsi := Host.roamer }
  sourceName := .ofIpaName (ipaNameSetStr (CStr.lit "msc"))
  viaProxy := .zero
  sendResponseCb := true

/-- An Update Location Request for a subscriber who is looked up. -/
theorem dgsmCheckForwardGsupMsg_updateLocation :
    TakesDropsOrLeaves Host.proxyLib
      ((nodeMachine Host.proxyLib).run (Node.init [true]) []).1 Host.dgsmEnv 2000
      (reqOf (Host.msgt .updateLocation .request)) := by
  have hnew : (osmoGsupReqNew Host.proxyLib.toGsupLib
      (some (.ofIpaName (ipaNameSetStr (CStr.lit "msc"))))
      (l2Of (Host.msgt .updateLocation .request)) true).1 =
        some (reqOf (Host.msgt .updateLocation .request)) := by decide +kernel
  exact dgsmCheckForwardGsupMsg_spec Host.proxyLib [true] [] Host.dgsmEnv 2000 hnew

/-- There is a gateway, and no client for it. -/
def gatewayEnv : Env :=
  { Host.dgsmEnv with gsupGatewayProxy := Host.hlrAddr, gsupClientCreate3 := fun _ => false }

/-- An Insert Data Result for which there is no link is freed without an answer. -/
theorem insertDataResult_dropped :
    ¬∀ (lib : ProxyLib) (lookupMethods : List Bool) (inputs : List NodeInput) (env : Env)
      (resultTimeoutMilliseconds : UInt32) (fromPeer : Option PeerId) (l2 : List UInt8)
      (sendResponseCb : Bool) (req : GsupReq),
      (osmoGsupReqNew lib.toGsupLib fromPeer l2 sendResponseCb).1 = some req →
        TakesOrLeaves lib ((nodeMachine lib).run (Node.init lookupMethods) inputs).1 env
          resultTimeoutMilliseconds req := by
  intro h
  have htakes := h Host.proxyLib [] [] gatewayEnv 2000
    (some (.ofIpaName (ipaNameSetStr (CStr.lit "msc")))) (l2Of (Host.msgt .insertData .result)) true
    (reqOf (Host.msgt .insertData .result)) (by decide +kernel)
  have htrue : ((Node.init []).checkNew Host.proxyLib gatewayEnv 2000
      (reqOf (Host.msgt .insertData .result))).1 = true := by decide +kernel
  have hfreed : about 0 ((Node.init []).checkNew Host.proxyLib gatewayEnv 2000
      (reqOf (Host.msgt .insertData .result))).2.2 =
        reqOut ⟨0, reqOf (Host.msgt .insertData .result)⟩
          [.free (reqOf (Host.msgt .insertData .result))] := by decide +kernel
  rw [TakesOrLeaves, Machine.run_nil] at htakes
  simp only [htrue, if_true] at htakes
  cases htakes with
  | forwarded addr msg hout => cases hfreed.symm.trans hout
  | answered response hout => cases hfreed.symm.trans hout
  | deferred hout => cases hfreed.symm.trans hout

end Dgsm
end OsmoHlr
