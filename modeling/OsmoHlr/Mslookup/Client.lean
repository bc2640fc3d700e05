import OsmoHlr.Lib.Keyed
import OsmoHlr.Lib.Machine
import OsmoHlr.Mslookup.Basic

/-!
# The mslookup client

`src/mslookup/mslookup_client.c` with callbacks and methods that do not call back
into the client: each entry point is a function from the client to the client and
to the calls it makes.  (`OsmoHlr.Mslookup.ClientReentry` is about callbacks that
do.)

A request record is named by `ref`, the number of its allocation, which stands
for its address; handles come from a 32-bit counter and may be used again.

* `request`, `rxResult`, `timeoutCb`, `requestCancel` — the entry points.
* `machine` — all of them, one call after the other.
* `WellFormed` — what holds of the list of requests between two calls, for any
  run (`wellFormed_run`).
-/

namespace OsmoHlr
namespace MslookupClient

open Mslookup (Query Result ResultCode)

/-! ## The records -/

/-- `struct osmo_mslookup_query_handling`, without the callback itself. -/
structure QueryHandling where
  minWaitMilliseconds : UInt32
  resultTimeoutMilliseconds : UInt32
  deriving DecidableEq

/-- `struct osmo_mslookup_client_request` -/
structure Request where
  /-- Which allocation the record is. -/
  ref : Nat
  requestHandle : UInt32
  query : Query
  handling : QueryHandling
  /-- The milliseconds that `timeout` is scheduled for, when it is. -/
  timeout : Option Nat
  waitingMinDelay : Bool
  result : Result
  deriving DecidableEq

/-- `struct osmo_mslookup_client` -/
structure Client where
  /-- The methods: for each of them, whether it has a `request_cleanup`. -/
  lookupMethods : List Bool
  requests : List Request
  nextRequestHandle : UInt32
  /-- How many records have been allocated. -/
  allocated : Nat
  deriving DecidableEq

/-- The calls that the client makes, and what it returns. -/
inductive Event where
  /-- `handling.result_cb()` of a request. -/
  | resultCb (ref : Nat) (requestHandle : UInt32) (query : Query) (result : Result)
  /-- `request()` of a method. -/
  | methodRequest (method : Nat) (query : Query) (requestHandle : UInt32)
  /-- `request_cleanup()` of a method. -/
  | methodCleanup (method : Nat) (requestHandle : UInt32)
  /-- `osmo_mslookup_client_request()` returns the handle of a new request. -/
  | returned (ref : Nat) (requestHandle : UInt32)
  deriving DecidableEq

/-- `osmo_mslookup_client_new`, and adding methods. -/
def Client.new (lookupMethods : List Bool) : Client := ⟨lookupMethods, [], 0, 0⟩

/-! ## Requests in the list -/

/-- `get_request` -/
def getRequest (client : Client) (requestHandle : UInt32) : Option Request :=
  if requestHandle = 0 then none
  else client.requests.find? fun r => r.requestHandle = requestHandle

/-- The record with the given address, if it is in the list. -/
def Client.lookup (client : Client) (ref : Nat) : Option Request :=
  client.requests.find? fun r => r.ref = ref

/-- Writing to a record that is in the list. -/
def Client.set (client : Client) (r : Request) : Client :=
  { client with requests := client.requests.map fun x => if x.ref = r.ref then r else x }

/-- `llist_del` and `talloc_free` of a record. -/
def Client.remove (client : Client) (ref : Nat) : Client :=
  { client with requests := client.requests.filter fun x => x.ref ≠ ref }

/-- The calls of `request_cleanup` for a handle, method by method. -/
def cleanupCalls (lookupMethods : List Bool) (requestHandle : UInt32) : List Event :=
  (lookupMethods.mapIdx fun i hasCleanup =>
    if hasCleanup then [Event.methodCleanup i requestHandle] else []).flatten

/-- `_osmo_mslookup_client_request_cleanup` -/
def requestCleanup (client : Client) (r : Request) : Client × List Event :=
  (client.remove r.ref, cleanupCalls client.lookupMethods r.requestHandle)

/-- `osmo_mslookup_client_request_cancel` -/
def requestCancel (client : Client) (requestHandle : UInt32) : Client × List Event :=
  match getRequest client requestHandle with
  | none => (client, [])
  | some r => requestCleanup client r

/-! ## Results and timers -/

/-- `r->result.last = finish;` -/
def Request.setLast (r : Request) (finish : Bool) : Request :=
  { r with result := { r.result with last := finish } }

/-- `osmo_mslookup_request_send_result` -/
def requestSendResult (client : Client) (r : Request) (finish : Bool) : Client × List Event :=
  let r := r.setLast finish
  let client := client.set r
  let cb := Event.resultCb r.ref r.requestHandle r.query r.result
  if finish then
    let cancelled := requestCancel client r.requestHandle
    (cancelled.1, cb :: cancelled.2)
  else (client, [cb])

/-- `osmo_mslookup_client_rx_result` -/
def rxResult (client : Client) (requestHandle : UInt32) (result : Result) :
    Client × List Event :=
  match getRequest client requestHandle with
  | none => (client, [])
  | some req =>
      if result.rc ≠ .result then (client, [])
      else if req.result.rc = .result ∧ req.result.age ≤ result.age then (client, [])
      else
        let req := { req with result := result }
        let client := client.set req
        if req.result.age = 0 then requestSendResult client req true
        else if req.waitingMinDelay then (client, [])
        else requestSendResult client req false

/-- `set_timer` -/
def setTimer (r : Request) (milliseconds : Nat) : Request :=
  { r with timeout := some milliseconds }

/-- Whether the minimum wait is all the time there is. -/
def QueryHandling.stops (handling : QueryHandling) : Bool :=
  decide (handling.resultTimeoutMilliseconds ≤ handling.minWaitMilliseconds)

/-- The part of `timeout_cb` that goes on listening: a result that is on record is sent now. -/
def listenOn (client : Client) (r : Request) : Client × List Event :=
  let sent := if r.result.rc = .result then requestSendResult client r false else (client, [])
  -- the record as the callback left it
  let r := (sent.1.lookup r.ref).getD r
  (sent.1.set (setTimer r (r.handling.resultTimeoutMilliseconds.toNat -
    r.handling.minWaitMilliseconds.toNat)), sent.2)

/-- `timeout_cb` for a record that is in the list. -/
def timeoutCb (client : Client) (r : Request) : Client × List Event :=
  if r.waitingMinDelay then
    let r := { r with waitingMinDelay := false }
    if r.handling.stops then
      -- it ends here
      let r := if r.result.rc ≠ .result then
          { r with result := { r.result with rc := .notFound } } else r
      requestSendResult (client.set r) r true
    else listenOn (client.set r) r
  else
    let rc := if r.result.rc = .result then ResultCode.none else .notFound
    let r := { r with result := { r.result with rc := rc } }
    requestSendResult (client.set r) r true

/-- The timer of a record expires: it is no longer scheduled when `timeout_cb` is called. -/
def timerExpires (client : Client) (ref : Nat) : Client × List Event :=
  match client.lookup ref with
  | none => (client, [])
  | some r =>
      if r.timeout.isSome then
        let r := { r with timeout := none }
        timeoutCb (client.set r) r
      else (client, [])

/-! ## New requests -/

variable (lib : Libosmocore)

/-- The defaults for timeouts that are zero. -/
def QueryHandling.withDefaults (handling : QueryHandling) : QueryHandling :=
  let handling := if handling.resultTimeoutMilliseconds = 0 then
    { handling with resultTimeoutMilliseconds := handling.minWaitMilliseconds } else handling
  if handling.resultTimeoutMilliseconds = 0 then
    { handling with resultTimeoutMilliseconds := 1000 } else handling

/-- The handle that the next request gets. -/
def Client.newHandle (client : Client) : UInt32 :=
  if client.nextRequestHandle = 0 then client.nextRequestHandle + 1 else client.nextRequestHandle

/-- The record of a new request, with its timer scheduled. -/
def newRequest (ref : Nat) (requestHandle : UInt32) (query : Query) (handling : QueryHandling) :
    Request :=
  let r : Request :=
    ⟨ref, requestHandle, query, handling.withDefaults, none, false, Result.zero⟩
  if r.handling.minWaitMilliseconds ≠ 0 then
    setTimer { r with waitingMinDelay := true } r.handling.minWaitMilliseconds.toNat
  else setTimer r r.handling.resultTimeoutMilliseconds.toNat

/-- The calls of `request` of the methods. -/
def requestCalls (lookupMethods : List Bool) (query : Query) (requestHandle : UInt32) :
    List Event :=
  lookupMethods.mapIdx fun i _ => .methodRequest i query requestHandle

/-- Whether `osmo_mslookup_client_request` accepts a query. -/
def queryValid (query : Query) : Bool :=
  Mslookup.serviceValid query.service && Mslookup.idValid lib query.id

/-- The loop over `client->requests` that looks for an older request with the new handle. -/
def Client.holder (client : Client) (requestHandle : UInt32) : Option Request :=
  client.requests.find? fun r => r.requestHandle = requestHandle

/-- `osmo_mslookup_client_request`; the handle that it returns, and 0 on error. -/
def request (client : Client) (query : Query) (handling : QueryHandling) :
    UInt32 × Client × List Event :=
  if !queryValid lib query then (0, client, [])
  else
    let requestHandle := client.newHandle
    let ref := client.allocated
    let client := { client with
      nextRequestHandle := requestHandle + 1, allocated := client.allocated + 1 }
    -- make sure a request handle exists only once
    let expired := match client.holder requestHandle with
      | some other => requestSendResult client other true
      | none => (client, [])
    let client := { expired.1 with
      requests := expired.1.requests ++ [newRequest ref requestHandle query handling] }
    (requestHandle, client, expired.2 ++ requestCalls client.lookupMethods query requestHandle)

/-! ## One call after the other -/

/-- A call into the client. -/
inductive Op where
  | request (query : Query) (handling : QueryHandling)
  | rxResult (requestHandle : UInt32) (result : Result)
  | timeout (ref : Nat)
  | requestCancel (requestHandle : UInt32)

/-- What a call does. -/
def step (client : Client) : Op → Client × List Event
  | .request query handling =>
      let r := request lib client query handling
      (r.2.1, r.2.2 ++ if r.1 = 0 then [] else [.returned client.allocated r.1])
  | .rxResult requestHandle result => rxResult client requestHandle result
  | .timeout ref => timerExpires client ref
  | .requestCancel requestHandle => requestCancel client requestHandle

/-- The client as a machine. -/
def machine : Machine Client Op Event := ⟨step lib⟩

/-! ## The list of requests -/

/-- Addresses and handles tell the requests in the list apart. -/
structure Distinct (client : Client) : Prop where
  refs : (client.requests.map Request.ref).Nodup
  ref_lt : ∀ r ∈ client.requests, r.ref < client.allocated
  handles : (client.requests.map Request.requestHandle).Nodup
  handle_ne : ∀ r ∈ client.requests, r.requestHandle ≠ 0

/-- Between two calls, the timer of every request is scheduled, too. -/
structure WellFormed (client : Client) : Prop extends Distinct client where
  armed : ∀ r ∈ client.requests, r.timeout.isSome = true

section List

variable {client : Client} {r x : Request}

theorem eq_of_ref_eq (h : (client.requests.map Request.ref).Nodup) (hr : r ∈ client.requests)
    (hx : x ∈ client.requests) (heq : r.ref = x.ref) : r = x :=
  List.inj_on_of_nodup_map h hr hx heq

theorem eq_of_handle_eq (h : Distinct client) (hr : r ∈ client.requests)
    (hx : x ∈ client.requests) (heq : r.requestHandle = x.requestHandle) : r = x :=
  List.inj_on_of_nodup_map h.handles hr hx heq

theorem lookup_eq_some_iff (h : (client.requests.map Request.ref).Nodup) {ref : Nat} :
    client.lookup ref = some r ↔ r ∈ client.requests ∧ r.ref = ref := Keyed.find_eq_some_iff h

theorem lookup_eq_none_iff {ref : Nat} :
    client.lookup ref = none ↔ ∀ r ∈ client.requests, r.ref ≠ ref := Keyed.find_eq_none_iff

theorem getRequest_eq_some_iff (h : Distinct client) {requestHandle : UInt32} :
    getRequest client requestHandle = some r ↔
      r ∈ client.requests ∧ r.requestHandle = requestHandle := by
  rw [← Keyed.find_eq_some_iff h.handles, getRequest, Keyed.find]
  split
  next hzero =>
      -- no handle is 0
      have hnone : client.requests.find? (fun x => x.requestHandle = requestHandle) = none :=
        Keyed.find_eq_none_iff.2 fun x hx => hzero ▸ h.handle_ne x hx
      rw [hnone]
  next => rfl

theorem mem_remove {ref : Nat} : x ∈ (client.remove ref).requests ↔
    x ∈ client.requests ∧ x.ref ≠ ref := Keyed.mem_remove

theorem mem_set (hr : r ∈ client.requests) {r' : Request} (href : r'.ref = r.ref) :
    x ∈ (client.set r').requests ↔ x = r' ∨ x ∈ client.requests ∧ x.ref ≠ r.ref :=
  Keyed.mem_set hr href

theorem mem_set_self (hr : r ∈ client.requests) (r' : Request) (href : r'.ref = r.ref) :
    r' ∈ (client.set r').requests := Keyed.mem_set_self hr r' href

theorem map_set {α : Type} (f : Request → α) (h : (client.requests.map Request.ref).Nodup)
    (hr : r ∈ client.requests) {r' : Request} (href : r'.ref = r.ref) (hf : f r' = f r) :
    (client.set r').requests.map f = client.requests.map f := Keyed.map_set f h hr href hf

@[simp] theorem set_set {r' : Request} (href : r.ref = r'.ref) :
    (client.set r).set r' = client.set r' :=
  congrArg (fun requests => { client with requests := requests }) (Keyed.set_set href)

@[simp] theorem remove_set : (client.set r).remove r.ref = client.remove r.ref :=
  congrArg (fun requests => { client with requests := requests }) Keyed.remove_set

theorem Distinct.set (h : Distinct client) (hr : r ∈ client.requests) {r' : Request}
    (href : r'.ref = r.ref) (hhandle : r'.requestHandle = r.requestHandle) :
    Distinct (client.set r') where
  refs := by rw [map_set Request.ref h.refs hr href href]; exact h.refs
  ref_lt := by
    intro x hx
    rcases (mem_set hr href).1 hx with rfl | ⟨hx, -⟩
    · rw [href]
      exact h.ref_lt r hr
    · exact h.ref_lt x hx
  handles := by rw [map_set Request.requestHandle h.refs hr href hhandle]; exact h.handles
  handle_ne := by
    intro x hx
    rcases (mem_set hr href).1 hx with rfl | ⟨hx, -⟩
    · rw [hhandle]
      exact h.handle_ne r hr
    · exact h.handle_ne x hx

theorem WellFormed.set (h : WellFormed client) (hr : r ∈ client.requests) {r' : Request}
    (href : r'.ref = r.ref) (hhandle : r'.requestHandle = r.requestHandle)
    (harmed : r'.timeout.isSome = true) : WellFormed (client.set r') where
  toDistinct := h.toDistinct.set hr href hhandle
  armed := by
    intro x hx
    rcases (mem_set hr href).1 hx with rfl | ⟨hx, -⟩
    · exact harmed
    · exact h.armed x hx

theorem WellFormed.remove (h : WellFormed client) (ref : Nat) : WellFormed (client.remove ref) where
  refs := h.refs.sublist ((List.filter_sublist).map _)
  ref_lt := fun x hx => h.ref_lt x (mem_remove.1 hx).1
  handles := h.handles.sublist ((List.filter_sublist).map _)
  handle_ne := fun x hx => h.handle_ne x (mem_remove.1 hx).1
  armed := fun x hx => h.armed x (mem_remove.1 hx).1

/-- Removing a record is removing its handle. -/
theorem filter_handle_eq (h : Distinct client) (hr : r ∈ client.requests) :
    client.requests.filter (fun x => x.requestHandle ≠ r.requestHandle) =
      client.requests.filter fun x => x.ref ≠ r.ref := by
  refine List.filter_congr fun x hx => ?_
  have hiff : x.requestHandle = r.requestHandle ↔ x.ref = r.ref := by
    constructor
    · intro heq
      rw [eq_of_handle_eq h hx hr heq]
    · intro heq
      rw [eq_of_ref_eq h.refs hx hr heq]
  simp [hiff]

theorem lookup_set (hr : r ∈ client.requests) {r' : Request} (href : r'.ref = r.ref)
    (h : Distinct client) (hhandle : r'.requestHandle = r.requestHandle) (ref : Nat) :
    (client.set r').lookup ref = if ref = r.ref then some r' else client.lookup ref := by
  have hset := h.set hr href hhandle
  by_cases hreq : ref = r.ref
  · rw [if_pos hreq, lookup_eq_some_iff hset.refs]
    exact ⟨(mem_set hr href).2 (Or.inl rfl), by rw [hreq, href]⟩
  · rw [if_neg hreq]
    cases hl : client.lookup ref with
    | none =>
        rw [lookup_eq_none_iff] at hl ⊢
        intro x hx
        rcases (mem_set hr href).1 hx with rfl | ⟨hx, -⟩
        · rw [href]
          exact Ne.symm hreq
        · exact hl x hx
    | some x =>
        rw [lookup_eq_some_iff h.refs] at hl
        rw [lookup_eq_some_iff hset.refs]
        refine ⟨(mem_set hr href).2 (Or.inr ⟨hl.1, ?_⟩), hl.2⟩
        rw [hl.2]
        exact hreq

theorem lookup_set_self (h : Distinct client) (hr : r ∈ client.requests) (r' : Request)
    (href : r'.ref = r.ref) (hhandle : r'.requestHandle = r.requestHandle) :
    (client.set r').lookup r.ref = some r' := by
  rw [lookup_set hr href h hhandle, if_pos rfl]

theorem lookup_remove (h : WellFormed client) (ref ref' : Nat) :
    (client.remove ref).lookup ref' = if ref' = ref then none else client.lookup ref' := by
  by_cases heq : ref' = ref
  · rw [if_pos heq, lookup_eq_none_iff]
    intro x hx
    rw [heq]
    exact (mem_remove.1 hx).2
  · rw [if_neg heq]
    cases hl : client.lookup ref' with
    | none =>
        rw [lookup_eq_none_iff] at hl ⊢
        exact fun x hx => hl x (mem_remove.1 hx).1
    | some x =>
        rw [lookup_eq_some_iff h.refs] at hl
        rw [lookup_eq_some_iff (h.remove ref).refs]
        refine ⟨mem_remove.2 ⟨hl.1, ?_⟩, hl.2⟩
        rw [hl.2]
        exact heq

end List

/-! ## What each call does -/

section Calls

variable {client : Client} {r : Request}

/-- The calls that end a request: its callback, and the cleanup of the methods. -/
def lastCalls (client : Client) (r : Request) (result : Result) : List Event :=
  .resultCb r.ref r.requestHandle r.query { result with last := true } ::
    cleanupCalls client.lookupMethods r.requestHandle

/-- Cancelling an open request. -/
theorem requestCancel_eq (h : Distinct client) (hr : r ∈ client.requests) :
    requestCancel client r.requestHandle =
      (client.remove r.ref, cleanupCalls client.lookupMethods r.requestHandle) := by
  rw [requestCancel, (getRequest_eq_some_iff h).2 ⟨hr, rfl⟩]
  rfl

/-- A last result ends the request. -/
theorem requestSendResult_true (h : Distinct client) (hr : r ∈ client.requests) {r' : Request}
    (href : r'.ref = r.ref) (hhandle : r'.requestHandle = r.requestHandle)
    (hquery : r'.query = r.query) :
    requestSendResult client r' true = (client.remove r.ref, lastCalls client r r'.result) := by
  have hdist : Distinct (client.set (r'.setLast true)) := h.set hr href hhandle
  have hmem : r'.setLast true ∈ (client.set (r'.setLast true)).requests :=
    mem_set_self hr _ href
  have hcancel := requestCancel_eq hdist hmem
  rw [remove_set] at hcancel
  simp only [requestSendResult, if_true]
  rw [hcancel, lastCalls, ← hquery, ← hhandle, ← href]
  rfl

/-- Any other result leaves it open. -/
theorem requestSendResult_false (client : Client) (r : Request) :
    requestSendResult client r false = (client.set (r.setLast false),
      [.resultCb r.ref r.requestHandle r.query { r.result with last := false }]) := rfl

/-- A result for an open request. -/
theorem rxResult_eq (h : Distinct client) (hr : r ∈ client.requests) (result : Result) :
    rxResult client r.requestHandle result =
      if result.rc ≠ .result ∨ (r.result.rc = .result ∧ r.result.age ≤ result.age) then (client, [])
      else if result.age = 0 then (client.remove r.ref, lastCalls client r result)
      else if r.waitingMinDelay then (client.set { r with result := result }, [])
      else (client.set { r with result := { result with last := false } },
        [.resultCb r.ref r.requestHandle r.query { result with last := false }]) := by
  rw [rxResult, (getRequest_eq_some_iff h).2 ⟨hr, rfl⟩]
  by_cases hrc : result.rc ≠ .result
  · simp [hrc]
  · by_cases hold : r.result.rc = .result ∧ r.result.age ≤ result.age
    · simp [hrc, hold]
    · have hdist : Distinct (client.set { r with result := result }) := h.set hr rfl rfl
      have hmem : { r with result := result } ∈ (client.set { r with result := result }).requests :=
        mem_set_self hr _ rfl
      have hlast := requestSendResult_true hdist hmem rfl rfl rfl
      have hremove : (client.set { r with result := result }).remove r.ref = client.remove r.ref :=
        remove_set (r := { r with result := result })
      simp only [hrc, hold, if_false, or_self]
      by_cases h0 : result.age = 0
      · simp only [h0, if_true]
        rw [hlast]
        exact Prod.ext hremove rfl
      · simp only [h0, if_false]
        cases hw : r.waitingMinDelay with
        | true => rfl
        | false =>
            simp only [Bool.false_eq_true, if_false, requestSendResult_false]
            rw [set_set (by rfl)]
            rfl

/-- A result for a handle that is not in use. -/
theorem rxResult_of_none {requestHandle : UInt32} (h : getRequest client requestHandle = none)
    (result : Result) : rxResult client requestHandle result = (client, []) := by
  rw [rxResult, h]

/-- What is written to a record when listening goes on. -/
def Request.listen (r : Request) : Request :=
  { r with
    timeout := some (r.handling.resultTimeoutMilliseconds.toNat -
      r.handling.minWaitMilliseconds.toNat)
    result := if r.result.rc = .result then { r.result with last := false } else r.result }

theorem listenOn_eq (h : Distinct client) (hr : r ∈ client.requests) :
    listenOn client r = (client.set r.listen, if r.result.rc = .result then
      [.resultCb r.ref r.requestHandle r.query { r.result with last := false }] else []) := by
  unfold listenOn Request.listen
  by_cases hrc : r.result.rc = .result
  · simp only [if_pos hrc, requestSendResult_false]
    rw [lookup_set_self h hr (r.setLast false) rfl rfl, set_set (by rfl)]
    rfl
  · have hl : client.lookup r.ref = some r := (lookup_eq_some_iff h.refs).2 ⟨hr, rfl⟩
    simp only [if_neg hrc, hl]
    rfl

/-- The timer of an open request expires. -/
theorem timerExpires_eq (h : WellFormed client) (hr : r ∈ client.requests) :
    timerExpires client r.ref =
      if r.waitingMinDelay then
        if r.handling.stops then
          (client.remove r.ref, lastCalls client r
            (if r.result.rc = .result then r.result else { r.result with rc := .notFound }))
        else
          (client.set { r.listen with waitingMinDelay := false }, if r.result.rc = .result then
            [.resultCb r.ref r.requestHandle r.query { r.result with last := false }] else [])
      else
        (client.remove r.ref, lastCalls client r { r.result with
          rc := if r.result.rc = .result then .none else .notFound }) := by
  have hdist := h.toDistinct
  have hlookup : client.lookup r.ref = some r := (lookup_eq_some_iff hdist.refs).2 ⟨hr, rfl⟩
  -- whatever is written to the record before the last callback, the outcome is the same
  have hlast : ∀ r1 r2 : Request, r1.ref = r.ref → r1.requestHandle = r.requestHandle →
      r2.ref = r.ref → r2.requestHandle = r.requestHandle → r2.query = r.query →
      requestSendResult ((client.set r1).set r2) r2 true =
        (client.remove r.ref, lastCalls client r r2.result) := by
    intro r1 r2 href1 hh1 href2 hh2 hq
    have hd1 : Distinct (client.set r2) := hdist.set hr href2 hh2
    rw [set_set (href1.trans href2.symm),
      requestSendResult_true hd1 (mem_set_self hr r2 href2) rfl rfl rfl, remove_set, href2]
    simp only [lastCalls, href2, hh2, hq]
    rfl
  rw [timerExpires, hlookup]
  simp only [h.armed r hr, if_true, timeoutCb]
  cases hw : r.waitingMinDelay with
  | false =>
      simp only [Bool.false_eq_true, if_false]
      exact hlast _ _ rfl rfl rfl rfl rfl
  | true =>
      simp only [if_true]
      cases hs : r.handling.stops with
      | true =>
          simp only [if_true]
          by_cases hrc : r.result.rc = .result
          · simp only [hrc, ne_eq, not_true_eq_false, if_false, if_true]
            exact hlast _ _ rfl rfl rfl rfl rfl
          · simp only [hrc, ne_eq, not_false_eq_true, if_false, if_true]
            exact hlast _ _ rfl rfl rfl rfl rfl
      | false =>
          simp only [Bool.false_eq_true, if_false]
          have hgo : ∀ r2 : Request, r2.ref = r.ref → r2.requestHandle = r.requestHandle →
              listenOn (client.set r2) r2 = (client.set r2.listen, if r2.result.rc = .result then
                [.resultCb r2.ref r2.requestHandle r2.query { r2.result with last := false }]
                else []) := by
            intro r2 href hhandle
            rw [listenOn_eq (hdist.set hr href hhandle) (mem_set_self hr _ href), set_set (by rfl)]
          rw [set_set (by rfl)]
          exact hgo _ rfl rfl

/-! ### New requests -/

theorem newHandle_ne_zero (client : Client) : client.newHandle ≠ 0 := by
  unfold Client.newHandle
  by_cases h : client.nextRequestHandle = 0
  · rw [if_pos h, h]
    decide
  · rw [if_neg h]
    exact h

theorem holder_eq_some_iff (h : Distinct client) {requestHandle : UInt32} :
    client.holder requestHandle = some r ↔
      r ∈ client.requests ∧ r.requestHandle = requestHandle := Keyed.find_eq_some_iff h.handles

theorem filter_of_holder_eq_none {requestHandle : UInt32}
    (h : client.holder requestHandle = none) :
    client.requests.filter (fun r => r.requestHandle ≠ requestHandle) = client.requests := by
  refine List.filter_eq_self.2 ?_
  intro r hr
  simpa using Keyed.find_eq_none_iff.1 h r hr

/-- The calls that end an older request with the new handle. -/
def expireCalls (client : Client) : List Event :=
  match client.holder client.newHandle with
  | some other => lastCalls client other other.result
  | none => []

/-- The client behind a new request. -/
def Client.withRequest (client : Client) (query : Query) (handling : QueryHandling) : Client :=
  { client with
    requests := client.requests.filter (fun r => r.requestHandle ≠ client.newHandle) ++
      [newRequest client.allocated client.newHandle query handling]
    nextRequestHandle := client.newHandle + 1
    allocated := client.allocated + 1 }

/-- A new request with a valid query. -/
theorem request_eq (h : Distinct client) {query : Query} (hq : queryValid lib query = true)
    (handling : QueryHandling) :
    request lib client query handling =
      (client.newHandle, client.withRequest query handling,
        expireCalls client ++ requestCalls client.lookupMethods query client.newHandle) := by
  set counted : Client := { client with
    nextRequestHandle := client.newHandle + 1, allocated := client.allocated + 1 } with hcounted
  have hdist : Distinct counted :=
    ⟨h.refs, fun r hr => Nat.lt_succ_of_lt (h.ref_lt r hr), h.handles, h.handle_ne⟩
  have hholder : counted.holder client.newHandle = client.holder client.newHandle := rfl
  simp only [request, hq, Bool.not_true, Bool.false_eq_true, if_false, ← hcounted, hholder]
  unfold expireCalls
  cases hother : client.holder client.newHandle with
  | none =>
      simp only [Client.withRequest, filter_of_holder_eq_none hother]
      rfl
  | some other =>
      obtain ⟨hmem, hhandle⟩ := (holder_eq_some_iff h).1 hother
      have hfilter := filter_handle_eq h hmem
      rw [hhandle] at hfilter
      have hlast := requestSendResult_true hdist (r := other) hmem rfl rfl rfl
      simp only [hlast, Client.withRequest, hfilter]
      rfl

/-- A query that is not valid is refused. -/
theorem request_of_invalid {query : Query} (hq : queryValid lib query = false)
    (handling : QueryHandling) : request lib client query handling = (0, client, []) := by
  simp [request, hq]

theorem ref_newRequest (ref : Nat) (requestHandle : UInt32) (query : Query)
    (handling : QueryHandling) : (newRequest ref requestHandle query handling).ref = ref := by
  unfold newRequest
  dsimp only
  split <;> rfl

theorem requestHandle_newRequest (ref : Nat) (requestHandle : UInt32) (query : Query)
    (handling : QueryHandling) :
    (newRequest ref requestHandle query handling).requestHandle = requestHandle := by
  unfold newRequest
  dsimp only
  split <;> rfl

theorem query_newRequest (ref : Nat) (requestHandle : UInt32) (query : Query)
    (handling : QueryHandling) : (newRequest ref requestHandle query handling).query = query := by
  unfold newRequest
  dsimp only
  split <;> rfl

theorem isSome_timeout_newRequest (ref : Nat) (requestHandle : UInt32) (query : Query)
    (handling : QueryHandling) :
    (newRequest ref requestHandle query handling).timeout.isSome = true := by
  unfold newRequest
  dsimp only
  split <;> rfl

theorem WellFormed.withRequest (h : WellFormed client) (query : Query)
    (handling : QueryHandling) : WellFormed (client.withRequest query handling) where
  refs := by
    simp only [Client.withRequest, List.map_append, List.map_singleton, ref_newRequest]
    refine List.Nodup.append (h.refs.sublist (List.filter_sublist.map _)) (List.nodup_singleton _) ?_
    intro ref href hnew
    obtain ⟨r, hr, rfl⟩ := List.mem_map.1 href
    have hlt := h.ref_lt r (List.mem_of_mem_filter hr)
    rw [List.mem_singleton.1 hnew] at hlt
    exact lt_irrefl _ hlt
  ref_lt := by
    intro r hr
    rcases List.mem_append.1 hr with hr | hr
    · exact Nat.lt_succ_of_lt (h.ref_lt r (List.mem_of_mem_filter hr))
    · rw [List.mem_singleton.1 hr, ref_newRequest]
      exact Nat.lt_succ_self _
  handles := by
    simp only [Client.withRequest, List.map_append, List.map_singleton, requestHandle_newRequest]
    refine List.Nodup.append (h.handles.sublist (List.filter_sublist.map _))
      (List.nodup_singleton _) ?_
    intro requestHandle hold hnew
    obtain ⟨r, hr, rfl⟩ := List.mem_map.1 hold
    have hne : r.requestHandle ≠ client.newHandle := by simpa using (List.mem_filter.1 hr).2
    exact hne (List.mem_singleton.1 hnew)
  handle_ne := by
    intro r hr
    rcases List.mem_append.1 hr with hr | hr
    · exact h.handle_ne r (List.mem_of_mem_filter hr)
    · rw [List.mem_singleton.1 hr, requestHandle_newRequest]
      exact newHandle_ne_zero client
  armed := by
    intro r hr
    rcases List.mem_append.1 hr with hr | hr
    · exact h.armed r (List.mem_of_mem_filter hr)
    · rw [List.mem_singleton.1 hr]
      exact isSome_timeout_newRequest _ _ _ _

end Calls

/-! ## What any call does -/

/-- The request that a call is about. -/
def Op.IsFor (r : Request) : Op → Prop
  | .request _ _ => False
  | .rxResult requestHandle _ => requestHandle = r.requestHandle
  | .timeout ref => ref = r.ref
  | .requestCancel requestHandle => requestHandle = r.requestHandle

/-- A callback of the request `r`. -/
def Request.told (r : Request) (result : Result) : Event :=
  .resultCb r.ref r.requestHandle r.query result

/-- What a call may do to an open request. -/
inductive Effect (client : Client) (r : Request) : Client × List Event → Prop
  | keep : Effect client r (client, [])
  | write (r' : Request) (results : List Result) (href : r'.ref = r.ref)
      (hhandle : r'.requestHandle = r.requestHandle) (hquery : r'.query = r.query)
      (harmed : r'.timeout.isSome = true) :
      Effect client r (client.set r', results.map r.told)
  | remove (results : List Result) :
      Effect client r (client.remove r.ref,
        results.map r.told ++ cleanupCalls client.lookupMethods r.requestHandle)

theorem effect_rxResult {client : Client} {r : Request} (h : WellFormed client)
    (hr : r ∈ client.requests) (result : Result) :
    Effect client r (rxResult client r.requestHandle result) := by
  rw [rxResult_eq h.toDistinct hr]
  split
  · exact .keep
  · split
    · exact .remove [{ result with last := true }]
    · split
      · exact .write _ [] rfl rfl rfl (h.armed r hr)
      · exact .write _ [{ result with last := false }] rfl rfl rfl (h.armed r hr)

theorem effect_timerExpires {client : Client} {r : Request} (h : WellFormed client)
    (hr : r ∈ client.requests) : Effect client r (timerExpires client r.ref) := by
  rw [timerExpires_eq h hr]
  split
  · split
    · exact .remove [_]
    · split
      · exact .write _ [{ r.result with last := false }] rfl rfl rfl rfl
      · exact .write _ [] rfl rfl rfl rfl
  · exact .remove [_]

/-- **A call launches a request, or has an effect on the one open request that it is about.** -/
theorem step_cases {client : Client} (h : WellFormed client) (op : Op) :
    (∃ query handling, op = .request query handling ∧ queryValid lib query = true ∧
      step lib client op = (client.withRequest query handling, expireCalls client ++
        requestCalls client.lookupMethods query client.newHandle ++
          [.returned client.allocated client.newHandle])) ∨
    step lib client op = (client, []) ∨
    ∃ r ∈ client.requests, op.IsFor r ∧ Effect client r (step lib client op) := by
  cases op with
  | request query handling =>
      cases hq : queryValid lib query with
      | true =>
          refine Or.inl ⟨query, handling, rfl, hq, ?_⟩
          simp only [step, request_eq lib h.toDistinct hq, if_neg (newHandle_ne_zero client)]
      | false =>
          refine Or.inr (Or.inl ?_)
          simp only [step, request_of_invalid lib hq, if_true, List.append_nil]
  | rxResult requestHandle result =>
      refine Or.inr ?_
      cases hr : getRequest client requestHandle with
      | none => exact Or.inl (rxResult_of_none hr result)
      | some r =>
          obtain ⟨hmem, rfl⟩ := (getRequest_eq_some_iff h.toDistinct).1 hr
          exact Or.inr ⟨r, hmem, rfl, effect_rxResult h hmem result⟩
  | timeout ref =>
      refine Or.inr ?_
      cases hr : client.lookup ref with
      | none =>
          refine Or.inl ?_
          simp only [step, timerExpires, hr]
      | some r =>
          obtain ⟨hmem, rfl⟩ := (lookup_eq_some_iff h.refs).1 hr
          exact Or.inr ⟨r, hmem, rfl, effect_timerExpires h hmem⟩
  | requestCancel requestHandle =>
      refine Or.inr ?_
      cases hr : getRequest client requestHandle with
      | none =>
          refine Or.inl ?_
          simp only [step, requestCancel, hr]
      | some r =>
          obtain ⟨hmem, rfl⟩ := (getRequest_eq_some_iff h.toDistinct).1 hr
          refine Or.inr ⟨r, hmem, rfl, ?_⟩
          simp only [step, requestCancel_eq h.toDistinct hmem]
          exact .remove []

theorem Effect.wellFormed {client : Client} {r : Request} {out : Client × List Event}
    (he : Effect client r out) (h : WellFormed client) (hr : r ∈ client.requests) :
    WellFormed out.1 := by
  cases he with
  | keep => exact h
  | write r' results href hhandle hquery harmed => exact h.set hr href hhandle harmed
  | remove results => exact h.remove r.ref

/-! ## Every run -/

theorem wellFormed_new (lookupMethods : List Bool) : WellFormed (Client.new lookupMethods) := by
  refine ⟨⟨?_, ?_, ?_, ?_⟩, ?_⟩ <;> simp [Client.new]

/-- **Every call keeps the list of requests well-formed.** -/
theorem wellFormed_step (client : Client) (op : Op) (h : WellFormed client) :
    WellFormed (step lib client op).1 := by
  rcases step_cases lib h op with ⟨query, handling, -, -, hstep⟩ | hstep | ⟨r, hr, -, he⟩
  · rw [hstep]
    exact h.withRequest query handling
  · rw [hstep]
    exact h
  · exact he.wellFormed h hr

/-- **In every run the list of requests is well-formed between two calls.** -/
theorem wellFormed_run (lookupMethods : List Bool) (ops : List Op) :
    WellFormed ((machine lib).run (Client.new lookupMethods) ops).1 :=
  (machine lib).run_invariant (wellFormed_step lib) (wellFormed_new lookupMethods) ops

end MslookupClient
end OsmoHlr
