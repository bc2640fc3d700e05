import OsmoHlr.Lib.Decimal
import OsmoHlr.Mslookup.Client

/-!
# The lookup daemon

`src/mslookup/osmo-mslookup-client.c` in daemon mode: programs connect to a unix
domain socket, each of them sends a query string with optional timeouts, and the
results of the mslookup client are written back to them.

The daemon keeps its queries, by handle, and its socket clients, by file
descriptor, in two lists.  `respondResult` joins them again by the query string.

* `queryOf` — what a query string asks for, and how long.
* `startQueryStr`, `socketReadCb`, `mslookupResultCb` — the callbacks.
* `machine` — all of them, in any order.
* `Tells` — what the daemon is told when the mslookup client is called.
-/

namespace OsmoHlr
namespace LookupDaemon

open CString
open Mslookup (Query Result)
open MslookupClient (Client QueryHandling Event WellFormed Distinct)

/-! ## Query strings -/

/-- `cmdline_opts`, where they matter to the socket. -/
structure CmdlineOpts where
  minDelay : UInt32
  timeout : UInt32
  /-- The format is CSV, and its headers have not been disabled. -/
  csvHeaders : Bool

/-- `UINT32_MAX` -/
def uint32Max : Int := 2 ^ 32 - 1

/-- `parse_int`; `none` is an error. -/
def parseInt (minval maxval : Int) (arg : CStr) : Option Int :=
  let val := Decimal.strtoll arg.bytes
  if val.erange ∨ val.value < minval ∨ maxval < val.value ∨ val.endptr ≠ [] then none
  else some val.value

/-- The timeout behind the min-delay; an empty one is 0. -/
def timeoutOf (minDelay : Int) (timeout : CStr) : Option QueryHandling :=
  if timeout.len = 0 then some ⟨UInt32.ofNat minDelay.toNat, 0⟩
  else (parseInt 0 uint32Max timeout).map fun milliseconds =>
    ⟨UInt32.ofNat minDelay.toNat, UInt32.ofNat milliseconds.toNat⟩

/-- What is in front of the `'@'` of a query string, in a buffer of 16 bytes. -/
def timeoutsOf (timeouts : CStr) : Option QueryHandling :=
  if 16 ≤ timeouts.len then none
  else
    match timeouts.bytes.idxOf? 45 with
    | some dash =>
        (parseInt 0 uint32Max (timeouts.take dash)).bind fun minDelay =>
          timeoutOf minDelay (timeouts.drop (dash + 1))
    | none => timeoutOf 0 timeouts

/-- `strchr(str, '@')`, and what is in front of it and behind it. -/
def splitAt (str : CStr) : Option CStr × CStr :=
  match str.bytes.idxOf? 64 with
  | some i => (some (str.take i), str.drop (i + 1))
  | none => (none, str)

/-- The query string without its timeouts. -/
def domainOf (queryStr : CStr) : CStr := (splitAt queryStr).2

/-- How long to wait for results. -/
def handlingOf (opts : CmdlineOpts) (queryStr : CStr) : Option QueryHandling :=
  match (splitAt queryStr).1 with
  | some timeouts => timeoutsOf timeouts
  | none => some ⟨opts.minDelay, opts.timeout⟩

variable (lib : Libosmocore) (opts : CmdlineOpts)

/-- The query of a query string, with its timeouts, up to the errors of `start_query_str`;
`sizeof(q->query_str)` is 128. -/
def queryOf (queryStr : CStr) : Option (Query × QueryHandling) :=
  match handlingOf opts queryStr with
  | none => none
  | some handling =>
      if 128 ≤ (domainOf queryStr).len then none
      else
        match Mslookup.queryInitFromDomainStr lib (some (domainOf queryStr)) with
        | .error _ => none
        | .ok query => some (query, handling)

/-- `strtok(buf, "\r\n")` -/
def strtok (buf : CStr) : Option CStr :=
  let line := (buf.bytes.dropWhile fun c => c = 13 ∨ c = 10).takeWhile fun c => c ≠ 13 ∧ c ≠ 10
  if line = [] then none else some (CStr.ofBytes line)

/-! ## The lists of the daemon -/

/-- `struct socket_client` -/
structure SocketClient where
  /-- Which connection it is. -/
  ref : Nat
  /-- Empty until a query has been sent. -/
  queryStr : CStr
  deriving DecidableEq

/-- `struct query` -/
structure OpenQuery where
  queryStr : CStr
  handle : UInt32
  deriving DecidableEq

/-- `globals` -/
structure Daemon where
  mslookupClient : Client
  queries : List OpenQuery
  socketClients : List SocketClient
  /-- How many connections have been accepted. -/
  accepted : Nat

/-- The daemon before its command line: the mslookup client has the one mDNS method. -/
def Daemon.new : Daemon := ⟨Client.new [true], [], [], 0⟩

/-- What the daemon does on a connection. -/
inductive Output where
  /-- `write()` of the headers. -/
  | csvHeaders (ref : Nat)
  /-- `socket_client_respond_result()` of what the formatter makes of a query string and a result. -/
  | respond (ref : Nat) (queryStr : CStr) (result : Option Result)
  /-- `socket_client_close()` -/
  | close (ref : Nat)
  deriving DecidableEq

/-- `!r || r->last` -/
def isLast : Option Result → Bool
  | none => true
  | some result => result.last

/-- What is written to a socket client, and that it is closed behind the last result. -/
def respondTo (queryStr : CStr) (result : Option Result) (ref : Nat) : List Output :=
  .respond ref queryStr result :: if isLast result then [.close ref] else []

/-- `respond_result`, and `respond_err` without a result. -/
def respondResult (s : Daemon) (queryStr : CStr) (result : Option Result) :
    Daemon × List Output :=
  let asked := s.socketClients.filter fun c => c.queryStr = queryStr
  ({ s with
    socketClients :=
      if isLast result then s.socketClients.filter fun c => c.queryStr ≠ queryStr
      else s.socketClients },
    asked.flatMap fun c => respondTo queryStr result c.ref)

/-- `query_by_handle` -/
def queryByHandle (s : Daemon) (requestHandle : UInt32) : Option OpenQuery :=
  Keyed.find OpenQuery.handle s.queries requestHandle

/-- `mslookup_result_cb` -/
def mslookupResultCb (s : Daemon) (requestHandle : UInt32) (result : Result) :
    Daemon × List Output :=
  match queryByHandle s requestHandle with
  | none => (s, [])
  | some q =>
      let responded := respondResult s q.queryStr (some result)
      if result.last then
        ({ responded.1 with
          queries := Keyed.remove OpenQuery.handle responded.1.queries q.handle }, responded.2)
      else responded

/-- A call of `mslookup_result_cb` by the mslookup client. -/
structure Callback where
  /-- The request that the result is for. -/
  ref : Nat
  requestHandle : UInt32
  result : Result

/-- The calls of `mslookup_result_cb` among those that the mslookup client makes. -/
def callbacks (events : List Event) : List Callback :=
  events.filterMap fun
    | .resultCb ref requestHandle _ result => some ⟨ref, requestHandle, result⟩
    | _ => none

/-- The callbacks, one after the other. -/
def resultCbs (s : Daemon) : List Callback → Daemon × List Output
  | [] => (s, [])
  | cb :: cbs =>
      let first := mslookupResultCb s cb.requestHandle cb.result
      let rest := resultCbs first.1 cbs
      (rest.1, first.2 ++ rest.2)

/-- `start_query_str` -/
def startQueryStr (s : Daemon) (queryStr : CStr) : Daemon × List Output :=
  let domainStr := domainOf queryStr
  match queryOf lib opts queryStr with
  | none => respondResult s domainStr none
  | some (query, handling) =>
      let requested := MslookupClient.request lib s.mslookupClient query handling
      -- an older request may come to its end on the way
      let told := resultCbs { s with mslookupClient := requested.2.1 } (callbacks requested.2.2)
      if requested.1 = 0 then
        let responded := respondResult told.1 domainStr none
        (responded.1, told.2 ++ responded.2)
      else ({ told.1 with queries := ⟨domainStr, requested.1⟩ :: told.1.queries }, told.2)

/-! ## The socket -/

/-- What `recv()` returns. -/
inductive Recv where
  | data (bytes : List UInt8)
  | error (again : Bool)

/-- What a socket client has sent, up to the errors of `socket_read_cb`. -/
inductive Line where
  | again
  /-- There is nothing to be read, or too much, or no line. -/
  | close
  | query (queryWithTimeout : CStr)

/-- The line of a message; `sizeof(c->query_str)` is 1024. -/
def lineOf : Recv → Line
  | .error true => .again
  | .error false => .close
  | .data bytes =>
      if bytes.length = 0 then .close
      else if 1024 ≤ bytes.length then .close
      else
        match strtok (CStr.ofBytes bytes) with
        | none => .close
        | some line => .query line

/-- `socket_client_close` -/
def socketClientClose (s : Daemon) (ref : Nat) : Daemon × List Output :=
  ({ s with socketClients := Keyed.remove SocketClient.ref s.socketClients ref }, [.close ref])

/-- `socket_read_cb` -/
def socketReadCb (s : Daemon) (c : SocketClient) (recv : Recv) : Daemon × List Output :=
  match lineOf recv with
  | .again => (s, [])
  | .close => socketClientClose s c.ref
  | .query queryWithTimeout =>
      let queryStr := domainOf queryWithTimeout
      if c.queryStr ≠ CStr.empty then (s, [.respond c.ref queryStr none])
      else
        startQueryStr lib opts
          { s with socketClients := Keyed.set SocketClient.ref s.socketClients ⟨c.ref, queryStr⟩ }
          queryWithTimeout

/-- `socket_accept` -/
def socketAccept (s : Daemon) : Daemon × List Output :=
  ({ s with
    socketClients := ⟨s.accepted, CStr.empty⟩ :: s.socketClients
    accepted := s.accepted + 1 },
    if opts.csvHeaders then [.csvHeaders s.accepted] else [])

/-! ## The daemon at work -/

/-- What happens to the daemon. -/
inductive Action where
  /-- A query of the command line. -/
  | argument (queryStr : CStr)
  | accept
  | read (ref : Nat) (recv : Recv)
  /-- A result comes in for a handle. -/
  | rxResult (requestHandle : UInt32) (result : Result)
  /-- The timer of a request expires. -/
  | timeout (ref : Nat)

/-- A call into the mslookup client that is no request. -/
def lookup (s : Daemon) (out : Client × List Event) : Daemon × List Output :=
  resultCbs { s with mslookupClient := out.1 } (callbacks out.2)

/-- One step. -/
def step (s : Daemon) : Action → Daemon × List Output
  | .argument queryStr => startQueryStr lib opts s queryStr
  | .accept => socketAccept opts s
  | .read ref recv =>
      match Keyed.find SocketClient.ref s.socketClients ref with
      | none => (s, [])
      | some c => socketReadCb lib opts s c recv
  | .rxResult requestHandle result =>
      lookup s (MslookupClient.rxResult s.mslookupClient requestHandle result)
  | .timeout ref => lookup s (MslookupClient.timerExpires s.mslookupClient ref)

/-- The daemon as a machine. -/
def machine : Machine Daemon Action Output := ⟨step lib opts⟩

/-! ## What the mslookup client tells the daemon -/

/-- The open requests, by address and handle. -/
def IsOpen (client : Client) (ref : Nat) (requestHandle : UInt32) : Prop :=
  ∃ r ∈ client.requests, r.ref = ref ∧ r.requestHandle = requestHandle

/-- At most one result of an open request, which is open as long as it is not the last. -/
def Tells (before after : Nat → UInt32 → Prop) (cbs : List Callback) : Prop :=
  (cbs = [] ∧ ∀ ref requestHandle, after ref requestHandle ↔ before ref requestHandle) ∨
    ∃ cb, cbs = [cb] ∧ before cb.ref cb.requestHandle ∧ ∀ ref requestHandle,
      after ref requestHandle ↔
        before ref requestHandle ∧ ¬(cb.result.last = true ∧ ref = cb.ref)

section Tells

variable {client : Client} {r : MslookupClient.Request}

theorem callbacks_append (events events' : List Event) :
    callbacks (events ++ events') = callbacks events ++ callbacks events' :=
  List.filterMap_append

theorem callbacks_cleanupCalls (lookupMethods : List Bool) (requestHandle : UInt32) :
    callbacks (MslookupClient.cleanupCalls lookupMethods requestHandle) = [] := by
  refine List.filterMap_eq_nil_iff.2 fun e he => ?_
  obtain ⟨l, hl, he⟩ := List.mem_flatten.1 he
  obtain ⟨i, hi, rfl⟩ := List.mem_mapIdx.1 hl
  split at he
  · rw [List.mem_singleton.1 he]
  · cases he

theorem callbacks_requestCalls (lookupMethods : List Bool) (query : Query)
    (requestHandle : UInt32) :
    callbacks (MslookupClient.requestCalls lookupMethods query requestHandle) = [] := by
  refine List.filterMap_eq_nil_iff.2 fun e he => ?_
  obtain ⟨i, hi, rfl⟩ := List.mem_mapIdx.1 he
  rfl

theorem callbacks_lastCalls (client : Client) (r : MslookupClient.Request) (result : Result) :
    callbacks (MslookupClient.lastCalls client r result) =
      [⟨r.ref, r.requestHandle, { result with last := true }⟩] :=
  congrArg (List.cons _) (callbacks_cleanupCalls client.lookupMethods r.requestHandle)

/-- An address or a handle tells which request is open. -/
theorem isOpen_keys (h : Distinct client) {ref ref' : Nat} {requestHandle requestHandle' : UInt32}
    (ho : IsOpen client ref requestHandle) (ho' : IsOpen client ref' requestHandle') :
    ref = ref' ↔ requestHandle = requestHandle' := by
  obtain ⟨r, hr, rfl, rfl⟩ := ho
  obtain ⟨x, hx, rfl, rfl⟩ := ho'
  constructor
  · intro heq
    rw [MslookupClient.eq_of_ref_eq h.refs hr hx heq]
  · intro heq
    rw [MslookupClient.eq_of_handle_eq h hr hx heq]

theorem isOpen_iff_mem {ref : Nat} {requestHandle : UInt32} :
    IsOpen client ref requestHandle ↔
      (ref, requestHandle) ∈ client.requests.map fun r => (r.ref, r.requestHandle) := by
  simp [IsOpen]

/-- What is written to a request matters to nobody who knows its address and its handle. -/
theorem isOpen_set (h : Distinct client) (hr : r ∈ client.requests) {r' : MslookupClient.Request}
    (href : r'.ref = r.ref) (hhandle : r'.requestHandle = r.requestHandle) (ref : Nat)
    (requestHandle : UInt32) :
    IsOpen (client.set r') ref requestHandle ↔ IsOpen client ref requestHandle := by
  rw [isOpen_iff_mem, isOpen_iff_mem, MslookupClient.map_set
    (fun r => (r.ref, r.requestHandle)) h.refs hr href (Prod.ext href hhandle)]

theorem isOpen_remove (ref' : Nat) (ref : Nat) (requestHandle : UInt32) :
    IsOpen (client.remove ref') ref requestHandle ↔
      IsOpen client ref requestHandle ∧ ref ≠ ref' := by
  constructor
  · rintro ⟨x, hx, rfl, rfl⟩
    obtain ⟨hx, hne⟩ := MslookupClient.mem_remove.1 hx
    exact ⟨⟨x, hx, rfl, rfl⟩, hne⟩
  · rintro ⟨⟨x, hx, rfl, rfl⟩, hne⟩
    exact ⟨x, MslookupClient.mem_remove.2 ⟨hx, hne⟩, rfl, rfl⟩

/-- Nothing is told. -/
theorem tells_nil {after : Client}
    (h : ∀ ref requestHandle, IsOpen after ref requestHandle ↔ IsOpen client ref requestHandle) :
    Tells (IsOpen client) (IsOpen after) [] := Or.inl ⟨rfl, h⟩

/-- A result that is not the last one. -/
theorem tells_interim (hr : r ∈ client.requests) {after : Client} {result : Result}
    (hlast : result.last = false)
    (h : ∀ ref requestHandle, IsOpen after ref requestHandle ↔ IsOpen client ref requestHandle) :
    Tells (IsOpen client) (IsOpen after) [⟨r.ref, r.requestHandle, result⟩] := by
  refine Or.inr ⟨_, rfl, ⟨r, hr, rfl, rfl⟩, fun ref requestHandle => ?_⟩
  rw [h, hlast]
  simp

/-- The last result ends the request. -/
theorem tells_last (hr : r ∈ client.requests) (result : Result) :
    Tells (IsOpen client) (IsOpen (client.remove r.ref))
      (callbacks (MslookupClient.lastCalls client r result)) := by
  rw [callbacks_lastCalls]
  refine Or.inr ⟨_, rfl, ⟨r, hr, rfl, rfl⟩, fun ref requestHandle => ?_⟩
  rw [isOpen_remove]
  simp

/-- A result that comes in is told to the daemon at most once. -/
theorem tells_rxResult (h : WellFormed client) (requestHandle : UInt32) (result : Result) :
    Tells (IsOpen client) (IsOpen (MslookupClient.rxResult client requestHandle result).1)
      (callbacks (MslookupClient.rxResult client requestHandle result).2) := by
  cases hr : MslookupClient.getRequest client requestHandle with
  | none =>
      rw [MslookupClient.rxResult_of_none hr]
      exact tells_nil fun _ _ => Iff.rfl
  | some r =>
      obtain ⟨hmem, rfl⟩ := (MslookupClient.getRequest_eq_some_iff h.toDistinct).1 hr
      rw [MslookupClient.rxResult_eq h.toDistinct hmem]
      split
      · exact tells_nil fun _ _ => Iff.rfl
      · split
        · exact tells_last hmem result
        · split
          · exact tells_nil (isOpen_set h.toDistinct hmem rfl rfl)
          · exact tells_interim hmem rfl (isOpen_set h.toDistinct hmem rfl rfl)

/-- So is a timer that expires. -/
theorem tells_timerExpires (h : WellFormed client) (ref : Nat) :
    Tells (IsOpen client) (IsOpen (MslookupClient.timerExpires client ref).1)
      (callbacks (MslookupClient.timerExpires client ref).2) := by
  cases hr : client.lookup ref with
  | none =>
      rw [MslookupClient.timerExpires, hr]
      exact tells_nil fun _ _ => Iff.rfl
  | some r =>
      obtain ⟨hmem, rfl⟩ := (MslookupClient.lookup_eq_some_iff h.refs).1 hr
      rw [MslookupClient.timerExpires_eq h hmem]
      split
      · split
        · exact tells_last hmem _
        · split
          · exact tells_interim hmem rfl (isOpen_set h.toDistinct hmem rfl rfl)
          · exact tells_nil (isOpen_set h.toDistinct hmem rfl rfl)
      · exact tells_last hmem _

variable {lib} {opts}

/-- What a query string asks for is a valid query. -/
theorem queryValid_of_queryOf {queryStr : CStr} {query : Query} {handling : QueryHandling}
    (h : queryOf lib opts queryStr = some (query, handling)) :
    MslookupClient.queryValid lib query = true ∧ domainOf queryStr ≠ CStr.empty := by
  unfold queryOf at h
  cases hhandling : handlingOf opts queryStr with
  | none =>
      rw [hhandling] at h
      cases h
  | some handling' =>
      rw [hhandling] at h
      dsimp only at h
      split at h
      · cases h
      · split at h
        next => cases h
        next query' hquery =>
            cases h
            obtain ⟨hpos, -, hid⟩ := Mslookup.queryInit_valid lib hquery (by
              rintro _ ⟨⟩
              omega)
            refine ⟨?_, fun hempty => ?_⟩
            · simp [MslookupClient.queryValid, Mslookup.serviceValid, hpos, hid]
            · rw [hempty] at hquery
              cases hquery

/-- A new request may end the one that has its handle. -/
theorem tells_request (h : WellFormed client) {query : Query} (handling : QueryHandling)
    (hq : MslookupClient.queryValid lib query = true) :
    ∃ between : Nat → UInt32 → Prop,
      Tells (IsOpen client) between
        (callbacks (MslookupClient.request lib client query handling).2.2) ∧
      (∀ ref, ¬between ref client.newHandle) ∧
      ∀ ref requestHandle,
        IsOpen (MslookupClient.request lib client query handling).2.1 ref requestHandle ↔
          between ref requestHandle ∨ ref = client.allocated ∧ requestHandle = client.newHandle := by
  have hdist := h.toDistinct
  refine ⟨fun ref requestHandle =>
    IsOpen client ref requestHandle ∧ requestHandle ≠ client.newHandle, ?_, ?_, ?_⟩
  · rw [MslookupClient.request_eq lib hdist hq]
    dsimp only
    rw [callbacks_append, callbacks_requestCalls, List.append_nil, MslookupClient.expireCalls]
    cases hholder : client.holder client.newHandle with
    | none =>
        refine Or.inl ⟨rfl, fun ref requestHandle => and_iff_left_of_imp ?_⟩
        rintro ⟨r, hr, -, rfl⟩
        exact Keyed.find_eq_none_iff.1 hholder r hr
    | some other =>
        obtain ⟨hother, hhandle⟩ := (MslookupClient.holder_eq_some_iff hdist).1 hholder
        have hopen : IsOpen client other.ref client.newHandle := ⟨other, hother, rfl, hhandle⟩
        dsimp only
        rw [callbacks_lastCalls, hhandle]
        refine Or.inr ⟨_, rfl, hopen, fun ref requestHandle => and_congr_right fun ho => ?_⟩
        have hkeys := isOpen_keys hdist ho hopen
        simp [hkeys]
  · exact fun ref hbetween => hbetween.2 rfl
  · intro ref requestHandle
    rw [MslookupClient.request_eq lib hdist hq]
    constructor
    · rintro ⟨r, hr, rfl, rfl⟩
      rcases List.mem_append.1 hr with hr | hr
      · obtain ⟨hr, hne⟩ := List.mem_filter.1 hr
        exact Or.inl ⟨⟨r, hr, rfl, rfl⟩, by simpa using hne⟩
      · rw [List.mem_singleton.1 hr]
        exact Or.inr ⟨MslookupClient.ref_newRequest .., MslookupClient.requestHandle_newRequest ..⟩
    · rintro (⟨⟨r, hr, rfl, rfl⟩, hne⟩ | ⟨rfl, rfl⟩)
      · exact ⟨r, List.mem_append_left _ (List.mem_filter.2 ⟨hr, by simpa using hne⟩), rfl, rfl⟩
      · exact ⟨_, List.mem_append_right _ (List.mem_singleton_self _),
          MslookupClient.ref_newRequest .., MslookupClient.requestHandle_newRequest ..⟩

end Tells

end LookupDaemon
end OsmoHlr
