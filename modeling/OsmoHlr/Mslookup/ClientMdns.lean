import OsmoHlr.Mslookup.ClientHandles
import OsmoHlr.Mslookup.MdnsRoundTrip

/-!
# The mDNS lookup method

`src/mslookup/mslookup_client_mdns.c`: the method keeps one record for each open
request of the client, newest first, and gives every answer to the first record
with the same query.

* `tracks_run` — in every run the records are those of the client's open
  requests.
* `mdnsMethodRecv_delivers_iff` — an answer goes to the request that was sent with
  its packet id exactly when no newer request asks the same under another id.
-/

namespace OsmoHlr
namespace MslookupClientMdns

open Mdns MdnsRfc
open MdnsMsg (einval)
open Mslookup (Query Result idCmp idValid)
open MslookupClient (Client Request Event Op WellFormed)
open CString

variable (lib : Libosmocore)

/-- `struct osmo_mdns_method_request` -/
structure MdnsMethodRequest where
  requestHandle : UInt32
  query : Query
  packetId : UInt16
  deriving DecidableEq

/-- `struct osmo_mdns_method_state`, without the socket. -/
structure MdnsMethodState where
  domainSuffix : CStr
  requests : List MdnsMethodRequest
  nextPacketId : UInt16
  deriving DecidableEq

/-- `osmo_mslookup_client_add_mdns`: the state of a new method. -/
def addMdns (initialPacketId : UInt16) (domainSuffix : CStr) : MdnsMethodState :=
  ⟨domainSuffix, [], initialPacketId⟩

/-! ## Sending -/

/-- `mdns_method_request`: the new state, and the packet that is sent, if it can be encoded. -/
def mdnsMethodRequest (state : MdnsMethodState) (query : Query) (requestHandle : UInt32) :
    MdnsMethodState × Except Fault (Option Msgb) :=
  let r : MdnsMethodRequest := ⟨requestHandle, query, state.nextPacketId⟩
  let state := { state with
    requests := r :: state.requests, nextPacketId := state.nextPacketId + 1 }
  (state, queryEncode lib r.packetId query state.domainSuffix)

/-- `mdns_method_request_cleanup` -/
def mdnsMethodRequestCleanup (state : MdnsMethodState) (requestHandle : UInt32) :
    MdnsMethodState :=
  { state with requests := state.requests.eraseP fun r => r.requestHandle = requestHandle }

/-! ## Receiving -/

/-- `request_handle_by_query`; it is given the packet id as well. -/
def requestHandleByQuery (state : MdnsMethodState) (query : Query) (_packetId : UInt16) :
    Option UInt32 :=
  (state.requests.find? fun request => request.query.service = query.service ∧
    idCmp lib (some request.query.id) (some query.id) = 0).map MdnsMethodRequest.requestHandle

/-- The size of the buffer of `mdns_method_recv`. -/
def recvBufSize : Nat := 1024

/-- `mdns_method_recv`, from what `read` returns on: what it returns, and the handle and the
result that it passes to `osmo_mslookup_client_rx_result`. -/
def mdnsMethodRecv (state : MdnsMethodState) (read : Except Int (List UInt8)) :
    Except Fault (Int × Option (UInt32 × Result)) :=
  match read with
  | .error n => .ok (n, none)
  | .ok datagram => do
      let buffer := datagram.take recvBufSize
      match ← resultDecode lib buffer state.domainSuffix with
      | .error _ => .ok (einval, none)
      | .ok (packetId, query, result) =>
          match requestHandleByQuery lib state query packetId with
          | none => .ok (einval, none)
          | some requestHandle => .ok (buffer.length, some (requestHandle, result))

/-! ## The records of the method and the requests of the client -/

/-- What the code can rely on: the client's handles are distinct, and its queries are valid. -/
structure MdnsMethodState.WellFormed (state : MdnsMethodState) : Prop where
  handles : (state.requests.map MdnsMethodRequest.requestHandle).Nodup
  id_valid : ∀ r ∈ state.requests, idValid lib r.query.id = true

/-- What a call of the client does to the method number `i`. -/
def follow (i : Nat) (state : MdnsMethodState) : Event → MdnsMethodState
  | .methodRequest j query requestHandle =>
      if j = i then (mdnsMethodRequest lib state query requestHandle).1 else state
  | .methodCleanup j requestHandle =>
      if j = i then mdnsMethodRequestCleanup state requestHandle else state
  | _ => state

/-- The handle and the query of a client's request. -/
def key (r : Request) : UInt32 × Query := (r.requestHandle, r.query)

/-- The handle and the query of a record. -/
def MdnsMethodRequest.key (r : MdnsMethodRequest) : UInt32 × Query := (r.requestHandle, r.query)

/-- The records are those of the open requests, in the opposite order. -/
structure Tracks (lookupMethods : List Bool) (client : Client) (state : MdnsMethodState) :
    Prop where
  wellFormed : WellFormed client
  methods : client.lookupMethods = lookupMethods
  keys : state.requests.map MdnsMethodRequest.key = (client.requests.map key).reverse
  valid : ∀ r ∈ client.requests, MslookupClient.queryValid lib r.query = true

section Follow

variable {lib} {i : Nat} {state : MdnsMethodState}

theorem foldl_follow_of_quiet {events : List Event}
    (h : ∀ e ∈ events, ∀ state, follow lib i state e = state) (state : MdnsMethodState) :
    events.foldl (follow lib i) state = state := by
  induction events with
  | nil => rfl
  | cons e events ih =>
      rw [List.foldl_cons, h e (by simp)]
      exact ih fun x hx => h x (by simp [hx])

theorem foldl_follow_told (r : Request) (results : List Result) (state : MdnsMethodState) :
    (results.map r.told).foldl (follow lib i) state = state := by
  refine foldl_follow_of_quiet (fun e he state => ?_) state
  obtain ⟨result, -, rfl⟩ := List.mem_map.1 he
  rfl

/-- The client tells a method once about a new request. -/
theorem foldl_follow_requestCalls (front back : List Bool) (query : Query)
    (requestHandle : UInt32) (state : MdnsMethodState) :
    (MslookupClient.requestCalls (front ++ true :: back) query requestHandle).foldl
        (follow lib front.length) state =
      (mdnsMethodRequest lib state query requestHandle).1 := by
  have hquiet : ∀ j, j ≠ front.length → ∀ state,
      follow lib front.length state (.methodRequest j query requestHandle) = state :=
    fun j hj state => if_neg hj
  have hmap : ∀ (k : Nat → Nat) (l : List Bool), (∀ j < l.length, k j ≠ front.length) →
      ∀ state, (l.mapIdx fun j _ => Event.methodRequest (k j) query requestHandle).foldl
        (follow lib front.length) state = state := by
    intro k l hk
    refine foldl_follow_of_quiet ?_
    intro e he
    obtain ⟨j, hj, rfl⟩ := List.mem_mapIdx.1 he
    exact hquiet (k j) (hk j hj)
  rw [MslookupClient.requestCalls, List.mapIdx_append, List.mapIdx_cons, List.foldl_append,
    List.foldl_cons, hmap (fun j => j) front fun j hj => hj.ne,
    hmap (fun j => j + 1 + front.length) back fun j _ => by omega]
  simp [follow]

/-- And once about the end of one. -/
theorem foldl_follow_cleanupCalls (front back : List Bool) (requestHandle : UInt32)
    (state : MdnsMethodState) :
    (MslookupClient.cleanupCalls (front ++ true :: back) requestHandle).foldl
        (follow lib front.length) state = mdnsMethodRequestCleanup state requestHandle := by
  have hquiet : ∀ j, j ≠ front.length → ∀ (b : Bool) (e : Event),
      e ∈ (if b then [Event.methodCleanup j requestHandle] else []) → ∀ state,
      follow lib front.length state e = state := by
    intro j hj b e he state
    cases b with
    | true =>
        rw [List.mem_singleton.1 he]
        exact if_neg hj
    | false => cases he
  have hmap : ∀ (k : Nat → Nat) (l : List Bool), (∀ j < l.length, k j ≠ front.length) →
      ∀ state, (l.mapIdx fun j hasCleanup => if hasCleanup then
        [Event.methodCleanup (k j) requestHandle] else []).flatten.foldl
          (follow lib front.length) state = state := by
    intro k l hk
    refine foldl_follow_of_quiet ?_
    intro e he
    obtain ⟨es, hes, he⟩ := List.mem_flatten.1 he
    obtain ⟨j, hj, rfl⟩ := List.mem_mapIdx.1 hes
    exact hquiet (k j) (hk j hj) _ e he
  rw [MslookupClient.cleanupCalls, List.mapIdx_append, List.mapIdx_cons, List.flatten_append,
    List.flatten_cons, List.foldl_append, List.foldl_append, hmap (fun j => j) front fun j hj => hj.ne,
    hmap (fun j => j + 1 + front.length) back fun j _ => by omega]
  simp [follow]

theorem eraseP_handle {l : List MdnsMethodRequest} (requestHandle : UInt32)
    (h : (l.map MdnsMethodRequest.requestHandle).Nodup) :
    l.eraseP (fun r => r.requestHandle = requestHandle) =
      l.filter fun r => r.requestHandle ≠ requestHandle := by
  induction l with
  | nil => rfl
  | cons r l ih =>
      rw [List.map_cons, List.nodup_cons] at h
      by_cases heq : r.requestHandle = requestHandle
      · have hrest : l.filter (fun r => r.requestHandle ≠ requestHandle) = l := by
          refine List.filter_eq_self.2 ?_
          intro x hx
          have hne : x.requestHandle ≠ requestHandle := fun hc =>
            h.1 (List.mem_map.2 ⟨x, hx, hc.trans heq.symm⟩)
          simpa using hne
        rw [List.eraseP_cons_of_pos (by simpa using heq), List.filter_cons_of_neg (by simpa using heq),
          hrest]
      · rw [List.eraseP_cons_of_neg (by simpa using heq), List.filter_cons_of_pos (by simpa using heq),
          ih h.2]

end Follow

/-! ## Every run of the client -/

section Run

variable {lib} {lookupMethods : List Bool} {client : Client} {state : MdnsMethodState}

theorem Tracks.handles (h : Tracks lib lookupMethods client state) :
    (state.requests.map MdnsMethodRequest.requestHandle).Nodup := by
  have hfst : state.requests.map MdnsMethodRequest.requestHandle =
      (client.requests.map Request.requestHandle).reverse := by
    have hmap := congrArg (List.map Prod.fst) h.keys
    rw [List.map_map, ← List.map_reverse, List.map_map] at hmap
    rw [← List.map_reverse]
    exact hmap
  rw [hfst, List.nodup_reverse]
  exact h.wellFormed.handles

/-- Both sides forget a handle. -/
theorem Tracks.keys_cleanup (h : Tracks lib lookupMethods client state) (requestHandle : UInt32) :
    (mdnsMethodRequestCleanup state requestHandle).requests.map MdnsMethodRequest.key =
      ((client.requests.filter fun r => r.requestHandle ≠ requestHandle).map key).reverse := by
  have hleft : ∀ l : List MdnsMethodRequest,
      (l.filter fun r => r.requestHandle ≠ requestHandle).map MdnsMethodRequest.key =
        (l.map MdnsMethodRequest.key).filter fun k => k.1 ≠ requestHandle := by
    intro l
    rw [List.filter_map]
    rfl
  have hright : ∀ l : List Request,
      (l.filter fun r => r.requestHandle ≠ requestHandle).map key =
        (l.map key).filter fun k => k.1 ≠ requestHandle := by
    intro l
    rw [List.filter_map]
    rfl
  rw [mdnsMethodRequestCleanup, eraseP_handle requestHandle h.handles, hleft, h.keys, hright,
    List.filter_reverse]

/-- **The records stay those of the open requests.** -/
theorem tracks_step {front back : List Bool}
    (h : Tracks lib (front ++ true :: back) client state) (op : Op) :
    Tracks lib (front ++ true :: back) (MslookupClient.step lib client op).1
      ((MslookupClient.step lib client op).2.foldl (follow lib front.length) state) := by
  have hwf := MslookupClient.wellFormed_step lib client op h.wellFormed
  rcases MslookupClient.step_cases lib h.wellFormed op with
    ⟨query, handling, -, hq, hstep⟩ | hstep | ⟨r, hr, -, he⟩
  · rw [hstep] at hwf ⊢
    refine ⟨hwf, h.methods, ?_, ?_⟩
    · have hexpire : ((MslookupClient.expireCalls client).foldl (follow lib front.length)
          state).requests.map MdnsMethodRequest.key = ((client.requests.filter fun r =>
            r.requestHandle ≠ client.newHandle).map key).reverse := by
        unfold MslookupClient.expireCalls
        cases hholder : client.holder client.newHandle with
        | none =>
            rw [MslookupClient.filter_of_holder_eq_none hholder]
            exact h.keys
        | some other =>
            obtain ⟨-, hhandle⟩ :=
              (MslookupClient.holder_eq_some_iff h.wellFormed.toDistinct).1 hholder
            rw [← hhandle]
            simp only [MslookupClient.lastCalls, h.methods, List.foldl_cons, follow,
              foldl_follow_cleanupCalls]
            exact h.keys_cleanup other.requestHandle
      rw [List.foldl_append, List.foldl_append, h.methods, foldl_follow_requestCalls]
      simp only [List.foldl_cons, List.foldl_nil, follow, mdnsMethodRequest, List.map_cons, hexpire,
        Client.withRequest, List.map_append, List.map_nil, List.reverse_append, List.reverse_cons,
        List.reverse_nil, List.nil_append, List.singleton_append]
      rw [key, MslookupClient.requestHandle_newRequest, MslookupClient.query_newRequest]
      rfl
    · intro x hx
      rcases List.mem_append.1 hx with hx | hx
      · exact h.valid x (List.mem_of_mem_filter hx)
      · rw [List.mem_singleton.1 hx, MslookupClient.query_newRequest]
        exact hq
  · rw [hstep]
    exact h
  · generalize MslookupClient.step lib client op = out at he hwf ⊢
    cases he with
    | keep => exact h
    | write r' results href hhandle hquery harmed =>
        rw [foldl_follow_told]
        refine ⟨hwf, h.methods, ?_, ?_⟩
        · have hkey : key r' = key r := by rw [key, key, hhandle, hquery]
          rw [h.keys, MslookupClient.map_set key h.wellFormed.refs hr href hkey]
        · intro x hx
          rcases (MslookupClient.mem_set hr href).1 hx with rfl | ⟨hx, -⟩
          · rw [hquery]
            exact h.valid r hr
          · exact h.valid x hx
    | remove results =>
        rw [List.foldl_append, foldl_follow_told, h.methods, foldl_follow_cleanupCalls]
        refine ⟨hwf, h.methods, ?_, fun x hx => h.valid x (MslookupClient.mem_remove.1 hx).1⟩
        rw [h.keys_cleanup, MslookupClient.filter_handle_eq h.wellFormed.toDistinct hr]
        rfl

/-- **In every run the method's records are those of the client's open requests**, so that the
handles are distinct and the queries valid. -/
theorem tracks_run (lib : Libosmocore) (front back : List Bool) (initialPacketId : UInt16)
    (domainSuffix : CStr) (ops : List Op) :
    let run := (MslookupClient.machine lib).run (Client.new (front ++ true :: back)) ops
    Tracks lib (front ++ true :: back) run.1
      (run.2.foldl (follow lib front.length) (addMdns initialPacketId domainSuffix)) := by
  refine (MslookupClient.machine lib).run_induction (P := fun _ client events =>
    Tracks lib (front ++ true :: back) client
      (events.foldl (follow lib front.length) (addMdns initialPacketId domainSuffix))) ?_ ?_ ops
  · exact ⟨MslookupClient.wellFormed_new _, rfl, rfl, by simp [Client.new]⟩
  · intro _ client events op h
    rw [List.foldl_append]
    exact tracks_step h op

theorem Tracks.state_wellFormed (h : Tracks lib lookupMethods client state) :
    state.WellFormed lib where
  handles := h.handles
  id_valid := by
    intro r hr
    have hmem : r.key ∈ (client.requests.map key).reverse := by
      rw [← h.keys]
      exact List.mem_map_of_mem hr
    obtain ⟨x, hx, hkey⟩ := List.mem_map.1 (List.mem_reverse.1 hmem)
    have hvalid := h.valid x hx
    have hquery : x.query = r.query := (Prod.ext_iff.1 hkey).2
    rw [hquery, MslookupClient.queryValid, Bool.and_eq_true] at hvalid
    exact hvalid.2

end Run

/-! ## Which request gets an answer -/

/-- Where an answer belongs: to an open request with its query and its packet id, and to no one
if there is none. -/
def Delivers (state : MdnsMethodState) (packetId : UInt16) (query : Query) :
    Option UInt32 → Prop
  | some requestHandle => ∃ r ∈ state.requests,
      r.requestHandle = requestHandle ∧ r.query = query ∧ r.packetId = packetId
  | none => ∀ r ∈ state.requests, ¬ (r.query = query ∧ r.packetId = packetId)

/-- No open request for the query was sent under another packet id, unless a newer one was sent
under this one. -/
def NewestHasId (state : MdnsMethodState) (packetId : UInt16) (query : Query) : Prop :=
  ∀ pre r post, state.requests = pre ++ r :: post → r.query = query → r.packetId ≠ packetId →
    ∃ x ∈ pre, x.query = query ∧ x.packetId = packetId

section Deliver

variable {lib} {state : MdnsMethodState} {packetId : UInt16} {query : Query}

/-- The newest request for the query gets the answer. -/
theorem requestHandleByQuery_eq (h : state.WellFormed lib) (hq : idValid lib query.id = true)
    (packetId : UInt16) : requestHandleByQuery lib state query packetId =
      (state.requests.find? fun r => r.query = query).map MdnsMethodRequest.requestHandle := by
  have hcongr : ∀ l : List MdnsMethodRequest, (∀ r ∈ l, idValid lib r.query.id = true) →
      (l.find? fun r => r.query.service = query.service ∧
        idCmp lib (some r.query.id) (some query.id) = 0) = l.find? fun r => r.query = query := by
    intro l hl
    induction l with
    | nil => rfl
    | cons r l ih =>
        have hiff : (r.query.service = query.service ∧
            idCmp lib (some r.query.id) (some query.id) = 0) ↔ r.query = query := by
          rw [Mslookup.idCmp_eq_zero_iff lib (hl r (by simp)) hq]
          constructor
          · rintro ⟨hs, hi⟩
            cases hr : r.query
            cases query
            simp_all
          · intro heq
            rw [heq]
            exact ⟨rfl, rfl⟩
        rw [List.find?_cons, List.find?_cons, ih fun x hx => hl x (by simp [hx])]
        simp only [hiff]
  rw [requestHandleByQuery, hcongr state.requests h.id_valid]

/-- The query of a packet is valid. -/
theorem idValid_of_resultDecode {data : List UInt8} {suffix : CStr} {result : Result}
    (h : resultDecode lib data suffix = .ok (.ok (packetId, query, result))) :
    idValid lib query.id = true := by
  rw [resultDecode] at h
  obtain ⟨ans, -, h⟩ := Except.bind_eq_ok.1 h
  cases ans with
  | none => cases h
  | some ans =>
      obtain ⟨q, hq, h⟩ := Except.bind_eq_ok.1 h
      cases q with
      | error e => cases h
      | ok q =>
          simp only at h
          cases hr : resultFromAnswer lib ans with
          | error e =>
              rw [hr] at h
              cases h
          | ok r =>
              rw [hr] at h
              cases h
              exact (queryFromDomain_valid hq).id_valid

/-- The newest request for a query, and what stands before it in the list. -/
theorem find?_query_eq_some {r : MdnsMethodRequest}
    (h : (state.requests.find? fun r => r.query = query) = some r) :
    r.query = query ∧ ∃ pre post, state.requests = pre ++ r :: post ∧
      ∀ x ∈ pre, x.query ≠ query := by
  obtain ⟨hr, pre, post, hsplit, hpre⟩ := List.find?_eq_some_iff_append.1 h
  exact ⟨by simpa using hr, pre, post, hsplit, fun x hx => by simpa using hpre x hx⟩

/-- The newest request has the packet's id exactly when the answer is delivered where it
belongs. -/
theorem delivers_iff (h : state.WellFormed lib) :
    Delivers state packetId query
        ((state.requests.find? fun r => r.query = query).map MdnsMethodRequest.requestHandle) ↔
      NewestHasId state packetId query := by
  cases hfind : state.requests.find? fun r => r.query = query with
  | none =>
      have hnone : ∀ r ∈ state.requests, r.query ≠ query := fun r hr => by
        simpa using List.find?_eq_none.1 hfind r hr
      constructor
      · intro _ pre r post hsplit hq _
        exact absurd hq (hnone r (by rw [hsplit]; simp))
      · intro _ r hr hboth
        exact hnone r hr hboth.1
  | some r =>
      obtain ⟨hquery, pre, post, hsplit, hpre⟩ := find?_query_eq_some hfind
      have hmem : r ∈ state.requests := by
        rw [hsplit]
        simp
      constructor
      · rintro ⟨x, hx, hhandle, -, hid⟩ pre' y post' hsplit' hq hne
        have hxr : x = r := List.inj_on_of_nodup_map h.handles hx hmem hhandle
        refine ⟨r, ?_, hquery, hxr ▸ hid⟩
        -- `y` asks the same as `r`, the newest one, and has another id
        rw [hsplit, List.append_eq_append_iff] at hsplit'
        obtain ⟨a, rfl, ha⟩ | ⟨a, rfl, ha⟩ := hsplit'
        · cases a with
          | nil =>
              obtain ⟨rfl, -⟩ := List.cons_eq_cons.1 ha
              exact absurd (hxr ▸ hid) hne
          | cons z a =>
              obtain ⟨rfl, -⟩ := List.cons_eq_cons.1 ha
              simp
        · cases a with
          | nil =>
              obtain ⟨rfl, -⟩ := List.cons_eq_cons.1 ha
              exact absurd (hxr ▸ hid) hne
          | cons z a =>
              obtain ⟨rfl, -⟩ := List.cons_eq_cons.1 ha
              exact absurd hq (hpre y (by simp))
      · intro hnewest
        refine ⟨r, hmem, rfl, hquery, by_contra fun hne => ?_⟩
        obtain ⟨x, hx, hxq, -⟩ := hnewest pre r post hsplit hquery hne
        exact hpre x hx hxq

/-- The last request that was sent gets its own answers. -/
theorem newestHasId_of_cons {r : MdnsMethodRequest} {l : List MdnsMethodRequest}
    (hl : state.requests = r :: l) (hq : r.query = query) (hid : r.packetId = packetId) :
    NewestHasId state packetId query := by
  intro pre x post hsplit _ hne
  rw [hl] at hsplit
  cases pre with
  | nil =>
      obtain ⟨rfl, -⟩ := List.cons_eq_cons.1 hsplit
      exact absurd hid hne
  | cons y pre =>
      obtain ⟨rfl, -⟩ := List.cons_eq_cons.1 hsplit
      exact ⟨r, by simp, hq, hid⟩

/-- **An answer reaches the request it was sent for exactly when no newer open request asks the
same under another packet id.**  The packet id of the answer is not looked at. -/
theorem mdnsMethodRecv_delivers_iff (h : state.WellFormed lib) (datagram : List UInt8)
    {result : Result} (hdec : resultDecode lib (datagram.take recvBufSize) state.domainSuffix =
      .ok (.ok (packetId, query, result))) :
    (∃ rc handed, mdnsMethodRecv lib state (.ok datagram) = .ok (rc, handed) ∧
      (∀ x ∈ handed, x.2 = result) ∧ Delivers state packetId query (handed.map Prod.fst)) ↔
    NewestHasId state packetId query := by
  rw [← delivers_iff h, ← requestHandleByQuery_eq h (idValid_of_resultDecode hdec) packetId]
  have hrecv : mdnsMethodRecv lib state (.ok datagram) =
      match requestHandleByQuery lib state query packetId with
      | none => .ok (einval, none)
      | some requestHandle =>
          .ok ((datagram.take recvBufSize).length, some (requestHandle, result)) := by
    rw [mdnsMethodRecv, hdec]
    rfl
  rw [hrecv]
  cases requestHandleByQuery lib state query packetId with
  | none =>
      constructor
      · rintro ⟨rc, handed, heq, -, hdel⟩
        cases heq
        exact hdel
      · exact fun hdel => ⟨_, _, rfl, by simp, hdel⟩
  | some requestHandle =>
      constructor
      · rintro ⟨rc, handed, heq, -, hdel⟩
        cases heq
        exact hdel
      · exact fun hdel => ⟨_, _, rfl, by simp, hdel⟩

end Deliver

/-- The method behind two requests for the same query, sent with the packet ids 1 and 2. -/
def twoRequests : MdnsMethodState :=
  ((MslookupClient.machine Host.libosmocore).run (Client.new [true])
    [.request gsupQuery ⟨0, 300⟩, .request gsupQuery ⟨0, 300⟩]).2.foldl
      (follow Host.libosmocore 0) (addMdns 1 osmocomSuffix)

/-- The answer of a server to a packet. -/
def answerTo (packetId : UInt16) : List UInt8 :=
  match resultEncode Host.libosmocore packetId gsupQuery gsupResult osmocomSuffix with
  | .ok (some msg) => msg.data
  | _ => []

theorem twoRequests_requests : twoRequests.requests = [⟨2, gsupQuery, 2⟩, ⟨1, gsupQuery, 1⟩] := by
  decide +kernel

/-- The answer to the first packet goes to the second request. -/
theorem mdnsMethodRecv_answerTo_one :
    resultDecode Host.libosmocore (answerTo 1) osmocomSuffix =
      .ok (.ok (1, gsupQuery, gsupResult)) ∧
    mdnsMethodRecv Host.libosmocore twoRequests (.ok (answerTo 1)) =
      .ok ((answerTo 1).length, some (2, gsupResult)) ∧
    ¬ Delivers twoRequests 1 gsupQuery (some 2) := by
  refine ⟨by decide +kernel, by decide +kernel, ?_⟩
  rintro ⟨r, hr, hhandle, -, hid⟩
  rw [twoRequests_requests] at hr
  simp only [List.mem_cons, List.not_mem_nil, or_false] at hr
  rcases hr with rfl | rfl
  · exact absurd hid (by decide)
  · exact absurd hhandle (by decide)

/-- The answer to the second packet goes there, too, where it belongs. -/
theorem mdnsMethodRecv_answerTo_two : ∃ rc handed,
    mdnsMethodRecv Host.libosmocore twoRequests (.ok (answerTo 2)) = .ok (rc, handed) ∧
    (∀ x ∈ handed, x.2 = gsupResult) ∧
    Delivers twoRequests 2 gsupQuery (handed.map Prod.fst) := by
  have h := (tracks_run Host.libosmocore [] [] 1 osmocomSuffix
    [.request gsupQuery ⟨0, 300⟩, .request gsupQuery ⟨0, 300⟩]).state_wellFormed
  exact (mdnsMethodRecv_delivers_iff h (answerTo 2) (by decide +kernel)).2
    (newestHasId_of_cons twoRequests_requests rfl rfl)

end MslookupClientMdns
end OsmoHlr
