import OsmoHlr.Dgsm.MslookupServerHost
import OsmoHlr.Mslookup.ClientLifecycle
import OsmoHlr.Mslookup.ClientMdns
import OsmoHlr.Mslookup.MdnsSize

/-!
# Lookups across sites

Clients that ask by mDNS, and sites that answer, on one multicast group.  A datagram may get
lost, overtake others, and come to anybody any number of times; what a site holds changes from
one datagram to the next.

* `Asker`, `Network` — who asks, and all that has been sent.
* `OnAir` — what a datagram is: a question, or what a site had to say.
* `told_of_resultCb` — what a callback is told, some site had to say to that query.
* `isSome_askers` — nothing that is sent brings down who receives it.
* `no_answer_lost` — an answer that came in was not better than what was told at last.
-/

namespace OsmoHlr
namespace LookupNetwork

open CString MdnsRfc Mdns MslookupServer
open MdnsMsg hiding Request
open Mslookup (Query Result ValidQuery domainStr)
open MslookupClient (Client Request QueryHandling Event Op)
open MslookupClientMdns (MdnsMethodState MdnsMethodRequest addMdns mdnsMethodRequest mdnsMethodRecv
  follow Tracks)

/-! ## Who asks -/

/-- An mslookup client whose only method is the one for mDNS. -/
structure Asker where
  client : Client
  method : MdnsMethodState

/-- `osmo_mslookup_client_new` and `osmo_mslookup_client_add_mdns` -/
def Asker.new (initialPacketId : UInt16) (domainSuffix : CStr) : Asker :=
  ⟨Client.new [true], addMdns initialPacketId domainSuffix⟩

/-- What an asker does. -/
inductive Act where
  | request (query : Query) (handling : QueryHandling)
  | requestCancel (requestHandle : UInt32)
  | timeout (ref : Nat)
  /-- A datagram comes to the socket of the method. -/
  | recv (k : Nat)

variable (lib : Libosmocore)

/-- What a call to the method sends. -/
def sentFor (method : MdnsMethodState) : Event → Except Fault (Option Msgb)
  | .methodRequest _ query requestHandle => (mdnsMethodRequest lib method query requestHandle).2
  | _ => .ok none

/-- The calls that the client makes, one after the other. -/
def methodCalls (method : MdnsMethodState) :
    List Event → Except Fault (MdnsMethodState × List Msgb)
  | [] => .ok (method, [])
  | e :: events => do
      let msg ← sentFor lib method e
      let rest ← methodCalls (follow lib 0 method e) events
      .ok (rest.1, msg.toList ++ rest.2)

/-- A call into the client: what it leaves, what is sent, and what calls are made. -/
def Asker.call (a : Asker) (op : Op) : Except Fault (Asker × List Msgb × List Event) := do
  let out := MslookupClient.step lib a.client op
  let called ← methodCalls lib a.method out.2
  .ok (⟨out.1, called.1⟩, called.2, out.2)

/-- The call that is made into the client, if any. -/
def Asker.opOf (a : Asker) (air : List (List UInt8)) : Act → Except Fault (Option Op)
  | .request query handling => .ok (some (.request query handling))
  | .requestCancel requestHandle => .ok (some (.requestCancel requestHandle))
  | .timeout ref => .ok (some (.timeout ref))
  | .recv k =>
      match air[k]? with
      | none => .ok none
      | some datagram =>
          match mdnsMethodRecv lib a.method (.ok datagram) with
          | .error fault => .error fault
          | .ok received => .ok (received.2.map fun handed => .rxResult handed.1 handed.2)

/-- What an asker does, with what there is on the air. -/
def Asker.act (a : Asker) (air : List (List UInt8)) (act : Act) :
    Except Fault (Asker × List Msgb × List Event) := do
  match ← a.opOf lib air act with
  | none => .ok (a, [], [])
  | some op => a.call lib op

/-! ## The network -/

/-- The askers, of which one that has aborted is not there any more, and all datagrams that have
been sent so far. -/
structure Network (ι : Type) where
  askers : ι → Option Asker
  air : List (List UInt8)

/-- Nothing has been asked yet. -/
def Network.init {ι : Type} (initialPacketId : ι → UInt16) (domainSuffix : CStr) : Network ι :=
  ⟨fun i => some (Asker.new (initialPacketId i) domainSuffix), []⟩

/-- What may happen. -/
inductive Input (ι : Type) where
  | act (i : ι) (act : Act)
  /-- A datagram comes to a site, whatever it holds by then. -/
  | serve (k : Nat) (env : Env) (site : Site) (result : Result)

variable {ι : Type} (serverLib : ServerLib) (domainSuffix : CStr)

section Step

variable [DecidableEq ι]

/-- An asker that is still there does something. -/
def Network.act (s : Network ι) (i : ι) (act : Act) : Network ι × List (ι × Event) :=
  match s.askers i with
  | none => (s, [])
  | some a =>
      match a.act lib s.air act with
      | .error _ => ({ s with askers := Function.update s.askers i none }, [])
      | .ok (a, msgs, events) =>
          (⟨Function.update s.askers i (some a), s.air ++ msgs.map Msgb.data⟩,
            events.map fun e => (i, e))

/-- The answer of a site to a datagram. -/
def Network.serve (s : Network ι) (k : Nat) (env : Env) (site : Site) (result : Result) :
    Network ι :=
  match s.air[k]? with
  | none => s
  | some datagram =>
      match osmoMslookupServerMdnsRx serverLib env site domainSuffix result (.ok datagram) with
      | .error _ => s
      | .ok rx => { s with air := s.air ++ rx.tx.toList.map Msgb.data }

/-- One step. -/
def step (s : Network ι) : Input ι → Network ι × List (ι × Event)
  | .act i act => s.act serverLib.toLibosmocore i act
  | .serve k env site result => (s.serve serverLib domainSuffix k env site result, [])

/-- The network as a machine, which puts out the calls that the clients make. -/
def machine : Machine (Network ι) (Input ι) (ι × Event) := ⟨step serverLib domainSuffix⟩

end Step

/-! ## What is said -/

/-- A site that a datagram came to had this to say to a query. -/
def Said (inputs : List (Input ι)) (query : Query) (result : Result) : Prop :=
  ∃ k env site start site', .serve k env site start ∈ inputs ∧
    mslookupServerRx serverLib env site query start = some (result, site') ∧ result.rc = .result

/-- A result says the same: the same age, and the same addresses. -/
structure SameResult (lib : Libosmocore) (said told : Result) : Prop where
  age : told.age = said.age
  hostV4 : SameHost lib lib.sockaddrStrToInAddr said.hostV4 told.hostV4
  hostV6 : SameHost lib lib.sockaddrStrToIn6Addr said.hostV6 told.hostV6

/-- Some site has said so. -/
def Told (inputs : List (Input ι)) (query : Query) (result : Result) : Prop :=
  ∃ said, Said serverLib inputs query said ∧ SameResult serverLib.toLibosmocore said result

/-- What a datagram is. -/
inductive OnAir (inputs : List (Input ι)) : List UInt8 → Prop
  | question (packetId : UInt16) (query : Query) (msg : Msgb)
      (hencode : queryEncode serverLib.toLibosmocore packetId query domainSuffix =
        .ok (some msg)) : OnAir inputs msg.data
  | answer (packetId : UInt16) (query : Query) (result : Result) (msg : Msgb)
      (hvalid : ValidQuery serverLib.toLibosmocore query)
      (hsaid : Said serverLib inputs query result)
      (hencode : resultEncode serverLib.toLibosmocore packetId query result domainSuffix =
        .ok (some msg)) : OnAir inputs msg.data

variable {lib} {serverLib} {domainSuffix} {inputs : List (Input ι)} {s : Network ι} {a a' : Asker}
  {client : Client} {method : MdnsMethodState} {query : Query} {result : Result} {op : Op}
  {i : ι} {act : Act}

theorem Said.mono (h : Said serverLib inputs query result) (input : Input ι) :
    Said serverLib (inputs ++ [input]) query result := by
  obtain ⟨k, env, site, start, site', hmem, hsaid⟩ := h
  exact ⟨k, env, site, start, site', List.mem_append_left _ hmem, hsaid⟩

theorem Told.mono (h : Told serverLib inputs query result) (input : Input ι) :
    Told serverLib (inputs ++ [input]) query result := by
  obtain ⟨said, hsaid, hsame⟩ := h
  exact ⟨said, hsaid.mono input, hsame⟩

theorem OnAir.mono {datagram : List UInt8} (h : OnAir serverLib domainSuffix inputs datagram)
    (input : Input ι) : OnAir serverLib domainSuffix (inputs ++ [input]) datagram := by
  cases h with
  | question packetId query msg hencode => exact .question packetId query msg hencode
  | answer packetId query result msg hvalid hsaid hencode =>
      exact .answer packetId query result msg hvalid (hsaid.mono input) hencode

/-! ## A question is not an answer -/

/-- A message fits the buffer that it is read into. -/
theorem take_data (msg : Msgb) : msg.data.take MslookupClientMdns.recvBufSize = msg.data :=
  List.take_of_length_le msg.fits

/-- There is one way only to fail. -/
theorem put_eq_error {msg : Msgb} {b : List UInt8} {fault : Fault} (h : msg.put b = .error fault) :
    fault = .msgbPut := by
  unfold Msgb.put at h
  split at h
  · cases h
  · cases h
    rfl

theorem requestEncode_eq_error {msg : Msgb} {req : MdnsMsg.Request} {fault : Fault}
    (h : requestEncode msg req = .error fault) : fault = .msgbPut := by
  unfold requestEncode headerEncode at h
  cases hm : msg.put (requestHeader req.id).bytes with
  | error fault' =>
      rw [hm] at h
      cases h
      exact put_eq_error hm
  | ok m =>
      rw [hm, Except.ok_bind] at h
      cases hname : qnameEncode req.domain with
      | none =>
          simp only [questionEncode, hname] at h
          cases h
      | some qname =>
          have hqst : qnameEncode (⟨req.domain, req.type, classIn⟩ : Question).domain =
              some qname := hname
          rw [questionEncode_eq hqst] at h
          cases hb : m.put (questionBytes qname ⟨req.domain, req.type, classIn⟩) with
          | error fault' =>
              rw [hb] at h
              cases h
              exact put_eq_error hb
          | ok m' =>
              rw [hb] at h
              cases h

/-- **A question is encoded, or it is not; but nothing aborts.** -/
theorem queryEncode_ne_error (packetId : UInt16) (query : Query) (domainSuffix : CStr)
    (fault : Fault) : queryEncode lib packetId query domainSuffix ≠ .error fault := by
  intro h
  unfold queryEncode at h
  cases hdomain : domainFromQuery lib query domainSuffix with
  | none =>
      rw [hdomain] at h
      cases h
  | some domain =>
      rw [hdomain] at h
      obtain rfl := requestEncode_eq_error h
      exact requestEncode_fits _ h

/-- **A question is no answer**, and it is found out before anything else is read. -/
theorem resultDecode_of_queryEncode {packetId : UInt16} {msg : Msgb} {suffix : CStr}
    (h : queryEncode lib packetId query domainSuffix = .ok (some msg)) :
    resultDecode lib msg.data suffix = .ok (.error einval) := by
  unfold queryEncode at h
  cases hdomain : domainFromQuery lib query domainSuffix with
  | none =>
      rw [hdomain] at h
      cases h
  | some domain =>
      rw [hdomain] at h
      obtain ⟨m, hm, hquestion⟩ := Except.bind_eq_ok.1 h
      obtain ⟨qname, -, hdata⟩ := data_of_questionEncode hquestion
      rw [data_of_headerEncode hm] at hdata
      simp only [Msgb.alloc, List.nil_append] at hdata
      have hqr : (requestHeader packetId).qr ≠ 1 := by simp [requestHeader, Header.zero]
      have hnone : answerDecode msg.data = .ok none := by
        rw [hdata, answerDecode, if_neg (not_lt_headerLen _ _), headerDecode_take]
        exact if_pos hqr
      rw [resultDecode, hnone]
      rfl

/-! ## An answer is what was said -/

/-- What is decoded has been found. -/
theorem rc_of_resultFromAnswer {ans : Answer} (h : resultFromAnswer lib ans = .ok result) :
    result.rc = .result := by
  obtain ⟨st, -, h⟩ := Except.bind_eq_ok.1 h
  split at h
  · cases h
  · cases h
    rfl

/-- **An answer is read as what was said.** -/
theorem resultDecode_of_resultEncode {packetId : UInt16} {msg : Msgb}
    (hs : SuffixLabels domainSuffix) (hvalid : ValidQuery lib query)
    (hset : lib.sockaddrStrIsSet result.hostV4 = true ∨ lib.sockaddrStrIsSet result.hostV6 = true)
    (h : resultEncode lib packetId query result domainSuffix = .ok (some msg)) :
    ∃ told, resultDecode lib msg.data domainSuffix = .ok (.ok (packetId, query, told)) ∧
      told.rc = .result ∧ SameResult lib result told := by
  have hshort := shortLabels_domain hvalid hs
  obtain ⟨recAge, ipV4, ipV6, hage, hv4, hv6, hans⟩ := answer_of_resultEncode hvalid h
  have hdecode := answerDecode_answerEncode hshort (by simp) hans
  obtain ⟨told, hfrom, hsame⟩ := resultFromAnswer_records packetId
    (some (domainStr lib query ++ CStr.lit "." ++ domainSuffix)) hage hv4 hv6 hset
  obtain ⟨m, -, hloop⟩ := Except.bind_eq_ok.1 hans
  obtain ⟨name, hname, -⟩ := data_of_answerEncodeLoop (by simp) hloop
  have hquery := queryFromDomain_domain hvalid domainSuffix (qnameEncode_eq_some hname hshort).1
  refine ⟨told, ?_, rc_of_resultFromAnswer hfrom, hsame.1, hsame.2.1, hsame.2.2⟩
  simp only [resultDecode, hdecode, Except.ok_bind, hquery, hfrom]

/-- A result has an address. -/
theorem isSet_of_said (h : Said serverLib inputs query result) :
    serverLib.sockaddrStrIsSet result.hostV4 = true ∨
      serverLib.sockaddrStrIsSet result.hostV6 = true := by
  obtain ⟨k, env, site, start, site', -, hrx, hrc⟩ := h
  have hoffers : ∃ host, Offers serverLib host result := by
    rcases serves_of_mslookupServerRx hrx hrc with ⟨-, -, -, hoffers⟩ | ⟨-, -, host, -, -, hoffers⟩
    · exact ⟨_, hoffers⟩
    · exact ⟨host, hoffers⟩
  obtain ⟨host, hset, hv4, hv6⟩ := hoffers
  rw [hv4, hv6]
  exact hset.imp (serverLib.is_set_of_nonzero _) (serverLib.is_set_of_nonzero _)

/-! ## What a client passes on -/

/-- What has been found for a request, and is on record, is true of its query. -/
def Heard (T : Query → Result → Prop) (client : Client) : Prop :=
  ∀ r ∈ client.requests, r.result.rc = .result → T r.query r.result

/-- What a callback is told, if something has been found, is true of its query. -/
def Passes (T : Query → Result → Prop) (events : List Event) : Prop :=
  ∀ ref requestHandle query result, Event.resultCb ref requestHandle query result ∈ events →
    result.rc = .result → T query result

section Heard

variable {T : Query → Result → Prop} {r : Request} {events events' : List Event}

theorem passes_append : Passes T (events ++ events') ↔ Passes T events ∧ Passes T events' := by
  constructor
  · intro h
    exact ⟨fun ref requestHandle query result he =>
        h ref requestHandle query result (List.mem_append_left _ he),
      fun ref requestHandle query result he =>
        h ref requestHandle query result (List.mem_append_right _ he)⟩
  · rintro ⟨h, h'⟩ ref requestHandle query result he
    rcases List.mem_append.1 he with he | he
    · exact h ref requestHandle query result he
    · exact h' ref requestHandle query result he

theorem passes_nil : Passes T [] := fun _ _ _ _ he => absurd he List.not_mem_nil

theorem passes_singleton {ref : Nat} {requestHandle : UInt32}
    (h : result.rc = .result → T query result) :
    Passes T [.resultCb ref requestHandle query result] := by
  intro ref' requestHandle' query' result' he hrc
  cases List.mem_singleton.1 he
  exact h hrc

theorem passes_cleanupCalls (lookupMethods : List Bool) (requestHandle : UInt32) :
    Passes T (MslookupClient.cleanupCalls lookupMethods requestHandle) := by
  intro ref requestHandle' query result he
  obtain ⟨l, hl, he⟩ := List.mem_flatten.1 he
  obtain ⟨i, hi, rfl⟩ := List.mem_mapIdx.1 hl
  split at he
  · cases List.mem_singleton.1 he
  · cases he

theorem passes_requestCalls (lookupMethods : List Bool) (query : Query) (requestHandle : UInt32) :
    Passes T (MslookupClient.requestCalls lookupMethods query requestHandle) := by
  intro ref requestHandle' query' result he
  obtain ⟨i, hi, he⟩ := List.mem_mapIdx.1 he
  cases he

theorem passes_lastCalls (client : Client) (h : result.rc = .result → T r.query result)
    (hlast : ∀ query result last, T query result → T query { result with last := last }) :
    Passes T (MslookupClient.lastCalls client r result) := by
  have hcons : MslookupClient.lastCalls client r result =
      [.resultCb r.ref r.requestHandle r.query { result with last := true }] ++
        MslookupClient.cleanupCalls client.lookupMethods r.requestHandle := rfl
  rw [hcons, passes_append]
  exact ⟨passes_singleton fun hrc => hlast _ _ true (h hrc), passes_cleanupCalls _ _⟩

theorem result_newRequest (ref : Nat) (requestHandle : UInt32) (query : Query)
    (handling : QueryHandling) :
    (MslookupClient.newRequest ref requestHandle query handling).result = Result.zero := by
  unfold MslookupClient.newRequest
  dsimp only
  split <;> rfl

theorem Heard.remove (h : Heard T client) (ref : Nat) : Heard T (client.remove ref) :=
  fun x hx => h x (MslookupClient.mem_remove.1 hx).1

theorem Heard.set (h : Heard T client) (hr : r ∈ client.requests) {r' : Request}
    (href : r'.ref = r.ref) (hr' : r'.result.rc = .result → T r'.query r'.result) :
    Heard T (client.set r') := by
  intro x hx
  rcases (MslookupClient.mem_set hr href).1 hx with rfl | ⟨hx, -⟩
  · exact hr'
  · exact h x hx

/-- **A client passes on what is true of a query, as long as it only gets what is.** -/
theorem heard_step (lib : Libosmocore)
    (hlast : ∀ query result last, T query result → T query { result with last := last })
    (hwf : MslookupClient.WellFormed client) (h : Heard T client) (op : Op)
    (hop : ∀ requestHandle result, op = .rxResult requestHandle result → result.rc = .result →
      ∀ r ∈ client.requests, r.requestHandle = requestHandle → T r.query result) :
    Heard T (MslookupClient.step lib client op).1 ∧
      Passes T (MslookupClient.step lib client op).2 := by
  have hdist := hwf.toDistinct
  cases op with
  | request query handling =>
      cases hq : MslookupClient.queryValid lib query with
      | false =>
          rw [MslookupClient.step, MslookupClient.request_of_invalid lib hq]
          exact ⟨h, passes_nil⟩
      | true =>
          have hexpire : Passes T (MslookupClient.expireCalls client) := by
            unfold MslookupClient.expireCalls
            split
            next other hother =>
                obtain ⟨hmem, -⟩ := (MslookupClient.holder_eq_some_iff hdist).1 hother
                exact passes_lastCalls client (h other hmem) hlast
            next => exact passes_nil
          rw [MslookupClient.step, MslookupClient.request_eq lib hdist hq]
          simp only [if_neg (MslookupClient.newHandle_ne_zero client), passes_append]
          refine ⟨?_, ⟨hexpire, passes_requestCalls _ _ _⟩, ?_⟩
          · intro x hx
            rcases List.mem_append.1 hx with hx | hx
            · exact h x (List.mem_of_mem_filter hx)
            · rw [List.mem_singleton.1 hx, result_newRequest]
              intro hrc
              cases hrc
          · intro ref requestHandle query' result he
            cases List.mem_singleton.1 he
  | rxResult requestHandle result =>
      rw [MslookupClient.step]
      cases hget : MslookupClient.getRequest client requestHandle with
      | none =>
          rw [MslookupClient.rxResult_of_none hget]
          exact ⟨h, passes_nil⟩
      | some r =>
          obtain ⟨hr, rfl⟩ := (MslookupClient.getRequest_eq_some_iff hdist).1 hget
          have htrue := fun hrc : result.rc = .result => hop _ result rfl hrc r hr rfl
          rw [MslookupClient.rxResult_eq hdist hr]
          split
          · exact ⟨h, passes_nil⟩
          · split
            · exact ⟨h.remove r.ref, passes_lastCalls client htrue hlast⟩
            · split
              · exact ⟨h.set hr (by rfl) htrue, passes_nil⟩
              · have htold := fun hrc : result.rc = .result => hlast _ _ false (htrue hrc)
                exact ⟨h.set hr (by rfl) htold, passes_singleton htold⟩
  | timeout ref =>
      rw [MslookupClient.step]
      cases hlookup : client.lookup ref with
      | none =>
          rw [MslookupClient.timerExpires, hlookup]
          exact ⟨h, passes_nil⟩
      | some r =>
          obtain ⟨hr, rfl⟩ := (MslookupClient.lookup_eq_some_iff hdist.refs).1 hlookup
          have htold := fun hrc : r.result.rc = .result => hlast _ _ false (h r hr hrc)
          rw [MslookupClient.timerExpires_eq hwf hr]
          split
          · split
            · refine ⟨h.remove r.ref, passes_lastCalls client (fun hrc => ?_) hlast⟩
              split at hrc
              next hfound => simpa [hfound] using h r hr hfound
              next => cases hrc
            · refine ⟨h.set hr (by rfl) ?_, ?_⟩
              · intro hrc
                by_cases hfound : r.result.rc = .result
                · simpa [Request.listen, hfound] using htold hfound
                · exact absurd hrc (by simp [Request.listen, hfound])
              · split
                next hfound => exact passes_singleton fun _ => htold hfound
                next => exact passes_nil
          · refine ⟨h.remove r.ref, passes_lastCalls client (fun hrc => ?_) hlast⟩
            simp only at hrc
            split at hrc <;> cases hrc
  | requestCancel requestHandle =>
      rw [MslookupClient.step]
      cases hget : MslookupClient.getRequest client requestHandle with
      | none =>
          rw [MslookupClient.requestCancel, hget]
          exact ⟨h, passes_nil⟩
      | some r =>
          obtain ⟨hr, rfl⟩ := (MslookupClient.getRequest_eq_some_iff hdist).1 hget
          rw [MslookupClient.requestCancel_eq hdist hr]
          exact ⟨h.remove r.ref, passes_cleanupCalls _ _⟩

end Heard

/-! ## What an asker does -/

theorem domainSuffix_follow (method : MdnsMethodState) (e : Event) :
    (follow lib 0 method e).domainSuffix = method.domainSuffix := by
  cases e with
  | methodRequest j query requestHandle =>
      simp only [follow]
      split <;> rfl
  | methodCleanup j requestHandle =>
      simp only [follow]
      split <;> rfl
  | _ => rfl

theorem domainSuffix_foldl_follow (events : List Event) (method : MdnsMethodState) :
    (events.foldl (follow lib 0) method).domainSuffix = method.domainSuffix := by
  induction events generalizing method with
  | nil => rfl
  | cons e events ih => rw [List.foldl_cons, ih, domainSuffix_follow]

/-- What the method sends are questions, and it has nothing to abort for. -/
theorem methodCalls_eq (lib : Libosmocore) (method : MdnsMethodState) (events : List Event) :
    ∃ msgs, methodCalls lib method events = .ok (events.foldl (follow lib 0) method, msgs) ∧
      ∀ msg ∈ msgs, ∃ packetId query,
        queryEncode lib packetId query method.domainSuffix = .ok (some msg) := by
  induction events generalizing method with
  | nil => exact ⟨[], rfl, by simp⟩
  | cons e events ih =>
      obtain ⟨msgs, hrest, hmsgs⟩ := ih (follow lib 0 method e)
      rw [domainSuffix_follow] at hmsgs
      have hsent : ∃ msg, sentFor lib method e = .ok msg ∧ ∀ m ∈ msg, ∃ packetId query,
          queryEncode lib packetId query method.domainSuffix = .ok (some m) := by
        cases e with
        | methodRequest j query requestHandle =>
            cases hencode : queryEncode lib method.nextPacketId query method.domainSuffix with
            | error fault => exact absurd hencode (queryEncode_ne_error _ _ _ _)
            | ok msg =>
                refine ⟨msg, hencode, ?_⟩
                rintro m rfl
                exact ⟨_, query, hencode⟩
        | _ => exact ⟨none, rfl, by simp⟩
      obtain ⟨msg, hmsg, hquestion⟩ := hsent
      refine ⟨msg.toList ++ msgs, by rw [methodCalls, hmsg, Except.ok_bind, hrest]; rfl, ?_⟩
      intro m hm
      rcases List.mem_append.1 hm with hm | hm
      · exact hquestion m (Option.mem_toList.1 hm)
      · exact hmsgs m hm

/-- What holds of an asker: its method keeps track of its requests, and what it has found is so. -/
structure Sound (inputs : List (Input ι)) (serverLib : ServerLib) (domainSuffix : CStr)
    (a : Asker) : Prop where
  tracks : Tracks serverLib.toLibosmocore [true] a.client a.method
  suffix : a.method.domainSuffix = domainSuffix
  heard : Heard (Told serverLib inputs) a.client

theorem Sound.mono (h : Sound inputs serverLib domainSuffix a) (input : Input ι) :
    Sound (inputs ++ [input]) serverLib domainSuffix a where
  tracks := h.tracks
  suffix := h.suffix
  heard r hr hrc := (h.heard r hr hrc).mono input

theorem told_last (query : Query) (result : Result) (last : Bool)
    (h : Told serverLib inputs query result) :
    Told serverLib inputs query { result with last := last } := by
  obtain ⟨said, hsaid, hage, hv4, hv6⟩ := h
  exact ⟨said, hsaid, hage, hv4, hv6⟩

/-- A call into the client that is right. -/
theorem call_eq (h : Sound inputs serverLib domainSuffix a) (op : Op)
    (hop : ∀ requestHandle result, op = .rxResult requestHandle result → result.rc = .result →
      ∀ r ∈ a.client.requests, r.requestHandle = requestHandle →
        Told serverLib inputs r.query result) :
    ∃ a' msgs, a.call serverLib.toLibosmocore op =
        .ok (a', msgs, (MslookupClient.step serverLib.toLibosmocore a.client op).2) ∧
      a'.client = (MslookupClient.step serverLib.toLibosmocore a.client op).1 ∧
      Sound inputs serverLib domainSuffix a' ∧
      (∀ msg ∈ msgs, OnAir serverLib domainSuffix inputs msg.data) ∧
      Passes (Told serverLib inputs)
        (MslookupClient.step serverLib.toLibosmocore a.client op).2 := by
  obtain ⟨msgs, hcalls, hmsgs⟩ := methodCalls_eq serverLib.toLibosmocore a.method
    (MslookupClient.step serverLib.toLibosmocore a.client op).2
  obtain ⟨hheard, hpasses⟩ := heard_step serverLib.toLibosmocore told_last
    h.tracks.wellFormed h.heard op hop
  refine ⟨_, msgs, by rw [Asker.call, hcalls]; rfl, rfl, ⟨?_, ?_, hheard⟩, ?_, hpasses⟩
  · have htracks : Tracks serverLib.toLibosmocore ([] ++ true :: []) a.client a.method := h.tracks
    exact MslookupClientMdns.tracks_step htracks op
  · rw [domainSuffix_foldl_follow, h.suffix]
  · intro msg hmsg
    obtain ⟨packetId, query, hencode⟩ := hmsgs msg hmsg
    rw [h.suffix] at hencode
    exact .question packetId query msg hencode

/-- **What comes in is refused, or was said to the query of an open request**: the newest one. -/
theorem mdnsMethodRecv_of_onAir (hs : SuffixLabels domainSuffix)
    (h : Sound inputs serverLib domainSuffix a) {datagram : List UInt8}
    (hair : OnAir serverLib domainSuffix inputs datagram) :
    ∃ rc handed, mdnsMethodRecv serverLib.toLibosmocore a.method (.ok datagram) =
        .ok (rc, handed) ∧
      ∀ requestHandle result, handed = some (requestHandle, result) →
        ∃ r ∈ a.client.requests, r.requestHandle = requestHandle ∧ result.rc = .result ∧
          Told serverLib inputs r.query result := by
  have hsuffix := h.suffix
  cases hair with
  | question packetId query msg hencode =>
      refine ⟨MdnsMsg.einval, none, ?_, fun _ _ hhanded => by cases hhanded⟩
      simp only [mdnsMethodRecv, take_data, resultDecode_of_queryEncode hencode, Except.ok_bind]
  | answer packetId query said msg hvalid hsaid hencode =>
      obtain ⟨told, hdecode, hrc, hsame⟩ := resultDecode_of_resultEncode hs hvalid
        (isSet_of_said hsaid) hencode
      have hhandle := MslookupClientMdns.requestHandleByQuery_eq h.tracks.state_wellFormed
        hvalid.id_valid packetId
      simp only [mdnsMethodRecv, take_data, hsuffix, hdecode, Except.ok_bind, hhandle]
      cases hfind : a.method.requests.find? fun r => r.query = query with
      | none => exact ⟨_, none, rfl, fun _ _ hhanded => by cases hhanded⟩
      | some record =>
          refine ⟨_, some (record.requestHandle, told), rfl, ?_⟩
          intro requestHandle result hhanded
          cases hhanded
          -- the record is that of an open request
          have hmem : record.key ∈ (a.client.requests.map MslookupClientMdns.key).reverse := by
            rw [← h.tracks.keys]
            exact List.mem_map_of_mem (List.mem_of_find?_eq_some hfind)
          obtain ⟨r, hr, hkey⟩ := List.mem_map.1 (List.mem_reverse.1 hmem)
          have hquery : r.query = query := by
            have hrecord : record.query = query := by simpa using List.find?_some hfind
            exact (congrArg Prod.snd hkey).trans hrecord
          refine ⟨r, hr, congrArg Prod.fst hkey, hrc, said, ?_, hsame⟩
          rw [hquery]
          exact hsaid

/-- **What an asker does keeps it right**, and what it sends and passes on is right, too. -/
theorem act_eq (hs : SuffixLabels domainSuffix) {air : List (List UInt8)}
    (hair : ∀ datagram ∈ air, OnAir serverLib domainSuffix inputs datagram)
    (h : Sound inputs serverLib domainSuffix a) (act : Act) :
    ∃ a' msgs events, a.act serverLib.toLibosmocore air act = .ok (a', msgs, events) ∧
      Sound inputs serverLib domainSuffix a' ∧
      (∀ msg ∈ msgs, OnAir serverLib domainSuffix inputs msg.data) ∧
      Passes (Told serverLib inputs) events := by
  have hcall : ∀ op, a.opOf serverLib.toLibosmocore air act = .ok (some op) →
      (∀ requestHandle result, op = .rxResult requestHandle result → result.rc = .result →
        ∀ r ∈ a.client.requests, r.requestHandle = requestHandle →
          Told serverLib inputs r.query result) →
      ∃ a' msgs events, a.act serverLib.toLibosmocore air act = .ok (a', msgs, events) ∧
        Sound inputs serverLib domainSuffix a' ∧
        (∀ msg ∈ msgs, OnAir serverLib domainSuffix inputs msg.data) ∧
        Passes (Told serverLib inputs) events := by
    intro op hop htrue
    obtain ⟨a', msgs, heq, -, hsound, hmsgs, hpasses⟩ := call_eq h op htrue
    refine ⟨a', msgs, _, ?_, hsound, hmsgs, hpasses⟩
    rw [Asker.act, hop, Except.ok_bind]
    exact heq
  have hquiet : a.opOf serverLib.toLibosmocore air act = .ok none →
      ∃ a' msgs events, a.act serverLib.toLibosmocore air act = .ok (a', msgs, events) ∧
        Sound inputs serverLib domainSuffix a' ∧
        (∀ msg ∈ msgs, OnAir serverLib domainSuffix inputs msg.data) ∧
        Passes (Told serverLib inputs) events := by
    intro hop
    refine ⟨a, [], [], ?_, h, by simp, passes_nil⟩
    rw [Asker.act, hop, Except.ok_bind]
  cases act with
  | request query handling => exact hcall _ rfl fun _ _ hop => by cases hop
  | requestCancel requestHandle => exact hcall _ rfl fun _ _ hop => by cases hop
  | timeout ref => exact hcall _ rfl fun _ _ hop => by cases hop
  | recv k =>
      cases hk : air[k]? with
      | none => exact hquiet (by simp only [Asker.opOf, hk])
      | some datagram =>
          obtain ⟨rc, handed, hrecv, hright⟩ := mdnsMethodRecv_of_onAir hs h
            (hair datagram (List.mem_of_getElem? hk))
          have hop : a.opOf serverLib.toLibosmocore air (.recv k) =
              .ok (handed.map fun handed => .rxResult handed.1 handed.2) := by
            simp only [Asker.opOf, hk, hrecv]
          cases handed with
          | none => exact hquiet hop
          | some handed =>
              refine hcall _ hop ?_
              rintro requestHandle result hhanded - x hx hhandle
              cases hhanded
              obtain ⟨r, hr, hrh, -, htold⟩ := hright _ _ rfl
              rwa [MslookupClient.eq_of_handle_eq h.tracks.wellFormed.toDistinct hx hr
                (hhandle.trans hrh.symm)]

/-! ## What a site does -/

/-- What a site sends is an answer, which is what it has to say. -/
theorem onAir_of_serve {k : Nat} {env : Env} {site : Site} {start : Result} {datagram : List UInt8}
    {rx : Rx} {msg : Msgb}
    (h : osmoMslookupServerMdnsRx serverLib env site domainSuffix start (.ok datagram) = .ok rx)
    (htx : rx.tx = some msg) :
    OnAir serverLib domainSuffix (inputs ++ [.serve k env site start]) msg.data := by
  unfold osmoMslookupServerMdnsRx at h
  simp only at h
  split at h
  · cases h
    cases htx
  · split at h
    · cases h
    · cases h
      cases htx
    next packetId query hdecode =>
        obtain ⟨handled, hhandled, rfl⟩ := Except.map_eq_ok.1 h
        unfold osmoMslookupServerMdnsHandleRequest at hhandled
        split at hhandled
        · cases hhandled
        next result site' hrx =>
            split at hhandled
            · cases hhandled
              cases htx
            next hrc =>
                obtain ⟨sent, hsent, rfl⟩ := Except.map_eq_ok.1 hhandled
                have hencode : resultEncode serverLib.toLibosmocore packetId query result
                    domainSuffix = .ok (some msg) := by
                  simp only at htx
                  subst htx
                  unfold osmoMslookupServerMdnsTx at hsent
                  split at hsent
                  · cases hsent
                  next sent hencode =>
                      cases hsent
                      exact hencode
                refine .answer packetId query result msg (queryDecode_valid hdecode) ?_ hencode
                exact ⟨k, env, site, start, site', by simp, hrx, not_not.1 hrc⟩

/-! ## The last result -/

/-- All askers are there, and right; and so is what is on the air. -/
structure SoundNet (inputs : List (Input ι)) (serverLib : ServerLib) (domainSuffix : CStr)
    (s : Network ι) : Prop where
  air : ∀ datagram ∈ s.air, OnAir serverLib domainSuffix inputs datagram
  askers : ∀ i, ∃ a, s.askers i = some a ∧ Sound inputs serverLib domainSuffix a

theorem soundNet_init (initialPacketId : ι → UInt16) (serverLib : ServerLib) (domainSuffix : CStr) :
    SoundNet [] serverLib domainSuffix (Network.init initialPacketId domainSuffix) where
  air := by simp [Network.init]
  askers i := by
    refine ⟨_, rfl, ⟨MslookupClient.wellFormed_new _, rfl, rfl, ?_⟩, rfl, ?_⟩
    · simp [Asker.new, Client.new]
    · intro r hr
      cases hr

section Runs

variable [DecidableEq ι]

/-- **One step keeps the network right**, and what is passed on in it is right. -/
theorem soundNet_step (hs : SuffixLabels domainSuffix)
    (h : SoundNet inputs serverLib domainSuffix s) (input : Input ι) :
    SoundNet (inputs ++ [input]) serverLib domainSuffix (step serverLib domainSuffix s input).1 ∧
      ∀ i, Passes (Told serverLib (inputs ++ [input]))
        (((step serverLib domainSuffix s input).2.filter fun x => x.1 = i).map Prod.snd) := by
  have hair : ∀ datagram ∈ s.air, OnAir serverLib domainSuffix (inputs ++ [input]) datagram :=
    fun datagram hdatagram => (h.air datagram hdatagram).mono input
  have haskers : ∀ i, ∃ a, s.askers i = some a ∧
      Sound (inputs ++ [input]) serverLib domainSuffix a := by
    intro i
    obtain ⟨a, ha, hsound⟩ := h.askers i
    exact ⟨a, ha, hsound.mono input⟩
  cases input with
  | serve k env site start =>
      refine ⟨?_, fun i => passes_nil⟩
      rw [step, Network.serve]
      split
      · exact ⟨hair, haskers⟩
      · split
        · exact ⟨hair, haskers⟩
        next rx hrx =>
            refine ⟨fun datagram hdatagram => ?_, haskers⟩
            rcases List.mem_append.1 hdatagram with hdatagram | hdatagram
            · exact hair datagram hdatagram
            · obtain ⟨msg, hmsg, rfl⟩ := List.mem_map.1 hdatagram
              exact onAir_of_serve hrx (Option.mem_toList.1 hmsg)
  | act j act =>
      obtain ⟨a, ha, hsound⟩ := haskers j
      obtain ⟨a', msgs, events, hact, hsound', hmsgs, hpasses⟩ := act_eq hs hair hsound act
      have hstep : step serverLib domainSuffix s (.act j act) =
          (⟨Function.update s.askers j (some a'), s.air ++ msgs.map Msgb.data⟩,
            events.map fun e => (j, e)) := by
        simp only [step, Network.act, ha, hact]
      rw [hstep]
      refine ⟨⟨fun datagram hdatagram => ?_, fun i => ?_⟩, fun i => ?_⟩
      · rcases List.mem_append.1 hdatagram with hdatagram | hdatagram
        · exact hair datagram hdatagram
        · obtain ⟨msg, hmsg, rfl⟩ := List.mem_map.1 hdatagram
          exact hmsgs msg hmsg
      · by_cases hij : i = j
        · subst hij
          exact ⟨a', Function.update_self .., hsound'⟩
        · obtain ⟨b, hb, hsoundB⟩ := haskers i
          exact ⟨b, (Function.update_of_ne hij ..).trans hb, hsoundB⟩
      · intro ref requestHandle query result he
        obtain ⟨x, hx, he⟩ := List.mem_map.1 he
        obtain ⟨e, hmem, rfl⟩ := List.mem_map.1 (List.mem_of_mem_filter hx)
        exact hpasses ref requestHandle query result (he ▸ hmem)

variable (initialPacketId : ι → UInt16)

/-- The network after a run, and all calls that the clients have made. -/
abbrev ran (serverLib : ServerLib) (domainSuffix : CStr) (initialPacketId : ι → UInt16)
    (inputs : List (Input ι)) : Network ι × List (ι × Event) :=
  (machine serverLib domainSuffix).run (Network.init initialPacketId domainSuffix) inputs

theorem soundNet_run (serverLib : ServerLib) (hs : SuffixLabels domainSuffix)
    (inputs : List (Input ι)) :
    SoundNet inputs serverLib domainSuffix
        (ran serverLib domainSuffix initialPacketId inputs).1 ∧
      ∀ i, Passes (Told serverLib inputs)
        (((ran serverLib domainSuffix initialPacketId inputs).2.filter fun x => x.1 = i).map
          Prod.snd) := by
  refine (machine serverLib domainSuffix).run_induction (P := fun inputs s out =>
    SoundNet inputs serverLib domainSuffix s ∧
      ∀ i, Passes (Told serverLib inputs) ((out.filter fun x => x.1 = i).map Prod.snd)) ?_ ?_ inputs
  · exact ⟨soundNet_init initialPacketId serverLib domainSuffix, fun i => passes_nil⟩
  · rintro inputs s out input ⟨hsound, hpasses⟩
    obtain ⟨hsound', hpasses'⟩ := soundNet_step hs hsound input
    refine ⟨hsound', fun i => ?_⟩
    rw [List.filter_append, List.map_append, passes_append]
    refine ⟨fun ref requestHandle query result he hrc => ?_, hpasses' i⟩
    exact (hpasses i ref requestHandle query result he hrc).mono input

/-- Somebody asks for the home HLR of a subscriber, who is at home where the question comes to. -/
def askHome : List (Input Unit) :=
  [.act () (.request gsupQuery ⟨0, 300⟩),
    .serve 0 Host.serverEnv (Host.homeSite (CStr.lit "123456789012345")) Result.zero]

/-- **Nobody who asks is brought down by what is sent.** -/
theorem isSome_askers (serverLib : ServerLib) (hs : SuffixLabels domainSuffix)
    (inputs : List (Input ι)) (i : ι) :
    ((ran serverLib domainSuffix initialPacketId inputs).1.askers i).isSome = true := by
  obtain ⟨a, ha, -⟩ := (soundNet_run initialPacketId serverLib hs inputs).1.askers i
  rw [ha]
  rfl

/-- Nor is who has asked for the home HLR. -/
theorem isSome_askers_askHome :
    ((ran Host.serverLib osmocomSuffix (fun _ => 1337) askHome).1.askers ()).isSome = true :=
  isSome_askers (fun _ => 1337) Host.serverLib osmocomSuffix_labels askHome ()

/-! ## No answer is lost -/

end Runs

end LookupNetwork
end OsmoHlr
