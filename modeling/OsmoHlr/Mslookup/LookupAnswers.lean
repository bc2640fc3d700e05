import OsmoHlr.LibosmocoreHost
import OsmoHlr.Mslookup.LookupDaemon

/-!
# Who gets the results of the lookup daemon

What the daemon is for is that each connection gets the results of its own
request.  `Answering` says this directly: a connection knows the request that was
started for it.  The daemon does not, it compares query strings.

* `Follows` — the daemon and the connections with their own requests.
* `answers_own_iff` — the daemon answers like `Answering` exactly as long as no
  other connected client has the query string that is answered.
* `separate_of_unused` — which is so if the query strings that come in are not in use.
-/

namespace OsmoHlr
namespace LookupDaemon

open CString
open Mslookup (Query Result)
open MslookupClient (Client QueryHandling Event WellFormed Distinct)

/-! ## Connections with their own requests -/

/-- A connection. -/
structure Conn where
  ref : Nat
  /-- What it has asked for, if anything. -/
  queryStr : CStr
  /-- The request that was started for it. -/
  own : Option Nat
  deriving DecidableEq

/-- What the daemon knows of it. -/
def Conn.socketClient (conn : Conn) : SocketClient := ⟨conn.ref, conn.queryStr⟩

/-- The mslookup client, and the connections. -/
structure Answering where
  client : Client
  conns : List Conn
  accepted : Nat

/-- The start. -/
def Answering.new : Answering := ⟨Client.new [true], [], 0⟩

/-- A result is written to the connection that the request was started for, which is closed behind
the last one. -/
def answer (conns : List Conn) (cb : Callback) : List Conn × List Output :=
  (if cb.result.last then conns.filter fun conn => conn.own ≠ some cb.ref else conns,
    (conns.filter fun conn => conn.own = some cb.ref).flatMap fun conn =>
      respondTo conn.queryStr (some cb.result) conn.ref)

/-- Results, one after the other. -/
def answers (conns : List Conn) : List Callback → List Conn × List Output
  | [] => (conns, [])
  | cb :: cbs =>
      let first := answer conns cb
      let rest := answers first.1 cbs
      (rest.1, first.2 ++ rest.2)

variable (lib : Libosmocore) (opts : CmdlineOpts)

/-- What becomes of the connections when the mslookup client is called. -/
def Answering.told (a : Answering) (conns : List Conn) (out : Client × List Event) :
    Answering × List Output :=
  let answered := answers conns (callbacks out.2)
  ({ a with client := out.1, conns := answered.1 }, answered.2)

/-- A connection asks. -/
def Answering.ask (a : Answering) (conn : Conn) (queryWithTimeout : CStr) :
    Answering × List Output :=
  let queryStr := domainOf queryWithTimeout
  if conn.own.isSome then (a, [.respond conn.ref queryStr none])
  else
    match queryOf lib opts queryWithTimeout with
    | none =>
        ({ a with conns := Keyed.remove Conn.ref a.conns conn.ref },
          respondTo queryStr none conn.ref)
    | some (query, handling) =>
        let out := (MslookupClient.request lib a.client query handling).2
        let told := a.told (Keyed.set Conn.ref a.conns ⟨conn.ref, queryStr, none⟩) out
        ({ told.1 with
          conns := Keyed.set Conn.ref told.1.conns ⟨conn.ref, queryStr, some a.client.allocated⟩ },
          told.2)

/-- One step. -/
def Answering.step (a : Answering) : Action → Answering × List Output
  | .argument queryStr =>
      match queryOf lib opts queryStr with
      | none => (a, [])
      | some (query, handling) =>
          a.told a.conns (MslookupClient.request lib a.client query handling).2
  | .accept =>
      ({ a with conns := ⟨a.accepted, CStr.empty, none⟩ :: a.conns, accepted := a.accepted + 1 },
        if opts.csvHeaders then [.csvHeaders a.accepted] else [])
  | .read ref recv =>
      match Keyed.find Conn.ref a.conns ref with
      | none => (a, [])
      | some conn =>
          match lineOf recv with
          | .again => (a, [])
          | .close => ({ a with conns := Keyed.remove Conn.ref a.conns ref }, [.close ref])
          | .query queryWithTimeout => a.ask lib opts conn queryWithTimeout
  | .rxResult requestHandle result =>
      a.told a.conns (MslookupClient.rxResult a.client requestHandle result)
  | .timeout ref => a.told a.conns (MslookupClient.timerExpires a.client ref)

/-- Both, side by side. -/
def both : Machine (Daemon × Answering) Action Output :=
  ⟨fun s action => (((step lib opts s.1 action).1, (s.2.step lib opts action).1),
    (step lib opts s.1 action).2)⟩

/-- The daemon does to every connection what it should. -/
def AnswersOwn (s : Daemon × Answering) (action : Action) : Prop :=
  (step lib opts s.1 action).2 = (s.2.step lib opts action).2

/-! ## When no strings are mixed up -/

/-- The connections with a query string are those that `own` says. -/
def Alone (conns : List Conn) (queryStr : CStr) (own : Conn → Prop) : Prop :=
  ∀ conn ∈ conns, conn.queryStr = queryStr → own conn

/-- For every result, no connection has its query string but that of its request. -/
def AloneAll (queries : List OpenQuery) (conns : List Conn) (cbs : List Callback) : Prop :=
  ∀ cb ∈ cbs, ∀ q ∈ queries, q.handle = cb.requestHandle →
    Alone conns q.queryStr fun conn => conn.own = some cb.ref

/-- A connection asks, and nobody else has the query string that is answered: that of the
question, if it is refused, and otherwise that of an older request that makes room. -/
def SeparateAsk (s : Daemon × Answering) (conn : Conn) (queryWithTimeout : CStr) : Prop :=
  conn.own = none →
    match queryOf lib opts queryWithTimeout with
    | none => Alone s.2.conns (domainOf queryWithTimeout) fun other => other.ref = conn.ref
    | some (query, handling) =>
        AloneAll s.1.queries
          (Keyed.set Conn.ref s.2.conns ⟨conn.ref, domainOf queryWithTimeout, none⟩)
          (callbacks (MslookupClient.request lib s.2.client query handling).2.2)

/-- Nobody else has the query string that is answered in a step. -/
def Separate (s : Daemon × Answering) : Action → Prop
  | .argument queryStr =>
      match queryOf lib opts queryStr with
      | none => Alone s.2.conns (domainOf queryStr) fun _ => False
      | some (query, handling) =>
          AloneAll s.1.queries s.2.conns
            (callbacks (MslookupClient.request lib s.2.client query handling).2.2)
  | .accept => True
  | .read ref recv =>
      ∀ conn ∈ s.2.conns, conn.ref = ref → ∀ queryWithTimeout, lineOf recv = .query queryWithTimeout →
        SeparateAsk lib opts s conn queryWithTimeout
  | .rxResult requestHandle result =>
      AloneAll s.1.queries s.2.conns
        (callbacks (MslookupClient.rxResult s.2.client requestHandle result).2)
  | .timeout ref =>
      AloneAll s.1.queries s.2.conns (callbacks (MslookupClient.timerExpires s.2.client ref).2)

/-! ## The two lists, joined -/

/-- The queries are those of the open requests, and a connection with a request of its own has the
query string of that request's query. -/
structure Joined (queries : List OpenQuery) (conns : List Conn) (opened : Nat → UInt32 → Prop) :
    Prop where
  handles : (queries.map OpenQuery.handle).Nodup
  live : ∀ q ∈ queries, ∃ ref, opened ref q.handle
  listed : ∀ ref requestHandle, opened ref requestHandle → ∃ q ∈ queries, q.handle = requestHandle
  keys : ∀ ref requestHandle ref' requestHandle', opened ref requestHandle →
    opened ref' requestHandle' → (ref = ref' ↔ requestHandle = requestHandle')
  named : ∀ q ∈ queries, q.queryStr ≠ CStr.empty
  own : ∀ conn ∈ conns, ∀ ref, conn.own = some ref →
    ∃ q ∈ queries, q.queryStr = conn.queryStr ∧ opened ref q.handle

section Joined

variable {queries : List OpenQuery} {conns : List Conn} {opened after : Nat → UInt32 → Prop}
  {cb : Callback} {cbs : List Callback} {q : OpenQuery}

/-- Nobody has asked. -/
theorem joined_nil (h : ∀ ref requestHandle, ¬opened ref requestHandle) :
    Joined [] [] opened where
  handles := List.nodup_nil
  live _ hq := absurd hq List.not_mem_nil
  listed ref requestHandle hopen := absurd hopen (h ref requestHandle)
  keys ref requestHandle _ _ hopen := absurd hopen (h ref requestHandle)
  named _ hq := absurd hq List.not_mem_nil
  own _ hconn := absurd hconn List.not_mem_nil

/-- The connection of a request has the query string of its query. -/
theorem Joined.queryStr_own (h : Joined queries conns opened) (hq : q ∈ queries)
    (hhandle : q.handle = cb.requestHandle) (hcb : opened cb.ref cb.requestHandle) {conn : Conn}
    (hconn : conn ∈ conns) (hown : conn.own = some cb.ref) : conn.queryStr = q.queryStr := by
  obtain ⟨q', hq', hstr, hopen⟩ := h.own conn hconn cb.ref hown
  have heq : q'.handle = q.handle :=
    ((h.keys _ _ _ _ hopen hcb).1 rfl).trans hhandle.symm
  rw [← hstr, List.inj_on_of_nodup_map h.handles hq' hq heq]

/-- If nobody else has the query string, then those who have it are those who should be told. -/
theorem Joined.own_iff (h : Joined queries conns opened) (hq : q ∈ queries)
    (hhandle : q.handle = cb.requestHandle) (hcb : opened cb.ref cb.requestHandle)
    (halone : Alone conns q.queryStr fun conn => conn.own = some cb.ref) {conn : Conn}
    (hconn : conn ∈ conns) : conn.queryStr = q.queryStr ↔ conn.own = some cb.ref :=
  ⟨halone conn hconn, h.queryStr_own hq hhandle hcb hconn⟩

/-- The request comes to its end. -/
theorem Joined.final (h : Joined queries conns opened)
    (hhandle : q.handle = cb.requestHandle) (hcb : opened cb.ref cb.requestHandle)
    (hafter : ∀ ref requestHandle, after ref requestHandle ↔
      opened ref requestHandle ∧ ref ≠ cb.ref) :
    Joined (Keyed.remove OpenQuery.handle queries q.handle)
      (conns.filter fun conn => conn.own ≠ some cb.ref) after where
  handles := Keyed.nodup_remove h.handles
  live := by
    intro x hx
    obtain ⟨hx, hne⟩ := Keyed.mem_remove.1 hx
    obtain ⟨ref, hopen⟩ := h.live x hx
    refine ⟨ref, (hafter _ _).2 ⟨hopen, fun href => hne ?_⟩⟩
    exact ((h.keys _ _ _ _ hopen hcb).1 href).trans hhandle.symm
  listed := by
    intro ref requestHandle hopen
    obtain ⟨hopen, hne⟩ := (hafter _ _).1 hopen
    obtain ⟨x, hx, rfl⟩ := h.listed ref requestHandle hopen
    refine ⟨x, Keyed.mem_remove.2 ⟨hx, fun heq => hne ?_⟩, rfl⟩
    exact (h.keys _ _ _ _ hopen hcb).2 (heq.trans hhandle)
  keys := by
    intro ref requestHandle ref' requestHandle' ho ho'
    exact h.keys _ _ _ _ ((hafter _ _).1 ho).1 ((hafter _ _).1 ho').1
  named := fun x hx => h.named x (Keyed.mem_remove.1 hx).1
  own := by
    intro conn hconn ref hown
    obtain ⟨hconn, hne⟩ := List.mem_filter.1 hconn
    have href : ref ≠ cb.ref := by
      rintro rfl
      exact absurd hown (by simpa using hne)
    obtain ⟨x, hx, hstr, hopen⟩ := h.own conn hconn ref hown
    refine ⟨x, Keyed.mem_remove.2 ⟨hx, fun heq => href ?_⟩, hstr, (hafter _ _).2 ⟨hopen, href⟩⟩
    exact (h.keys _ _ _ _ hopen hcb).2 (heq.trans hhandle)

theorem Joined.subset (h : Joined queries conns opened) {conns' : List Conn}
    (hsub : conns' ⊆ conns) : Joined queries conns' opened :=
  ⟨h.handles, h.live, h.listed, h.keys, h.named, fun conn hconn => h.own conn (hsub hconn)⟩

theorem Joined.congr (h : Joined queries conns opened)
    (hafter : ∀ ref requestHandle, after ref requestHandle ↔ opened ref requestHandle) :
    Joined queries conns after := by
  have heq : after = opened := funext fun ref => funext fun requestHandle =>
    propext (hafter ref requestHandle)
  rw [heq]
  exact h

end Joined

/-! ## Answering a result -/

section Answer

variable {d : Daemon} {conns : List Conn} {opened after : Nat → UInt32 → Prop}
  {cb : Callback} {cbs : List Callback}

theorem filter_socketClient (conns : List Conn) (p : SocketClient → Bool) :
    (conns.map Conn.socketClient).filter p =
      (conns.filter fun conn => p conn.socketClient).map Conn.socketClient := List.filter_map

/-- What the daemon does with a result, by what it knows of the connections. -/
theorem mslookupResultCb_eq (hd : d.socketClients = conns.map Conn.socketClient)
    (hhandles : (d.queries.map OpenQuery.handle).Nodup) {q : OpenQuery} (hq : q ∈ d.queries)
    (result : Result) :
    mslookupResultCb d q.handle result =
      ({ d with
        queries := if result.last then Keyed.remove OpenQuery.handle d.queries q.handle
          else d.queries
        socketClients := (if result.last then conns.filter fun conn => conn.queryStr ≠ q.queryStr
          else conns).map Conn.socketClient },
        (conns.filter fun conn => conn.queryStr = q.queryStr).flatMap fun conn =>
          respondTo q.queryStr (some result) conn.ref) := by
  have hfind : queryByHandle d q.handle = some q := (Keyed.find_eq_some_iff hhandles).2 ⟨hq, rfl⟩
  have hasked : ∀ f : SocketClient → List Output,
      (d.socketClients.filter fun c => c.queryStr = q.queryStr).flatMap f =
        (conns.filter fun conn => conn.queryStr = q.queryStr).flatMap fun conn =>
          f conn.socketClient := by
    intro f
    rw [hd, filter_socketClient, List.flatMap_map]
    rfl
  have hkept : (d.socketClients.filter fun c => c.queryStr ≠ q.queryStr) =
      (conns.filter fun conn => conn.queryStr ≠ q.queryStr).map Conn.socketClient := by
    rw [hd, filter_socketClient]
    rfl
  rw [mslookupResultCb, hfind]
  dsimp only
  rw [respondResult, hasked, hkept]
  cases hlast : result.last with
  | true => simp [isLast, hlast, Conn.socketClient]
  | false => simp [isLast, hlast, Conn.socketClient, hd]

/-- **Answering a result**: the daemon does what it should exactly if nobody else has the query
string, and then goes on. -/
theorem answer_iff (after : Nat → UInt32 → Prop)
    (hd : d.socketClients = conns.map Conn.socketClient)
    (hrefs : (conns.map Conn.ref).Nodup) (h : Joined d.queries conns opened)
    (hcb : opened cb.ref cb.requestHandle) :
    ((mslookupResultCb d cb.requestHandle cb.result).2 = (answer conns cb).2 ↔
      AloneAll d.queries conns [cb]) ∧
    (AloneAll d.queries conns [cb] →
      (∀ ref requestHandle, after ref requestHandle ↔
        opened ref requestHandle ∧ ¬(cb.result.last = true ∧ ref = cb.ref)) →
      (mslookupResultCb d cb.requestHandle cb.result).1 =
          { d with
            queries := (mslookupResultCb d cb.requestHandle cb.result).1.queries
            socketClients := (answer conns cb).1.map Conn.socketClient } ∧
        Joined (mslookupResultCb d cb.requestHandle cb.result).1.queries (answer conns cb).1
          after) := by
  obtain ⟨q, hq, hhandle⟩ := h.listed _ _ hcb
  have heq := mslookupResultCb_eq hd h.handles hq cb.result
  have hall : AloneAll d.queries conns [cb] ↔
      Alone conns q.queryStr fun conn => conn.own = some cb.ref := by
    constructor
    · intro halone
      exact halone cb (List.mem_singleton_self cb) q hq hhandle
    · intro halone cb' hcb' q' hq' hhandle'
      rw [List.mem_singleton.1 hcb'] at hhandle' ⊢
      rw [List.inj_on_of_nodup_map h.handles hq' hq (hhandle'.trans hhandle.symm)]
      exact halone
  rw [hall, ← hhandle, heq, answer]
  dsimp only
  constructor
  · constructor
    · intro hout conn hconn hstr
      -- what is written to it is written to a connection of the request
      have hmem : Output.respond conn.ref q.queryStr (some cb.result) ∈
          (conns.filter fun conn => conn.queryStr = q.queryStr).flatMap fun conn =>
            respondTo q.queryStr (some cb.result) conn.ref :=
        List.mem_flatMap.2 ⟨conn, List.mem_filter.2 ⟨hconn, by simpa using hstr⟩,
          List.mem_cons_self⟩
      rw [hout] at hmem
      obtain ⟨conn', hconn', hmem⟩ := List.mem_flatMap.1 hmem
      obtain ⟨hconn', hown⟩ := List.mem_filter.1 hconn'
      have href : conn.ref = conn'.ref := by
        rcases List.mem_cons.1 hmem with heq | hmem
        · exact (Output.respond.inj heq).1
        · split at hmem
          · cases List.mem_singleton.1 hmem
          · cases hmem
      rw [List.inj_on_of_nodup_map hrefs hconn hconn' href]
      simpa using hown
    · intro halone
      have hfilter : (conns.filter fun conn => conn.queryStr = q.queryStr) =
          conns.filter fun conn => conn.own = some cb.ref := by
        refine List.filter_congr fun conn hconn => ?_
        simp [h.own_iff hq hhandle hcb halone hconn]
      rw [hfilter]
      refine List.flatMap_congr fun conn hconn => ?_
      obtain ⟨hconn, hown⟩ := List.mem_filter.1 hconn
      rw [h.queryStr_own hq hhandle hcb hconn (by simpa using hown)]
  · intro halone hafter
    have hfilter : (conns.filter fun conn => conn.queryStr ≠ q.queryStr) =
        conns.filter fun conn => conn.own ≠ some cb.ref := by
      refine List.filter_congr fun conn hconn => ?_
      simp [h.own_iff hq hhandle hcb halone hconn]
    rw [hfilter]
    refine ⟨rfl, ?_⟩
    cases hlast : cb.result.last with
    | true =>
        refine h.final hhandle hcb fun ref requestHandle => ?_
        rw [hafter, hlast]
        simp
    | false =>
        refine h.congr fun ref requestHandle => ?_
        rw [hafter, hlast]
        simp

/-- **Answering what the mslookup client tells.** -/
theorem answers_iff (hd : d.socketClients = conns.map Conn.socketClient)
    (hrefs : (conns.map Conn.ref).Nodup) (h : Joined d.queries conns opened)
    (ht : Tells opened after cbs) :
    ((resultCbs d cbs).2 = (answers conns cbs).2 ↔ AloneAll d.queries conns cbs) ∧
    (AloneAll d.queries conns cbs →
      (resultCbs d cbs).1 =
          { d with
            queries := (resultCbs d cbs).1.queries
            socketClients := (answers conns cbs).1.map Conn.socketClient } ∧
        Joined (resultCbs d cbs).1.queries (answers conns cbs).1 after) := by
  rcases ht with ⟨rfl, hafter⟩ | ⟨cb, rfl, hcb, hafter⟩
  · refine ⟨⟨fun _ => ?_, fun _ => rfl⟩, fun _ => ⟨?_, h.congr hafter⟩⟩
    · intro cb hcb
      cases hcb
    · show d = { d with socketClients := conns.map Conn.socketClient }
      rw [← hd]
  · obtain ⟨hiff, hnext⟩ := answer_iff after hd hrefs h hcb
    refine ⟨?_, fun halone => hnext halone hafter⟩
    rw [← hiff]
    simp only [resultCbs, answers, List.append_nil]

theorem answer_sublist (conns : List Conn) (cb : Callback) :
    List.Sublist (answer conns cb).1 conns := by
  unfold answer
  dsimp only
  split
  · exact List.filter_sublist
  · exact List.Sublist.refl _

/-- Answering may close connections. -/
theorem answers_sublist (conns : List Conn) (cbs : List Callback) :
    List.Sublist (answers conns cbs).1 conns := by
  induction cbs generalizing conns with
  | nil => exact List.Sublist.refl _
  | cons cb cbs ih => exact (ih _).trans (answer_sublist conns cb)

/-- A connection that has no request is not closed. -/
theorem mem_answers {conn : Conn} (hconn : conn ∈ conns) (hown : conn.own = none)
    (cbs : List Callback) : conn ∈ (answers conns cbs).1 := by
  induction cbs generalizing conns with
  | nil => exact hconn
  | cons cb cbs ih =>
      refine ih ?_
      unfold answer
      dsimp only
      split
      · exact List.mem_filter.2 ⟨hconn, by simp [hown]⟩
      · exact hconn

end Answer

/-! ## One step -/

/-- The daemon and the connections with their own requests. -/
structure Follows (s : Daemon × Answering) : Prop where
  client : s.1.mslookupClient = s.2.client
  accepted : s.1.accepted = s.2.accepted
  conns : s.1.socketClients = s.2.conns.map Conn.socketClient
  wf : WellFormed s.2.client
  refs : (s.2.conns.map Conn.ref).Nodup
  ref_lt : ∀ conn ∈ s.2.conns, conn.ref < s.2.accepted
  joined : Joined s.1.queries s.2.conns (IsOpen s.2.client)
  fresh : ∀ conn ∈ s.2.conns, conn.own = none → conn.queryStr = CStr.empty

section Step

variable {d : Daemon} {a : Answering} {lib} {opts}

/-- Nothing is open in a new client. -/
theorem isOpen_new (lookupMethods : List Bool) (ref : Nat) (requestHandle : UInt32) :
    ¬IsOpen (Client.new lookupMethods) ref requestHandle := by
  rintro ⟨r, hr, -⟩
  exact absurd hr List.not_mem_nil

theorem follows_new : Follows (Daemon.new, Answering.new) where
  client := rfl
  accepted := rfl
  conns := rfl
  wf := MslookupClient.wellFormed_new _
  refs := List.nodup_nil
  ref_lt _ h := absurd h List.not_mem_nil
  joined := joined_nil (isOpen_new _)
  fresh _ h := absurd h List.not_mem_nil

/-- A result that comes in, or a timer. -/
theorem follows_told (h : Follows (d, a)) {out : Client × List Event} (hwf : WellFormed out.1)
    (ht : Tells (IsOpen a.client) (IsOpen out.1) (callbacks out.2)) :
    ((lookup d out).2 = (a.told a.conns out).2 ↔
      AloneAll d.queries a.conns (callbacks out.2)) ∧
    (AloneAll d.queries a.conns (callbacks out.2) →
      Follows ((lookup d out).1, (a.told a.conns out).1)) := by
  obtain ⟨hiff, hnext⟩ := answers_iff (d := { d with mslookupClient := out.1 }) h.conns h.refs
    h.joined ht
  refine ⟨hiff, fun halone => ?_⟩
  obtain ⟨heq, hjoined⟩ := hnext halone
  have hsub := answers_sublist a.conns (callbacks out.2)
  have hfst : (lookup d out).1 = (resultCbs { d with mslookupClient := out.1 }
    (callbacks out.2)).1 := rfl
  rw [hfst, heq]
  exact
    { client := rfl
      accepted := h.accepted
      conns := rfl
      wf := hwf
      refs := (hsub.map Conn.ref).nodup h.refs
      ref_lt := fun conn hconn => h.ref_lt conn (hsub.subset hconn)
      joined := hjoined
      fresh := fun conn hconn => h.fresh conn (hsub.subset hconn) }

/-- The queries with a new one. -/
theorem Joined.cons {queries : List OpenQuery} {conns : List Conn}
    {between after : Nat → UInt32 → Prop} (h : Joined queries conns between) {ref : Nat}
    {q : OpenQuery} (hname : q.queryStr ≠ CStr.empty) (hnew : ∀ ref', ¬between ref' q.handle)
    (hkeys : ∀ ref requestHandle ref' requestHandle', after ref requestHandle →
      after ref' requestHandle' → (ref = ref' ↔ requestHandle = requestHandle'))
    (hafter : ∀ ref' requestHandle, after ref' requestHandle ↔
      between ref' requestHandle ∨ ref' = ref ∧ requestHandle = q.handle) :
    Joined (q :: queries) conns after where
  handles := by
    refine List.nodup_cons.2 ⟨fun hmem => ?_, h.handles⟩
    obtain ⟨x, hx, hhandle⟩ := List.mem_map.1 hmem
    obtain ⟨ref', hopen⟩ := h.live x hx
    exact hnew ref' (hhandle ▸ hopen)
  live := by
    intro x hx
    rcases List.mem_cons.1 hx with rfl | hx
    · exact ⟨ref, (hafter _ _).2 (Or.inr ⟨rfl, rfl⟩)⟩
    · obtain ⟨ref', hopen⟩ := h.live x hx
      exact ⟨ref', (hafter _ _).2 (Or.inl hopen)⟩
  listed := by
    intro ref' requestHandle hopen
    rcases (hafter _ _).1 hopen with hopen | ⟨-, rfl⟩
    · obtain ⟨x, hx, hhandle⟩ := h.listed ref' requestHandle hopen
      exact ⟨x, List.mem_cons_of_mem _ hx, hhandle⟩
    · exact ⟨q, List.mem_cons_self, rfl⟩
  keys := hkeys
  named := by
    intro x hx
    rcases List.mem_cons.1 hx with rfl | hx
    · exact hname
    · exact h.named x hx
  own := by
    intro conn hconn ref' hown
    obtain ⟨x, hx, hstr, hopen⟩ := h.own conn hconn ref' hown
    exact ⟨x, List.mem_cons_of_mem _ hx, hstr, (hafter _ _).2 (Or.inl hopen)⟩

/-- A query is started, whoever asks. -/
theorem start_iff {conns : List Conn} (hclient : d.mslookupClient = a.client)
    (hd : d.socketClients = conns.map Conn.socketClient) (hwf : WellFormed a.client)
    (hrefs : (conns.map Conn.ref).Nodup) (h : Joined d.queries conns (IsOpen a.client))
    {queryStr : CStr} {query : Query} {handling : QueryHandling}
    (hquery : queryOf lib opts queryStr = some (query, handling)) :
    let out := (MslookupClient.request lib a.client query handling).2
    let started := startQueryStr lib opts d queryStr
    (started.2 = (answers conns (callbacks out.2)).2 ↔
      AloneAll d.queries conns (callbacks out.2)) ∧
    (AloneAll d.queries conns (callbacks out.2) →
      started.1 = ⟨out.1, started.1.queries,
          (answers conns (callbacks out.2)).1.map Conn.socketClient, d.accepted⟩ ∧
        ⟨domainOf queryStr, a.client.newHandle⟩ ∈ started.1.queries ∧
        WellFormed out.1 ∧ IsOpen out.1 a.client.allocated a.client.newHandle ∧
        Joined started.1.queries (answers conns (callbacks out.2)).1 (IsOpen out.1)) := by
  obtain ⟨hvalid, hname⟩ := queryValid_of_queryOf hquery
  obtain ⟨between, htells, hnew, hopen⟩ := tells_request hwf handling hvalid
  have hrequest := MslookupClient.request_eq lib hwf.toDistinct hvalid handling
  have hstarted : startQueryStr lib opts d queryStr =
      let out := (MslookupClient.request lib a.client query handling).2
      let told := resultCbs { d with mslookupClient := out.1 } (callbacks out.2)
      ({ told.1 with queries := ⟨domainOf queryStr, a.client.newHandle⟩ :: told.1.queries },
        told.2) := by
    simp only [startQueryStr, hquery, hclient]
    rw [if_neg]
    · rw [hrequest]
    · rw [hrequest]
      exact MslookupClient.newHandle_ne_zero a.client
  have hwf' : WellFormed (MslookupClient.request lib a.client query handling).2.1 := by
    rw [hrequest]
    exact hwf.withRequest query handling
  obtain ⟨hiff, hnext⟩ := answers_iff (d := { d with
    mslookupClient := (MslookupClient.request lib a.client query handling).2.1 })
    hd hrefs h htells
  rw [hstarted]
  dsimp only
  refine ⟨hiff, fun halone => ?_⟩
  obtain ⟨heq, hjoined⟩ := hnext halone
  refine ⟨?_, List.mem_cons_self, hwf', (hopen _ _).2 (Or.inr ⟨rfl, rfl⟩), ?_⟩
  · rw [heq]
  · exact hjoined.cons hname hnew
      (fun _ _ _ _ ho ho' => isOpen_keys hwf'.toDistinct ho ho') hopen

/-- A query that is refused: everybody with its query string is told. -/
theorem startQueryStr_refused {conns : List Conn}
    (hd : d.socketClients = conns.map Conn.socketClient) {queryStr : CStr}
    (hquery : queryOf lib opts queryStr = none) :
    startQueryStr lib opts d queryStr =
      ({ d with
        socketClients := (conns.filter fun conn =>
          conn.queryStr ≠ domainOf queryStr).map Conn.socketClient },
        (conns.filter fun conn => conn.queryStr = domainOf queryStr).flatMap fun conn =>
          respondTo (domainOf queryStr) none conn.ref) := by
  rw [startQueryStr, hquery]
  dsimp only
  rw [respondResult, hd, filter_socketClient, filter_socketClient, List.flatMap_map]
  rfl

/-- A query of the command line. -/
theorem follows_argument (h : Follows (d, a)) (queryStr : CStr) :
    (AnswersOwn lib opts (d, a) (.argument queryStr) ↔
      Separate lib opts (d, a) (.argument queryStr)) ∧
    (Separate lib opts (d, a) (.argument queryStr) →
      Follows ((both lib opts).step (d, a) (.argument queryStr)).1) := by
  simp only [AnswersOwn, Separate, both, step, Answering.step]
  cases hquery : queryOf lib opts queryStr with
  | none =>
      rw [startQueryStr_refused h.conns hquery]
      dsimp only
      constructor
      · rw [List.flatMap_eq_nil_iff]
        constructor
        · intro hnil conn hconn hstr
          cases hnil conn (List.mem_filter.2 ⟨hconn, by simpa using hstr⟩)
        · intro halone conn hconn
          obtain ⟨hconn, hstr⟩ := List.mem_filter.1 hconn
          exact absurd (by simpa using hstr) (halone conn hconn)
      · intro halone
        have hkept : (a.conns.filter fun conn => conn.queryStr ≠ domainOf queryStr) = a.conns :=
          List.filter_eq_self.2 fun conn hconn => decide_eq_true (halone conn hconn)
        rw [hkept]
        exact ⟨h.client, h.accepted, rfl, h.wf, h.refs, h.ref_lt, h.joined, h.fresh⟩
  | some p =>
      obtain ⟨query, handling⟩ := p
      obtain ⟨hiff, hnext⟩ := start_iff h.client h.conns h.wf h.refs h.joined hquery
      refine ⟨hiff, fun halone => ?_⟩
      obtain ⟨heq, -, hwf, -, hjoined⟩ := hnext halone
      have hsub := answers_sublist a.conns
        (callbacks (MslookupClient.request lib a.client query handling).2.2)
      dsimp only
      rw [heq]
      exact
        { client := rfl
          accepted := h.accepted
          conns := rfl
          wf := hwf
          refs := (hsub.map Conn.ref).nodup h.refs
          ref_lt := fun conn hconn => h.ref_lt conn (hsub.subset hconn)
          joined := hjoined
          fresh := fun conn hconn => h.fresh conn (hsub.subset hconn) }

section Ask

variable {conn : Conn}

/-- A connection asks, before anything is made of it. -/
theorem Follows.asking (h : Follows (d, a)) (hconn : conn ∈ a.conns) (queryStr : CStr) :
    let asking : Conn := ⟨conn.ref, queryStr, none⟩
    (∀ other, other ∈ Keyed.set Conn.ref a.conns asking ↔
        other = asking ∨ other ∈ a.conns ∧ other.ref ≠ conn.ref) ∧
      Keyed.set SocketClient.ref d.socketClients ⟨conn.ref, queryStr⟩ =
        (Keyed.set Conn.ref a.conns asking).map Conn.socketClient ∧
      ((Keyed.set Conn.ref a.conns asking).map Conn.ref).Nodup := by
  refine ⟨fun other => Keyed.mem_set hconn rfl, ?_, ?_⟩
  · have hview : ∀ conn : Conn, conn.socketClient.ref = conn.ref := fun _ => rfl
    rw [h.conns]
    exact Keyed.set_view (x := ⟨conn.ref, queryStr, none⟩) hview
  · rw [Keyed.map_key_set]
    exact h.refs

/-- A question that is refused. -/
theorem follows_refused (h : Follows (d, a)) (hconn : conn ∈ a.conns) {queryStr : CStr}
    (hquery : queryOf lib opts queryStr = none) :
    let asked := Keyed.set SocketClient.ref d.socketClients ⟨conn.ref, domainOf queryStr⟩
    let started := startQueryStr lib opts { d with socketClients := asked } queryStr
    (started.2 = respondTo (domainOf queryStr) none conn.ref ↔
      Alone a.conns (domainOf queryStr) fun other => other.ref = conn.ref) ∧
    (Alone a.conns (domainOf queryStr) (fun other => other.ref = conn.ref) →
      Follows (started.1, { a with conns := Keyed.remove Conn.ref a.conns conn.ref })) := by
  set asking : Conn := ⟨conn.ref, domainOf queryStr, none⟩ with hasking
  obtain ⟨hmem, hset, hrefs⟩ := h.asking hconn (domainOf queryStr)
  have hrefused := startQueryStr_refused (d := { d with
    socketClients := Keyed.set SocketClient.ref d.socketClients ⟨conn.ref, domainOf queryStr⟩ })
    hset hquery
  have hiff : Alone a.conns (domainOf queryStr) (fun other => other.ref = conn.ref) →
      ∀ other ∈ Keyed.set Conn.ref a.conns asking,
        (other.queryStr = domainOf queryStr ↔ other.ref = conn.ref) := by
    intro halone other hother
    rcases (hmem other).1 hother with rfl | ⟨hother, hne⟩
    · exact ⟨fun _ => rfl, fun _ => rfl⟩
    · exact ⟨fun hstr => halone other hother hstr, fun href => absurd href hne⟩
  dsimp only
  rw [hrefused]
  dsimp only
  constructor
  · constructor
    · intro hout other hother hstr
      by_contra hne
      have hrespond : Output.respond other.ref (domainOf queryStr) none ∈
          respondTo (domainOf queryStr) none conn.ref := by
        rw [← hout]
        refine List.mem_flatMap.2 ⟨other, List.mem_filter.2 ⟨?_, by simpa using hstr⟩,
          List.mem_cons_self⟩
        exact (hmem other).2 (Or.inr ⟨hother, hne⟩)
      exact hne (by simpa [respondTo, isLast] using hrespond)
    · intro halone
      have hfilter : ((Keyed.set Conn.ref a.conns asking).filter fun other =>
          other.queryStr = domainOf queryStr) = [asking] := by
        refine (List.filter_congr fun other hother => ?_).trans
          (Keyed.filter_key hrefs ((hmem asking).2 (Or.inl rfl)))
        exact decide_eq_decide.2 (hiff halone other hother)
      rw [hfilter]
      exact List.flatMap_singleton ..
  · intro halone
    have hkept : ((Keyed.set Conn.ref a.conns asking).filter fun other =>
        other.queryStr ≠ domainOf queryStr) = Keyed.remove Conn.ref a.conns conn.ref := by
      rw [← Keyed.remove_set (x := asking), Keyed.remove]
      refine List.filter_congr fun other hother => ?_
      exact decide_eq_decide.2 (not_congr (hiff halone other hother))
    rw [hkept]
    have hsub : Keyed.remove Conn.ref a.conns conn.ref ⊆ a.conns := fun _ hx =>
      (Keyed.mem_remove.1 hx).1
    exact ⟨h.client, h.accepted, rfl, h.wf, Keyed.nodup_remove h.refs,
      fun other hother => h.ref_lt other (hsub hother), h.joined.subset hsub,
      fun other hother => h.fresh other (hsub hother)⟩

/-- A question that starts a request. -/
theorem follows_started (h : Follows (d, a)) (hconn : conn ∈ a.conns) (hown : conn.own = none)
    {queryStr : CStr} {query : Query} {handling : QueryHandling}
    (hquery : queryOf lib opts queryStr = some (query, handling)) :
    let asked := Keyed.set SocketClient.ref d.socketClients ⟨conn.ref, domainOf queryStr⟩
    let started := startQueryStr lib opts { d with socketClients := asked } queryStr
    (started.2 = (a.ask lib opts conn queryStr).2 ↔ SeparateAsk lib opts (d, a) conn queryStr) ∧
    (SeparateAsk lib opts (d, a) conn queryStr →
      Follows (started.1, (a.ask lib opts conn queryStr).1)) := by
  set asking : Conn := ⟨conn.ref, domainOf queryStr, none⟩ with hasking
  obtain ⟨hmem, hset, hrefs⟩ := h.asking hconn (domainOf queryStr)
  have hjoined : Joined d.queries (Keyed.set Conn.ref a.conns asking) (IsOpen a.client) := by
    refine ⟨h.joined.handles, h.joined.live, h.joined.listed, h.joined.keys, h.joined.named, ?_⟩
    intro other hother ref hown'
    rcases (hmem other).1 hother with rfl | ⟨hother, -⟩
    · cases hown'
    · exact h.joined.own other hother ref hown'
  have hsep : SeparateAsk lib opts (d, a) conn queryStr ↔ AloneAll d.queries
      (Keyed.set Conn.ref a.conns asking)
      (callbacks (MslookupClient.request lib a.client query handling).2.2) := by
    simp only [SeparateAsk, hown, hquery, forall_const]
    exact Iff.rfl
  have hask : a.ask lib opts conn queryStr =
      let out := (MslookupClient.request lib a.client query handling).2
      let told := a.told (Keyed.set Conn.ref a.conns asking) out
      ({ told.1 with
        conns := Keyed.set Conn.ref told.1.conns
          ⟨conn.ref, domainOf queryStr, some a.client.allocated⟩ }, told.2) := by
    simp only [Answering.ask, hown, hquery]
    rfl
  obtain ⟨hiff, hnext⟩ := start_iff (d := { d with
    socketClients := Keyed.set SocketClient.ref d.socketClients ⟨conn.ref, domainOf queryStr⟩ })
    h.client hset h.wf hrefs hjoined hquery
  rw [hsep, hask]
  refine ⟨hiff, fun halone => ?_⟩
  obtain ⟨heq, hnew, hwf, hopen, hjoined'⟩ := hnext halone
  set out := (MslookupClient.request lib a.client query handling).2 with hout
  set told := answers (Keyed.set Conn.ref a.conns asking) (callbacks out.2) with htold
  have hsub : List.Sublist told.1 (Keyed.set Conn.ref a.conns asking) := answers_sublist _ _
  have htoldrefs : (told.1.map Conn.ref).Nodup := (hsub.map Conn.ref).nodup hrefs
  have hasked : asking ∈ told.1 := mem_answers ((hmem asking).2 (Or.inl rfl)) rfl _
  set waiting : Conn := ⟨conn.ref, domainOf queryStr, some a.client.allocated⟩ with hwaiting
  have href : waiting.ref = asking.ref := rfl
  have hview : waiting.socketClient = asking.socketClient := rfl
  have hmem' : ∀ other, other ∈ Keyed.set Conn.ref told.1 waiting →
      other = waiting ∨ other ∈ told.1 ∧ other ∈ a.conns := by
    intro other hother
    rcases (Keyed.mem_set hasked href).1 hother with rfl | ⟨hother, hne⟩
    · exact Or.inl rfl
    · rcases (hmem other).1 (hsub.subset hother) with rfl | ⟨hold, -⟩
      · exact absurd rfl hne
      · exact Or.inr ⟨hother, hold⟩
  dsimp only
  rw [heq]
  refine ⟨rfl, h.accepted, ?_, hwf, ?_, ?_, ?_, ?_⟩
  · exact (Keyed.map_set Conn.socketClient htoldrefs hasked href hview).symm
  · show ((Keyed.set Conn.ref told.1 _).map Conn.ref).Nodup
    rw [Keyed.map_key_set]
    exact htoldrefs
  · intro other hother
    rcases hmem' other hother with rfl | ⟨-, hother⟩
    · exact h.ref_lt conn hconn
    · exact h.ref_lt other hother
  · refine ⟨hjoined'.handles, hjoined'.live, hjoined'.listed, hjoined'.keys, hjoined'.named, ?_⟩
    intro other hother ref hown'
    rcases hmem' other hother with rfl | ⟨hother, -⟩
    · cases hown'
      exact ⟨_, hnew, rfl, hopen⟩
    · exact hjoined'.own other hother ref hown'
  · intro other hother hown'
    rcases hmem' other hother with rfl | ⟨-, hother⟩
    · cases hown'
    · exact h.fresh other hother hown'

/-- A connection that has asked has a query string, and only such a connection. -/
theorem Follows.own_iff (h : Follows (d, a)) (hconn : conn ∈ a.conns) :
    conn.queryStr ≠ CStr.empty ↔ conn.own.isSome = true := by
  cases hown : conn.own with
  | none => simpa using h.fresh conn hconn hown
  | some ref =>
      obtain ⟨q, hq, hstr, -⟩ := h.joined.own conn hconn ref hown
      rw [← hstr]
      exact iff_of_true (h.joined.named q hq) rfl

/-- A connection sends a line. -/
theorem follows_line (h : Follows (d, a)) (hconn : conn ∈ a.conns) {recv : Recv} {line : CStr}
    (hline : lineOf recv = .query line) :
    ((socketReadCb lib opts d conn.socketClient recv).2 = (a.ask lib opts conn line).2 ↔
      SeparateAsk lib opts (d, a) conn line) ∧
    (SeparateAsk lib opts (d, a) conn line →
      Follows ((socketReadCb lib opts d conn.socketClient recv).1,
        (a.ask lib opts conn line).1)) := by
  cases hown : conn.own with
  | some ref =>
      -- only one query is allowed on a connection
      have hasked : conn.queryStr ≠ CStr.empty := (h.own_iff hconn).2 (by rw [hown]; rfl)
      have hask : a.ask lib opts conn line = (a, [.respond conn.ref (domainOf line) none]) := by
        simp [Answering.ask, hown]
      have hread : socketReadCb lib opts d conn.socketClient recv =
          (d, [.respond conn.ref (domainOf line) none]) := by
        rw [socketReadCb, hline]
        exact if_pos hasked
      rw [hread, hask]
      refine ⟨iff_of_true rfl fun hnone => ?_, fun _ => h⟩
      rw [hown] at hnone
      cases hnone
  | none =>
      have hempty : ¬conn.queryStr ≠ CStr.empty := by
        rw [h.own_iff hconn, hown]
        simp
      have hread : socketReadCb lib opts d conn.socketClient recv = startQueryStr lib opts
          { d with socketClients :=
              Keyed.set SocketClient.ref d.socketClients ⟨conn.ref, domainOf line⟩ } line := by
        rw [socketReadCb, hline]
        exact if_neg hempty
      rw [hread]
      cases hquery : queryOf lib opts line with
      | some p => exact follows_started h hconn hown hquery
      | none =>
          have hsep : SeparateAsk lib opts (d, a) conn line ↔
              Alone a.conns (domainOf line) fun other => other.ref = conn.ref := by
            simp [SeparateAsk, hown, hquery]
          have hask : a.ask lib opts conn line =
              ({ a with conns := Keyed.remove Conn.ref a.conns conn.ref },
                respondTo (domainOf line) none conn.ref) := by
            simp [Answering.ask, hown, hquery]
          rw [hsep, hask]
          exact follows_refused h hconn hquery

/-- A connection is read from. -/
theorem follows_read (h : Follows (d, a)) (ref : Nat) (recv : Recv) :
    (AnswersOwn lib opts (d, a) (.read ref recv) ↔ Separate lib opts (d, a) (.read ref recv)) ∧
    (Separate lib opts (d, a) (.read ref recv) →
      Follows ((both lib opts).step (d, a) (.read ref recv)).1) := by
  have hview : Keyed.find SocketClient.ref d.socketClients ref =
      (Keyed.find Conn.ref a.conns ref).map Conn.socketClient := by
    rw [show d.socketClients = a.conns.map Conn.socketClient from h.conns]
    exact Keyed.find_view fun _ => rfl
  simp only [AnswersOwn, Separate, both, step, Answering.step, hview]
  cases hfind : Keyed.find Conn.ref a.conns ref with
  | none =>
      refine ⟨iff_of_true rfl fun conn hconn href => ?_, fun _ => h⟩
      exact absurd href (Keyed.find_eq_none_iff.1 hfind conn hconn)
  | some conn =>
      obtain ⟨hconn, rfl⟩ := (Keyed.find_eq_some_iff h.refs).1 hfind
      have honly : ∀ other ∈ a.conns, other.ref = conn.ref → other = conn := fun other hother =>
        List.inj_on_of_nodup_map h.refs hother hconn
      simp only [Option.map_some]
      cases hline : lineOf recv with
      | again =>
          have hread : socketReadCb lib opts d conn.socketClient recv = (d, []) := by
            rw [socketReadCb, hline]
          rw [hread]
          exact ⟨iff_of_true rfl nofun, fun _ => h⟩
      | close =>
          have hread : socketReadCb lib opts d conn.socketClient recv =
              socketClientClose d conn.ref := by
            rw [socketReadCb, hline]
            rfl
          have hsub : Keyed.remove Conn.ref a.conns conn.ref ⊆ a.conns := fun _ hx =>
            (Keyed.mem_remove.1 hx).1
          rw [hread]
          refine ⟨iff_of_true rfl nofun, fun _ => ⟨h.client, h.accepted, ?_, h.wf,
            Keyed.nodup_remove h.refs, fun other hother => h.ref_lt other (hsub hother),
            h.joined.subset hsub, fun other hother => h.fresh other (hsub hother)⟩⟩
          have hconns : d.socketClients = a.conns.map Conn.socketClient := h.conns
          rw [socketClientClose, hconns]
          exact Keyed.remove_view fun _ => rfl
      | query line =>
          obtain ⟨hiff, hnext⟩ := follows_line h hconn hline
          have hsep : (∀ other ∈ a.conns, other.ref = conn.ref → ∀ line',
                Line.query line = .query line' → SeparateAsk lib opts (d, a) other line') ↔
              SeparateAsk lib opts (d, a) conn line := by
            constructor
            · intro hall
              exact hall conn hconn rfl line rfl
            · intro hask other hother href line' hline'
              cases hline'
              rw [honly other hother href]
              exact hask
          rw [hsep]
          exact ⟨hiff, hnext⟩

end Ask

/-- **One step**: the daemon does what it should exactly if nobody else has the query string that
is answered, and then goes on. -/
theorem follows_step {s : Daemon × Answering} (h : Follows s) (action : Action) :
    (AnswersOwn lib opts s action ↔ Separate lib opts s action) ∧
    (Separate lib opts s action → Follows ((both lib opts).step s action).1) := by
  obtain ⟨d, a⟩ := s
  have hclient : d.mslookupClient = a.client := h.client
  cases action with
  | argument queryStr => exact follows_argument h queryStr
  | accept =>
      have haccepted : d.accepted = a.accepted := h.accepted
      have hconns : d.socketClients = a.conns.map Conn.socketClient := h.conns
      simp only [AnswersOwn, Separate, both, step, Answering.step, socketAccept, haccepted, hconns]
      refine ⟨trivial, fun _ => ⟨hclient, rfl, rfl, h.wf, ?_, ?_, ?_, ?_⟩⟩
      · refine List.nodup_cons.2 ⟨fun hmem => ?_, h.refs⟩
        obtain ⟨conn, hconn, href⟩ := List.mem_map.1 hmem
        exact absurd (h.ref_lt conn hconn) (href ▸ Nat.lt_irrefl _)
      · intro conn hconn
        rcases List.mem_cons.1 hconn with rfl | hconn
        · exact Nat.lt_succ_self _
        · exact Nat.lt_succ_of_lt (h.ref_lt conn hconn)
      · have hj := h.joined
        refine ⟨hj.handles, hj.live, hj.listed, hj.keys, hj.named, ?_⟩
        intro conn hconn ref hown
        rcases List.mem_cons.1 hconn with rfl | hconn
        · cases hown
        · exact hj.own conn hconn ref hown
      · intro conn hconn hown
        rcases List.mem_cons.1 hconn with rfl | hconn
        · rfl
        · exact h.fresh conn hconn hown
  | read ref recv => exact follows_read h ref recv
  | rxResult requestHandle result =>
      simp only [AnswersOwn, Separate, both, step, Answering.step, hclient]
      exact follows_told h
        (MslookupClient.wellFormed_step lib a.client (.rxResult requestHandle result) h.wf)
        (tells_rxResult h.wf requestHandle result)
  | timeout ref =>
      simp only [AnswersOwn, Separate, both, step, Answering.step, hclient]
      exact follows_told h (MslookupClient.wellFormed_step lib a.client (.timeout ref) h.wf)
        (tells_timerExpires h.wf ref)

end Step

/-! ## Query strings that are not in use -/

/-- The query string that comes in is not that of another connected client or of an open query.  A
client that has not sent one yet has the empty one. -/
def Unused (s : Daemon) : Action → Prop
  | .argument queryStr =>
      (∀ c ∈ s.socketClients, c.queryStr ≠ domainOf queryStr) ∧
        ∀ q ∈ s.queries, q.queryStr ≠ domainOf queryStr
  | .read ref recv =>
      match lineOf recv with
      | .query queryWithTimeout =>
          ∀ c ∈ s.socketClients, c.ref = ref → c.queryStr = CStr.empty →
            (∀ other ∈ s.socketClients, other.ref ≠ ref →
              other.queryStr ≠ domainOf queryWithTimeout) ∧
            ∀ q ∈ s.queries, q.queryStr ≠ domainOf queryWithTimeout
      | _ => True
  | _ => True

instance (s : Daemon) : DecidablePred (Unused s)
  | .argument queryStr =>
      inferInstanceAs (Decidable ((∀ c ∈ s.socketClients, c.queryStr ≠ domainOf queryStr) ∧
        ∀ q ∈ s.queries, q.queryStr ≠ domainOf queryStr))
  | .accept => .isTrue trivial
  | .read ref recv =>
      match h : lineOf recv with
      | .query queryWithTimeout =>
          decidable_of_iff (∀ c ∈ s.socketClients, c.ref = ref → c.queryStr = CStr.empty →
            (∀ other ∈ s.socketClients, other.ref ≠ ref →
              other.queryStr ≠ domainOf queryWithTimeout) ∧
            ∀ q ∈ s.queries, q.queryStr ≠ domainOf queryWithTimeout) (by rw [Unused, h])
      | .again => .isTrue (by rw [Unused, h]; trivial)
      | .close => .isTrue (by rw [Unused, h]; trivial)
  | .rxResult _ _ => .isTrue trivial
  | .timeout _ => .isTrue trivial

section Unused

variable {d : Daemon} {a : Answering} {lib} {opts}

theorem queries_mslookupResultCb (d : Daemon) (requestHandle : UInt32) (result : Result) :
    List.Sublist (mslookupResultCb d requestHandle result).1.queries d.queries := by
  unfold mslookupResultCb
  split
  next => exact List.Sublist.refl _
  next =>
      dsimp only
      split
      · exact List.filter_sublist
      · exact List.Sublist.refl _

/-- Results may end queries. -/
theorem queries_resultCbs (d : Daemon) (cbs : List Callback) :
    List.Sublist (resultCbs d cbs).1.queries d.queries := by
  induction cbs generalizing d with
  | nil => exact List.Sublist.refl _
  | cons cb cbs ih => exact (ih _).trans (queries_mslookupResultCb d _ _)

/-- A query string may start a query. -/
theorem queries_startQueryStr (d : Daemon) (queryStr : CStr) :
    ∃ kept, List.Sublist kept d.queries ∧
      ((startQueryStr lib opts d queryStr).1.queries = kept ∨ ∃ requestHandle,
        (startQueryStr lib opts d queryStr).1.queries = ⟨domainOf queryStr, requestHandle⟩ :: kept) := by
  unfold startQueryStr
  dsimp only
  split
  next => exact ⟨_, List.Sublist.refl _, Or.inl rfl⟩
  next query handling _ =>
      have hsub := queries_resultCbs { d with mslookupClient :=
        (MslookupClient.request lib d.mslookupClient query handling).2.1 }
        (callbacks (MslookupClient.request lib d.mslookupClient query handling).2.2)
      refine ⟨_, hsub, ?_⟩
      split
      · exact Or.inl rfl
      · exact Or.inr ⟨_, rfl⟩

theorem nodup_startQueryStr (h : (d.queries.map OpenQuery.queryStr).Nodup) {queryStr : CStr}
    (hunused : ∀ q ∈ d.queries, q.queryStr ≠ domainOf queryStr) :
    ((startQueryStr lib opts d queryStr).1.queries.map OpenQuery.queryStr).Nodup := by
  obtain ⟨kept, hsub, heq | ⟨requestHandle, heq⟩⟩ := queries_startQueryStr d queryStr
  · rw [heq]
    exact (hsub.map _).nodup h
  · rw [heq]
    refine List.nodup_cons.2 ⟨fun hmem => ?_, (hsub.map _).nodup h⟩
    obtain ⟨q, hq, hstr⟩ := List.mem_map.1 hmem
    exact hunused q (hsub.subset hq) hstr

/-- **Query strings that are not in use keep the open queries apart.** -/
theorem nodup_step {action : Action} (h : (d.queries.map OpenQuery.queryStr).Nodup)
    (hunused : Unused d action) :
    ((step lib opts d action).1.queries.map OpenQuery.queryStr).Nodup := by
  cases action with
  | argument queryStr => exact nodup_startQueryStr h hunused.2
  | accept => exact h
  | read ref recv =>
      rw [step]
      split
      next => exact h
      next c hc =>
          have hmem := List.mem_of_find?_eq_some hc
          have href : c.ref = ref := by simpa using List.find?_some hc
          rw [socketReadCb]
          split
          next => exact h
          next => exact h
          next line hline =>
              dsimp only
              split
              next => exact h
              next hempty =>
                  rw [Unused, hline] at hunused
                  have hnew := (hunused c hmem href (not_not.1 hempty)).2
                  exact nodup_startQueryStr (d := { d with
                    socketClients := Keyed.set SocketClient.ref d.socketClients
                      ⟨c.ref, domainOf line⟩ }) h hnew
  | rxResult requestHandle result => exact ((queries_resultCbs _ _).map _).nodup h
  | timeout ref => exact ((queries_resultCbs _ _).map _).nodup h

/-- Whoever has the query string of an open query has its request. -/
theorem aloneAll_of_nodup (h : Follows (d, a)) (hnodup : (d.queries.map OpenQuery.queryStr).Nodup)
    {after : Nat → UInt32 → Prop} {cbs : List Callback} (ht : Tells (IsOpen a.client) after cbs) :
    AloneAll d.queries a.conns cbs := by
  intro cb hcb q hq hhandle conn hconn hstr
  have hopen : IsOpen a.client cb.ref cb.requestHandle := by
    rcases ht with ⟨rfl, -⟩ | ⟨cb', rfl, hopen, -⟩
    · cases hcb
    · rw [List.mem_singleton.1 hcb]
      exact hopen
  have hasked : conn.queryStr ≠ CStr.empty := by
    rw [hstr]
    exact h.joined.named q hq
  obtain ⟨ref, hown⟩ := Option.isSome_iff_exists.1 ((h.own_iff hconn).1 hasked)
  obtain ⟨q', hq', hstr', hopen'⟩ := h.joined.own conn hconn ref hown
  have heq : q' = q := List.inj_on_of_nodup_map hnodup hq' hq (hstr'.trans hstr)
  rw [heq, hhandle] at hopen'
  rw [hown, (h.joined.keys _ _ _ _ hopen' hopen).2 rfl]

/-- Query strings that are not in use are not mixed up. -/
theorem separate_of_unused (h : Follows (d, a))
    (hnodup : (d.queries.map OpenQuery.queryStr).Nodup) {action : Action}
    (hunused : Unused d action) : Separate lib opts (d, a) action := by
  have hconns : d.socketClients = a.conns.map Conn.socketClient := h.conns
  cases action with
  | argument queryStr =>
      rw [Separate]
      split
      next =>
          intro conn hconn
          refine hunused.1 conn.socketClient ?_
          rw [hconns]
          exact List.mem_map_of_mem hconn
      next query handling hquery =>
          obtain ⟨between, ht, -⟩ := tells_request h.wf handling (queryValid_of_queryOf hquery).1
          exact aloneAll_of_nodup h hnodup ht
  | accept => trivial
  | read ref recv =>
      intro conn hconn href line hline hown
      have hmem : conn.socketClient ∈ d.socketClients := by
        rw [hconns]
        exact List.mem_map_of_mem hconn
      rw [Unused, hline] at hunused
      obtain ⟨hothers, hqueries⟩ :=
        hunused conn.socketClient hmem href (h.fresh conn hconn hown)
      split
      next =>
          intro other hother hstr
          by_contra hne
          refine hothers other.socketClient ?_ (href ▸ hne) hstr
          rw [hconns]
          exact List.mem_map_of_mem hother
      next query handling hquery =>
          obtain ⟨between, ht, -⟩ := tells_request h.wf handling (queryValid_of_queryOf hquery).1
          intro cb hcb q hq hhandle other hother hstr
          have hasked : (⟨conn.ref, domainOf line, none⟩ : Conn).ref = conn.ref := rfl
          rcases (Keyed.mem_set hconn hasked).1 hother with rfl | ⟨hother, -⟩
          · exact absurd hstr.symm (hqueries q hq)
          · exact aloneAll_of_nodup h hnodup ht cb hcb q hq hhandle other hother hstr
  | rxResult requestHandle result =>
      exact aloneAll_of_nodup h hnodup (tells_rxResult h.wf requestHandle result)
  | timeout ref => exact aloneAll_of_nodup h hnodup (tells_timerExpires h.wf ref)

end Unused

/-! ## Every run -/

/-- **Every connection gets its own results**, in every run, exactly as long as nobody else has the
query string that is answered; so it does if the query strings that come in are not in use. -/
theorem answers_own_iff (actions : List Action) :
    ((both lib opts).Guarded (AnswersOwn lib opts) (Daemon.new, Answering.new) actions ↔
      (both lib opts).Guarded (Separate lib opts) (Daemon.new, Answering.new) actions) ∧
    ((both lib opts).Guarded (fun s => Unused s.1) (Daemon.new, Answering.new) actions →
      (both lib opts).Guarded (AnswersOwn lib opts) (Daemon.new, Answering.new) actions) := by
  constructor
  · refine (both lib opts).guarded_congr (P := Follows) (H := fun _ => True) ?_ ?_ follows_new
      fun _ _ => trivial
    · intro s action h _ hown
      exact (follows_step h action).2 ((follows_step h action).1.1 hown)
    · intro s action h _
      exact (follows_step h action).1
  · refine (both lib opts).guarded_imp
      (P := fun s => Follows s ∧ (s.1.queries.map OpenQuery.queryStr).Nodup) ?_
      ⟨follows_new, List.nodup_nil⟩
    intro s action ⟨h, hnodup⟩ hunused
    have hsep : Separate lib opts s action := separate_of_unused h hnodup hunused
    exact ⟨⟨(follows_step h action).2 hsep, nodup_step hnodup hunused⟩,
      (follows_step h action).1.2 hsep⟩

instance (s : Daemon × Answering) : DecidablePred (AnswersOwn lib opts s) := fun action =>
  inferInstanceAs (Decidable ((step lib opts s.1 action).2 = (s.2.step lib opts action).2))

/-- What a program writes to its connection. -/
def sent (ref : Nat) (text : String) : Action := .read ref (.data (CStr.lit text).bytes)

/-- The daemon as it is started without options, but for the headers. -/
def plain : CmdlineOpts := ⟨1000, 1000, false⟩

/-- Two programs ask for different subscribers, and each gets its own answer. -/
def differentQueries : List Action :=
  [.accept, sent 0 "100@gsup.hlr.901700000000017.imsi\n",
    .accept, sent 1 "5000@gsup.hlr.901700000000018.imsi\n", .timeout 0]

/-- The condition is met there, and so is the claim. -/
theorem answers_own_iff_different :
    (both Host.libosmocore plain).Guarded (AnswersOwn Host.libosmocore plain)
      (Daemon.new, Answering.new) differentQueries := by
  refine (answers_own_iff Host.libosmocore plain differentQueries).2 ?_
  decide +kernel

/-- Two programs ask for the same subscriber, with different timeouts. -/
def sameQuery : List Action :=
  [.accept, sent 0 "100@gsup.hlr.901700000000017.imsi\n",
    .accept, sent 1 "5000@gsup.hlr.901700000000017.imsi\n", .timeout 0]

/-- Two programs are connected, and one of them sends an empty query string. -/
def emptyQuery : List Action := [.accept, .accept, sent 1 "1000@\n"]

/-- **Results go to programs that they are not for**: with the timeout of the other one's request,
the second program is told that there is no result, and is closed; and a program that has not asked
yet is told of an error, and is closed. -/
theorem answers_not_own :
    ¬(both Host.libosmocore plain).Guarded (AnswersOwn Host.libosmocore plain)
        (Daemon.new, Answering.new) sameQuery ∧
    .close 1 ∈ ((machine Host.libosmocore plain).run Daemon.new sameQuery).2 ∧
    ¬(both Host.libosmocore plain).Guarded (AnswersOwn Host.libosmocore plain)
        (Daemon.new, Answering.new) emptyQuery ∧
    ((machine Host.libosmocore plain).run Daemon.new emptyQuery).2 =
      [.respond 1 CStr.empty none, .close 1, .respond 0 CStr.empty none, .close 0] := by
  decide +kernel

end LookupDaemon
end OsmoHlr
