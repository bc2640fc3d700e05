import OsmoHlr.Mslookup.ClientHandles

/-!
# Calls from inside the client

`src/mslookup/mslookup_client.c` again, with callbacks and methods that call back
into the client.  A function of the client that calls out waits on a stack until
the user's or the method's code returns; what it still has to do then is a frame,
with the pointer to the request record if it goes on to use it.  A frame that
uses a record that has been freed leaves the system `dangling`.

The code that is called may call `osmo_mslookup_client_request`,
`osmo_mslookup_client_rx_result` and `osmo_mslookup_client_request_cancel`, any
number of times and at any depth.  Timers expire in the main loop only, and
`request_cleanup` of a method does not call back.

* `not_dangling_of_careful` — no freed record is used as long as nobody ends a
  request that a waiting function goes on to use.
* `dangling_cancel_in_callback` — a callback that cancels its own request.
* `run_quiet` — without calls from inside, the functions do what
  `OsmoHlr.Mslookup.Client` says.
-/

namespace OsmoHlr
namespace MslookupClient
namespace Reentry

open Mslookup (Query Result ResultCode)

variable (lib : Libosmocore)

/-! ## Functions that wait -/

/-- What is left to do of a function of the client, when the code that it called returns. -/
inductive Frame where
  /-- The code of the user or of a method that is running. -/
  | user
  /-- `osmo_mslookup_request_send_result`, to finish: cancel the handle. -/
  | cancel (requestHandle : UInt32)
  /-- `timeout_cb`, to go on listening: `set_timer` of the record. -/
  | listen (ref : Nat)
  /-- `osmo_mslookup_client_request`: the new record is not in the list yet. -/
  | launch (requestHandle : UInt32) (query : Query) (handling : QueryHandling)
  /-- `osmo_mslookup_client_request`: the loop over the methods from number `i` on, which reads
  the handle from the record. -/
  | methods (ref : Nat) (i : Nat) (query : Query)
  deriving DecidableEq

/-- The record that a frame goes on to use. -/
def Frame.pin : Frame → Option Nat
  | .listen ref => some ref
  | .methods ref _ _ => some ref
  | _ => none

/-- The records that the frames go on to use. -/
def pins (stack : List Frame) : List Nat := stack.filterMap Frame.pin

/-- The client and the functions that wait, innermost first. -/
structure System where
  client : Client
  stack : List Frame
  /-- Whether a record has been used after it was freed. -/
  dangling : Bool
  deriving DecidableEq

def System.start (lookupMethods : List Bool) : System := ⟨Client.new lookupMethods, [], false⟩

def System.push (s : System) (frame : Frame) : System := { s with stack := frame :: s.stack }

/-- Writing to a record that is in the list. -/
def System.write (s : System) (r : Request) : System := { s with client := s.client.set r }

/-! ## The functions, up to where they call out -/

/-- `osmo_mslookup_request_send_result` -/
def requestSendResult (s : System) (r : Request) (finish : Bool) : System × List Event :=
  let r := r.setLast finish
  let s := s.write r
  let s := if finish then s.push (.cancel r.requestHandle) else s
  (s.push .user, [.resultCb r.ref r.requestHandle r.query r.result])

/-- `osmo_mslookup_client_rx_result` -/
def rxResult (s : System) (requestHandle : UInt32) (result : Result) : System × List Event :=
  match getRequest s.client requestHandle with
  | none => (s, [])
  | some req =>
      if result.rc ≠ .result then (s, [])
      else if req.result.rc = .result ∧ req.result.age ≤ result.age then (s, [])
      else
        let req := { req with result := result }
        let s := s.write req
        if req.result.age = 0 then requestSendResult s req true
        else if req.waitingMinDelay then (s, [])
        else requestSendResult s req false

/-- `osmo_mslookup_client_request_cancel` -/
def requestCancel (s : System) (requestHandle : UInt32) : System × List Event :=
  let cancelled := MslookupClient.requestCancel s.client requestHandle
  ({ s with client := cancelled.1 }, cancelled.2)

/-- `timeout_cb` -/
def timeoutCb (s : System) (r : Request) : System × List Event :=
  if r.waitingMinDelay then
    let r := { r with waitingMinDelay := false }
    if r.handling.stops then
      let r := if r.result.rc ≠ .result then
          { r with result := { r.result with rc := .notFound } } else r
      requestSendResult (s.write r) r true
    else
      let s := (s.write r).push (.listen r.ref)
      if r.result.rc = .result then requestSendResult s r false else (s, [])
  else
    let rc := if r.result.rc = .result then ResultCode.none else .notFound
    let r := { r with result := { r.result with rc := rc } }
    requestSendResult (s.write r) r true

/-- The timer of a record expires. -/
def timerExpires (s : System) (ref : Nat) : System × List Event :=
  match s.client.lookup ref with
  | none => (s, [])
  | some r =>
      if r.timeout.isSome then
        let r := { r with timeout := none }
        timeoutCb (s.write r) r
      else (s, [])

/-- `client->next_request_handle++` -/
def System.takeHandle (s : System) : System :=
  { s with client := { s.client with nextRequestHandle := s.client.newHandle + 1 } }

/-- `osmo_mslookup_client_request` -/
def request (s : System) (query : Query) (handling : QueryHandling) : System × List Event :=
  if !queryValid lib query then (s, [])
  else
    let requestHandle := s.client.newHandle
    let s := s.takeHandle.push (.launch requestHandle query handling)
    match s.client.holder requestHandle with
    | some other => requestSendResult s other true
    | none => (s, [])

/-- `llist_add_tail` of a new record, with its timer scheduled. -/
def System.append (s : System) (requestHandle : UInt32) (query : Query)
    (handling : QueryHandling) : System :=
  { s with client := { s.client with
    requests := s.client.requests ++ [newRequest s.client.allocated requestHandle query handling]
    allocated := s.client.allocated + 1 } }

/-- What a function does when it goes on; its frame has been taken from the stack. -/
def resume (s : System) : Frame → System × List Event
  | .user => (s, [])
  | .cancel requestHandle => requestCancel s requestHandle
  | .listen ref =>
      match s.client.lookup ref with
      | none => ({ s with dangling := true }, [])
      | some r =>
          (s.write (setTimer r (r.handling.resultTimeoutMilliseconds.toNat -
            r.handling.minWaitMilliseconds.toNat)), [])
  | .launch requestHandle query handling =>
      ((s.append requestHandle query handling).push (.methods s.client.allocated 0 query), [])
  | .methods ref i query =>
      match s.client.lookup ref with
      | none => ({ s with dangling := true }, [])
      | some r =>
          if i < s.client.lookupMethods.length then
            ((s.push (.methods ref (i + 1) query)).push .user,
              [.methodRequest i query r.requestHandle])
          else (s, [.returned ref r.requestHandle])

/-! ## One step after the other -/

/-- What may happen next. -/
inductive Action where
  /-- A function of the client is called. -/
  | call (op : Op)
  /-- The innermost function goes on: the code that was called returns, or what is left to do
  is done. -/
  | go

/-- A call, from the main loop or from the user's or a method's code. -/
def call (s : System) : Op → System × List Event
  | .request query handling => request lib s query handling
  | .rxResult requestHandle result => rxResult s requestHandle result
  | .requestCancel requestHandle => requestCancel s requestHandle
  | .timeout ref => if s.stack = [] then timerExpires s ref else (s, [])

/-- One step; after a use of a freed record nothing is known any more. -/
def step (s : System) (a : Action) : System × List Event :=
  if s.dangling then (s, [])
  else
    match a, s.stack with
    | .call op, [] => call lib s op
    | .call op, .user :: _ => call lib s op
    | .go, frame :: rest => resume { s with stack := rest } frame
    | _, _ => (s, [])

/-- The system as a machine. -/
def machine : Machine System Action Event := ⟨step lib⟩

/-! ## Who has to be careful -/

/-- A waiting function goes on to use a request with this handle. -/
def Pinned (s : System) (requestHandle : UInt32) : Prop :=
  ∃ r ∈ s.client.requests, r.ref ∈ pins s.stack ∧ r.requestHandle = requestHandle

instance (s : System) (requestHandle : UInt32) : Decidable (Pinned s requestHandle) :=
  inferInstanceAs (Decidable (∃ r ∈ s.client.requests, _ ∧ _))

/-- A request that a waiting function goes on to use is not ended: it is not cancelled, gets no
result of age 0, and its handle is not given to a new request. -/
def Careful (s : System) : Action → Prop
  | .call (.requestCancel requestHandle) => ¬ Pinned s requestHandle
  | .call (.rxResult requestHandle result) =>
      result.rc = .result → result.age = 0 → ¬ Pinned s requestHandle
  | .call (.request query _) => queryValid lib query = true → ¬ Pinned s s.client.newHandle
  | _ => True

instance (s : System) : (a : Action) → Decidable (Careful lib s a)
  | .call (.requestCancel requestHandle) => inferInstanceAs (Decidable (¬ Pinned s requestHandle))
  | .call (.rxResult requestHandle result) => inferInstanceAs (Decidable
      (result.rc = .result → result.age = 0 → ¬ Pinned s requestHandle))
  | .call (.request query _) => inferInstanceAs (Decidable
      (queryValid lib query = true → ¬ Pinned s s.client.newHandle))
  | .call (.timeout _) => .isTrue trivial
  | .go => .isTrue trivial

/-! ## The invariant -/

/-- The records in the list, by their addresses and handles. -/
def keys (client : Client) : List (Nat × UInt32) :=
  client.requests.map fun r => (r.ref, r.requestHandle)

/-- No handle that is to be cancelled belongs to a record that a frame further out uses. -/
def Apart (ks : List (Nat × UInt32)) : List Frame → Prop
  | [] => True
  | frame :: rest =>
      (∀ requestHandle, frame = .cancel requestHandle →
        ∀ ref ∈ pins rest, (ref, requestHandle) ∉ ks) ∧ Apart ks rest

/-- The records that are going to be used are in the list, and stay there. -/
structure Inv (s : System) : Prop where
  live : s.dangling = false
  refs : (s.client.requests.map Request.ref).Nodup
  ref_lt : ∀ k ∈ keys s.client, k.1 < s.client.allocated
  pinned : ∀ ref ∈ pins s.stack, ∃ requestHandle, (ref, requestHandle) ∈ keys s.client
  apart : Apart (keys s.client) s.stack

section Inv

variable {s : System} {r r' : Request} {frame : Frame} {requestHandle : UInt32}

theorem mem_keys {client : Client} {k : Nat × UInt32} :
    k ∈ keys client ↔ ∃ r ∈ client.requests, (r.ref, r.requestHandle) = k := List.mem_map

theorem pinned_iff : Pinned s requestHandle ↔
    ∃ ref ∈ pins s.stack, (ref, requestHandle) ∈ keys s.client := by
  constructor
  · rintro ⟨r, hr, hpin, rfl⟩
    exact ⟨r.ref, hpin, mem_keys.2 ⟨r, hr, rfl⟩⟩
  · rintro ⟨ref, hpin, hmem⟩
    obtain ⟨r, hr, heq⟩ := mem_keys.1 hmem
    obtain ⟨rfl, rfl⟩ := Prod.ext_iff.1 heq
    exact ⟨r, hr, hpin, rfl⟩

theorem pins_cons (frame : Frame) (rest : List Frame) :
    pins (frame :: rest) = frame.pin.toList ++ pins rest := by
  cases frame <;> rfl

/-- Fewer records, and none of those that are used. -/
theorem Apart.mono {ks ks' : List (Nat × UInt32)} {stack : List Frame} (h : Apart ks stack)
    (hsub : ∀ ref ∈ pins stack, ∀ requestHandle, (ref, requestHandle) ∈ ks' →
      (ref, requestHandle) ∈ ks) : Apart ks' stack := by
  induction stack with
  | nil => trivial
  | cons frame rest ih =>
      have hrest : ∀ ref ∈ pins rest, ref ∈ pins (frame :: rest) := fun ref href => by
        rw [pins_cons]
        exact List.mem_append_right _ href
      refine ⟨?_, ih h.2 fun ref href => hsub ref (hrest ref href)⟩
      intro requestHandle hframe ref href hmem
      exact h.1 requestHandle hframe ref href (hsub ref (hrest ref href) requestHandle hmem)

theorem keys_set (h : (s.client.requests.map Request.ref).Nodup) (hr : r ∈ s.client.requests)
    (href : r'.ref = r.ref) (hhandle : r'.requestHandle = r.requestHandle) :
    keys (s.client.set r') = keys s.client :=
  map_set _ h hr href (by rw [href, hhandle])

theorem pinned_write (h : (s.client.requests.map Request.ref).Nodup) (hr : r ∈ s.client.requests)
    (r' : Request) (href : r'.ref = r.ref) (hhandle : r'.requestHandle = r.requestHandle) :
    Pinned (s.write r') requestHandle ↔ Pinned s requestHandle := by
  have hkeys := keys_set h hr href hhandle
  rw [pinned_iff, pinned_iff, ← hkeys]
  rfl

/-- Only the numbers, the handles and the frames matter. -/
theorem Inv.congr {t : System} (h : Inv s) (hlive : t.dangling = s.dangling)
    (hkeys : keys t.client = keys s.client) (halloc : t.client.allocated = s.client.allocated)
    (hstack : t.stack = s.stack) : Inv t := by
  have hrefs : ∀ c : Client, c.requests.map Request.ref = (keys c).map Prod.fst := fun c => by
    rw [keys, List.map_map]
    rfl
  refine ⟨hlive.trans h.live, ?_, ?_, ?_, ?_⟩
  · rw [hrefs, hkeys, ← hrefs]
    exact h.refs
  · rw [hkeys, halloc]
    exact h.ref_lt
  · rw [hkeys, hstack]
    exact h.pinned
  · rw [hkeys, hstack]
    exact h.apart

theorem Inv.write (h : Inv s) (hr : r ∈ s.client.requests) (href : r'.ref = r.ref)
    (hhandle : r'.requestHandle = r.requestHandle) : Inv (s.write r') :=
  h.congr rfl (keys_set h.refs hr href hhandle) rfl rfl

/-- A frame that uses a record in the list, or none, and that cancels no one's handle. -/
theorem Inv.push (h : Inv s)
    (hpin : ∀ ref, frame.pin = some ref → ∃ requestHandle, (ref, requestHandle) ∈ keys s.client)
    (hcancel : ∀ requestHandle, frame = .cancel requestHandle → ¬ Pinned s requestHandle) :
    Inv (s.push frame) where
  live := h.live
  refs := h.refs
  ref_lt := h.ref_lt
  pinned := by
    intro ref href
    simp only [System.push, pins_cons, List.mem_append, Option.mem_toList] at href
    rcases href with href | href
    · exact hpin ref href
    · exact h.pinned ref href
  apart := by
    refine ⟨fun requestHandle hframe ref href hmem => ?_, h.apart⟩
    exact hcancel requestHandle hframe (pinned_iff.2 ⟨ref, href, hmem⟩)

theorem Inv.push_user (h : Inv s) : Inv (s.push .user) :=
  h.push (by simp [Frame.pin]) (by simp)

theorem Inv.pop {rest : List Frame} (h : Inv s) (hstack : s.stack = frame :: rest) :
    Inv { s with stack := rest } where
  live := h.live
  refs := h.refs
  ref_lt := h.ref_lt
  pinned := by
    intro ref href
    refine h.pinned ref ?_
    rw [hstack, pins_cons]
    exact List.mem_append_right _ href
  apart := by
    have hapart := h.apart
    rw [hstack] at hapart
    exact hapart.2

/-- Sending a result that is not last, or for a request that no one uses. -/
theorem Inv.requestSendResult (h : Inv s) (hr : r ∈ s.client.requests) (href : r'.ref = r.ref)
    (hhandle : r'.requestHandle = r.requestHandle) {finish : Bool}
    (hfinish : finish = true → ¬ Pinned s r.requestHandle) :
    Inv (requestSendResult s r' finish).1 := by
  have hwrite : Inv (s.write (r'.setLast finish)) := h.write hr href hhandle
  cases finish with
  | false => exact hwrite.push_user
  | true =>
      refine Inv.push_user (hwrite.push (by simp [Frame.pin]) fun requestHandle heq hpin => ?_)
      cases heq
      refine hfinish rfl ?_
      rw [← hhandle]
      exact (pinned_write h.refs hr (r'.setLast true) href hhandle).1 hpin

theorem mem_of_getRequest {client : Client} (hr : getRequest client requestHandle = some r) :
    r ∈ client.requests ∧ r.requestHandle = requestHandle := by
  unfold getRequest at hr
  split at hr
  · cases hr
  · exact ⟨List.mem_of_find?_eq_some hr, by simpa using List.find?_some hr⟩

/-- Ending a request that no one uses. -/
theorem Inv.requestCancel (h : Inv s) (hpin : ¬ Pinned s requestHandle) :
    Inv (requestCancel s requestHandle).1 := by
  unfold Reentry.requestCancel MslookupClient.requestCancel
  cases hr : getRequest s.client requestHandle with
  | none => exact h
  | some r =>
      have hmem := mem_of_getRequest hr
      have hsub : ∀ k ∈ keys (s.client.remove r.ref), k ∈ keys s.client := by
        intro k hk
        obtain ⟨x, hx, rfl⟩ := mem_keys.1 hk
        exact mem_keys.2 ⟨x, (mem_remove.1 hx).1, rfl⟩
      refine ⟨h.live, h.refs.sublist (List.filter_sublist.map _),
        fun k hk => h.ref_lt k (hsub k hk), ?_, h.apart.mono fun ref _ _ hk => hsub _ hk⟩
      intro ref href
      obtain ⟨handle, hkey⟩ := h.pinned ref href
      obtain ⟨x, hx, heq⟩ := mem_keys.1 hkey
      obtain ⟨rfl, -⟩ := Prod.ext_iff.1 heq
      -- the record that is used is another one
      refine ⟨x.requestHandle, mem_keys.2 ⟨x, mem_remove.2 ⟨hx, fun hxr => hpin ?_⟩, rfl⟩⟩
      have hsame : x = r := eq_of_ref_eq h.refs hx hmem.1 hxr
      exact ⟨r, hmem.1, by rw [← hsame]; exact href, hmem.2⟩

/-! ## Every step keeps it -/

theorem Inv.rxResult (h : Inv s) (requestHandle : UInt32) (result : Result)
    (hcare : result.rc = .result → result.age = 0 → ¬ Pinned s requestHandle) :
    Inv (rxResult s requestHandle result).1 := by
  unfold Reentry.rxResult
  cases hr : getRequest s.client requestHandle with
  | none => exact h
  | some req =>
      obtain ⟨hmem, rfl⟩ := mem_of_getRequest hr
      have hwrite : Inv (s.write { req with result := result }) := h.write hmem rfl rfl
      have hself : { req with result := result } ∈
          (s.write { req with result := result }).client.requests := mem_set_self hmem _ rfl
      by_cases hrc : result.rc = .result
      · simp only [hrc, ne_eq, not_true_eq_false, if_false]
        split
        · exact h
        · split
          · rename_i h0
            exact hwrite.requestSendResult hself rfl rfl
              fun _ hpin => hcare hrc h0
                ((pinned_write h.refs hmem { req with result := result } rfl rfl).1 hpin)
          · split
            · exact hwrite
            · exact hwrite.requestSendResult hself rfl rfl (by simp)
      · simp only [ne_eq, hrc, not_false_eq_true, if_true]
        exact h

/-- In the main loop no function waits. -/
theorem not_pinned_of_nil (hnil : s.stack = []) (requestHandle : UInt32) :
    ¬ Pinned s requestHandle := by
  rintro ⟨r, -, hpin, -⟩
  rw [hnil] at hpin
  cases hpin

theorem Inv.timeoutCb (h : Inv s) (hnil : s.stack = []) (hr : r ∈ s.client.requests) :
    Inv (timeoutCb s r).1 := by
  have hlast : ∀ r1 r2 : Request, r1.ref = r.ref → r1.requestHandle = r.requestHandle →
      r2.ref = r.ref → r2.requestHandle = r.requestHandle →
      Inv (Reentry.requestSendResult (s.write r1) r2 true).1 := by
    intro r1 r2 href1 hhandle1 href2 hhandle2
    refine (h.write hr href1 hhandle1).requestSendResult (mem_set_self hr r1 href1)
      (href2.trans href1.symm) (hhandle2.trans hhandle1.symm) fun _ => ?_
    exact not_pinned_of_nil (s := s.write r1) hnil _
  unfold Reentry.timeoutCb
  split
  · dsimp only
    split
    · split
      · exact hlast _ _ rfl rfl rfl rfl
      · exact hlast _ _ rfl rfl rfl rfl
    · have hself : { r with waitingMinDelay := false } ∈
          (s.write { r with waitingMinDelay := false }).client.requests := mem_set_self hr _ rfl
      have hpush : Inv ((s.write { r with waitingMinDelay := false }).push (.listen r.ref)) := by
        refine Inv.push (h.write hr rfl rfl) (fun ref heq => ?_) fun _ heq => nomatch heq
        cases heq
        exact ⟨r.requestHandle, mem_keys.2 ⟨_, hself, rfl⟩⟩
      split
      · exact hpush.requestSendResult hself rfl rfl (by simp)
      · exact hpush
  · exact hlast _ _ rfl rfl rfl rfl

theorem Inv.timerExpires (h : Inv s) (hnil : s.stack = []) (ref : Nat) :
    Inv (timerExpires s ref).1 := by
  unfold Reentry.timerExpires
  cases hr : s.client.lookup ref with
  | none => exact h
  | some r =>
      obtain ⟨hmem, -⟩ := (lookup_eq_some_iff h.refs).1 hr
      dsimp only
      split
      · have hwrite : Inv (s.write { r with timeout := none }) := h.write hmem rfl rfl
        exact hwrite.timeoutCb hnil (mem_set_self hmem _ rfl)
      · exact h

theorem Inv.request (lib : Libosmocore) (h : Inv s) (query : Query) (handling : QueryHandling)
    (hcare : queryValid lib query = true → ¬ Pinned s s.client.newHandle) :
    Inv (request lib s query handling).1 := by
  unfold Reentry.request
  cases hq : queryValid lib query with
  | false => exact h
  | true =>
      simp only [Bool.not_true, Bool.false_eq_true, if_false]
      have htake : Inv s.takeHandle := h.congr rfl rfl rfl rfl
      have hpush : Inv (s.takeHandle.push (.launch s.client.newHandle query handling)) :=
        htake.push (by simp [Frame.pin]) (by simp)
      cases hholder : (s.takeHandle.push
          (.launch s.client.newHandle query handling)).client.holder s.client.newHandle with
      | none => exact hpush
      | some other =>
          have hhandle : other.requestHandle = s.client.newHandle := by
            simpa using List.find?_some hholder
          refine hpush.requestSendResult (List.mem_of_find?_eq_some hholder) rfl rfl fun _ hpin => ?_
          rw [hhandle] at hpin
          exact hcare hq hpin

theorem Inv.call (lib : Libosmocore) (h : Inv s) (op : Op) (hcare : Careful lib s (.call op)) :
    Inv (call lib s op).1 := by
  cases op with
  | request query handling => exact h.request lib query handling hcare
  | rxResult requestHandle result => exact h.rxResult requestHandle result hcare
  | requestCancel requestHandle => exact h.requestCancel hcare
  | timeout ref =>
      unfold Reentry.call
      dsimp only
      split
      · rename_i hnil
        exact h.timerExpires hnil ref
      · exact h

/-- A new record is not used by any frame yet. -/
theorem Inv.append (h : Inv s) (requestHandle : UInt32) (query : Query)
    (handling : QueryHandling) : Inv (s.append requestHandle query handling) where
  live := h.live
  refs := by
    show ((s.client.requests ++ [_]).map Request.ref).Nodup
    rw [List.map_append, List.map_singleton, ref_newRequest]
    refine List.Nodup.append h.refs (List.nodup_singleton _) ?_
    intro ref href hnew
    obtain ⟨r, hr, rfl⟩ := List.mem_map.1 href
    have hlt := h.ref_lt _ (mem_keys.2 ⟨r, hr, rfl⟩)
    exact lt_irrefl _ (List.mem_singleton.1 hnew ▸ hlt)
  ref_lt := by
    intro k hk
    obtain ⟨r, hr, rfl⟩ := mem_keys.1 hk
    rcases List.mem_append.1 hr with hr | hr
    · exact Nat.lt_succ_of_lt (h.ref_lt _ (mem_keys.2 ⟨r, hr, rfl⟩))
    · rw [List.mem_singleton.1 hr, ref_newRequest]
      exact Nat.lt_succ_self _
  pinned := by
    intro ref href
    obtain ⟨handle, hkey⟩ := h.pinned ref href
    obtain ⟨r, hr, heq⟩ := mem_keys.1 hkey
    exact ⟨handle, mem_keys.2 ⟨r, List.mem_append_left _ hr, heq⟩⟩
  apart := by
    refine h.apart.mono ?_
    intro ref href handle hk
    obtain ⟨r, hr, heq⟩ := mem_keys.1 hk
    rcases List.mem_append.1 hr with hr | hr
    · exact mem_keys.2 ⟨r, hr, heq⟩
    · -- the new record has a number that no frame knows
      obtain ⟨handle', hkey⟩ := h.pinned ref href
      have hlt := h.ref_lt _ hkey
      rw [List.mem_singleton.1 hr, ref_newRequest] at heq
      exact absurd (Prod.ext_iff.1 heq).1.symm hlt.ne

/-- **A function that goes on finds the record that it uses.** -/
theorem Inv.resume {rest : List Frame} (h : Inv s) (hstack : s.stack = frame :: rest) :
    Inv (resume { s with stack := rest } frame).1 := by
  have hpop := h.pop hstack
  have hfind : ∀ ref, frame.pin = some ref → ∃ r, s.client.lookup ref = some r := by
    intro ref hpin
    obtain ⟨handle, hkey⟩ := h.pinned ref (by rw [hstack, pins_cons, hpin]; simp)
    obtain ⟨r, hr, heq⟩ := mem_keys.1 hkey
    exact ⟨r, (lookup_eq_some_iff h.refs).2 ⟨hr, (Prod.ext_iff.1 heq).1⟩⟩
  cases frame with
  | user => exact hpop
  | cancel requestHandle =>
      have hapart := h.apart
      rw [hstack] at hapart
      refine hpop.requestCancel fun hpin => ?_
      obtain ⟨ref, href, hkey⟩ := pinned_iff.1 hpin
      exact hapart.1 requestHandle rfl ref href hkey
  | listen ref =>
      obtain ⟨r, hr⟩ := hfind ref rfl
      obtain ⟨hmem, -⟩ := (lookup_eq_some_iff h.refs).1 hr
      simp only [Reentry.resume, hr]
      exact hpop.write (r := r) hmem rfl rfl
  | launch requestHandle query handling =>
      refine (hpop.append requestHandle query handling).push (fun ref heq => ?_) (by simp)
      cases heq
      refine ⟨requestHandle, mem_keys.2 ⟨_, List.mem_append_right _ (List.mem_singleton_self _), ?_⟩⟩
      rw [ref_newRequest, requestHandle_newRequest]
  | methods ref i query =>
      obtain ⟨r, hr⟩ := hfind ref rfl
      obtain ⟨hmem, rfl⟩ := (lookup_eq_some_iff h.refs).1 hr
      simp only [Reentry.resume, hr]
      split
      · refine Inv.push_user (hpop.push (fun ref heq => ?_) (by simp))
        cases heq
        exact ⟨r.requestHandle, mem_keys.2 ⟨r, hmem, rfl⟩⟩
      · exact hpop

/-- **Every careful step keeps the invariant.** -/
theorem inv_step (lib : Libosmocore) (s : System) (a : Action) (h : Inv s)
    (hcare : Careful lib s a) : Inv (step lib s a).1 := by
  have hlive : ¬ s.dangling = true := by
    rw [h.live]
    exact Bool.false_ne_true
  unfold step
  rw [if_neg hlive]
  cases a with
  | call op =>
      cases hstack : s.stack with
      | nil => exact h.call lib op hcare
      | cons frame rest =>
          cases frame with
          | user => exact h.call lib op hcare
          | _ => exact h
  | go =>
      cases hstack : s.stack with
      | nil => exact h
      | cons frame rest => exact h.resume hstack

theorem inv_start (lookupMethods : List Bool) : Inv (System.start lookupMethods) :=
  ⟨rfl, List.nodup_nil, by simp [System.start, Client.new, keys],
    by simp [System.start, pins], trivial⟩

end Inv

/-- **No freed record is used** in any run in which every step is careful: no one ends a request
that a function of the client, waiting for the code that it called, goes on to use. -/
theorem not_dangling_of_careful (lib : Libosmocore) (lookupMethods : List Bool)
    (actions : List Action)
    (hcare : (machine lib).Guarded (Careful lib) (System.start lookupMethods) actions) :
    ((machine lib).run (System.start lookupMethods) actions).1.dangling = false :=
  ((machine lib).run_invariant_of_guarded (inv_step lib) (inv_start lookupMethods) hcare).live

/-- A callback for the best result so far that cancels its own request. -/
def cancelInCallback : List Action :=
  [.call (.request gsupHlrQuery ⟨100, 300⟩), .go, .go, .call (.rxResult 1 (resultOfAge 5)),
    .call (.timeout 0), .call (.requestCancel 1), .go, .go]

/-- A method that has an answer of age 0 at once. -/
def answerAtOnce : List Action :=
  [.call (.request gsupHlrQuery ⟨0, 300⟩), .go, .go, .call (.rxResult 1 (resultOfAge 0)), .go, .go,
    .go, .go]

/-- The timer of the cancelled request is scheduled, and the handle of the answered one read. -/
theorem dangling_cancel_in_callback :
    ((machine Host.libosmocore).run (System.start []) cancelInCallback).1.dangling = true ∧
    ((machine Host.libosmocore).run (System.start [true]) answerAtOnce).1.dangling = true := by
  decide +kernel

/-- A callback that launches a second request and cancels it. -/
def launchInCallback : List Action :=
  [.call (.request gsupHlrQuery ⟨100, 300⟩), .go, .go, .call (.rxResult 1 (resultOfAge 5)),
    .call (.timeout 0), .call (.request gsupHlrQuery ⟨0, 300⟩), .go, .go,
    .call (.requestCancel 2), .go, .go]

theorem not_dangling_launch_in_callback :
    ((machine Host.libosmocore).run (System.start []) launchInCallback).1.dangling = false :=
  not_dangling_of_careful Host.libosmocore [] launchInCallback (by decide +kernel)

/-! ## Code that does not call back -/

/-- The functions that wait go on until none is left. -/
def Settles (s t : System) (out : List Event) : Prop :=
  ∃ n, (machine lib).run s (List.replicate n .go) = (t, out)

section Quiet

variable {lib} {client : Client}

theorem Settles.refl (s : System) : Settles lib s s [] := ⟨0, rfl⟩

theorem Settles.go {s t u : System} {out out' : List Event} (h : step lib s .go = (t, out))
    (hrest : Settles lib t u out') : Settles lib s u (out ++ out') := by
  obtain ⟨n, hn⟩ := hrest
  refine ⟨n + 1, ?_⟩
  rw [List.replicate_succ, Machine.run_cons]
  show ((((machine lib).run (step lib s .go).1 _).1, (step lib s .go).2 ++
    ((machine lib).run (step lib s .go).1 _).2)) = _
  rw [h, hn]

theorem Settles.trans {s t u : System} {out out' : List Event} (h : Settles lib s t out)
    (h' : Settles lib t u out') : Settles lib s u (out ++ out') := by
  obtain ⟨n, hn⟩ := h
  obtain ⟨m, hm⟩ := h'
  refine ⟨n + m, ?_⟩
  rw [List.replicate_add, Machine.run_append, hn, hm]

/-- The user's code returns. -/
theorem settles_user (client : Client) (stack : List Frame) :
    Settles lib ⟨client, .user :: stack, false⟩ ⟨client, stack, false⟩ [] :=
  ⟨1, rfl⟩

/-- A last result that is told to code that does not call back. -/
theorem settles_requestSendResult (client : Client) (stack : List Frame) (r : Request) :
    ∃ out, Settles lib (requestSendResult ⟨client, stack, false⟩ r true).1
        ⟨(MslookupClient.requestSendResult client r true).1, stack, false⟩ out ∧
      (requestSendResult ⟨client, stack, false⟩ r true).2 ++ out =
        (MslookupClient.requestSendResult client r true).2 := by
  refine ⟨_, (settles_user _ _).trans (Settles.go rfl (Settles.refl _)), ?_⟩
  simp only [List.nil_append, List.append_nil]
  rfl

theorem quiet_rxResult (client : Client) (requestHandle : UInt32) (result : Result) :
    ∃ out, Settles lib (rxResult ⟨client, [], false⟩ requestHandle result).1
        ⟨(MslookupClient.rxResult client requestHandle result).1, [], false⟩ out ∧
      (rxResult ⟨client, [], false⟩ requestHandle result).2 ++ out =
        (MslookupClient.rxResult client requestHandle result).2 := by
  unfold rxResult MslookupClient.rxResult
  cases hr : getRequest client requestHandle with
  | none => exact ⟨[], Settles.refl _, rfl⟩
  | some req =>
      dsimp only
      split
      · exact ⟨[], Settles.refl _, rfl⟩
      · split
        · exact ⟨[], Settles.refl _, rfl⟩
        · split
          · exact settles_requestSendResult _ _ _
          · split
            · exact ⟨[], Settles.refl _, rfl⟩
            · exact ⟨[], settles_user _ _, rfl⟩

/-- Going on to listen, with the record that the callback left as it was. -/
theorem settles_listen (h : (client.requests.map Request.ref).Nodup) {r : Request}
    (hr : r ∈ client.requests) :
    Settles lib ⟨client, [.listen r.ref], false⟩ ⟨client.set (setTimer r
      (r.handling.resultTimeoutMilliseconds.toNat - r.handling.minWaitMilliseconds.toNat)),
        [], false⟩ [] := by
  have hlookup := (lookup_eq_some_iff h).2 ⟨hr, rfl⟩
  have hgo : step lib ⟨client, [.listen r.ref], false⟩ .go = (⟨client.set (setTimer r
      (r.handling.resultTimeoutMilliseconds.toNat - r.handling.minWaitMilliseconds.toNat)),
        [], false⟩, []) := by
    show resume ⟨client, [], false⟩ (.listen r.ref) = _
    simp only [resume, hlookup]
    rfl
  exact Settles.go hgo (Settles.refl _)

theorem settles_listenOn (h : Distinct client) {r : Request} (hr : r ∈ client.requests) :
    ∃ out, Settles lib (if r.result.rc = .result then
          requestSendResult ⟨client, [.listen r.ref], false⟩ r false
        else (⟨client, [.listen r.ref], false⟩, [])).1 ⟨(listenOn client r).1, [], false⟩ out ∧
      (if r.result.rc = .result then requestSendResult ⟨client, [.listen r.ref], false⟩ r false
        else (⟨client, [.listen r.ref], false⟩, [])).2 ++ out = (listenOn client r).2 := by
  rw [listenOn_eq h hr]
  by_cases hrc : r.result.rc = .result
  · simp only [if_pos hrc]
    have hset : Distinct (client.set (r.setLast false)) := h.set hr rfl rfl
    have hlisten : r.listen = setTimer (r.setLast false)
        (r.handling.resultTimeoutMilliseconds.toNat - r.handling.minWaitMilliseconds.toNat) := by
      rw [Request.listen, if_pos hrc]
      rfl
    have hafter : Settles lib ⟨client.set (r.setLast false), [.listen r.ref], false⟩
        ⟨client.set r.listen, [], false⟩ [] := by
      have hgo : Settles lib _ _ _ :=
        settles_listen hset.refs (mem_set_self hr (r.setLast false) rfl)
      rw [set_set (by rfl)] at hgo
      rw [hlisten]
      exact hgo
    exact ⟨[] ++ [], (settles_user (client.set (r.setLast false)) [.listen r.ref]).trans hafter, rfl⟩
  · simp only [if_neg hrc]
    have hlisten : r.listen = setTimer r
        (r.handling.resultTimeoutMilliseconds.toNat - r.handling.minWaitMilliseconds.toNat) := by
      rw [Request.listen, if_neg hrc]
      rfl
    rw [hlisten]
    exact ⟨[], settles_listen h.refs hr, rfl⟩

theorem quiet_timerExpires (h : WellFormed client) (ref : Nat) :
    ∃ out, Settles lib (timerExpires ⟨client, [], false⟩ ref).1
        ⟨(MslookupClient.timerExpires client ref).1, [], false⟩ out ∧
      (timerExpires ⟨client, [], false⟩ ref).2 ++ out =
        (MslookupClient.timerExpires client ref).2 := by
  unfold timerExpires MslookupClient.timerExpires
  cases hr : client.lookup ref with
  | none => exact ⟨[], Settles.refl _, rfl⟩
  | some r =>
      obtain ⟨hmem, -⟩ := (lookup_eq_some_iff h.refs).1 hr
      dsimp only
      split
      · unfold timeoutCb MslookupClient.timeoutCb
        split
        · dsimp only
          split
          · split
            · exact settles_requestSendResult _ _ _
            · exact settles_requestSendResult _ _ _
          · have hset : Distinct (client.set { r with timeout := none }) :=
              h.toDistinct.set hmem rfl rfl
            have hself := mem_set_self hmem { r with timeout := none } rfl
            have hset' : Distinct ((client.set { r with timeout := none }).set
                { r with timeout := none, waitingMinDelay := false }) := hset.set hself rfl rfl
            exact settles_listenOn hset' (mem_set_self hself _ rfl)
        · exact settles_requestSendResult _ _ _
      · exact ⟨[], Settles.refl _, rfl⟩

/-- The loop over the methods. -/
theorem settles_methods {r : Request} (hr : client.lookup r.ref = some r) (query : Query) (k : Nat) :
    ∀ i, i + k = client.lookupMethods.length →
      Settles lib ⟨client, [.methods r.ref i query], false⟩ ⟨client, [], false⟩
        ((List.range' i k).map (fun j => .methodRequest j query r.requestHandle) ++
          [.returned r.ref r.requestHandle]) := by
  induction k with
  | zero =>
      intro i hi
      have hgo : step lib ⟨client, [.methods r.ref i query], false⟩ .go =
          (⟨client, [], false⟩, [.returned r.ref r.requestHandle]) := by
        show resume ⟨client, [], false⟩ (.methods r.ref i query) = _
        simp only [resume, hr, if_neg (show ¬ i < client.lookupMethods.length by omega)]
      show Settles lib _ _ ([.returned r.ref r.requestHandle] ++ [])
      exact Settles.go hgo (Settles.refl _)
  | succ k ih =>
      intro i hi
      have hgo : step lib ⟨client, [.methods r.ref i query], false⟩ .go =
          (⟨client, [.user, .methods r.ref (i + 1) query], false⟩,
            [.methodRequest i query r.requestHandle]) := by
        show resume ⟨client, [], false⟩ (.methods r.ref i query) = _
        simp only [resume, hr, if_pos (show i < client.lookupMethods.length by omega)]
        rfl
      rw [List.range'_succ, List.map_cons]
      show Settles lib _ _ ([.methodRequest i query r.requestHandle] ++ ([] ++ (_ ++ _)))
      exact Settles.go hgo ((settles_user _ _).trans (ih (i + 1) (by omega)))

theorem requestCalls_eq (lookupMethods : List Bool) (query : Query) (requestHandle : UInt32) :
    requestCalls lookupMethods query requestHandle =
      (List.range' 0 lookupMethods.length).map fun j => .methodRequest j query requestHandle := by
  rw [requestCalls, List.mapIdx_eq_iff]
  intro i
  by_cases hi : i < lookupMethods.length
  · simp [hi]
  · simp [hi]

theorem holder_takeHandle (s : System) (frame : Frame) (requestHandle : UInt32) :
    (s.takeHandle.push frame).client.holder requestHandle = s.client.holder requestHandle := rfl

/-- The new record enters the list, and the methods are told. -/
theorem settles_launch (h : WellFormed client) (query : Query) (handling : QueryHandling) :
    Settles lib ⟨{ client with
        requests := client.requests.filter (fun r => r.requestHandle ≠ client.newHandle)
        nextRequestHandle := client.newHandle + 1 }, [.launch client.newHandle query handling], false⟩
      ⟨client.withRequest query handling, [], false⟩
      (requestCalls client.lookupMethods query client.newHandle ++
        [.returned client.allocated client.newHandle]) := by
  have hlookup : (client.withRequest query handling).lookup
      (newRequest client.allocated client.newHandle query handling).ref =
      some (newRequest client.allocated client.newHandle query handling) :=
    (lookup_eq_some_iff (h.withRequest query handling).refs).2
      ⟨List.mem_append_right _ (List.mem_singleton_self _), rfl⟩
  have hloop : Settles lib _ _ _ :=
    settles_methods hlookup query client.lookupMethods.length 0 (Nat.zero_add _)
  rw [requestHandle_newRequest, ref_newRequest, ← requestCalls_eq] at hloop
  show Settles lib _ _ ([] ++ _)
  exact Settles.go rfl hloop

theorem quiet_request (h : WellFormed client) (query : Query) (handling : QueryHandling) :
    ∃ out, Settles lib (request lib ⟨client, [], false⟩ query handling).1
        ⟨(MslookupClient.step lib client (.request query handling)).1, [], false⟩ out ∧
      (request lib ⟨client, [], false⟩ query handling).2 ++ out =
        (MslookupClient.step lib client (.request query handling)).2 := by
  have hdist := h.toDistinct
  cases hq : queryValid lib query with
  | false =>
      simp only [MslookupClient.step, request_of_invalid lib hq, request, hq]
      exact ⟨[], Settles.refl _, rfl⟩
  | true =>
      simp only [MslookupClient.step, request_eq lib hdist hq, if_neg (newHandle_ne_zero client)]
      simp only [request, hq, Bool.not_true, Bool.false_eq_true, if_false, holder_takeHandle]
      have hlaunch : Settles lib _ _ _ := settles_launch h query handling
      unfold expireCalls
      cases hholder : client.holder client.newHandle with
      | none =>
          rw [filter_of_holder_eq_none hholder] at hlaunch
          exact ⟨_, hlaunch, by simp⟩
      | some other =>
          obtain ⟨hmem, hhandle⟩ := (holder_eq_some_iff hdist).1 hholder
          set counted : Client := { client with nextRequestHandle := client.newHandle + 1 }
            with hcounted
          have hcdist : Distinct counted := ⟨h.refs, h.ref_lt, h.handles, h.handle_ne⟩
          obtain ⟨out, hsettles, hevents⟩ : ∃ out, Settles lib _ _ out ∧ _ :=
            settles_requestSendResult counted [.launch client.newHandle query handling] other
          rw [requestSendResult_true hcdist (r := other) hmem rfl rfl rfl] at hsettles hevents
          have hfilter := filter_handle_eq hdist hmem
          rw [hhandle] at hfilter
          rw [hfilter] at hlaunch
          refine ⟨_, hsettles.trans hlaunch, ?_⟩
          rw [← List.append_assoc, ← List.append_assoc]
          exact congrArg (fun l => l ++ _ ++ _) hevents

/-- **Without calls from inside, a function does in one step what it does in all its parts.** -/
theorem run_quiet (h : WellFormed client) (op : Op) :
    ∃ n, (machine lib).run ⟨client, [], false⟩ (.call op :: List.replicate n .go) =
      (⟨(MslookupClient.step lib client op).1, [], false⟩, (MslookupClient.step lib client op).2) := by
  have hcall : ∃ out, Settles lib (call lib ⟨client, [], false⟩ op).1
      ⟨(MslookupClient.step lib client op).1, [], false⟩ out ∧
      (call lib ⟨client, [], false⟩ op).2 ++ out = (MslookupClient.step lib client op).2 := by
    cases op with
    | request query handling => exact quiet_request h query handling
    | rxResult requestHandle result => exact quiet_rxResult client requestHandle result
    | timeout ref => exact quiet_timerExpires h ref
    | requestCancel requestHandle => exact ⟨[], Settles.refl _, List.append_nil _⟩
  obtain ⟨out, ⟨n, hn⟩, hevents⟩ := hcall
  refine ⟨n, ?_⟩
  rw [Machine.run_cons]
  show (((machine lib).run (call lib ⟨client, [], false⟩ op).1 _).1,
    (call lib ⟨client, [], false⟩ op).2 ++ ((machine lib).run (call lib ⟨client, [], false⟩ op).1
      _).2) = _
  rw [hn, hevents]

end Quiet

end Reentry
end MslookupClient
end OsmoHlr
