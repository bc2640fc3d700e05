import OsmoHlr.Lib.Pairing
import OsmoHlr.LibosmocoreHost
import OsmoHlr.Mslookup.Client

/-!
# The methods of the mslookup client, and its end

`src/mslookup/mslookup_client.c` with methods that come and go, and with
`osmo_mslookup_client_free`.  The functions that work on requests are those of
`OsmoHlr.Mslookup.Client`, for the methods that are there when they are called.

A request that is freed with the client does not have its timer deleted: the
timer stays scheduled, and `timeout_cb` is then called with the freed record.

* `step`, `machine` — requests, methods and the end of the client.
* `requests_come_to_an_end` — when freeing the client leaves nothing behind, and
  that every `request()` of a method is followed by one `request_cleanup()` or by
  `destruct()`.
-/

namespace OsmoHlr
namespace MslookupClient
namespace Methods

open Mslookup (Query Result)
open Pairing (Kind Phase Settled)

variable (lib : Libosmocore)

/-- `struct osmo_mslookup_client_method`, by the functions that may be null pointers. -/
structure Method where
  /-- Which allocation it is. -/
  ref : Nat
  /-- Whether there is a `request_cleanup`. -/
  requestCleanup : Bool
  /-- Whether there is a `destruct`. -/
  destruct : Bool
  deriving DecidableEq

/-- `struct osmo_mslookup_client`, and what is left of it when it is freed. -/
structure System where
  lookupMethods : List Method
  requests : List Request
  nextRequestHandle : UInt32
  /-- How many request records have been allocated. -/
  allocated : Nat
  /-- How many methods have been allocated. -/
  methodsAllocated : Nat
  freed : Bool
  /-- The request records that were freed with their timers scheduled. -/
  staleTimers : List Nat
  deriving DecidableEq

/-- `osmo_mslookup_client_new` -/
def System.new : System := ⟨[], [], 0, 0, 0, false, []⟩

/-- The client as the functions that work on requests see it. -/
def System.client (s : System) : Client :=
  ⟨s.lookupMethods.map Method.requestCleanup, s.requests, s.nextRequestHandle, s.allocated⟩

/-- The requests as these functions leave them. -/
def System.update (s : System) (client : Client) : System :=
  { s with
    requests := client.requests
    nextRequestHandle := client.nextRequestHandle
    allocated := client.allocated }

/-- The calls that the client makes. -/
inductive Call where
  /-- `handling.result_cb()` of a request. -/
  | resultCb (ref : Nat) (requestHandle : UInt32) (query : Query) (result : Result)
  /-- `request()` of a method. -/
  | request (m : Method) (query : Query) (requestHandle : UInt32)
  /-- `request_cleanup()` of a method. -/
  | requestCleanup (m : Method) (requestHandle : UInt32)
  /-- `destruct()` of a method. -/
  | destruct (m : Method)
  /-- `timeout_cb()` of a request that has been freed, which calls the `result_cb` it finds there. -/
  | staleTimeout (ref : Nat)
  deriving DecidableEq

/-- A call of a method by its place in the list. -/
def label (lookupMethods : List Method) : Event → List Call
  | .resultCb ref requestHandle query result => [.resultCb ref requestHandle query result]
  | .methodRequest i query requestHandle =>
      (lookupMethods[i]?.map fun m => .request m query requestHandle).toList
  | .methodCleanup i requestHandle =>
      (lookupMethods[i]?.map fun m => .requestCleanup m requestHandle).toList
  | .returned _ _ => []

/-- `osmo_mslookup_client_method_add` of a new method. -/
def clientMethodAdd (s : System) (requestCleanup destruct : Bool) : System :=
  { s with
    lookupMethods := s.lookupMethods ++ [⟨s.methodsAllocated, requestCleanup, destruct⟩]
    methodsAllocated := s.methodsAllocated + 1 }

/-- `method->destruct(method)`, if there is one. -/
def destructCalls (m : Method) : List Call := if m.destruct then [.destruct m] else []

/-- `osmo_mslookup_client_method_del` of the method with the given address. -/
def clientMethodDel (s : System) (ref : Nat) : System × List Call :=
  match Keyed.find Method.ref s.lookupMethods ref with
  | none => (s, [])
  | some m =>
      ({ s with lookupMethods := Keyed.remove Method.ref s.lookupMethods ref }, destructCalls m)

/-- `osmo_mslookup_client_free`: the requests are freed with the client. -/
def clientFree (s : System) : System × List Call :=
  ({ s with
    lookupMethods := []
    requests := []
    freed := true
    staleTimers := (s.requests.filter fun r => r.timeout.isSome).map Request.ref },
    s.lookupMethods.flatMap destructCalls)

/-- What happens to the client. -/
inductive Action where
  | op (op : Op)
  | methodAdd (requestCleanup destruct : Bool)
  | methodDel (ref : Nat)
  | free

/-- A call into the client, or a timer of one of its requests. -/
def stepOp (s : System) (op : Op) : System × List Call :=
  let out := MslookupClient.step lib s.client op
  (s.update out.1, out.2.flatMap (label s.lookupMethods))

/-- The timer of a freed request expires. -/
def staleExpires (s : System) (ref : Nat) : System × List Call :=
  if ref ∈ s.staleTimers then
    ({ s with staleTimers := s.staleTimers.erase ref }, [.staleTimeout ref])
  else (s, [])

/-- One step; after the client is freed only timers expire. -/
def step (s : System) (action : Action) : System × List Call :=
  if s.freed then
    match action with
    | .op (.timeout ref) => staleExpires s ref
    | _ => (s, [])
  else
    match action with
    | .op op => stepOp lib s op
    | .methodAdd requestCleanup destruct => (clientMethodAdd s requestCleanup destruct, [])
    | .methodDel ref => clientMethodDel s ref
    | .free => clientFree s

/-- The client as a machine. -/
def machine : Machine System Action Call := ⟨step lib⟩

/-! ## The calls about one method and one handle -/

/-- What a call means for a method and a handle. -/
def kindOf (m : Method) (requestHandle : UInt32) : Call → Option Kind
  | .request m' _ requestHandle' =>
      if m' = m ∧ requestHandle' = requestHandle then some .opens else none
  | .requestCleanup m' requestHandle' =>
      if m' = m ∧ requestHandle' = requestHandle then some .closes else none
  | .destruct m' => if m' = m then some .ends else none
  | _ => none

/-- The calls of `request()` and `request_cleanup()` of a method for a handle, and of its
`destruct()`. -/
def kinds (m : Method) (requestHandle : UInt32) (calls : List Call) : List Kind :=
  calls.filterMap (kindOf m requestHandle)

section Kinds

variable {m : Method} {requestHandle : UInt32} {s : System}

theorem kinds_append (calls calls' : List Call) :
    kinds m requestHandle (calls ++ calls') =
      kinds m requestHandle calls ++ kinds m requestHandle calls' := List.filterMap_append

/-- What is called of every method of a list. -/
theorem kinds_flatMap {l : List Method} (hl : l.Nodup) {f : Method → List Call}
    {ks : List Kind} (hm : kinds m requestHandle (f m) = ks)
    (hother : ∀ m', m' ≠ m → kinds m requestHandle (f m') = []) :
    kinds m requestHandle (l.flatMap f) = if m ∈ l then ks else [] := by
  induction l with
  | nil => rfl
  | cons x l ih =>
      obtain ⟨hx, hl⟩ := List.nodup_cons.1 hl
      rw [List.flatMap_cons, kinds_append, ih hl]
      by_cases hxm : x = m
      · subst hxm
        rw [hm, if_neg hx, if_pos List.mem_cons_self, List.append_nil]
      · have hmem : m ∈ x :: l ↔ m ∈ l := by simp [Ne.symm hxm]
        rw [hother x hxm, List.nil_append]
        exact if_congr hmem.symm rfl rfl

/-- What is made of every method and its place. -/
theorem flatMap_mapIdx {α : Type} {l : List Method} {f : Nat → Bool → α} {k : α → List Call}
    {g : Method → List Call} (h : ∀ i m, l[i]? = some m → k (f i m.requestCleanup) = g m) :
    ((l.map Method.requestCleanup).mapIdx f).flatMap k = l.flatMap g := by
  have hzip : ∀ p ∈ l.zipIdx, k (f p.2 p.1.requestCleanup) = g p.1 := by
    intro p hp
    exact h p.2 p.1 (List.mem_zipIdx_iff_getElem?.1 hp)
  rw [List.mapIdx_eq_zipIdx_map, List.zipIdx_map, List.map_map, List.flatMap_map]
  calc l.zipIdx.flatMap (fun p => k (f p.2 p.1.requestCleanup))
      = l.zipIdx.flatMap fun p => g p.1 := List.flatMap_congr hzip
    _ = (l.zipIdx.map Prod.fst).flatMap g := (List.flatMap_map ..).symm
    _ = l.flatMap g := by rw [List.zipIdx_map_fst]

/-- `request_cleanup()` of a method, if there is one. -/
def methodCleanup (requestHandle : UInt32) (m : Method) : List Call :=
  if m.requestCleanup then [.requestCleanup m requestHandle] else []

theorem label_cleanupCalls (l : List Method) (requestHandle : UInt32) :
    (cleanupCalls (l.map Method.requestCleanup) requestHandle).flatMap (label l) =
      l.flatMap (methodCleanup requestHandle) := by
  rw [cleanupCalls, List.flatten_eq_flatMap, List.flatMap_assoc]
  refine flatMap_mapIdx fun i m hm => ?_
  rw [methodCleanup]
  split
  · simp [label, hm]
  · rfl

theorem label_requestCalls (l : List Method) (query : Query) (requestHandle : UInt32) :
    (requestCalls (l.map Method.requestCleanup) query requestHandle).flatMap (label l) =
      l.flatMap fun m => [.request m query requestHandle] := by
  refine flatMap_mapIdx fun i m hm => ?_
  simp [label, hm]

/-! ## What a step means for a method and a handle -/

/-- A method that is called to clean up and to end. -/
structure Method.Hooked (m : Method) : Prop where
  requestCleanup : m.requestCleanup = true
  destruct : m.destruct = true

theorem kinds_cleanup {l : List Method} (hl : l.Nodup) (hm : m.Hooked) (requestHandle' : UInt32) :
    kinds m requestHandle (l.flatMap (methodCleanup requestHandle')) =
      if m ∈ l ∧ requestHandle' = requestHandle then [.closes] else [] := by
  have hself : kinds m requestHandle (methodCleanup requestHandle' m) =
      if requestHandle' = requestHandle then [.closes] else [] := by
    rw [methodCleanup, if_pos hm.requestCleanup]
    by_cases h : requestHandle' = requestHandle <;> simp [kinds, kindOf, h]
  rw [kinds_flatMap hl hself]
  · by_cases hmem : m ∈ l <;> simp [hmem]
  · intro m' hne
    rw [methodCleanup]
    split
    · simp [kinds, kindOf, hne]
    · rfl

theorem kinds_request {l : List Method} (hl : l.Nodup) (query : Query) (requestHandle' : UInt32) :
    kinds m requestHandle (l.flatMap fun m => [.request m query requestHandle']) =
      if m ∈ l ∧ requestHandle' = requestHandle then [.opens] else [] := by
  have hself : kinds m requestHandle [.request m query requestHandle'] =
      if requestHandle' = requestHandle then [.opens] else [] := by
    by_cases h : requestHandle' = requestHandle <;> simp [kinds, kindOf, h]
  rw [kinds_flatMap hl hself]
  · by_cases hmem : m ∈ l <;> simp [hmem]
  · intro m' hne
    simp [kinds, kindOf, hne]

theorem kinds_destruct {l : List Method} (hl : l.Nodup) (hm : m.Hooked) :
    kinds m requestHandle (l.flatMap destructCalls) = if m ∈ l then [.ends] else [] := by
  have hself : kinds m requestHandle (destructCalls m) = [.ends] := by
    rw [destructCalls, if_pos hm.destruct]
    simp [kinds, kindOf]
  refine kinds_flatMap hl hself fun m' hne => ?_
  rw [destructCalls]
  split
  · simp [kinds, kindOf, hne]
  · rfl

/-- Callbacks are not calls of a method. -/
theorem kinds_told (l : List Method) (r : Request) (results : List Result) :
    kinds m requestHandle ((results.map r.told).flatMap (label l)) = [] := by
  induction results with
  | nil => rfl
  | cons result results ih =>
      rw [List.map_cons, List.flatMap_cons, kinds_append, ih]
      rfl

/-- The calls that end a request. -/
theorem kinds_lastCalls (hl : s.lookupMethods.Nodup) (hm : m.Hooked) (r : Request)
    (result : Result) :
    kinds m requestHandle ((lastCalls s.client r result).flatMap (label s.lookupMethods)) =
      if m ∈ s.lookupMethods ∧ r.requestHandle = requestHandle then [.closes] else [] := by
  have hcleanup := label_cleanupCalls s.lookupMethods r.requestHandle
  rw [lastCalls, List.flatMap_cons, kinds_append]
  show kinds m requestHandle [_] ++ kinds m requestHandle
    ((cleanupCalls (s.lookupMethods.map Method.requestCleanup) r.requestHandle).flatMap
      (label s.lookupMethods)) = _
  rw [hcleanup, kinds_cleanup hl hm]
  rfl

/-- A request with the handle is open. -/
def Held (requests : List Request) (requestHandle : UInt32) : Prop :=
  ∃ r ∈ requests, r.requestHandle = requestHandle

instance (requests : List Request) (requestHandle : UInt32) :
    Decidable (Held requests requestHandle) :=
  inferInstanceAs (Decidable (∃ r ∈ requests, r.requestHandle = requestHandle))

/-- What becomes of a handle, by what is called of the methods for it. -/
def Turns (before after : List Request) (requestHandle : UInt32) (ks : List Kind) : Prop :=
  (ks = [] ∧ (Held after requestHandle ↔ Held before requestHandle)) ∨
    (ks = [.closes] ∧ Held before requestHandle ∧ ¬Held after requestHandle) ∨
    (ks = [.opens] ∧ ¬Held before requestHandle ∧ Held after requestHandle) ∨
    (ks = [.closes, .opens] ∧ Held before requestHandle ∧ Held after requestHandle)

/-- A new request takes its handle, which an older one may have had. -/
theorem turns_launch (hwf : WellFormed s.client) (hl : s.lookupMethods.Nodup) (hm : m.Hooked)
    (query : Query) (handling : QueryHandling) :
    ∃ ks, kinds m requestHandle ((expireCalls s.client ++
          requestCalls s.client.lookupMethods query s.client.newHandle ++
            [Event.returned s.client.allocated s.client.newHandle]).flatMap (label s.lookupMethods)) =
        (if m ∈ s.lookupMethods then ks else []) ∧
      Turns s.requests (s.client.withRequest query handling).requests requestHandle ks := by
  have hrequest : kinds m requestHandle ((requestCalls s.client.lookupMethods query
      s.client.newHandle).flatMap (label s.lookupMethods)) =
        if m ∈ s.lookupMethods ∧ s.client.newHandle = requestHandle then [.opens] else [] :=
    (congrArg (kinds m requestHandle) (label_requestCalls ..)).trans (kinds_request hl query _)
  have hheld : Held (s.client.withRequest query handling).requests requestHandle ↔
      s.client.newHandle = requestHandle ∨ Held s.requests requestHandle := by
    simp only [Held, Client.withRequest, List.mem_append, List.mem_filter, List.mem_singleton]
    constructor
    · rintro ⟨r, ⟨hr, -⟩ | rfl, hhandle⟩
      · exact Or.inr ⟨r, hr, hhandle⟩
      · exact Or.inl ((requestHandle_newRequest ..).symm.trans hhandle)
    · rintro (hnew | ⟨r, hr, hhandle⟩)
      · exact ⟨_, Or.inr rfl, (requestHandle_newRequest ..).trans hnew⟩
      · by_cases hnew : s.client.newHandle = requestHandle
        · exact ⟨_, Or.inr rfl, (requestHandle_newRequest ..).trans hnew⟩
        · refine ⟨r, Or.inl ⟨hr, ?_⟩, hhandle⟩
          simpa [hhandle] using Ne.symm hnew
  rw [List.flatMap_append, List.flatMap_append, kinds_append, kinds_append, hrequest]
  have hreturned : kinds m requestHandle
      ([Event.returned s.client.allocated s.client.newHandle].flatMap (label s.lookupMethods)) =
        [] := rfl
  rw [hreturned, List.append_nil]
  unfold expireCalls
  cases hholder : s.client.holder s.client.newHandle with
  | none =>
      refine ⟨if s.client.newHandle = requestHandle then [.opens] else [], ?_, ?_⟩
      · by_cases hmem : m ∈ s.lookupMethods <;> simp [hmem, kinds]
      · by_cases hnew : s.client.newHandle = requestHandle
        · rw [if_pos hnew]
          refine Or.inr (Or.inr (Or.inl ⟨rfl, ?_, hheld.2 (Or.inl hnew)⟩))
          rintro ⟨r, hr, hhandle⟩
          exact Keyed.find_eq_none_iff.1 hholder r hr (hhandle.trans hnew.symm)
        · rw [if_neg hnew]
          exact Or.inl ⟨rfl, hheld.trans (or_iff_right hnew)⟩
  | some other =>
      obtain ⟨hother, hhandle⟩ := (holder_eq_some_iff hwf.toDistinct).1 hholder
      simp only [kinds_lastCalls hl hm]
      refine ⟨if s.client.newHandle = requestHandle then [.closes, .opens] else [], ?_, ?_⟩
      · rw [hhandle]
        by_cases hmem : m ∈ s.lookupMethods
        · by_cases hnew : s.client.newHandle = requestHandle <;> simp [hmem, hnew]
        · simp [hmem]
      · by_cases hnew : s.client.newHandle = requestHandle
        · rw [if_pos hnew]
          exact Or.inr (Or.inr (Or.inr
            ⟨rfl, ⟨other, hother, hhandle.trans hnew⟩, hheld.2 (Or.inl hnew)⟩))
        · rw [if_neg hnew]
          exact Or.inl ⟨rfl, hheld.trans (or_iff_right hnew)⟩

/-- A call about an open request keeps its handle, or ends it. -/
theorem turns_effect (hwf : WellFormed s.client) (hl : s.lookupMethods.Nodup) (hm : m.Hooked)
    {r : Request} (hr : r ∈ s.requests) {out : Client × List Event}
    (he : Effect s.client r out) :
    ∃ ks, kinds m requestHandle (out.2.flatMap (label s.lookupMethods)) =
        (if m ∈ s.lookupMethods then ks else []) ∧
      Turns s.requests out.1.requests requestHandle ks := by
  cases he with
  | keep => exact ⟨[], by simp [kinds], Or.inl ⟨rfl, Iff.rfl⟩⟩
  | write r' results href hhandle hquery harmed =>
      refine ⟨[], by rw [kinds_told, ite_self], Or.inl ⟨rfl, ?_⟩⟩
      have hhandles := map_set Request.requestHandle hwf.refs hr href hhandle
      have hiff : ∀ l : List Request, Held l requestHandle ↔
          requestHandle ∈ l.map Request.requestHandle := fun l => by simp [Held]
      rw [hiff, hiff, hhandles]
      exact Iff.rfl
  | remove results =>
      have hcalls : kinds m requestHandle ((results.map r.told ++
          cleanupCalls s.client.lookupMethods r.requestHandle).flatMap (label s.lookupMethods)) =
          if m ∈ s.lookupMethods ∧ r.requestHandle = requestHandle then [.closes] else [] := by
        rw [List.flatMap_append, kinds_append, kinds_told, List.nil_append]
        exact (congrArg (kinds m requestHandle) (label_cleanupCalls ..)).trans
          (kinds_cleanup hl hm _)
      refine ⟨if r.requestHandle = requestHandle then [.closes] else [], ?_, ?_⟩
      · rw [hcalls]
        by_cases hmem : m ∈ s.lookupMethods <;> simp [hmem]
      · by_cases hhandle : r.requestHandle = requestHandle
        · rw [if_pos hhandle]
          refine Or.inr (Or.inl ⟨rfl, ⟨r, hr, hhandle⟩, ?_⟩)
          rintro ⟨x, hx, hxhandle⟩
          obtain ⟨hx, hne⟩ := mem_remove.1 hx
          exact hne (congrArg Request.ref
            (eq_of_handle_eq hwf.toDistinct hx hr (hxhandle.trans hhandle.symm)))
        · rw [if_neg hhandle]
          refine Or.inl ⟨rfl, ?_⟩
          constructor
          · rintro ⟨x, hx, hxhandle⟩
            exact ⟨x, (mem_remove.1 hx).1, hxhandle⟩
          · rintro ⟨x, hx, hxhandle⟩
            refine ⟨x, mem_remove.2 ⟨hx, fun href => ?_⟩, hxhandle⟩
            rw [eq_of_ref_eq hwf.refs hx hr href] at hxhandle
            exact hhandle hxhandle

/-- **What a call into the client means**: the handle of a request that ends is closed, and that of
a new one is opened. -/
theorem turns_stepOp (hwf : WellFormed s.client) (hl : s.lookupMethods.Nodup) (hm : m.Hooked)
    (op : Op) :
    ∃ ks, kinds m requestHandle (stepOp lib s op).2 = (if m ∈ s.lookupMethods then ks else []) ∧
      Turns s.requests (stepOp lib s op).1.requests requestHandle ks := by
  unfold stepOp
  rcases step_cases lib hwf op with ⟨query, handling, -, -, hstep⟩ | hstep | ⟨r, hr, -, he⟩
  · rw [hstep]
    exact turns_launch hwf hl hm query handling
  · rw [hstep]
    exact ⟨[], by simp [kinds], Or.inl ⟨rfl, Iff.rfl⟩⟩
  · exact turns_effect hwf hl hm hr he

end Kinds

/-! ## What holds between two steps -/

/-- How far a method has got with a handle: as long as it is in the list, it has an open request
exactly if the client has one, unless that was launched before the method was added. -/
def Fits (s : System) (m : Method) (requestHandle : UInt32) (p : Option Phase) : Prop :=
  p = some .fresh ∨
    (p = some .opened ∧ m ∈ s.lookupMethods ∧ Held s.requests requestHandle) ∨
    (p = some .closed ∧ m ∈ s.lookupMethods ∧ ¬Held s.requests requestHandle) ∨
    (p = some .ended ∧ m ∉ s.lookupMethods ∧ m.ref < s.methodsAllocated)

/-- What holds of the client and of all that it has called. -/
structure Inv (s : System) (calls : List Call) : Prop where
  wf : WellFormed s.client
  refs : (s.lookupMethods.map Method.ref).Nodup
  ref_lt : ∀ m ∈ s.lookupMethods, m.ref < s.methodsAllocated
  fits : ∀ m requestHandle, m.Hooked →
    Fits s m requestHandle (Pairing.run (kinds m requestHandle calls))

namespace Inv

variable {lib} {s : System} {calls : List Call} {m : Method} {requestHandle : UInt32}

theorem new : Inv System.new [] where
  wf := wellFormed_new []
  refs := List.nodup_nil
  ref_lt := nofun
  fits := fun _ _ _ => Or.inl rfl

theorem nodup (h : Inv s calls) : s.lookupMethods.Nodup := List.Nodup.of_map _ h.refs

/-- The methods are not told of anything, and nothing else matters. -/
theorem congr {t : System} {calls' : List Call} (h : Inv s calls) (hwf : WellFormed t.client)
    (hmethods : t.lookupMethods = s.lookupMethods)
    (hallocated : t.methodsAllocated = s.methodsAllocated) (hrequests : t.requests = s.requests)
    (hcalls : ∀ m requestHandle, kinds m requestHandle calls' = []) : Inv t (calls ++ calls') where
  wf := hwf
  refs := hmethods ▸ h.refs
  ref_lt := by
    rw [hmethods, hallocated]
    exact h.ref_lt
  fits := by
    intro m requestHandle hm
    rw [kinds_append, hcalls, List.append_nil, Fits, hmethods, hallocated, hrequests]
    exact h.fits m requestHandle hm

theorem stepOp (h : Inv s calls) (op : Op) :
    Inv (Methods.stepOp lib s op).1 (calls ++ (Methods.stepOp lib s op).2) where
  wf := by
    have hwf := wellFormed_step lib s.client op h.wf
    exact ⟨⟨hwf.refs, hwf.ref_lt, hwf.handles, hwf.handle_ne⟩, hwf.armed⟩
  refs := h.refs
  ref_lt := h.ref_lt
  fits := by
    intro m requestHandle hm
    obtain ⟨ks, hks, hturns⟩ : ∃ ks, kinds m requestHandle (Methods.stepOp lib s op).2 =
        (if m ∈ s.lookupMethods then ks else []) ∧
      Turns s.requests (Methods.stepOp lib s op).1.requests requestHandle ks :=
      turns_stepOp lib h.wf h.nodup hm op
    have hmethods : (Methods.stepOp lib s op).1.lookupMethods = s.lookupMethods := rfl
    have hallocated : (Methods.stepOp lib s op).1.methodsAllocated = s.methodsAllocated := rfl
    have hfits := h.fits m requestHandle hm
    rw [kinds_append, hks, Fits, hmethods, hallocated]
    by_cases hmem : m ∈ s.lookupMethods
    · rw [if_pos hmem]
      rcases hfits with hp | ⟨hp, -, hheld⟩ | ⟨hp, -, hheld⟩ | ⟨-, hno, -⟩
      · rw [Pairing.run_append hp]
        rcases hturns with ⟨rfl, -⟩ | ⟨rfl, -, -⟩ | ⟨rfl, -, hafter⟩ | ⟨rfl, -, hafter⟩
        · exact Or.inl rfl
        · exact Or.inl rfl
        · exact Or.inr (Or.inl ⟨rfl, hmem, hafter⟩)
        · exact Or.inr (Or.inl ⟨rfl, hmem, hafter⟩)
      · rw [Pairing.run_append hp]
        rcases hturns with ⟨rfl, hiff⟩ | ⟨rfl, -, hafter⟩ | ⟨rfl, hno, -⟩ | ⟨rfl, -, hafter⟩
        · exact Or.inr (Or.inl ⟨rfl, hmem, hiff.2 hheld⟩)
        · exact Or.inr (Or.inr (Or.inl ⟨rfl, hmem, hafter⟩))
        · exact absurd hheld hno
        · exact Or.inr (Or.inl ⟨rfl, hmem, hafter⟩)
      · rw [Pairing.run_append hp]
        rcases hturns with ⟨rfl, hiff⟩ | ⟨rfl, hyes, -⟩ | ⟨rfl, -, hafter⟩ | ⟨rfl, hyes, -⟩
        · exact Or.inr (Or.inr (Or.inl ⟨rfl, hmem, fun hafter => hheld (hiff.1 hafter)⟩))
        · exact absurd hyes hheld
        · exact Or.inr (Or.inl ⟨rfl, hmem, hafter⟩)
        · exact absurd hyes hheld
      · exact absurd hmem hno
    · rw [if_neg hmem, List.append_nil]
      rcases hfits with hp | ⟨-, hyes, -⟩ | ⟨-, hyes, -⟩ | hp
      · exact Or.inl hp
      · exact absurd hyes hmem
      · exact absurd hyes hmem
      · exact Or.inr (Or.inr (Or.inr hp))

theorem methodAdd (h : Inv s calls) (requestCleanup destruct : Bool) :
    Inv (clientMethodAdd s requestCleanup destruct) (calls ++ []) where
  wf := ⟨⟨h.wf.refs, h.wf.ref_lt, h.wf.handles, h.wf.handle_ne⟩, h.wf.armed⟩
  refs := by
    simp only [clientMethodAdd, List.map_append, List.map_singleton]
    refine List.Nodup.append h.refs (List.nodup_singleton _) ?_
    intro ref hold hnew
    obtain ⟨m, hm, rfl⟩ := List.mem_map.1 hold
    have hlt := h.ref_lt m hm
    rw [List.mem_singleton.1 hnew] at hlt
    exact Nat.lt_irrefl _ hlt
  ref_lt := by
    intro m hm
    rcases List.mem_append.1 hm with hm | hm
    · exact Nat.lt_succ_of_lt (h.ref_lt m hm)
    · rw [List.mem_singleton.1 hm]
      exact Nat.lt_succ_self _
  fits := by
    intro m requestHandle hm
    rw [List.append_nil]
    rcases h.fits m requestHandle hm with hp | ⟨hp, hmem, hheld⟩ | ⟨hp, hmem, hheld⟩ |
      ⟨hp, hno, hlt⟩
    · exact Or.inl hp
    · exact Or.inr (Or.inl ⟨hp, List.mem_append_left _ hmem, hheld⟩)
    · exact Or.inr (Or.inr (Or.inl ⟨hp, List.mem_append_left _ hmem, hheld⟩))
    · refine Or.inr (Or.inr (Or.inr ⟨hp, fun hmem => ?_, Nat.lt_succ_of_lt hlt⟩))
      rcases List.mem_append.1 hmem with hmem | hmem
      · exact hno hmem
      · rw [List.mem_singleton.1 hmem] at hlt
        exact Nat.lt_irrefl _ hlt

/-- A method that is taken out of the list has come to its end. -/
theorem fits_ended (h : Inv s calls) (hm : m.Hooked) (hmem : m ∈ s.lookupMethods) :
    Pairing.run (kinds m requestHandle calls ++ [.ends]) = some .ended := by
  rcases h.fits m requestHandle hm with hp | ⟨hp, -⟩ | ⟨hp, -⟩ | ⟨-, hno, -⟩
  · rw [Pairing.run_append hp]
    rfl
  · rw [Pairing.run_append hp]
    rfl
  · rw [Pairing.run_append hp]
    rfl
  · exact absurd hmem hno

theorem methodDel (h : Inv s calls) (ref : Nat) :
    Inv (clientMethodDel s ref).1 (calls ++ (clientMethodDel s ref).2) := by
  unfold clientMethodDel
  split
  next => exact h.congr h.wf rfl rfl rfl fun _ _ => rfl
  next m' hfind =>
      obtain ⟨hmem', rfl⟩ := (Keyed.find_eq_some_iff h.refs).1 hfind
      have hcalls : destructCalls m' = [m'].flatMap destructCalls := (List.flatMap_singleton ..).symm
      refine ⟨?_, Keyed.nodup_remove h.refs, fun m hm => h.ref_lt m (Keyed.mem_remove.1 hm).1, ?_⟩
      · exact ⟨⟨h.wf.refs, h.wf.ref_lt, h.wf.handles, h.wf.handle_ne⟩, h.wf.armed⟩
      · intro m requestHandle hm
        rw [kinds_append, hcalls, kinds_destruct (List.nodup_singleton m') hm]
        by_cases heq : m = m'
        · subst heq
          rw [if_pos (List.mem_singleton_self m), h.fits_ended hm hmem']
          exact Or.inr (Or.inr (Or.inr
            ⟨rfl, fun hin => (Keyed.mem_remove.1 hin).2 rfl, h.ref_lt m hmem'⟩))
        · rw [if_neg (by simpa using heq), List.append_nil]
          have hkeep : m ∈ Keyed.remove Method.ref s.lookupMethods m'.ref ↔ m ∈ s.lookupMethods := by
            rw [Keyed.mem_remove]
            refine and_iff_left_of_imp fun hmem href => heq ?_
            exact List.inj_on_of_nodup_map h.refs hmem hmem' href
          rw [Fits, hkeep]
          exact h.fits m requestHandle hm

theorem free (h : Inv s calls) : Inv (clientFree s).1 (calls ++ (clientFree s).2) where
  wf := by
    refine ⟨⟨?_, ?_, ?_, ?_⟩, ?_⟩ <;> simp [clientFree, System.client]
  refs := List.nodup_nil
  ref_lt := nofun
  fits := by
    intro m requestHandle hm
    have hkinds : kinds m requestHandle (clientFree s).2 =
        if m ∈ s.lookupMethods then [.ends] else [] := kinds_destruct h.nodup hm
    rw [kinds_append, hkinds]
    by_cases hmem : m ∈ s.lookupMethods
    · rw [if_pos hmem, h.fits_ended hm hmem]
      exact Or.inr (Or.inr (Or.inr ⟨rfl, List.not_mem_nil, h.ref_lt m hmem⟩))
    · rw [if_neg hmem, List.append_nil]
      rcases h.fits m requestHandle hm with hp | ⟨-, hyes, -⟩ | ⟨-, hyes, -⟩ | ⟨hp, -, hlt⟩
      · exact Or.inl hp
      · exact absurd hyes hmem
      · exact absurd hyes hmem
      · exact Or.inr (Or.inr (Or.inr ⟨hp, List.not_mem_nil, hlt⟩))

theorem step (h : Inv s calls) (action : Action) :
    Inv (Methods.step lib s action).1 (calls ++ (Methods.step lib s action).2) := by
  have hnone : Inv s (calls ++ []) := h.congr h.wf rfl rfl rfl fun _ _ => rfl
  unfold Methods.step
  by_cases hfreed : s.freed = true
  · rw [if_pos hfreed]
    split
    next ref =>
        unfold staleExpires
        split
        next => exact h.congr h.wf rfl rfl rfl fun _ _ => rfl
        next => exact hnone
    next => exact hnone
  · rw [if_neg hfreed]
    cases action with
    | op op => exact h.stepOp op
    | methodAdd requestCleanup destruct => exact h.methodAdd requestCleanup destruct
    | methodDel ref => exact h.methodDel ref
    | free => exact h.free

end Inv

/-- **It holds in every run.** -/
theorem inv_run (actions : List Action) :
    Inv ((machine lib).run System.new actions).1 ((machine lib).run System.new actions).2 :=
  (machine lib).run_induction (P := fun _ s calls => Inv s calls) Inv.new
    (fun _ _ _ action h => h.step action) actions

/-! ## The end of the client -/

/-- `result_cb` is called, with a record that is there or with one that has been freed. -/
def Call.IsResultCb : Call → Prop
  | .resultCb _ _ _ _ => True
  | .staleTimeout _ => True
  | _ => False

/-- No timer of a request is scheduled, and no `result_cb` is called any more. -/
def LeavesNothing (s : System) : Prop :=
  s.staleTimers = [] ∧
    ∀ actions, ∀ call ∈ ((machine lib).run s actions).2, ¬call.IsResultCb

section Free

variable {s : System}

theorem step_freed (hfreed : s.freed = true) (hstale : s.staleTimers = []) (action : Action) :
    step lib s action = (s, []) := by
  unfold step
  rw [if_pos hfreed]
  split
  next ref =>
      rw [staleExpires, hstale]
      exact if_neg List.not_mem_nil
  next => rfl

/-- A client that is freed without a timer stays as it is. -/
theorem run_freed (hfreed : s.freed = true) (hstale : s.staleTimers = []) (actions : List Action) :
    (machine lib).run s actions = (s, []) := by
  induction actions with
  | nil => rfl
  | cons action actions ih =>
      have hstep : (machine lib).step s action = (s, []) := step_freed lib hfreed hstale action
      rw [Machine.run_cons, hstep, ih]
      rfl

/-- Nothing is left behind as long as no timer is. -/
theorem leavesNothing_iff (hfreed : s.freed = true) :
    LeavesNothing lib s ↔ s.staleTimers = [] := by
  refine ⟨And.left, fun hstale => ⟨hstale, fun actions call hcall => ?_⟩⟩
  rw [run_freed lib hfreed hstale] at hcall
  cases hcall

/-- **Freeing the client leaves nothing behind exactly if no request is open.** -/
theorem leavesNothing_clientFree_iff (harmed : ∀ r ∈ s.requests, r.timeout.isSome = true) :
    LeavesNothing lib (clientFree s).1 ↔ s.requests = [] := by
  have hall : s.requests.filter (fun r => r.timeout.isSome) = s.requests :=
    List.filter_eq_self.2 harmed
  have hstale : (clientFree s).1.staleTimers = s.requests.map Request.ref :=
    congrArg (List.map Request.ref) hall
  rw [leavesNothing_iff lib rfl, hstale, List.map_eq_nil_iff]

end Free

/-- A `request()` has been answered by one `request_cleanup()`, or by `destruct()`. -/
theorem request_settled {s : System} {calls pre post : List Call} (h : Inv s calls) {m : Method}
    (hm : m.Hooked) {query : Query} {requestHandle : UInt32}
    (hcalls : calls = pre ++ .request m query requestHandle :: post) :
    Settled (kinds m requestHandle post) ∨
      kinds m requestHandle post = [] ∧ m ∈ s.lookupMethods ∧ Held s.requests requestHandle := by
  have hkinds : kinds m requestHandle calls =
      kinds m requestHandle pre ++ .opens :: kinds m requestHandle post := by
    have hself : kindOf m requestHandle (.request m query requestHandle) = some .opens :=
      if_pos ⟨rfl, rfl⟩
    rw [hcalls, kinds_append]
    exact congrArg _ (List.filterMap_cons_some hself)
  have hfits := h.fits m requestHandle hm
  cases hp : Pairing.run (kinds m requestHandle calls) with
  | none =>
      rw [hp] at hfits
      rcases hfits with hp | ⟨hp, -⟩ | ⟨hp, -⟩ | ⟨hp, -⟩ <;> cases hp
  | some p =>
      rw [hp] at hfits
      rw [hkinds] at hp
      rcases Pairing.settled_of_run hp with hsettled | ⟨rfl, hpost⟩
      · exact Or.inl hsettled
      · -- nothing has happened since, and the request is open
        rcases hfits with hp | ⟨-, hmem, hheld⟩ | ⟨hp, -⟩ | ⟨hp, -⟩
        · cases hp
        · exact Or.inr ⟨hpost, hmem, hheld⟩
        · cases hp
        · cases hp

/-- **What becomes of requests**, in every run of any length, with any methods: when the client is
freed, it leaves nothing behind exactly if no request is open then; and every `request()` of a
method for a handle is followed by exactly one `request_cleanup()` for it before the handle is used
again, or, without that, by the method's `destruct()`, unless the request is still open. -/
theorem requests_come_to_an_end (actions : List Action) (s : System) (calls : List Call)
    (hrun : (machine lib).run System.new actions = (s, calls)) :
    (LeavesNothing lib (clientFree s).1 ↔ s.requests = []) ∧
    ∀ m : Method, m.Hooked → ∀ pre query requestHandle post,
      calls = pre ++ .request m query requestHandle :: post →
      Settled (kinds m requestHandle post) ∨
        kinds m requestHandle post = [] ∧ m ∈ s.lookupMethods ∧ Held s.requests requestHandle := by
  have h := inv_run lib actions
  rw [hrun] at h
  refine ⟨leavesNothing_clientFree_iff lib h.wf.armed, ?_⟩
  intro m hm pre query requestHandle post hcalls
  exact request_settled h hm hcalls

/-- A lookup of the HLR of a subscriber. -/
def anyQuery : Query :=
  ⟨CString.CStr.lit "gsup.hlr", .imsi (CString.CStr.lit "901700000000017")⟩

/-- A method with all its functions, and a request. -/
def oneRequest : List Action :=
  [.methodAdd true true, .op (.request anyQuery ⟨0, 300⟩)]

/-- The request is cancelled, and the client leaves nothing behind. -/
theorem requests_come_to_an_end_cancel : ∃ s calls,
    (machine Host.libosmocore).run System.new (oneRequest ++ [.op (.requestCancel 1)]) =
      (s, calls) ∧
    calls = [.request ⟨0, true, true⟩ anyQuery 1, .requestCleanup ⟨0, true, true⟩ 1] ∧
    LeavesNothing Host.libosmocore (clientFree s).1 ∧
    (Settled (kinds ⟨0, true, true⟩ 1 [.requestCleanup ⟨0, true, true⟩ 1]) ∨
      kinds ⟨0, true, true⟩ 1 [.requestCleanup ⟨0, true, true⟩ 1] = [] ∧
        ⟨0, true, true⟩ ∈ s.lookupMethods ∧ Held s.requests 1) := by
  obtain ⟨hfree, hmethods⟩ := requests_come_to_an_end Host.libosmocore
    (oneRequest ++ [.op (.requestCancel 1)]) _ _ rfl
  have hcalls : ((machine Host.libosmocore).run System.new
      (oneRequest ++ [.op (.requestCancel 1)])).2 =
        [.request ⟨0, true, true⟩ anyQuery 1, .requestCleanup ⟨0, true, true⟩ 1] := by
    decide +kernel
  exact ⟨_, _, rfl, hcalls, hfree.2 (by decide +kernel),
    hmethods ⟨0, true, true⟩ ⟨rfl, rfl⟩ [] anyQuery 1 _ hcalls⟩

/-- **A request that is open when the client is freed**: its timer stays, and expires. -/
theorem timer_outlives_client : ∃ s,
    ((machine Host.libosmocore).run System.new oneRequest).1 = s ∧
    (clientFree s).1.staleTimers = [0] ∧
    ((machine Host.libosmocore).run (clientFree s).1 [.op (.timeout 0)]).2 = [.staleTimeout 0] ∧
    ¬LeavesNothing Host.libosmocore (clientFree s).1 := by
  have hstale : (clientFree ((machine Host.libosmocore).run System.new oneRequest).1).1.staleTimers
      = [0] := by decide +kernel
  refine ⟨_, rfl, hstale, by decide +kernel, fun h => ?_⟩
  rw [h.1] at hstale
  cases hstale

end Methods
end MslookupClient
end OsmoHlr
