import OsmoHlr.LibosmocoreHost
import OsmoHlr.Mslookup.ClientRuns

/-!
# The handles of the open requests

Handles come from a 32-bit counter that wraps, so that a handle is handed out again
and again in a long run.

* `handles_identify` — in every run, a handle that is in use stands for the one
  open request that it was last handed out for.
* `evict_not_mem_history` — before the counter wraps, no request has to make room
  for another one.
-/

namespace OsmoHlr
namespace MslookupClient

open Mslookup (Query Result ResultCode)
open CString

variable (lib : Libosmocore)

/-! ## Handing out handles -/

/-- The request that a handle is handed out for by a call. -/
def handedOut (requestHandle : UInt32) : Event → Option Nat
  | .returned ref requestHandle' => if requestHandle' = requestHandle then some ref else none
  | _ => none

/-- The request that a handle was handed out for most recently. -/
def lastHandedOut (events : List Event) (requestHandle : UInt32) : Option Nat :=
  (events.filterMap (handedOut requestHandle)).getLast?

/-- The calls for a handle: a result for it, and cancelling it. -/
def Op.Uses (requestHandle : UInt32) : Op → Prop
  | .rxResult requestHandle' _ => requestHandle' = requestHandle
  | .requestCancel requestHandle' => requestHandle' = requestHandle
  | _ => False

theorem lastHandedOut_append (out events : List Event) (requestHandle : UInt32) :
    lastHandedOut (out ++ events) requestHandle =
      (lastHandedOut events requestHandle).or (lastHandedOut out requestHandle) := by
  rw [lastHandedOut, List.filterMap_append, List.getLast?_append]
  rfl

theorem lastHandedOut_eq_none {events : List Event} {requestHandle : UInt32}
    (h : ∀ ref, .returned ref requestHandle ∉ events) :
    lastHandedOut events requestHandle = none := by
  rw [lastHandedOut, List.getLast?_eq_none_iff, List.filterMap_eq_nil_iff]
  intro e he
  cases e with
  | returned ref requestHandle' =>
      refine if_neg fun heq => h ref ?_
      rw [← heq]
      exact he
  | _ => rfl

/-- A handle that is in use was last handed out for the request that has it. -/
structure HandedOut (client : Client) (events : List Event) : Prop where
  wellFormed : WellFormed client
  last : ∀ r ∈ client.requests, lastHandedOut events r.requestHandle = some r.ref

/-- A call that is about the request `r`. -/
def Event.IsOf (r : Request) : Event → Prop
  | .resultCb ref requestHandle _ _ => ref = r.ref ∧ requestHandle = r.requestHandle
  | .methodCleanup _ requestHandle => requestHandle = r.requestHandle
  | _ => False

section Calls

variable {client : Client} {r : Request} {out : Client × List Event}

theorem isOf_told (r : Request) (results : List Result) :
    ∀ e ∈ results.map r.told, e.IsOf r := by
  intro e he
  obtain ⟨result, -, rfl⟩ := List.mem_map.1 he
  exact ⟨rfl, rfl⟩

theorem isOf_cleanupCalls (lookupMethods : List Bool) (r : Request) :
    ∀ e ∈ cleanupCalls lookupMethods r.requestHandle, e.IsOf r := by
  intro e he
  obtain ⟨l, hl, he⟩ := List.mem_flatten.1 he
  obtain ⟨i, hi, rfl⟩ := List.mem_mapIdx.1 hl
  split at he
  · rw [List.mem_singleton.1 he]
    rfl
  · cases he

theorem isOf_lastCalls (client : Client) (r : Request) (result : Result) :
    ∀ e ∈ lastCalls client r result, e.IsOf r := by
  intro e he
  rcases List.mem_cons.1 he with rfl | he
  · exact ⟨rfl, rfl⟩
  · exact isOf_cleanupCalls _ r e he

theorem isOf_expireCalls (h : Distinct client) : ∀ e ∈ expireCalls client,
    ∃ r ∈ client.requests, r.requestHandle = client.newHandle ∧ e.IsOf r := by
  intro e he
  unfold expireCalls at he
  cases hholder : client.holder client.newHandle with
  | none =>
      rw [hholder] at he
      cases he
  | some other =>
      rw [hholder] at he
      obtain ⟨hmem, hhandle⟩ := (holder_eq_some_iff h).1 hholder
      exact ⟨other, hmem, hhandle, isOf_lastCalls client other other.result e he⟩

/-- The calls of a launch return one handle. -/
theorem lastHandedOut_launch (h : Distinct client) (query : Query) (requestHandle : UInt32) :
    lastHandedOut (expireCalls client ++ requestCalls client.lookupMethods query client.newHandle ++
        [.returned client.allocated client.newHandle]) requestHandle =
      if client.newHandle = requestHandle then some client.allocated else none := by
  have hquiet : ∀ ref, .returned ref requestHandle ∉
      expireCalls client ++ requestCalls client.lookupMethods query client.newHandle := by
    intro ref he
    rcases List.mem_append.1 he with he | he
    · obtain ⟨r, -, -, hof⟩ := isOf_expireCalls h _ he
      exact hof
    · obtain ⟨i, -, heq⟩ := List.mem_mapIdx.1 he
      cases heq
  rw [lastHandedOut_append, lastHandedOut_eq_none hquiet, Option.or_none]
  by_cases heq : client.newHandle = requestHandle
  · simp [lastHandedOut, handedOut, heq]
  · simp [lastHandedOut, handedOut, heq]

/-- An effect on a request returns no handle. -/
theorem Effect.isOf (he : Effect client r out) : ∀ e ∈ out.2, e.IsOf r := by
  cases he with
  | keep => simp
  | write r' results href hhandle hquery harmed => exact isOf_told r results
  | remove results =>
      intro e he
      rcases List.mem_append.1 he with he | he
      · exact isOf_told r results e he
      · exact isOf_cleanupCalls _ r e he

theorem Effect.lastHandedOut (he : Effect client r out) (requestHandle : UInt32) :
    lastHandedOut out.2 requestHandle = none :=
  lastHandedOut_eq_none fun _ hmem => he.isOf _ hmem

/-- It leaves the other requests alone. -/
theorem Effect.lookup (he : Effect client r out) (h : WellFormed client) (hr : r ∈ client.requests)
    {ref : Nat} (hne : ref ≠ r.ref) : out.1.lookup ref = client.lookup ref := by
  cases he with
  | keep => rfl
  | write r' results href hhandle hquery harmed =>
      rw [lookup_set hr href h.toDistinct hhandle, if_neg hne]
  | remove results => rw [lookup_remove h, if_neg hne]

/-- It changes no handle and launches no request. -/
theorem Effect.mem (he : Effect client r out) (hr : r ∈ client.requests) {x : Request}
    (hx : x ∈ out.1.requests) :
    ∃ y ∈ client.requests, y.ref = x.ref ∧ y.requestHandle = x.requestHandle := by
  cases he with
  | keep => exact ⟨x, hx, rfl, rfl⟩
  | write r' results href hhandle hquery harmed =>
      rcases (mem_set hr href).1 hx with rfl | ⟨hx, -⟩
      · exact ⟨r, hr, href.symm, hhandle.symm⟩
      · exact ⟨x, hx, rfl, rfl⟩
  | remove results => exact ⟨x, (mem_remove.1 hx).1, rfl, rfl⟩

end Calls

/-- **Every call keeps the handles apart, and with those they were last handed out for.** -/
theorem handedOut_step {client : Client} {events : List Event} (h : HandedOut client events)
    (op : Op) : HandedOut (step lib client op).1 (events ++ (step lib client op).2) := by
  refine ⟨wellFormed_step lib client op h.wellFormed, ?_⟩
  intro x hx
  rw [lastHandedOut_append]
  rcases step_cases lib h.wellFormed op with ⟨query, handling, -, -, hstep⟩ | hstep | ⟨r, hr, -, he⟩
  · rw [hstep] at hx ⊢
    rw [lastHandedOut_launch h.wellFormed.toDistinct]
    rcases List.mem_append.1 hx with hx | hx
    · have hne : x.requestHandle ≠ client.newHandle := by simpa using (List.mem_filter.1 hx).2
      rw [if_neg hne.symm, Option.none_or]
      exact h.last x (List.mem_of_mem_filter hx)
    · rw [List.mem_singleton.1 hx, requestHandle_newRequest, ref_newRequest, if_pos rfl]
      rfl
  · rw [hstep] at hx ⊢
    exact h.last x hx
  · obtain ⟨y, hy, href, hhandle⟩ := he.mem hr hx
    rw [he.lastHandedOut, Option.none_or, ← hhandle, ← href]
    exact h.last y hy

theorem handedOut_run (lookupMethods : List Bool) (ops : List Op) :
    HandedOut ((machine lib).run (Client.new lookupMethods) ops).1
      ((machine lib).run (Client.new lookupMethods) ops).2 :=
  (machine lib).run_induction (P := fun _ => HandedOut)
    ⟨wellFormed_new lookupMethods, by simp [Client.new]⟩
    (fun _ _ _ op h => handedOut_step lib h op) ops

/-! ## A handle stands for one request -/

/-- A call for a handle is a call for the request it was last handed out for. -/
theorem step_uses {client : Client} {events : List Event} (h : HandedOut client events)
    {requestHandle : UInt32} {op : Op} (huses : op.Uses requestHandle) :
    step lib client op = (client, []) ∨
      ∃ r ∈ client.requests, lastHandedOut events requestHandle = some r.ref ∧
        Effect client r (step lib client op) := by
  rcases step_cases lib h.wellFormed op with ⟨query, handling, rfl, -⟩ | hstep | ⟨r, hr, hfor, he⟩
  · exact absurd huses id
  · exact Or.inl hstep
  · refine Or.inr ⟨r, hr, ?_, he⟩
    rw [← h.last r hr]
    cases op with
    | request query handling => exact absurd huses id
    | timeout ref => exact absurd huses id
    | rxResult requestHandle' result => exact congrArg _ (huses.symm.trans hfor)
    | requestCancel requestHandle' => exact congrArg _ (huses.symm.trans hfor)

/-- A launch ends the request that has the new handle before anything else. -/
theorem step_launch {client : Client} (h : WellFormed client) {op : Op} {requestHandle : UInt32}
    {ref : Nat} (hreturned : .returned ref requestHandle ∈ (step lib client op).2)
    {other : Request} (hother : other ∈ client.requests)
    (hhandle : other.requestHandle = requestHandle) :
    (step lib client op).1.lookup other.ref = none ∧
      ∃ rest, (step lib client op).2 = .resultCb other.ref requestHandle other.query
          { other.result with last := true } :: rest ∧ .returned ref requestHandle ∈ rest := by
  have hdist := h.toDistinct
  rcases step_cases lib h op with ⟨query, handling, -, -, hstep⟩ | hstep | ⟨r, hr, -, he⟩
  · have hlast := lastHandedOut_launch hdist query requestHandle
    have hnew : client.newHandle = requestHandle := by
      by_contra hne
      rw [hstep] at hreturned
      rw [if_neg hne, lastHandedOut, List.getLast?_eq_none_iff, List.filterMap_eq_nil_iff] at hlast
      simpa [handedOut] using hlast _ hreturned
    have hholder : client.holder client.newHandle = some other :=
      (holder_eq_some_iff hdist).2 ⟨hother, hhandle.trans hnew.symm⟩
    constructor
    · rw [hstep, lookup_eq_none_iff]
      intro x hx
      rcases List.mem_append.1 hx with hx | hx
      · obtain ⟨hx, hne⟩ := List.mem_filter.1 hx
        intro href
        rw [eq_of_ref_eq hdist.refs hx hother href] at hne
        simp [hhandle, hnew] at hne
      · rw [List.mem_singleton.1 hx, ref_newRequest]
        exact (h.ref_lt other hother).ne'
    · rw [hstep] at hreturned ⊢
      simp only [expireCalls, hholder, lastCalls, hhandle] at hreturned ⊢
      refine ⟨_, rfl, ?_⟩
      simpa using hreturned
  · rw [hstep] at hreturned
    cases hreturned
  · exact absurd (he.isOf _ hreturned) id

/-- **A handle stands for one request**, in every run of any length: the handles of the open
requests are not zero and differ from each other; a result or a cancel for a handle is for
nobody but the request that the handle was last handed out for; and a request that still has
the handle of a new one is told its last result and ends, before the new one is known. -/
theorem handles_identify (lookupMethods : List Bool) (ops : List Op) (client : Client)
    (events : List Event)
    (hrun : (machine lib).run (Client.new lookupMethods) ops = (client, events)) :
    (∀ r ∈ client.requests, r.requestHandle ≠ 0) ∧
    (client.requests.map Request.requestHandle).Nodup ∧
    (∀ requestHandle op, op.Uses requestHandle →
      (∀ ref, lastHandedOut events requestHandle ≠ some ref →
        (step lib client op).1.lookup ref = client.lookup ref) ∧
      ∀ e ∈ (step lib client op).2, ∃ r ∈ client.requests,
        lastHandedOut events requestHandle = some r.ref ∧ e.IsOf r) ∧
    (∀ requestHandle op ref, .returned ref requestHandle ∈ (step lib client op).2 →
      ∀ other ∈ client.requests, other.requestHandle = requestHandle →
        (step lib client op).1.lookup other.ref = none ∧
        ∃ rest, (step lib client op).2 = .resultCb other.ref requestHandle other.query
            { other.result with last := true } :: rest ∧
          .returned ref requestHandle ∈ rest) := by
  have h := handedOut_run lib lookupMethods ops
  rw [hrun] at h
  refine ⟨h.wellFormed.handle_ne, h.wellFormed.handles, ?_, ?_⟩
  · intro requestHandle op huses
    rcases step_uses lib h huses with hstep | ⟨r, hr, hlast, he⟩
    · rw [hstep]
      exact ⟨fun ref _ => rfl, by simp⟩
    · refine ⟨fun ref hne => he.lookup h.wellFormed hr fun heq => hne ?_, ?_⟩
      · rw [hlast, heq]
      · exact fun e hmem => ⟨r, hr, hlast, he.isOf e hmem⟩
  · intro requestHandle op ref hreturned other hother hhandle
    exact step_launch lib h.wellFormed hreturned hother hhandle

/-- A lookup of the HLR of a subscriber. -/
def gsupHlrQuery : Query := ⟨CStr.lit "gsup.hlr", .imsi (CStr.lit "901700000000017")⟩

/-- A result of the given age. -/
def resultOfAge (n : UInt32) : Result :=
  ⟨.result, ⟨Host.afInet, CStr.lit "10.9.8.7", 42⟩, SockaddrStr.zero, n, false⟩

/-- The first two handles stand for the first two requests. -/
theorem handles_identify_two : ∃ client events,
    (machine Host.libosmocore).run (Client.new [true])
      [.request gsupHlrQuery ⟨0, 300⟩, .request gsupHlrQuery ⟨100, 300⟩] = (client, events) ∧
    client.requests.map Request.requestHandle = [1, 2] ∧
    (client.requests.map Request.requestHandle).Nodup ∧
    (step Host.libosmocore client (.requestCancel 2)).1.lookup 0 = client.lookup 0 := by
  obtain ⟨-, hnodup, huses, -⟩ := handles_identify Host.libosmocore [true]
    [.request gsupHlrQuery ⟨0, 300⟩, .request gsupHlrQuery ⟨100, 300⟩] _ _ rfl
  exact ⟨_, _, rfl, by decide +kernel, hnodup,
    (huses 2 (.requestCancel 2) rfl).1 0 (by decide +kernel)⟩

/-! ## Before the counter wraps -/

/-- The handles are those of the first requests, in order. -/
structure Unwrapped (client : Client) : Prop where
  newHandle : client.allocated + 1 < 2 ^ 32 → client.newHandle.toNat = client.allocated + 1
  handle : ∀ r ∈ client.requests, r.requestHandle.toNat = r.ref + 1

section Unwrapped

variable {client : Client} {r : Request} {out : Client × List Event}

theorem Effect.counter (he : Effect client r out) :
    out.1.allocated = client.allocated ∧ out.1.newHandle = client.newHandle := by
  cases he <;> exact ⟨rfl, rfl⟩

theorem newHandle_withRequest (hlt : client.newHandle.toNat + 1 < 2 ^ 32) (query : Query)
    (handling : QueryHandling) :
    (client.withRequest query handling).newHandle.toNat = client.newHandle.toNat + 1 := by
  have hnext : (client.newHandle + 1).toNat = client.newHandle.toNat + 1 := by
    rw [UInt32.toNat_add]
    exact Nat.mod_eq_of_lt hlt
  have hne : client.newHandle + 1 ≠ 0 := by
    intro heq
    rw [heq] at hnext
    cases hnext
  show (if client.newHandle + 1 = 0 then _ else client.newHandle + 1).toNat = _
  rw [if_neg hne, hnext]

theorem Unwrapped.withRequest (h : Unwrapped client) (hlt : client.allocated + 1 < 2 ^ 32)
    (query : Query) (handling : QueryHandling) : Unwrapped (client.withRequest query handling) where
  newHandle := by
    intro hlt'
    have hnew := h.newHandle hlt
    rw [newHandle_withRequest (by rw [hnew]; exact hlt'), hnew]
    rfl
  handle := by
    intro x hx
    rcases List.mem_append.1 hx with hx | hx
    · exact h.handle x (List.mem_of_mem_filter hx)
    · rw [List.mem_singleton.1 hx, requestHandle_newRequest, ref_newRequest]
      exact h.newHandle hlt

/-- A new handle is not in use. -/
theorem Unwrapped.holder (h : Unwrapped client) (hlt : client.allocated + 1 < 2 ^ 32)
    (hwf : WellFormed client) : client.holder client.newHandle = none := by
  cases hholder : client.holder client.newHandle with
  | none => rfl
  | some other =>
      obtain ⟨hmem, hhandle⟩ := (holder_eq_some_iff hwf.toDistinct).1 hholder
      have heq : other.ref + 1 = client.allocated + 1 := by
        rw [← h.handle other hmem, hhandle, h.newHandle hlt]
      exact absurd (hwf.ref_lt other hmem) (by rw [Nat.succ.inj heq]; exact lt_irrefl _)

/-- **While the counter does not wrap, every call keeps the handles in order**, and no request
makes room. -/
theorem unwrapped_step (h : Unwrapped client) (hwf : WellFormed client) (op : Op)
    (hlt : (step lib client op).1.allocated < 2 ^ 32) (ref : Nat) :
    Unwrapped (step lib client op).1 ∧ .evict ∉ inputs lib ref client op := by
  have hevict : (∀ query handling, op ≠ .request query handling) →
      .evict ∉ inputs lib ref client op := by
    intro hne hmem
    rcases mem_inputs hmem with ⟨query, handling, rfl, -⟩ | ⟨_, _, _, -, -, -, -, hi⟩ |
      ⟨_, _, -, -, -, hi⟩ | ⟨_, _, -, -, -, hi⟩
    · exact hne query handling rfl
    · cases hi
    · cases hi
    · cases hi
  rcases step_cases lib hwf op with ⟨query, handling, rfl, hq, hstep⟩ | hstep | ⟨r, hr, hfor, he⟩
  · rw [hstep] at hlt ⊢
    refine ⟨h.withRequest hlt query handling, ?_⟩
    simp only [inputs, hq, if_true, h.holder hlt hwf, List.nil_append]
    split <;> simp
  · rw [hstep]
    refine ⟨h, ?_⟩
    cases op with
    | request query handling =>
        cases hq : queryValid lib query with
        | false => simp [inputs, hq]
        | true =>
            have hsnd := congrArg (fun x => x.1.allocated) hstep
            simp only [step, request_eq lib hwf.toDistinct hq] at hsnd
            exact absurd hsnd (Nat.succ_ne_self _)
    | _ => exact hevict (by simp)
  · obtain ⟨halloc, hnew⟩ := he.counter
    refine ⟨⟨?_, ?_⟩, hevict fun query handling heq => ?_⟩
    · rw [halloc, hnew]
      exact h.newHandle
    · intro x hx
      obtain ⟨y, hy, href, hhandle⟩ := he.mem hr hx
      rw [← hhandle, ← href]
      exact h.handle y hy
    · rw [heq] at hfor
      exact hfor

theorem allocated_le_step (hwf : WellFormed client) (op : Op) :
    client.allocated ≤ (step lib client op).1.allocated := by
  rcases step_cases lib hwf op with ⟨query, handling, -, -, hstep⟩ | hstep | ⟨r, hr, -, he⟩
  · rw [hstep]
    exact Nat.le_succ _
  · rw [hstep]
  · exact he.counter.1.ge

end Unwrapped

/-- **With fewer than 2^32 requests, none has to make room for another one.** -/
theorem evict_not_mem_history (lookupMethods : List Bool) (ops : List Op) (ref : Nat)
    (hlt : ((machine lib).run (Client.new lookupMethods) ops).1.allocated < 2 ^ 32) :
    .evict ∉ history lib lookupMethods ops ref := by
  suffices hrun : Unwrapped ((machine lib).run (Client.new lookupMethods) ops).1 ∧
      .evict ∉ history lib lookupMethods ops ref from hrun.2
  unfold history
  induction ops using List.reverseRecOn with
  | nil => exact ⟨⟨fun _ => rfl, by simp [Client.new]⟩, by simp [Machine.view]⟩
  | append_singleton ops op ih =>
      have hwf := wellFormed_run lib lookupMethods ops
      rw [Machine.run_concat] at hlt
      obtain ⟨hun, hevict⟩ := ih (lt_of_le_of_lt (allocated_le_step lib hwf op) hlt)
      obtain ⟨hun', hevict'⟩ := unwrapped_step lib hun hwf op hlt ref
      rw [Machine.run_concat, Machine.view_concat]
      refine ⟨hun', fun hmem => ?_⟩
      rcases List.mem_append.1 hmem with hmem | hmem
      · exact hevict hmem
      · exact hevict' hmem

end MslookupClient
end OsmoHlr
