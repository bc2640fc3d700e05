import OsmoHlr.Lib.Collector
import OsmoHlr.Mslookup.Client

/-!
# The life of a request

Each request of the client is a collector of answers (`OsmoHlr.Lib.Collector`):
this is what the client is for.  The client's run, seen by one request, is a run
of a collector with the same callbacks.

* `history` — what happens to a request in a run of the client.
* `callbacks_eq` — the callbacks of a request are the outputs of a collector with
  that history.
-/

namespace OsmoHlr
namespace MslookupClient

open Mslookup (Query Result ResultCode)
open Collector (Input Output State)

variable (lib : Libosmocore)

/-! ## What a request sees of a run -/

/-- The age of a result, as a number. -/
def age (result : Result) : Nat := result.age.toNat

/-- A result as it came in; whether it is the last one is for the client to say. -/
def answer (result : Result) : Result := { result with last := false }

/-- What a call into the client is to the request `ref`. -/
def inputs (ref : Nat) (client : Client) : Op → List (Input Result)
  | .request query handling =>
      if queryValid lib query then
        (match client.holder client.newHandle with
          | some other => if other.ref = ref then [.evict] else []
          | none => []) ++
        (if client.allocated = ref then
          [.start (decide (handling.withDefaults.minWaitMilliseconds ≠ 0))
            handling.withDefaults.stops] else [])
      else []
  | .rxResult requestHandle result =>
      match getRequest client requestHandle with
      | some r =>
          if r.ref = ref ∧ result.rc = .result then [.received (answer result)] else []
      | none => []
  | .timeout ref' =>
      match client.lookup ref' with
      | some r => if r.ref = ref then [.timer] else []
      | none => []
  | .requestCancel requestHandle =>
      match getRequest client requestHandle with
      | some r => if r.ref = ref then [.cancel] else []
      | none => []

/-- What each call can be to a request. -/
theorem mem_inputs {lib : Libosmocore} {ref : Nat} {client : Client} {op : Op}
    {i : Input Result} (hi : i ∈ inputs lib ref client op) :
    (∃ query handling, op = .request query handling ∧
      (i = .evict ∨ ∃ wait stops, i = .start wait stops)) ∨
    (∃ requestHandle result r, op = .rxResult requestHandle result ∧
      getRequest client requestHandle = some r ∧ r.ref = ref ∧ result.rc = .result ∧
      i = .received (answer result)) ∨
    (∃ ref' r, op = .timeout ref' ∧ client.lookup ref' = some r ∧ r.ref = ref ∧ i = .timer) ∨
    ∃ requestHandle r, op = .requestCancel requestHandle ∧
      getRequest client requestHandle = some r ∧ r.ref = ref ∧ i = .cancel := by
  cases op with
  | request query handling =>
      refine Or.inl ⟨query, handling, rfl, ?_⟩
      simp only [inputs] at hi
      split at hi
      · rcases List.mem_append.1 hi with hi | hi
        · split at hi
          · split at hi
            · exact Or.inl (List.mem_singleton.1 hi)
            · cases hi
          · cases hi
        · split at hi
          · exact Or.inr ⟨_, _, List.mem_singleton.1 hi⟩
          · cases hi
      · cases hi
  | rxResult requestHandle result =>
      simp only [inputs] at hi
      split at hi
      · rename_i r hr
        split at hi
        · rename_i hown
          exact Or.inr (Or.inl ⟨_, _, r, rfl, hr, hown.1, hown.2, List.mem_singleton.1 hi⟩)
        · cases hi
      · cases hi
  | timeout ref' =>
      simp only [inputs] at hi
      split at hi
      · rename_i r hr
        split at hi
        · rename_i hown
          exact Or.inr (Or.inr (Or.inl ⟨_, r, rfl, hr, hown, List.mem_singleton.1 hi⟩))
        · cases hi
      · cases hi
  | requestCancel requestHandle =>
      simp only [inputs] at hi
      split at hi
      · rename_i r hr
        split at hi
        · rename_i hown
          exact Or.inr (Or.inr (Or.inr ⟨_, r, rfl, hr, hown, List.mem_singleton.1 hi⟩))
        · cases hi
      · cases hi

/-- What happens to the request `ref` in a run from the start. -/
def history (lookupMethods : List Bool) (ops : List Op) (ref : Nat) : List (Input Result) :=
  (machine lib).view (inputs lib ref) (Client.new lookupMethods) ops

/-- The result that a call hands to the callback of the request `ref`. -/
def toCallback (ref : Nat) : Event → List Result
  | .resultCb ref' _ _ result => if ref' = ref then [result] else []
  | _ => []

/-- The results that the callback of the request `ref` is called with in a run from the start. -/
def callbacks (lookupMethods : List Bool) (ops : List Op) (ref : Nat) : List Result :=
  ((machine lib).run (Client.new lookupMethods) ops).2.flatMap (toCallback ref)

/-- What the collector tells, as the result of a callback. -/
def toResult : Output Result → Result
  | .interim a => { a with rc := .result, last := false }
  | .final a => { a with rc := .result, last := true }
  | .ended a => { a with rc := .none, last := true }
  | .nothing => { Result.zero with rc := .notFound, last := true }
  | .abandoned => { Result.zero with last := true }

theorem toResult_interim {result : Result} (hrc : result.rc = .result) :
    toResult (.interim (answer result)) = { result with last := false } := by
  rw [toResult, ← hrc]
  rfl

theorem toResult_final {result : Result} (hrc : result.rc = .result) :
    toResult (.final (answer result)) = { result with last := true } := by
  rw [toResult, ← hrc]
  rfl

/-! ## A request record and a collector -/

/-- A request record holds what its collector needs to know. -/
structure Matches (r : Request) (t : State Result) : Prop where
  phase : t.phase = if r.waitingMinDelay then .waiting r.handling.stops else .listening
  best : Collector.best age t = if r.result.rc = .result then some (answer r.result) else none
  fresh : r.result.rc ≠ .result → r.result = Result.zero

/-- The client holds what the collector of the request `ref` needs to know. -/
structure Follows (ref : Nat) (client : Client) (t : State Result) : Prop where
  wellFormed : WellFormed client
  isOpen : ∀ r ∈ client.requests, r.ref = ref → Matches r t
  closed : client.lookup ref = none → ref < client.allocated → t.phase = .closed
  unborn : client.allocated ≤ ref → t = Collector.init

section Follows

variable {lib} {ref : Nat} {client : Client} {t t' : State Result} {r : Request}

theorem Follows.allocated_gt (h : Follows ref client t) (hr : r ∈ client.requests)
    (href : r.ref = ref) : ref < client.allocated := href ▸ h.wellFormed.ref_lt r hr

theorem Follows.set (h : Follows ref client t) (hr : r ∈ client.requests) {r' : Request}
    (href : r'.ref = r.ref) (hhandle : r'.requestHandle = r.requestHandle)
    (harmed : r'.timeout.isSome = true) (hown : r.ref = ref → Matches r' t')
    (hother : r.ref ≠ ref → t' = t) : Follows ref (client.set r') t' where
  wellFormed := h.wellFormed.set hr href hhandle harmed
  isOpen := by
    intro x hx hxref
    rcases (mem_set hr href).1 hx with rfl | ⟨hx, hne⟩
    · exact hown (href.symm.trans hxref)
    · rw [hother fun heq => hne (hxref.trans heq.symm)]
      exact h.isOpen x hx hxref
  closed := by
    intro hnone hlt
    rw [lookup_set hr href h.wellFormed.toDistinct hhandle] at hnone
    split at hnone
    · cases hnone
    · rename_i hne
      rw [hother (Ne.symm hne)]
      exact h.closed hnone hlt
  unborn := by
    intro hle
    rw [hother fun heq => Nat.not_lt.2 hle (h.allocated_gt hr heq)]
    exact h.unborn hle

/-- Nothing is written to the client. -/
theorem Follows.keep (h : Follows ref client t) (hr : r ∈ client.requests) (href : r.ref = ref)
    (hm : Matches r t') : Follows ref client t' where
  wellFormed := h.wellFormed
  isOpen := by
    intro x hx hxref
    rw [eq_of_ref_eq h.wellFormed.refs hx hr (hxref.trans href.symm)]
    exact hm
  closed := by
    intro hnone
    exact absurd href (lookup_eq_none_iff.1 hnone r hr)
  unborn := fun hle => absurd (h.allocated_gt hr href) (Nat.not_lt.2 hle)

theorem Follows.remove (h : Follows ref client t) (hr : r ∈ client.requests)
    (hown : r.ref = ref → t'.phase = .closed) (hother : r.ref ≠ ref → t' = t) :
    Follows ref (client.remove r.ref) t' where
  wellFormed := h.wellFormed.remove r.ref
  isOpen := by
    intro x hx hxref
    obtain ⟨hx, hne⟩ := mem_remove.1 hx
    rw [hother fun heq => hne (hxref.trans heq.symm)]
    exact h.isOpen x hx hxref
  closed := by
    intro hnone hlt
    rw [lookup_remove h.wellFormed] at hnone
    by_cases heq : r.ref = ref
    · exact hown heq
    · rw [if_neg (Ne.symm heq)] at hnone
      rw [hother heq]
      exact h.closed hnone hlt
  unborn := by
    intro hle
    rw [hother fun heq => Nat.not_lt.2 hle (h.allocated_gt hr heq)]
    exact h.unborn hle

end Follows

/-! ## Callbacks among the calls -/

theorem toCallback_cleanupCalls (ref : Nat) (lookupMethods : List Bool) (requestHandle : UInt32) :
    (cleanupCalls lookupMethods requestHandle).flatMap (toCallback ref) = [] := by
  rw [List.flatMap_eq_nil_iff]
  intro e he
  obtain ⟨l, hl, he⟩ := List.mem_flatten.1 he
  obtain ⟨i, hi, rfl⟩ := List.mem_mapIdx.1 hl
  split at he
  · rw [List.mem_singleton.1 he]
    rfl
  · cases he

theorem toCallback_requestCalls (ref : Nat) (lookupMethods : List Bool) (query : Query)
    (requestHandle : UInt32) :
    (requestCalls lookupMethods query requestHandle).flatMap (toCallback ref) = [] := by
  rw [List.flatMap_eq_nil_iff]
  intro e he
  obtain ⟨i, hi, rfl⟩ := List.mem_mapIdx.1 he
  rfl

theorem toCallback_lastCalls (ref : Nat) (client : Client) (r : Request) (result : Result) :
    (lastCalls client r result).flatMap (toCallback ref) =
      if r.ref = ref then [{ result with last := true }] else [] := by
  rw [lastCalls, List.flatMap_cons, toCallback_cleanupCalls, List.append_nil, toCallback]

/-! ## Every call is a step of the collector -/

/-- A call into the client is followed by the collector of `ref`, with the same callbacks. -/
def StepFollows (ref : Nat) (client : Client) (t : State Result) (op : Op) : Prop :=
  Follows ref (step lib client op).1
      ((Collector.machine age).run t (inputs lib ref client op)).1 ∧
    (step lib client op).2.flatMap (toCallback ref) =
      ((Collector.machine age).run t (inputs lib ref client op)).2.map toResult

section Step

variable {lib} {ref : Nat} {client : Client} {t : State Result}

theorem stepFollows_requestCancel (h : Follows ref client t) (requestHandle : UInt32) :
    StepFollows lib ref client t (.requestCancel requestHandle) := by
  unfold StepFollows
  cases hr : getRequest client requestHandle with
  | none =>
      simp only [step, requestCancel, inputs, hr]
      exact ⟨h, rfl⟩
  | some r =>
      obtain ⟨hmem, rfl⟩ := (getRequest_eq_some_iff h.wellFormed.toDistinct).1 hr
      simp only [step, inputs, hr]
      rw [requestCancel_eq h.wellFormed.toDistinct hmem, toCallback_cleanupCalls]
      by_cases href : r.ref = ref
      · have hm := h.isOpen r hmem href
        rw [if_pos href, Machine.run_singleton]
        simp only [Collector.machine, Collector.step]
        cases hw : r.waitingMinDelay with
        | true =>
            rw [hm.phase, hw]
            exact ⟨h.remove hmem (fun _ => rfl) fun hne => absurd href hne, rfl⟩
        | false =>
            rw [hm.phase, hw]
            exact ⟨h.remove hmem (fun _ => rfl) fun hne => absurd href hne, rfl⟩
      · rw [if_neg href]
        exact ⟨h.remove hmem (fun heq => absurd heq href) fun _ => rfl, rfl⟩

/-- Whether a result that comes in is kept. -/
theorem younger_iff {r : Request} (hm : Matches r t) (result : Result) :
    Collector.Younger age (answer result) (Collector.best age t) ↔
      ¬ (r.result.rc = .result ∧ r.result.age ≤ result.age) := by
  rw [hm.best, UInt32.le_iff_toNat_le]
  by_cases hrc : r.result.rc = .result
  · simp [Collector.Younger, hrc, age, answer]
  · simp [Collector.Younger, hrc]

theorem age_answer_eq_bot {result : Result} : age (answer result) = ⊥ ↔ result.age = 0 := by
  show result.age.toNat = 0 ↔ result.age = 0
  rw [← UInt32.toNat_inj]
  rfl

/-- Keeping a result keeps the record and the collector together. -/
theorem Matches.receive {r r' : Request} (hm : Matches r t) {result : Result}
    (hrc : result.rc = .result) (hnew : ¬ (r.result.rc = .result ∧ r.result.age ≤ result.age))
    (hwait : r'.waitingMinDelay = r.waitingMinDelay) (hhandling : r'.handling = r.handling)
    (hresult : r'.result = result ∨ r'.result = answer result) :
    Matches r' { t with received := t.received ++ [answer result] } where
  phase := by
    rw [hwait, hhandling]
    exact hm.phase
  best := by
    obtain ⟨phase, received⟩ := t
    have hrc' : r'.result.rc = .result := by rcases hresult with h | h <;> simp [h, hrc, answer]
    rw [Collector.best_concat, if_pos ((younger_iff hm result).2 hnew), if_pos hrc']
    rcases hresult with h | h
    · rw [h]
    · rw [h]
      rfl
  fresh := by
    intro hne
    rcases hresult with h | h <;> simp [h, hrc, answer] at hne

/-- Ignoring a result does so, too. -/
theorem Matches.ignore {r : Request} (hm : Matches r t) {result : Result}
    (hold : r.result.rc = .result ∧ r.result.age ≤ result.age) :
    Matches r { t with received := t.received ++ [answer result] } where
  phase := hm.phase
  best := by
    obtain ⟨phase, received⟩ := t
    rw [Collector.best_concat, if_neg (mt (younger_iff hm result).1 (not_not.2 hold))]
    exact hm.best
  fresh := hm.fresh

theorem stepFollows_rxResult (h : Follows ref client t) (requestHandle : UInt32)
    (result : Result) : StepFollows lib ref client t (.rxResult requestHandle result) := by
  unfold StepFollows
  cases hr : getRequest client requestHandle with
  | none =>
      simp only [step, inputs, hr, rxResult_of_none hr]
      exact ⟨h, rfl⟩
  | some r =>
      obtain ⟨hmem, rfl⟩ := (getRequest_eq_some_iff h.wellFormed.toDistinct).1 hr
      simp only [step, inputs, hr]
      rw [rxResult_eq h.wellFormed.toDistinct hmem]
      by_cases hrc : result.rc = .result
      · by_cases href : r.ref = ref
        · have hm := h.isOpen r hmem href
          have hyounger := younger_iff hm result
          have hstep : (Collector.machine age).step t (.received (answer result)) =
              Collector.receive age t (answer result) r.waitingMinDelay := by
            simp only [Collector.machine, Collector.step, hm.phase]
            cases r.waitingMinDelay <;> rfl
          have hinputs : (if r.ref = ref ∧ result.rc = .result then
              [Input.received (answer result)] else []) = [.received (answer result)] :=
            if_pos ⟨href, hrc⟩
          rw [hinputs, Machine.run_singleton, hstep]
          simp only [Collector.receive]
          by_cases hold : r.result.rc = .result ∧ r.result.age ≤ result.age
          · rw [if_pos (Or.inr hold), if_neg (mt hyounger.1 (not_not.2 hold))]
            exact ⟨h.keep hmem href (hm.ignore hold), rfl⟩
          · have hnew : ¬ (result.rc ≠ .result ∨
                r.result.rc = .result ∧ r.result.age ≤ result.age) := by
              rintro (hne | hc)
              · exact hne hrc
              · exact hold hc
            rw [if_neg hnew, if_pos (hyounger.2 hold)]
            by_cases h0 : result.age = 0
            · rw [if_pos h0, if_pos (age_answer_eq_bot.2 h0)]
              refine ⟨h.remove hmem (fun _ => rfl) fun hne => absurd href hne, ?_⟩
              rw [toCallback_lastCalls, if_pos href, List.map_singleton, toResult_final hrc]
            · rw [if_neg h0, if_neg (mt age_answer_eq_bot.1 h0)]
              have hother : r.ref ≠ ref →
                  { t with received := t.received ++ [answer result] } = t :=
                fun hne => absurd href hne
              cases hw : r.waitingMinDelay with
              | true =>
                  refine ⟨h.set hmem rfl rfl (h.wellFormed.armed r hmem) (fun _ => ?_) hother, rfl⟩
                  exact hm.receive hrc hold hw.symm rfl (Or.inl rfl)
              | false =>
                  refine ⟨h.set hmem rfl rfl (h.wellFormed.armed r hmem) (fun _ => ?_) hother, ?_⟩
                  · exact hm.receive hrc hold hw.symm rfl (Or.inr rfl)
                  · simp [toCallback, href, toResult_interim hrc]
        · have hinputs : (if r.ref = ref ∧ result.rc = .result then
              [Input.received (answer result)] else []) = [] := if_neg fun hc => href hc.1
          rw [hinputs, Machine.run_nil]
          split
          · exact ⟨h, rfl⟩
          · split
            · refine ⟨h.remove hmem (fun heq => absurd heq href) fun _ => rfl, ?_⟩
              rw [toCallback_lastCalls, if_neg href]
              rfl
            · split
              · exact ⟨h.set hmem rfl rfl (h.wellFormed.armed r hmem)
                  (fun heq => absurd heq href) fun _ => rfl, rfl⟩
              · refine ⟨h.set hmem rfl rfl (h.wellFormed.armed r hmem)
                  (fun heq => absurd heq href) fun _ => rfl, ?_⟩
                simp [toCallback, href]
      · have hinputs : (if r.ref = ref ∧ result.rc = .result then
            [Input.received (answer result)] else []) = [] := if_neg fun hc => hrc hc.2
        rw [if_pos (Or.inl hrc), hinputs]
        exact ⟨h, rfl⟩

/-- Going on listening keeps the record and the collector together. -/
theorem Matches.listen {r : Request} (hm : Matches r t) :
    Matches { r.listen with waitingMinDelay := false } { t with phase := .listening } where
  phase := rfl
  best := by
    rw [Collector.best_phase, hm.best]
    by_cases hrc : r.result.rc = .result
    · simp [Request.listen, hrc, answer]
    · simp [Request.listen, hrc]
  fresh := by
    intro hne
    by_cases hrc : r.result.rc = .result
    · simp [Request.listen, hrc] at hne
    · simpa [Request.listen, hrc] using hm.fresh hrc

theorem stepFollows_timeout (h : Follows ref client t) (ref' : Nat) :
    StepFollows lib ref client t (.timeout ref') := by
  unfold StepFollows
  cases hr : client.lookup ref' with
  | none =>
      simp only [step, timerExpires, inputs, hr]
      exact ⟨h, rfl⟩
  | some r =>
      obtain ⟨hmem, rfl⟩ := (lookup_eq_some_iff h.wellFormed.refs).1 hr
      simp only [step, inputs, hr]
      rw [timerExpires_eq h.wellFormed hmem]
      by_cases href : r.ref = ref
      · have hm := h.isOpen r hmem href
        have hremove : ∀ t' : State Result, t'.phase = .closed →
            Follows ref (client.remove r.ref) t' := fun t' ht' =>
          h.remove hmem (fun _ => ht') fun hne => absurd href hne
        rw [if_pos href, Machine.run_singleton]
        simp only [Collector.machine, Collector.step, hm.phase, hm.best]
        cases hw : r.waitingMinDelay with
        | false =>
            refine ⟨hremove _ rfl, ?_⟩
            simp only [Bool.false_eq_true, if_false, toCallback_lastCalls, if_pos href]
            by_cases hrc : r.result.rc = .result
            · rw [if_pos hrc, if_pos hrc]
              rfl
            · rw [if_neg hrc, if_neg hrc, hm.fresh hrc]
              rfl
        | true =>
            cases hs : r.handling.stops with
            | true =>
                refine ⟨hremove _ rfl, ?_⟩
                simp only [if_true, toCallback_lastCalls, if_pos href]
                by_cases hrc : r.result.rc = .result
                · rw [if_pos hrc, if_pos hrc, ← toResult_final hrc]
                  rfl
                · rw [if_neg hrc, if_neg hrc, hm.fresh hrc]
                  rfl
            | false =>
                simp only [if_true, Bool.false_eq_true, if_false]
                refine ⟨h.set hmem rfl rfl rfl (fun _ => ?_) fun hne => absurd href hne, ?_⟩
                · exact hm.listen
                · by_cases hrc : r.result.rc = .result
                  · simp [hrc, toCallback, href, toResult_interim hrc]
                  · simp [hrc]
      · rw [if_neg href, Machine.run_nil]
        split
        · split
          · refine ⟨h.remove hmem (fun heq => absurd heq href) fun _ => rfl, ?_⟩
            rw [toCallback_lastCalls, if_neg href]
            rfl
          · refine ⟨h.set hmem rfl rfl rfl (fun heq => absurd heq href) fun _ => rfl, ?_⟩
            split <;> simp [toCallback, href]
        · refine ⟨h.remove hmem (fun heq => absurd heq href) fun _ => rfl, ?_⟩
          rw [toCallback_lastCalls, if_neg href]
          rfl

/-- A new record is a collector that has just been started. -/
theorem matches_newRequest (requestHandle : UInt32) (query : Query) (handling : QueryHandling) :
    Matches (newRequest ref requestHandle query handling)
      ⟨if decide (handling.withDefaults.minWaitMilliseconds ≠ 0) then
        .waiting handling.withDefaults.stops else .listening, []⟩ := by
  unfold newRequest
  by_cases hwait : handling.withDefaults.minWaitMilliseconds ≠ 0
  · simp only [if_pos hwait, decide_eq_true hwait]
    exact ⟨rfl, rfl, fun _ => rfl⟩
  · simp only [if_neg hwait, decide_eq_false hwait]
    exact ⟨rfl, rfl, fun _ => rfl⟩

theorem Follows.withRequest (h : Follows ref client t) {t' : State Result} {query : Query}
    {handling : QueryHandling}
    (hnew : client.allocated = ref →
      Matches (newRequest ref client.newHandle query handling) t')
    (hholder : ∀ r ∈ client.requests, r.ref = ref → r.requestHandle = client.newHandle →
      t'.phase = .closed)
    (hother : client.allocated ≠ ref →
      (∀ r ∈ client.requests, r.ref = ref → r.requestHandle ≠ client.newHandle) → t' = t) :
    Follows ref (client.withRequest query handling) t' where
  wellFormed := h.wellFormed.withRequest query handling
  isOpen := by
    intro r hr href
    rcases List.mem_append.1 hr with hr | hr
    · have hmem := List.mem_of_mem_filter hr
      have hne : r.requestHandle ≠ client.newHandle := by simpa using (List.mem_filter.1 hr).2
      rw [hother (h.allocated_gt hmem href).ne' fun x hx hxref => ?_]
      · exact h.isOpen r hmem href
      · rwa [eq_of_ref_eq h.wellFormed.refs hx hmem (hxref.trans href.symm)]
    · rw [List.mem_singleton.1 hr] at href ⊢
      rw [ref_newRequest] at href
      rw [href]
      exact hnew href
  closed := by
    intro hnone hlt
    have hgone := lookup_eq_none_iff.1 hnone
    have hne : client.allocated ≠ ref := fun heq =>
      hgone _ (List.mem_append_right _ (List.mem_singleton_self _)) (by rw [ref_newRequest, heq])
    by_cases hexists : ∃ r ∈ client.requests, r.ref = ref
    · obtain ⟨r, hr, href⟩ := hexists
      refine hholder r hr href (by_contra fun hhandle => ?_)
      exact hgone r (List.mem_append_left _ (List.mem_filter.2 ⟨hr, by simpa using hhandle⟩)) href
    · rw [hother hne fun r hr href => absurd ⟨r, hr, href⟩ hexists]
      refine h.closed (lookup_eq_none_iff.2 fun r hr href => hexists ⟨r, hr, href⟩) ?_
      exact lt_of_le_of_ne (Nat.lt_succ_iff.1 hlt) hne.symm
  unborn := by
    intro hle
    have hlt : client.allocated < ref := hle
    rw [hother hlt.ne fun r hr href => absurd (h.allocated_gt hr href) hlt.not_gt]
    exact h.unborn hlt.le

theorem stepFollows_request (h : Follows ref client t) (query : Query)
    (handling : QueryHandling) : StepFollows lib ref client t (.request query handling) := by
  unfold StepFollows
  have hdist := h.wellFormed.toDistinct
  cases hq : queryValid lib query with
  | false =>
      simp only [step, inputs, hq, request_of_invalid lib hq]
      exact ⟨h, rfl⟩
  | true =>
      simp only [step, inputs, hq, if_true, request_eq lib hdist hq, newHandle_ne_zero, if_false,
        List.flatMap_append, toCallback_requestCalls, List.append_nil]
      by_cases hnew : client.allocated = ref
      · -- the request is the new one
        have hold : ∀ r ∈ client.requests, r.ref ≠ ref := fun r hr href =>
          absurd (h.allocated_gt hr href) (Nat.not_lt.2 hnew.le)
        have hevict : (match client.holder client.newHandle with
            | some other => if other.ref = ref then [Input.evict] else []
            | none => ([] : List (Input Result))) = [] := by
          cases hholder : client.holder client.newHandle with
          | none => rfl
          | some other => exact if_neg (hold other ((holder_eq_some_iff hdist).1 hholder).1)
        have hquiet : (expireCalls client).flatMap (toCallback ref) = [] := by
          unfold expireCalls
          cases hholder : client.holder client.newHandle with
          | none => rfl
          | some other =>
              rw [toCallback_lastCalls,
                if_neg (hold other ((holder_eq_some_iff hdist).1 hholder).1)]
        rw [hevict, if_pos hnew, h.unborn hnew.le, List.nil_append, Machine.run_singleton, hquiet]
        refine ⟨h.withRequest (fun _ => matches_newRequest _ query handling) ?_ ?_, rfl⟩
        · exact fun r hr href => absurd href (hold r hr)
        · exact fun hne => absurd hnew hne
      · rw [if_neg hnew, List.append_nil]
        unfold expireCalls
        cases hholder : client.holder client.newHandle with
        | none =>
            refine ⟨h.withRequest (fun heq => absurd heq hnew) ?_ fun _ _ => rfl, rfl⟩
            intro r hr _ hhandle
            rw [(holder_eq_some_iff hdist).2 ⟨hr, hhandle⟩] at hholder
            cases hholder
        | some other =>
            obtain ⟨hmem, hhandle⟩ := (holder_eq_some_iff hdist).1 hholder
            by_cases href : other.ref = ref
            · -- it makes room for the new one
              have hm := h.isOpen other hmem href
              have hword : [{ other.result with last := true }] =
                  [toResult (Collector.lastWord .final .abandoned (Collector.best age t))] := by
                rw [hm.best]
                by_cases hrc : other.result.rc = .result
                · rw [if_pos hrc, ← toResult_final hrc]
                  rfl
                · rw [if_neg hrc, hm.fresh hrc]
                  rfl
              rw [toCallback_lastCalls, if_pos href, hword]
              simp only [href, if_true, Machine.run_singleton]
              have hopen : ∀ r ∈ client.requests, r.ref = ref → r.requestHandle = client.newHandle :=
                fun r hr hr' => by rw [eq_of_ref_eq hdist.refs hr hmem (hr'.trans href.symm), hhandle]
              simp only [Collector.machine, Collector.step, hm.phase]
              cases hw : other.waitingMinDelay with
              | true =>
                  refine ⟨h.withRequest (fun heq => absurd heq hnew) (fun _ _ _ _ => rfl) ?_, rfl⟩
                  exact fun _ hne => absurd hhandle (hne other hmem href)
              | false =>
                  refine ⟨h.withRequest (fun heq => absurd heq hnew) (fun _ _ _ _ => rfl) ?_, rfl⟩
                  exact fun _ hne => absurd hhandle (hne other hmem href)
            · simp only [toCallback_lastCalls, if_neg href, Machine.run_nil]
              refine ⟨h.withRequest (fun heq => absurd heq hnew) ?_ fun _ _ => rfl, rfl⟩
              intro r hr hr' hrhandle
              rw [eq_of_handle_eq hdist hr hmem (hrhandle.trans hhandle.symm)] at hr'
              exact absurd hr' href

end Step

/-- **Every call is followed by the collector of a request.** -/
theorem simulates (ref : Nat) : (machine lib).Simulates (Collector.machine age) (Follows ref)
    (inputs lib ref) (toCallback ref) (fun x => [toResult x]) := by
  have hstep : ∀ client t op, Follows ref client t → StepFollows lib ref client t op := by
    intro client t op h
    cases op with
    | request query handling => exact stepFollows_request h query handling
    | rxResult requestHandle result => exact stepFollows_rxResult h requestHandle result
    | timeout ref' => exact stepFollows_timeout h ref'
    | requestCancel requestHandle => exact stepFollows_requestCancel h requestHandle
  refine ⟨fun client t op h => (hstep client t op h).1, ?_⟩
  intro client t op h
  rw [← List.map_eq_flatMap]
  exact (hstep client t op h).2

end MslookupClient
end OsmoHlr
