import OsmoHlr.Mslookup.ClientHandles

/-!
# What the callback of a request is told

* `lifecycle` — from the first result to the last callback of a request.
* `youngest_wins` — the youngest answer wins, in whatever order answers come in.
-/

namespace OsmoHlr
namespace MslookupClient

open Mslookup (Query Result ResultCode)
open Collector (Input Output State)
open CString

variable (lib : Libosmocore)

/-- The client behind a run from the start. -/
def after (lookupMethods : List Bool) (ops : List Op) : Client :=
  ((machine lib).run (Client.new lookupMethods) ops).1

/-- The successful results that come in for the request `ref` while it is open. -/
def received (lookupMethods : List Bool) (ops : List Op) (ref : Nat) : List Result :=
  (history lib lookupMethods ops ref).filterMap Input.answer

/-- The best of them: the youngest one, and of several the first. -/
def bestResult (lookupMethods : List Bool) (ops : List Op) (ref : Nat) : Option Result :=
  (received lib lookupMethods ops ref).argmin age

/-- Whether the timer of a request is its final one. -/
def Request.isFinal (r : Request) : Bool := !r.waitingMinDelay || r.handling.stops

/-! ## The collector of a request -/

/-- The collector of the request `ref` behind a run from the start. -/
def collected (lookupMethods : List Bool) (ops : List Op) (ref : Nat) :
    State Result × List (Output Result) :=
  (Collector.machine age).run Collector.init (history lib lookupMethods ops ref)

variable {lib} {lookupMethods : List Bool} {ops : List Op} {ref : Nat}

theorem follows_new (lookupMethods : List Bool) (ref : Nat) :
    Follows ref (Client.new lookupMethods) Collector.init where
  wellFormed := wellFormed_new lookupMethods
  isOpen := by simp [Client.new]
  closed := fun _ hlt => absurd hlt (Nat.not_lt_zero ref)
  unborn := fun _ => rfl

theorem follows (lib : Libosmocore) (lookupMethods : List Bool) (ops : List Op) (ref : Nat) :
    Follows ref (after lib lookupMethods ops) (collected lib lookupMethods ops ref).1 :=
  ((simulates lib ref).run (follows_new lookupMethods ref) ops).1

/-- **The callbacks of a request are what its collector tells.** -/
theorem callbacks_eq (lib : Libosmocore) (lookupMethods : List Bool) (ops : List Op) (ref : Nat) :
    callbacks lib lookupMethods ops ref = (collected lib lookupMethods ops ref).2.map toResult := by
  have hout := ((simulates lib ref).run (follows_new lookupMethods ref) ops).2
  rw [← List.map_eq_flatMap] at hout
  exact hout

theorem history_concat (ops : List Op) (op : Op) :
    history lib lookupMethods (ops ++ [op]) ref = history lib lookupMethods ops ref ++
      inputs lib ref (after lib lookupMethods ops) op :=
  (machine lib).view_concat _ _ _ _

theorem collected_concat (ops : List Op) (op : Op) :
    (collected lib lookupMethods (ops ++ [op]) ref).1 =
      ((Collector.machine age).run (collected lib lookupMethods ops ref).1
        (inputs lib ref (after lib lookupMethods ops) op)).1 := by
  rw [collected, history_concat, Machine.run_append]
  rfl

/-- A request that is open has an open collector. -/
theorem Matches.isOpen {r : Request} {t : State Result} (hm : Matches r t) :
    t.phase.isOpen = true := by
  rw [hm.phase]
  cases r.waitingMinDelay <;> rfl

/-- The collector keeps the results that come in. -/
theorem received_collected (lib : Libosmocore) (lookupMethods : List Bool) (ops : List Op)
    (ref : Nat) : (collected lib lookupMethods ops ref).1.received =
      received lib lookupMethods ops ref := by
  induction ops using List.reverseRecOn with
  | nil => rfl
  | append_singleton ops op ih =>
      rw [collected_concat, received, history_concat, List.filterMap_append]
      rw [received] at ih
      by_cases hrx : ∃ requestHandle result, op = .rxResult requestHandle result
      · obtain ⟨requestHandle, result, rfl⟩ := hrx
        have hfollows := follows lib lookupMethods ops ref
        cases hget : getRequest (after lib lookupMethods ops) requestHandle with
        | none =>
            simp only [inputs, hget]
            rw [Machine.run_nil, ih]
            exact (List.append_nil _).symm
        | some r =>
            obtain ⟨hmem, -⟩ := (getRequest_eq_some_iff hfollows.wellFormed.toDistinct).1 hget
            simp only [inputs, hget]
            by_cases hown : r.ref = ref ∧ result.rc = .result
            · have hm := hfollows.isOpen r hmem hown.1
              rw [if_pos hown, Machine.run_singleton, ← ih]
              exact Collector.received_step age _ _ (Or.inl hm.isOpen)
            · rw [if_neg hown, Machine.run_nil, ih]
              exact (List.append_nil _).symm
      · -- no other call brings an answer
        have hnone : ∀ i ∈ inputs lib ref (after lib lookupMethods ops) op, i.answer = none := by
          intro i hi
          rcases mem_inputs hi with ⟨_, _, -, rfl | ⟨_, _, rfl⟩⟩ | ⟨_, _, _, hop, -⟩ |
            ⟨_, _, -, -, -, rfl⟩ | ⟨_, _, -, -, -, rfl⟩
          · rfl
          · rfl
          · exact absurd ⟨_, _, hop⟩ hrx
          · rfl
          · rfl
        rw [Collector.received_run age hnone, ih, List.filterMap_eq_nil_iff.2 hnone,
          List.append_nil]

/-- What is kept of a result is a successful one. -/
theorem of_mem_received {a : Result} (ha : a ∈ received lib lookupMethods ops ref) :
    a.rc = .result ∧ a.last = false := by
  obtain ⟨i, hi, hia⟩ := List.mem_filterMap.1 ha
  obtain ⟨pre, op, post, -, hi⟩ := (machine lib).mem_view.1 hi
  rcases mem_inputs hi with ⟨_, _, -, rfl | ⟨_, _, rfl⟩⟩ | ⟨_, result, _, -, -, -, hrc, rfl⟩ |
    ⟨_, _, -, -, -, rfl⟩ | ⟨_, _, -, -, -, rfl⟩
  · cases hia
  · cases hia
  · cases hia
    exact ⟨hrc, rfl⟩
  · cases hia
  · cases hia

/-! ## When a request is over -/

/-- Nothing follows what closes the collector. -/
theorem collected_of_closed {pre : List Op} {op : Op} {i : Input Result} (post : List Op)
    (hinputs : inputs lib ref (after lib lookupMethods pre) op = [i])
    (hclosed : (Collector.step age (collected lib lookupMethods pre ref).1 i).1.phase = .closed) :
    collected lib lookupMethods (pre ++ op :: post) ref =
      ((Collector.step age (collected lib lookupMethods pre ref).1 i).1,
        (collected lib lookupMethods pre ref).2 ++
          (Collector.step age (collected lib lookupMethods pre ref).1 i).2) := by
  have hhistory : history lib lookupMethods (pre ++ op :: post) ref =
      history lib lookupMethods pre ref ++ (i :: (machine lib).view (inputs lib ref)
        (step lib (after lib lookupMethods pre) op).1 post) := by
    rw [history, Machine.view_append, Machine.view]
    exact congrArg _ (congrArg (· ++ _) hinputs)
  have hrest : ∀ (c : State Result) (is : List (Input Result)), c.phase = .closed →
      (Collector.machine age).run c is = (c, []) := by
    rintro ⟨phase, l⟩ is rfl
    exact Collector.run_closed age l is
  rw [collected, hhistory, Machine.run_append, Machine.run_cons]
  show (((Collector.machine age).run (Collector.step age (collected lib lookupMethods pre ref).1
    i).1 _).1, _ ++ (_ ++ ((Collector.machine age).run (Collector.step age (collected lib
      lookupMethods pre ref).1 i).1 _).2)) = _
  rw [hrest _ _ hclosed, List.append_nil]
  rfl

/-- The final timer ends a request. -/
theorem phase_of_isFinal {pre post : List Op} {r : Request}
    (hlookup : (after lib lookupMethods pre).lookup ref = some r) (hfinal : r.isFinal = true) :
    (collected lib lookupMethods (pre ++ .timeout ref :: post) ref).1.phase = .closed := by
  have hfollows := follows lib lookupMethods pre ref
  obtain ⟨hmem, href⟩ := (lookup_eq_some_iff hfollows.wellFormed.refs).1 hlookup
  have hinputs : inputs lib ref (after lib lookupMethods pre) (.timeout ref) = [.timer] := by
    simp only [inputs, hlookup, if_pos href]
  have hclosed : (Collector.step age (collected lib lookupMethods pre ref).1
      .timer).1.phase = .closed := by
    simp only [Collector.step, (hfollows.isOpen r hmem href).phase]
    unfold Request.isFinal at hfinal
    cases hw : r.waitingMinDelay with
    | false => rfl
    | true =>
        have hstops : r.handling.stops = true := by simpa [hw] using hfinal
        rw [hstops]
        rfl
  rw [collected_of_closed post hinputs hclosed]
  exact hclosed

/-- So does cancelling it, and nothing is told. -/
theorem collected_of_cancel {pre : List Op} {op : Op} (post : List Op)
    (hcancel : .cancel ∈ inputs lib ref (after lib lookupMethods pre) op) :
    (collected lib lookupMethods (pre ++ op :: post) ref).2 =
      (collected lib lookupMethods pre ref).2 := by
  have hfollows := follows lib lookupMethods pre ref
  rcases mem_inputs hcancel with ⟨_, _, -, hi | ⟨_, _, hi⟩⟩ | ⟨_, _, _, -, -, -, -, hi⟩ |
    ⟨_, _, -, -, -, hi⟩ | ⟨requestHandle, r, rfl, hget, href, -⟩
  · cases hi
  · cases hi
  · cases hi
  · cases hi
  · obtain ⟨hmem, -⟩ := (getRequest_eq_some_iff hfollows.wellFormed.toDistinct).1 hget
    have hinputs : inputs lib ref (after lib lookupMethods pre) (.requestCancel requestHandle) =
        [.cancel] := by
      simp only [inputs, hget, if_pos href]
    have hstep : Collector.step age (collected lib lookupMethods pre ref).1 .cancel =
        ({ (collected lib lookupMethods pre ref).1 with phase := .closed }, []) := by
      simp only [Collector.step, (hfollows.isOpen r hmem href).phase]
      cases r.waitingMinDelay <;> rfl
    rw [collected_of_closed post hinputs (by rw [hstep]), hstep]
    exact List.append_nil _

/-- A request that has been launched and is not open any more is over. -/
theorem phase_of_lookup (hborn : ref < (after lib lookupMethods ops).allocated)
    (hgone : (after lib lookupMethods ops).lookup ref = none) :
    (collected lib lookupMethods ops ref).1.phase = .closed :=
  (follows lib lookupMethods ops ref).closed hgone hborn

/-! ## Callbacks -/

theorem last_toResult (x : Output Result) : (toResult x).last = x.isLast := by
  cases x <;> rfl

/-- A result that was received is told as it is. -/
theorem toResult_interim_of_mem {a : Result} (ha : a ∈ received lib lookupMethods ops ref) :
    toResult (.interim a) = a := by
  obtain ⟨hrc, hlast⟩ := of_mem_received ha
  rw [toResult, ← hrc, ← hlast]

/-- **The last callback of a request.** -/
theorem last_callback {pre post : List Result} {x : Result}
    (hcallbacks : callbacks lib lookupMethods ops ref = pre ++ x :: post) (hx : x.last = true) :
    post = [] ∧ ∃ is y, x = toResult y ∧ y.isLast = true ∧
      pre = is.map (fun a => toResult (.interim a)) ∧ Collector.Decreasing age is ∧
      Collector.LastWord age (history lib lookupMethods ops ref)
        (collected lib lookupMethods ops ref).1 is y := by
  rw [callbacks_eq] at hcallbacks
  obtain ⟨pre', rest, hout, rfl, hrest⟩ := List.map_eq_append_iff.1 hcallbacks
  obtain ⟨y, post', rfl, rfl, rfl⟩ := List.map_eq_cons_iff.1 hrest
  rw [last_toResult] at hx
  obtain ⟨rfl, is, rfl, hdec, hlast⟩ := Collector.lastWord_of_isLast age hout hx
  exact ⟨rfl, is, y, rfl, hx, by rw [List.map_map]; rfl, hdec, hlast⟩

theorem bestResult_eq (lib : Libosmocore) (lookupMethods : List Bool) (ops : List Op) (ref : Nat) :
    Collector.best age (collected lib lookupMethods ops ref).1 =
      bestResult lib lookupMethods ops ref := by
  rw [Collector.best, received_collected]
  rfl

/-- One last callback, for a request that is over and was not cancelled. -/
theorem countP_last (hclosed : (collected lib lookupMethods ops ref).1.phase = .closed)
    (hcancel : .cancel ∉ history lib lookupMethods ops ref) :
    (callbacks lib lookupMethods ops ref).countP Result.last = 1 := by
  have ht := Collector.outputs_of_run age (history lib lookupMethods ops ref)
  unfold Collector.Told at ht
  rw [show ((Collector.machine age).run Collector.init (history lib lookupMethods ops ref)).1.phase =
    .closed from hclosed] at ht
  obtain ⟨is, -, ⟨hmem, -⟩ | ⟨x, hx, hout⟩⟩ := ht
  · exact absurd hmem hcancel
  · have hinterim : (is.map Output.interim).countP (Result.last ∘ toResult) = 0 := by
      rw [List.countP_eq_zero]
      intro y hy
      obtain ⟨a, -, rfl⟩ := List.mem_map.1 hy
      exact Bool.false_ne_true
    have hlast : (Result.last ∘ toResult) x = true := by
      rw [Function.comp_apply, last_toResult]
      cases x with
      | interim a => exact absurd hx id
      | _ => rfl
    rw [callbacks_eq, collected, hout, List.countP_map, List.countP_append, hinterim,
      List.countP_singleton, if_pos hlast]

/-- The ages of the callbacks that are not last. -/
theorem pairwise_age (lib : Libosmocore) (lookupMethods : List Bool) (ops : List Op) (ref : Nat) :
    ((callbacks lib lookupMethods ops ref).filter fun x => !x.last).Pairwise
      fun x y => y.age < x.age := by
  obtain ⟨is, hdec, hout⟩ := Collector.exists_interim age (history lib lookupMethods ops ref)
  have hinterim : ((is.map Output.interim).map toResult).filter (fun x => !x.last) =
      is.map fun a => toResult (.interim a) := by
    rw [List.map_map, List.filter_eq_self.2]
    · rfl
    · intro x hx
      obtain ⟨a, -, rfl⟩ := List.mem_map.1 hx
      rfl
  have hfilter : (callbacks lib lookupMethods ops ref).filter (fun x => !x.last) =
      is.map fun a => toResult (.interim a) := by
    rw [callbacks_eq, collected]
    rcases hout with hout | ⟨x, hx, hout⟩
    · rw [hout, hinterim]
    · have hlast : (toResult x).last = true := by
        rw [last_toResult]
        cases x with
        | interim a => exact absurd hx id
        | _ => rfl
      rw [hout, List.map_append, List.filter_append, hinterim]
      simp [hlast]
  rw [hfilter, List.pairwise_map]
  exact hdec.imp fun {a b} hab => UInt32.lt_iff_toNat_lt.2 hab

/-- What the last callback says, if the request did not have to make room. -/
theorem rc_of_last (hevict : .evict ∉ history lib lookupMethods ops ref) {x : Result}
    (hmem : x ∈ callbacks lib lookupMethods ops ref) (hx : x.last = true) :
    (x.rc = .notFound ↔ received lib lookupMethods ops ref = []) ∧
    (x.rc = .none ↔ ∃ b, bestResult lib lookupMethods ops ref = some b ∧
      { b with last := false } ∈ callbacks lib lookupMethods ops ref) ∧
    (x.rc ≠ .notFound → x.rc ≠ .none → x.rc = .result ∧
      ∃ b, bestResult lib lookupMethods ops ref = some b ∧ x = { b with last := true }) := by
  obtain ⟨pre, post, hcallbacks⟩ := List.append_of_mem hmem
  obtain ⟨rfl, is, y, rfl, hlast, rfl, -, hword⟩ := last_callback hcallbacks hx
  have hbest := bestResult_eq lib lookupMethods ops ref
  have hreceived := received_collected lib lookupMethods ops ref
  have hself : ∀ b, bestResult lib lookupMethods ops ref = some b →
      b ∈ received lib lookupMethods ops ref := fun b hb => List.argmin_mem hb
  have hplain : ∀ b ∈ received lib lookupMethods ops ref, { b with last := false } = b := by
    intro b hb
    rw [← (of_mem_received hb).2]
  have hnone : received lib lookupMethods ops ref = [] →
      ¬ ∃ b, bestResult lib lookupMethods ops ref = some b ∧
        { b with last := false } ∈ callbacks lib lookupMethods ops ref := by
    rintro hnil ⟨b, hb, -⟩
    have hmem := hself b hb
    rw [hnil] at hmem
    cases hmem
  cases y with
  | interim a => cases hlast
  | final a =>
      obtain ⟨ha, hnew⟩ := hword
      rw [hbest] at ha
      have hrec := hself a ha
      refine ⟨⟨fun h => (by cases h), fun h => (by rw [h] at hrec; cases hrec)⟩, ?_, ?_⟩
      · refine ⟨fun h => (by cases h), ?_⟩
        rintro ⟨b, hb, htold⟩
        -- the best result was not told before
        obtain rfl : a = b := Option.some_inj.1 (ha.symm.trans hb)
        rw [hplain a hrec, hcallbacks] at htold
        rcases List.mem_append.1 htold with htold | htold
        · obtain ⟨c, hc, hca⟩ := List.mem_map.1 htold
          have hlt : age a < age c := hnew.resolve_right hevict c hc
          rw [← hca] at hlt
          exact absurd hlt (lt_irrefl (age c))
        · rw [List.mem_singleton.1 htold] at hrec
          exact absurd (of_mem_received hrec).2 Bool.true_eq_false.mp
      · intro _ _
        refine ⟨rfl, a, ha, ?_⟩
        rw [toResult, ← (of_mem_received hrec).1]
  | ended a =>
      obtain ⟨ha, hgl⟩ := hword
      rw [hbest] at ha
      have hrec := hself a ha
      refine ⟨⟨fun h => (by cases h), fun h => (by rw [h] at hrec; cases hrec)⟩, ?_, ?_⟩
      · refine ⟨fun _ => ⟨a, ha, ?_⟩, fun _ => rfl⟩
        rw [hplain a hrec, hcallbacks]
        refine List.mem_append_left _ (List.mem_map.2 ⟨a, List.mem_of_getLast? hgl, ?_⟩)
        exact toResult_interim_of_mem hrec
      · exact fun _ hne => absurd rfl hne
  | nothing =>
      have hnil := hreceived.symm.trans hword.1
      refine ⟨⟨fun _ => hnil, fun _ => rfl⟩, ⟨fun h => (by cases h), fun h => ?_⟩, ?_⟩
      · exact absurd h (hnone hnil)
      · exact fun hne _ => absurd rfl hne
  | abandoned => exact absurd hword.2.2 hevict

/-! ## The life of a request -/

/-- **The life of a request**, in every run with fewer than 2^32 of them.  A request whose final
timer has expired and that was not cancelled has been told one last result; after a last result
or a cancel nothing more is told; results that are not last are younger and younger; and the last
one says `notFound` if no result came in, `none` if the best one was told already, and the best
one otherwise. -/
theorem lifecycle (lib : Libosmocore) (lookupMethods : List Bool) (ops : List Op) (ref : Nat)
    (hwrap : (after lib lookupMethods ops).allocated < 2 ^ 32) :
    (∀ pre post r, ops = pre ++ .timeout ref :: post →
      (after lib lookupMethods pre).lookup ref = some r → r.isFinal = true →
      .cancel ∉ history lib lookupMethods ops ref →
        (callbacks lib lookupMethods ops ref).countP Result.last = 1) ∧
    (∀ pre x post, callbacks lib lookupMethods ops ref = pre ++ x :: post → x.last = true →
      post = []) ∧
    (∀ pre op post, ops = pre ++ op :: post →
      .cancel ∈ inputs lib ref (after lib lookupMethods pre) op →
        callbacks lib lookupMethods ops ref = callbacks lib lookupMethods pre ref) ∧
    ((callbacks lib lookupMethods ops ref).filter fun x => !x.last).Pairwise
      (fun x y => y.age < x.age) ∧
    ∀ x ∈ callbacks lib lookupMethods ops ref, x.last = true →
      (x.rc = .notFound ↔ received lib lookupMethods ops ref = []) ∧
      (x.rc = .none ↔ ∃ b, bestResult lib lookupMethods ops ref = some b ∧
        { b with last := false } ∈ callbacks lib lookupMethods ops ref) ∧
      (x.rc ≠ .notFound → x.rc ≠ .none → x.rc = .result ∧
        ∃ b, bestResult lib lookupMethods ops ref = some b ∧ x = { b with last := true }) := by
  refine ⟨?_, ?_, ?_, pairwise_age lib lookupMethods ops ref, ?_⟩
  · rintro pre post r rfl hlookup hfinal hcancel
    exact countP_last (phase_of_isFinal hlookup hfinal) hcancel
  · intro pre x post hcallbacks hx
    exact (last_callback hcallbacks hx).1
  · rintro pre op post rfl hcancel
    rw [callbacks_eq, callbacks_eq, collected_of_cancel post hcancel]
  · intro x hmem hx
    exact rc_of_last (evict_not_mem_history lib lookupMethods ops ref hwrap) hmem hx

/-- Two results arrive, the second one younger, and then the time is up. -/
def twoResults : List Op :=
  [.request gsupHlrQuery ⟨0, 300⟩, .rxResult 1 (resultOfAge 5), .rxResult 1 (resultOfAge 3),
    .timeout 0]

/-- The life of that request. -/
theorem lifecycle_twoResults :
    (callbacks Host.libosmocore [true] twoResults 0).countP Result.last = 1 ∧
    ∀ x ∈ callbacks Host.libosmocore [true] twoResults 0, x.last = true → x.rc ≠ .notFound := by
  have h := lifecycle Host.libosmocore [true] twoResults 0 (by decide +kernel)
  refine ⟨h.1 (twoResults.take 3) [] _ rfl rfl (by decide +kernel) (by decide +kernel), ?_⟩
  intro x hx hlast hrc
  exact absurd ((h.2.2.2.2 x hx hlast).1.1 hrc) (by decide +kernel)

/-! ## The youngest answer wins -/

/-- The ages of the results that are told, last or not. -/
theorem ages_of_results (out : List (Output Result)) :
    ((out.map toResult).filter fun x => x.rc = .result).map Result.age =
      (out.filterMap Output.answer).map Result.age := by
  induction out with
  | nil => rfl
  | cons x out ih =>
      cases x with
      | interim a => simpa [toResult, Output.answer] using ih
      | final a => simpa [toResult, Output.answer] using ih
      | ended a => simpa [toResult, List.filterMap_cons, Output.answer] using ih
      | nothing => simpa [toResult, List.filterMap_cons, Output.answer] using ih
      | abandoned => simpa [toResult, List.filterMap_cons, Output.answer, Result.zero] using ih

/-- The code, the age and the place of a callback depend on ages only. -/
theorem signature_toResult {x y : Output Result} (h : x.map age = y.map age) :
    ((toResult x).rc, (toResult x).age, (toResult x).last) =
      ((toResult y).rc, (toResult y).age, (toResult y).last) := by
  cases x <;> cases y <;> simp_all [Output.map, toResult, age, UInt32.toNat_inj]

/-- **The youngest answer wins.**  The last `RESULT` callback of a request that has ended without
being cancelled has the least age of all results that came in; and in two runs in which the same
results, none of them of age 0, come in during the minimum wait in any order, the callback sees
the same codes and ages. -/
theorem youngest_wins (lib : Libosmocore) :
    (∀ lookupMethods ops ref, ref < (after lib lookupMethods ops).allocated →
      (after lib lookupMethods ops).lookup ref = none →
      .cancel ∉ history lib lookupMethods ops ref → received lib lookupMethods ops ref ≠ [] →
      ∃ x, ((callbacks lib lookupMethods ops ref).filter fun x => x.rc = .result).getLast? = some x ∧
        (∃ a ∈ received lib lookupMethods ops ref, a.age = x.age) ∧
        ∀ a ∈ received lib lookupMethods ops ref, x.age ≤ a.age) ∧
    ∀ lookupMethods ops ref lookupMethods' ops' ref' stops (as as' : List Result) is,
      history lib lookupMethods ops ref = .start true stops :: (as.map .received ++ is) →
      history lib lookupMethods' ops' ref' = .start true stops :: (as'.map .received ++ is) →
      as.Perm as' → (∀ a ∈ as, a.age ≠ 0) →
      (callbacks lib lookupMethods ops ref).map (fun x => (x.rc, x.age, x.last)) =
        (callbacks lib lookupMethods' ops' ref').map (fun x => (x.rc, x.age, x.last)) := by
  refine ⟨?_, ?_⟩
  · intro lookupMethods ops ref hborn hgone hcancel hne
    have hbest := bestResult_eq lib lookupMethods ops ref
    have hanswers := Collector.getLast?_answers age (phase_of_lookup hborn hgone) hcancel
      (by rw [← collected, received_collected]; exact hne)
    obtain ⟨b, hb⟩ : ∃ b, bestResult lib lookupMethods ops ref = some b :=
      Option.ne_none_iff_exists'.1 (mt List.argmin_eq_none.1 hne)
    have hages := congrArg List.getLast? (ages_of_results (collected lib lookupMethods ops ref).2)
    rw [← callbacks_eq, List.getLast?_map, List.getLast?_map] at hages
    rw [collected] at hbest hages
    rw [hanswers, hbest, hb] at hages
    obtain ⟨x, hx, hage⟩ := Option.map_eq_some_iff.1 hages
    refine ⟨x, hx, ⟨b, List.argmin_mem hb, hage.symm⟩, ?_⟩
    intro a ha
    rw [hage, UInt32.le_iff_toNat_le]
    show age b ≤ age a
    exact List.le_of_mem_argmin ha hb
  · intro lookupMethods ops ref lookupMethods' ops' ref' stops as as' is hh hh' hperm h0
    have hbot : ∀ a ∈ as, age a ≠ ⊥ := by
      intro a ha hage
      exact h0 a ha (UInt32.toNat_inj.1 hage)
    have hsame := Collector.run_perm age hperm hbot stops is
    rw [callbacks_eq, callbacks_eq, collected, collected, hh, hh', List.map_map, List.map_map]
    generalize ((Collector.machine age).run _ (.start true stops :: (as.map .received ++ is))).2 = o
      at hsame ⊢
    generalize ((Collector.machine age).run _ (.start true stops :: (as'.map .received ++ is))).2 = o'
      at hsame ⊢
    induction o generalizing o' with
    | nil =>
        rw [List.map_nil, eq_comm, List.map_eq_nil_iff] at hsame
        rw [hsame]
    | cons x o ih =>
        rw [List.map_cons, eq_comm, List.map_eq_cons_iff] at hsame
        obtain ⟨y, o', rfl, hxy, hrest⟩ := hsame
        rw [List.map_cons, List.map_cons, ih o' hrest.symm]
        exact congrArg (· :: _) (signature_toResult hxy.symm)

/-- Three results come in while the client waits, in this order of ages. -/
def waitingFor (ages : List UInt32) : List Op :=
  .request gsupHlrQuery ⟨100, 300⟩ :: (ages.map fun n => .rxResult 1 (resultOfAge n)) ++
    [.timeout 0, .timeout 0]

/-- Two orders of three answers: the youngest one wins in both. -/
theorem youngest_wins_waitingFor :
    (∃ x, ((callbacks Host.libosmocore [] (waitingFor [7, 3, 5]) 0).filter
        fun x => x.rc = .result).getLast? = some x ∧
      ∀ a ∈ received Host.libosmocore [] (waitingFor [7, 3, 5]) 0, x.age ≤ a.age) ∧
    (callbacks Host.libosmocore [] (waitingFor [7, 3, 5]) 0).map (fun x => (x.rc, x.age, x.last)) =
      (callbacks Host.libosmocore [] (waitingFor [5, 7, 3]) 0).map
        (fun x => (x.rc, x.age, x.last)) := by
  have h := youngest_wins Host.libosmocore
  constructor
  · obtain ⟨x, hx, -, hle⟩ := h.1 [] (waitingFor [7, 3, 5]) 0 (by decide +kernel)
      (by decide +kernel) (by decide +kernel) (by decide +kernel)
    exact ⟨x, hx, hle⟩
  · exact h.2 [] (waitingFor [7, 3, 5]) 0 [] (waitingFor [5, 7, 3]) 0 false
      ([7, 3, 5].map resultOfAge) ([5, 7, 3].map resultOfAge) [.timer, .timer]
      (by decide +kernel) (by decide +kernel) (by decide +kernel) (by decide +kernel)

end MslookupClient
end OsmoHlr
