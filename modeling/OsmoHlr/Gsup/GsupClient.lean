import OsmoHlr.Lib.Machine

/-!
# The GSUP client

`src/gsupclient/gsup_client.c`: a client keeps a link to a GSUP server.  Two
timers and the callbacks of the link work on it: the connect timer tries again to
connect, the ping timer sees whether the server still answers.

* `gsupClientConnect`, `gsupClientUpdownCb`, `gsupClientReadCb`, `connectTimerCb`,
  `pingTimerCb` — the callbacks, over the two timers, the flags and the link.
* `clientMachine` — all that can happen, one event after the other.
* `goesOn_run` — a client from which neither `up_down_cb` nor the link has taken
  the hope waits for something.
-/

namespace OsmoHlr
namespace GsupClient

/-! ## The client -/

/-- Error codes of `ipa_client_conn_open` on which a client does not try again. -/
def ebadf : Int := -9
def enotsock : Int := -88
def eafnosupport : Int := -97
def einval : Int := -22

/-- The `enum` behind `link->state`, as far as the client can tell. -/
inductive LinkState where
  | closed
  /-- `ipa_client_conn_open` was successful, and there was no callback since. -/
  | connecting
  | up
  deriving DecidableEq

/-- `struct osmo_gsup_client` -/
structure Client where
  link : LinkState
  /-- Whether `ping_timer` is pending. -/
  pingTimer : Bool
  /-- Whether `connect_timer` is pending. -/
  connectTimer : Bool
  isConnected : Bool
  gotIpaPong : Bool
  /-- Whether there is an `up_down_cb`. -/
  upDownCb : Bool
  deriving DecidableEq

/-- `*gsupc = (struct osmo_gsup_client){...}` -/
def Client.new (upDownCb : Bool) : Client := ⟨.closed, false, false, false, false, upDownCb⟩

/-- What the client calls. -/
inductive Call where
  /-- `up_down_cb`, with what it returns. -/
  | upDownCb (up : Bool) (ret : Bool)
  /-- `ipa_client_conn_open`, with its return code. -/
  | connOpen (rc : Int)
  | connClose
  | sendPing
  deriving DecidableEq

/-- `rc == -EBADF || rc == -ENOTSOCK || rc == -EAFNOSUPPORT || rc == -EINVAL` -/
def IsPermanent (rc : Int) : Prop := rc = ebadf ∨ rc = enotsock ∨ rc = eafnosupport ∨ rc = einval

instance (rc : Int) : Decidable (IsPermanent rc) :=
  inferInstanceAs (Decidable (_ ∨ _ ∨ _ ∨ _))

theorem IsPermanent.neg {rc : Int} (h : IsPermanent rc) : rc < 0 := by
  rcases h with rfl | rfl | rfl | rfl <;> decide

/-- `gsup_client_connect`, when `ipa_client_conn_open` returns `openRc`: the return code, the client
and what was called. -/
def gsupClientConnect (gsupc : Client) (openRc : Int) : Int × Client × List Call :=
  if gsupc.isConnected then (0, gsupc, [])
  else
    let gsupc := { gsupc with connectTimer := false, pingTimer := false }
    if 0 ≤ openRc then (0, { gsupc with link := .connecting }, [.connOpen openRc])
    else
      let gsupc := { gsupc with link := .closed }
      if IsPermanent openRc then (openRc, gsupc, [.connOpen openRc])
      else (0, { gsupc with connectTimer := true }, [.connOpen openRc])

/-- `osmo_gsup_client_create3`, by what `osmo_oap_client_init`, `ipa_client_conn_create2` and
`ipa_client_conn_open` return; `none` is the null pointer. -/
def osmoGsupClientCreate3 (upDownCb : Bool) (oapRc : Int) (link : Bool) (openRc : Int) :
    Option Client :=
  if oapRc ≠ 0 then none
  else if !link then none
  else
    let connect := gsupClientConnect (Client.new upDownCb) openRc
    if connect.1 < 0 then none else some connect.2.1

/-- `start_test_procedure` -/
def startTestProcedure (gsupc : Client) : Client × List Call :=
  ({ gsupc with gotIpaPong := false, pingTimer := true }, [.sendPing])

/-- `gsupc->up_down_cb(gsupc, up)`, if there is one. -/
def callUpDownCb (gsupc : Client) (up ret : Bool) : List Call :=
  if gsupc.upDownCb then [.upDownCb up ret] else []

/-- The user asks not to connect again. -/
def Declines (gsupc : Client) (ret : Bool) : Prop := gsupc.upDownCb = true ∧ ret = false

instance (gsupc : Client) (ret : Bool) : Decidable (Declines gsupc ret) :=
  inferInstanceAs (Decidable (_ ∧ _))

/-- `gsup_client_updown_cb`, when `up_down_cb` returns `ret`.  With OAP there is one more message to
send when the link is up. -/
def gsupClientUpdownCb (gsupc : Client) (up ret : Bool) : Client × List Call :=
  let gsupc := { gsupc with isConnected := up }
  if up then
    let test := startTestProcedure gsupc
    ({ test.1 with connectTimer := false }, test.2 ++ callUpDownCb gsupc true ret)
  else
    let gsupc := { gsupc with pingTimer := false }
    if Declines gsupc ret then (gsupc, callUpDownCb gsupc false ret)
    else ({ gsupc with connectTimer := true }, callUpDownCb gsupc false ret)

/-- `IPAC_MSGT_PONG` -/
def ipacMsgtPong : UInt8 := 1

/-- `gsup_client_read_cb`, by what `ipaccess_bts_handle_ccm` returns for the message, and by the
first byte of it.  With a negative return code the link has been closed.  Messages of other
protocols are handed on. -/
def gsupClientReadCb (gsupc : Client) (ccmRc : Int) (msgType : UInt8) : Client :=
  if ccmRc < 0 then { gsupc with link := .closed, isConnected := false }
  else if ccmRc = 1 then
    if msgType = ipacMsgtPong then { gsupc with gotIpaPong := true } else gsupc
  else gsupc

/-- `connect_timer_cb`, when `up_down_cb` returns `ret` and `ipa_client_conn_open` returns
`openRc`. -/
def connectTimerCb (gsupc : Client) (ret : Bool) (openRc : Int) : Client × List Call :=
  if gsupc.isConnected then (gsupc, [])
  else if Declines gsupc ret then (gsupc, callUpDownCb gsupc false ret)
  else
    let connect := gsupClientConnect gsupc openRc
    (connect.2.1, callUpDownCb gsupc false ret ++ connect.2.2)

/-- `ping_timer_cb`, when `ipa_client_conn_open` returns `openRc`. -/
def pingTimerCb (gsupc : Client) (openRc : Int) : Client × List Call :=
  if gsupc.gotIpaPong then startTestProcedure gsupc
  else
    let connect := gsupClientConnect { gsupc with link := .closed, isConnected := false } openRc
    (connect.2.1, .connClose :: connect.2.2)

/-! ## One event after the other -/

/-- What happens to the client, with what its callbacks and the link return on it. -/
inductive Event where
  | up (ret : Bool)
  | down (ret : Bool)
  | read (ccmRc : Int) (msgType : UInt8)
  | connectTimer (ret : Bool) (openRc : Int)
  | pingTimer (openRc : Int)
  deriving DecidableEq

/-- What an event does.  Messages come in over a link that is up, and a timer that is not pending
does not expire; one that expires is not pending any more. -/
def step (gsupc : Client) : Event → Client × List Call
  | .up ret => gsupClientUpdownCb { gsupc with link := .up } true ret
  | .down ret => gsupClientUpdownCb { gsupc with link := .closed } false ret
  | .read ccmRc msgType =>
      if gsupc.link = .up then (gsupClientReadCb gsupc ccmRc msgType, []) else (gsupc, [])
  | .connectTimer ret openRc =>
      if gsupc.connectTimer then connectTimerCb { gsupc with connectTimer := false } ret openRc
      else (gsupc, [])
  | .pingTimer openRc =>
      if gsupc.pingTimer then pingTimerCb { gsupc with pingTimer := false } openRc else (gsupc, [])

/-- The client as a machine. -/
def clientMachine : Machine Client Event Call := ⟨step⟩

/-! ## The client goes on -/

/-- A call after which the client is not to try again: `up_down_cb` returned false for a link that
is down, or connecting failed for good. -/
def Call.GivesUp : Call → Prop
  | .upDownCb up ret => up = false ∧ ret = false
  | .connOpen openRc => IsPermanent openRc
  | _ => False

instance : DecidablePred Call.GivesUp
  | .upDownCb up ret => inferInstanceAs (Decidable (up = false ∧ ret = false))
  | .connOpen openRc => inferInstanceAs (Decidable (IsPermanent openRc))
  | .connClose => .isFalse id
  | .sendPing => .isFalse id

/-- A connection attempt is in progress, or a timer is pending. -/
def Waits (gsupc : Client) : Prop :=
  gsupc.link = .connecting ∨ gsupc.connectTimer = true ∨ gsupc.pingTimer = true

/-- A client that is connected, or whose link is up, waits for a pong. -/
structure Pings (gsupc : Client) : Prop where
  connected : gsupc.isConnected = true → gsupc.pingTimer = true
  up : gsupc.link = .up → gsupc.pingTimer = true

theorem Declines.givesUp {gsupc : Client} {ret : Bool} (h : Declines gsupc ret) :
    ∃ call ∈ callUpDownCb gsupc false ret, call.GivesUp := by
  rw [callUpDownCb, if_pos h.1]
  exact ⟨.upDownCb false ret, List.mem_singleton_self _, rfl, h.2⟩

/-- Connecting gets under way or is tried again later, or it gives up. -/
theorem gsupClientConnect_cases {gsupc : Client} (h : gsupc.isConnected = false) (openRc : Int) :
    Pings (gsupClientConnect gsupc openRc).2.1 ∧
      (Waits (gsupClientConnect gsupc openRc).2.1 ∨
        ∃ call ∈ (gsupClientConnect gsupc openRc).2.2, call.GivesUp) := by
  rw [gsupClientConnect, if_neg (by simp [h])]
  by_cases hok : 0 ≤ openRc
  · simp only [if_pos hok]
    exact ⟨⟨by simp [h], nofun⟩, Or.inl (Or.inl rfl)⟩
  simp only [if_neg hok]
  by_cases hperm : IsPermanent openRc
  · rw [if_pos hperm]
    exact ⟨⟨by simp [h], nofun⟩,
      Or.inr ⟨_, List.mem_singleton_self _, hperm⟩⟩
  · rw [if_neg hperm]
    exact ⟨⟨by simp [h], nofun⟩, Or.inl (Or.inr (Or.inl rfl))⟩

/-- Reading leaves the ping timer as it is. -/
theorem pingTimer_readCb (gsupc : Client) (ccmRc : Int) (msgType : UInt8) :
    (gsupClientReadCb gsupc ccmRc msgType).pingTimer = gsupc.pingTimer := by
  unfold gsupClientReadCb
  split
  next => rfl
  next =>
      split
      next =>
          split
          next => rfl
          next => rfl
      next => rfl

/-- **What an event leaves**: the client waits for something, or has just given up. -/
theorem step_waits {gsupc : Client} (h : Pings gsupc) (event : Event) :
    Pings (step gsupc event).1 ∧
      (Waits gsupc → Waits (step gsupc event).1 ∨ ∃ call ∈ (step gsupc event).2, call.GivesUp) := by
  cases event with
  | up ret => exact ⟨⟨fun _ => rfl, fun _ => rfl⟩, fun _ => Or.inl (Or.inr (Or.inr rfl))⟩
  | down ret =>
      simp only [step, gsupClientUpdownCb, Bool.false_eq_true, if_false]
      split
      next hdecl => exact ⟨⟨nofun, nofun⟩, fun _ => Or.inr hdecl.givesUp⟩
      next => exact ⟨⟨nofun, nofun⟩, fun _ => Or.inl (Or.inr (Or.inl rfl))⟩
  | read ccmRc msgType =>
      simp only [step]
      split
      next hup =>
          have hping := h.up hup
          rw [← pingTimer_readCb gsupc ccmRc msgType] at hping
          exact ⟨⟨fun _ => hping, fun _ => hping⟩, fun _ => Or.inl (Or.inr (Or.inr hping))⟩
      next => exact ⟨h, Or.inl⟩
  | connectTimer ret openRc =>
      simp only [step]
      split
      next =>
          unfold connectTimerCb
          split
          next hconn =>
              have hping := h.connected hconn
              exact ⟨⟨h.connected, h.up⟩, fun _ => Or.inl (Or.inr (Or.inr hping))⟩
          next hconn =>
              split
              next hdecl => exact ⟨⟨h.connected, h.up⟩, fun _ => Or.inr hdecl.givesUp⟩
              next =>
                  obtain ⟨hpings, hwaits⟩ :=
                    gsupClientConnect_cases (Bool.eq_false_iff.2 hconn) openRc
                  refine ⟨hpings, fun _ => hwaits.imp id ?_⟩
                  rintro ⟨call, hcall, hgives⟩
                  exact ⟨call, List.mem_append_right _ hcall, hgives⟩
      next => exact ⟨h, Or.inl⟩
  | pingTimer openRc =>
      simp only [step]
      split
      next =>
          unfold pingTimerCb
          split
          next => exact ⟨⟨fun _ => rfl, fun _ => rfl⟩, fun _ => Or.inl (Or.inr (Or.inr rfl))⟩
          next =>
              have hclosed : { gsupc with
                  pingTimer := false, link := .closed, isConnected := false }.isConnected = false :=
                rfl
              obtain ⟨hpings, hwaits⟩ := gsupClientConnect_cases hclosed openRc
              refine ⟨hpings, fun _ => hwaits.imp id ?_⟩
              rintro ⟨call, hcall, hgives⟩
              exact ⟨call, List.mem_cons_of_mem _ hcall, hgives⟩
      next => exact ⟨h, Or.inl⟩

/-- A client that is created waits for something. -/
theorem create3_waits {upDownCb link : Bool} {oapRc openRc : Int} {gsupc : Client}
    (h : osmoGsupClientCreate3 upDownCb oapRc link openRc = some gsupc) :
    Pings gsupc ∧ Waits gsupc := by
  unfold osmoGsupClientCreate3 at h
  split at h
  · cases h
  split at h
  · cases h
  simp only at h
  split at h
  · cases h
  next hrc =>
      cases h
      have hnew : (Client.new upDownCb).isConnected = false := rfl
      obtain ⟨hpings, hwaits⟩ := gsupClientConnect_cases hnew openRc
      refine ⟨hpings, hwaits.resolve_right ?_⟩
      rintro ⟨call, hcall, hgives⟩
      rw [gsupClientConnect, if_neg (by simp [hnew])] at hcall hrc
      by_cases hok : 0 ≤ openRc
      · simp only [if_pos hok, List.mem_singleton] at hcall
        subst hcall
        exact absurd (IsPermanent.neg hgives) (Int.not_lt.2 hok)
      · simp only [if_neg hok] at hcall hrc
        by_cases hperm : IsPermanent openRc
        · rw [if_pos hperm] at hrc
          exact hrc (Int.not_le.1 hok)
        · rw [if_neg hperm, List.mem_singleton] at hcall
          subst hcall
          exact hperm hgives

/-- **A client goes on**: unless `up_down_cb` returned false for a link that is down, or connecting
failed for good, a connection attempt is in progress or a timer is pending.  It is never connected
with both timers idle. -/
theorem goesOn_run {upDownCb link : Bool} {oapRc openRc : Int} {gsupc : Client}
    (h : osmoGsupClientCreate3 upDownCb oapRc link openRc = some gsupc) (events : List Event) :
    ((∀ call ∈ (clientMachine.run gsupc events).2, ¬call.GivesUp) →
        Waits (clientMachine.run gsupc events).1) ∧
      ((clientMachine.run gsupc events).1.isConnected = true →
        (clientMachine.run gsupc events).1.connectTimer = true ∨
          (clientMachine.run gsupc events).1.pingTimer = true) := by
  obtain ⟨hpings, hwaits⟩ := create3_waits h
  have hrun : Pings (clientMachine.run gsupc events).1 ∧
      ((∀ call ∈ (clientMachine.run gsupc events).2, ¬call.GivesUp) →
        Waits (clientMachine.run gsupc events).1) := by
    refine clientMachine.run_induction
      (P := fun _ s calls => Pings s ∧ ((∀ call ∈ calls, ¬call.GivesUp) → Waits s))
      ⟨hpings, fun _ => hwaits⟩ ?_ events
    rintro is s calls event ⟨hs, hcalls⟩
    obtain ⟨hnext, hstep⟩ := step_waits hs event
    refine ⟨hnext, fun hnone => ?_⟩
    have hbefore := hcalls fun call hcall => hnone call (List.mem_append_left _ hcall)
    refine (hstep hbefore).resolve_right ?_
    rintro ⟨call, hcall, hgives⟩
    exact hnone call (List.mem_append_right _ hcall) hgives
  exact ⟨hrun.2, fun hconn => Or.inr (hrun.1.connected hconn)⟩

/-- A client that is being connected. -/
def connecting : Client := ⟨.connecting, false, false, false, false, true⟩

/-- When the link goes down and connecting again fails with `-EBADF`, nothing is left to wait for,
although `up_down_cb` has not returned false. -/
theorem not_goesOn :
    osmoGsupClientCreate3 true 0 true 0 = some connecting ∧
      (∀ call ∈ (clientMachine.run connecting [.down true, .connectTimer true ebadf]).2,
        call ≠ .upDownCb false false) ∧
      ¬Waits (clientMachine.run connecting [.down true, .connectTimer true ebadf]).1 := by
  refine ⟨by decide, by decide, ?_⟩
  unfold Waits
  decide

/-- A client whose server does not answer a ping is connected again. -/
theorem goesOn_pings :
    Waits (clientMachine.run connecting [.up true, .pingTimer 0]).1 :=
  (goesOn_run (show osmoGsupClientCreate3 true 0 true 0 = some connecting by decide)
    [.up true, .pingTimer 0]).1 (by decide)

end GsupClient
end OsmoHlr
