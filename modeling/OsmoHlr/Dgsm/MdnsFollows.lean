import OsmoHlr.Dgsm.DgsmVtyHost
import OsmoHlr.Dgsm.MdnsApply

/-!
# The mDNS server and client follow the configuration

After any commands, starts and stops, what is running is what is configured.
The server has its own copy of the domain suffix.  The client follows as long as
the string that it points at is not replaced while it runs: the comparison with
the configured one reads it, after it has been freed.

* `server_follows` — the server is always as it is configured.
* `mdns_follows` — and so is the client, exactly as long as its domain suffix is
  not set, and the HLR not started again, while it is to run.
-/

namespace OsmoHlr
namespace DgsmVty

open CString

/-! ## The server follows -/

section Server

variable {lib : MdnsLib} {s : System}

/-- The server depends on nothing else. -/
theorem ServerFollows.congr {s' : System} (h : ServerFollows lib s)
    (hallow : s'.allowStartup = s.allowStartup) (hcfg : SameServer s.cfg s'.cfg)
    (hrunning : s'.serverRunning = s.serverRunning) : ServerFollows lib s' := by
  obtain ⟨henable, hmdns⟩ := hcfg
  have hshould : serverShouldRun s' = serverShouldRun s := by
    rw [serverShouldRun, hallow, henable, hmdns]
    rfl
  refine ⟨?_, ?_, ?_⟩
  · rw [hrunning, hshould]
    exact h.running
  · rw [hrunning, hmdns]
    exact h.addr
  · rw [hrunning, hmdns]
    exact h.domainSuffix

/-- A server that is not stopped is as it is configured. -/
theorem serverShouldStop_eq_false {running : MdnsServer}
    (h : serverShouldStop lib s running = false) :
    serverShouldRun s = true ∧ lib.sockaddrStrCmp s.cfg.server.mdns.addr running.bindAddr = 0 ∧
      s.cfg.server.mdns.domainSuffix = running.domainSuffix := by
  simpa [serverShouldStop, and_assoc] using h

/-- **Whatever was running, the server is applied as it is configured.** -/
theorem serverFollows_configApply (hsock : ∀ ip port, lib.mdnsSockInit ip port = true)
    (s : System) : ServerFollows lib (serverMdnsConfigApply lib s) := by
  have hshould : serverShouldRun (serverMdnsConfigApply lib s) = serverShouldRun s := rfl
  have hcfg : (serverMdnsConfigApply lib s).cfg = s.cfg := rfl
  cases hleft : s.serverRunning.filter fun running => !serverShouldStop lib s running with
  | some running =>
      -- it goes on
      obtain ⟨-, hstop⟩ := Option.filter_eq_some_iff.1 hleft
      obtain ⟨hrun, haddr, hsuffix⟩ := serverShouldStop_eq_false (by simpa using hstop)
      have hrunning : (serverMdnsConfigApply lib s).serverRunning = some running := by
        simp only [serverMdnsConfigApply, hleft]
      refine ⟨by rw [hrunning, hshould, hrun]; rfl, ?_, ?_⟩
      · intro running' h'
        cases hrunning.symm.trans h'
        exact haddr
      · intro running' h'
        cases hrunning.symm.trans h'
        exact hsuffix
  | none =>
      have hrunning : (serverMdnsConfigApply lib s).serverRunning =
          if serverShouldRun s then
            some ⟨s.cfg.server.mdns.addr, s.cfg.server.mdns.domainSuffix⟩
          else none := by
        simp only [serverMdnsConfigApply, hleft, serverMdnsStart, hsock, if_true]
      cases hrun : serverShouldRun s with
      | false =>
          rw [hrun] at hrunning
          refine ⟨by rw [hrunning, hshould, hrun]; rfl, ?_, ?_⟩
          · intro running' h'
            cases hrunning.symm.trans h'
          · intro running' h'
            cases hrunning.symm.trans h'
      | true =>
          rw [hrun] at hrunning
          refine ⟨by rw [hrunning, hshould, hrun]; rfl, ?_, ?_⟩
          · intro running' h'
            cases hrunning.symm.trans h'
            exact lib.cmp_self _
          · intro running' h'
            cases hrunning.symm.trans h'
            rfl

/-- The configuration and the server as they were. -/
structure SameButClient (s s' : System) : Prop where
  allowStartup : s'.allowStartup = s.allowStartup
  cfg : s'.cfg = s.cfg
  serverRunning : s'.serverRunning = s.serverRunning

theorem SameButClient.trans {s' s'' : System} (h : SameButClient s s') (h' : SameButClient s' s'') :
    SameButClient s s'' :=
  ⟨h'.allowStartup.trans h.allowStartup, h'.cfg.trans h.cfg,
    h'.serverRunning.trans h.serverRunning⟩

theorem SameButClient.serverFollows {s' : System} (h : SameButClient s s')
    (hs : ServerFollows lib s) : ServerFollows lib s' :=
  hs.congr h.allowStartup (by rw [h.cfg]; exact ⟨rfl, rfl⟩) h.serverRunning

theorem sameButClient_clientStop (lib : MdnsLib) (s : System) (stale : CStr) :
    SameButClient s (clientStop lib s stale).1 := by
  unfold clientStop
  split
  next => exact ⟨rfl, rfl, rfl⟩
  next =>
      dsimp only
      split
      next => exact ⟨rfl, rfl, rfl⟩
      next => exact ⟨rfl, rfl, rfl⟩

theorem sameButClient_clientAddMdns (s : System) : SameButClient s (clientAddMdns lib s) := by
  unfold clientAddMdns
  split
  next =>
      split
      next => exact ⟨rfl, rfl, rfl⟩
      next => exact ⟨rfl, rfl, rfl⟩
  next => exact ⟨rfl, rfl, rfl⟩

theorem sameButClient_clientStart (s : System) : SameButClient s (clientStart lib s) := by
  unfold clientStart
  split
  next => exact sameButClient_clientAddMdns s
  next => exact ⟨rfl, rfl, rfl⟩

theorem sameButClient_configApply (s : System) (stale : CStr) :
    SameButClient s (mdnsClientConfigApply lib s stale).1 :=
  (sameButClient_clientStop lib s stale).trans (sameButClient_clientStart _)

/-- The server follows if it did, or if it is applied. -/
theorem serverFollows_apply (hsock : ∀ ip port, lib.mdnsSockInit ip port = true) (stale : CStr)
    (applies : List Apply) (h : ServerFollows lib s ∨ Apply.server ∈ applies) :
    ServerFollows lib (apply lib s stale applies).1 := by
  induction applies generalizing s with
  | nil => exact h.resolve_right List.not_mem_nil
  | cons a applies ih =>
      cases a with
      | server => exact ih (Or.inl (serverFollows_configApply hsock s))
      | client =>
          refine ih ?_
          rcases h with h | h
          · exact Or.inl ((sameButClient_configApply s stale).serverFollows h)
          · exact Or.inr ((List.mem_cons.1 h).resolve_left (by decide))
      | replaceClientSuffix =>
          refine ih ?_
          rcases h with h | h
          · exact Or.inl (h.congr rfl ⟨rfl, rfl⟩ rfl)
          · exact Or.inr ((List.mem_cons.1 h).resolve_left (by decide))

end Server

/-! ## The client follows -/

section Client

variable {lib : MdnsLib} {s : System} {stale : CStr}

/-- What the client has whatever is configured: if it runs, it is the only method, of the current
mslookup client, and has the current domain suffix. -/
structure Sound (lib : MdnsLib) (s : System) : Prop where
  addrOk : AddrOk lib.toSockaddrLib s.cfg
  started : s.allowStartup = true → ∃ client, s.client = some client
  fresh : ∀ client, s.client = some client → client < s.clients
  only : s.methods = s.clientRunning.toList
  own : ∀ m, s.clientRunning = some m → s.client = some m.client
  domainSuffix : ∀ m, s.clientRunning = some m → m.domainSuffix = s.suffix

/-- The client is as it is configured, and sound. -/
def ClientInv (lib : MdnsLib) (s : System) : Prop := Sound lib s ∧ ClientFollows lib s

/-- Another configuration is as sound. -/
theorem Sound.withCfg (h : Sound lib s) {cfg : MslookupCfg}
    (hok : AddrOk lib.toSockaddrLib cfg) : Sound lib { s with cfg := cfg } :=
  ⟨hok, h.started, h.fresh, h.only, h.own, h.domainSuffix⟩

theorem Sound.serverConfigApply (h : Sound lib s) : Sound lib (serverMdnsConfigApply lib s) :=
  ⟨h.addrOk, h.started, h.fresh, h.only, h.own, h.domainSuffix⟩

/-- The domain suffix of a sound client is there to be read. -/
theorem readSuffix_current {m : Method} (h : m.domainSuffix = s.suffix) :
    readSuffix s m stale = (s.cfg.client.mdns.domainSuffix, []) := by
  rw [readSuffix, if_pos h]

/-- A client with the current domain suffix is stopped for the other reasons only. -/
theorem clientShouldStop_current (lib : MdnsLib) {m : Method} (stale : CStr)
    (h : m.domainSuffix = s.suffix) :
    clientShouldStop lib s m stale =
      (!clientShouldRun s || decide (lib.sockaddrStrCmp s.cfg.client.mdns.addr m.bindAddr ≠ 0),
        []) := by
  unfold clientShouldStop
  split
  next hrun => rw [hrun, Bool.true_or]
  next hrun =>
      split
      next haddr => rw [decide_eq_true haddr, Bool.or_true]
      next haddr =>
          have hrun' : (!clientShouldRun s) = false := by simpa using hrun
          simp [readSuffix_current h, hrun', haddr]

/-- A client that is not running is stopped by nothing. -/
theorem clientStop_none (h : s.clientRunning = none) : clientStop lib s stale = (s, []) := by
  simp only [clientStop, h]

/-- A sound client is stopped without reading what is not there; what goes on is as it is
configured. -/
theorem clientStop_sound (stale : CStr) (h : Sound lib s) :
    (clientStop lib s stale).2 = [] ∧ Sound lib (clientStop lib s stale).1 ∧
      ∀ m, (clientStop lib s stale).1.clientRunning = some m →
        clientShouldRun s = true ∧ lib.sockaddrStrCmp s.cfg.client.mdns.addr m.bindAddr = 0 := by
  cases hrunning : s.clientRunning with
  | none =>
      rw [clientStop_none hrunning]
      refine ⟨rfl, h, ?_⟩
      intro m hm
      cases hrunning.symm.trans hm
  | some m =>
      have hstop := clientShouldStop_current lib stale (h.domainSuffix m hrunning)
      cases hshould : (clientShouldStop lib s m stale).1 with
      | true =>
          have hdel : clientStop lib s stale = (clientMethodDel s m, []) := by
            simp only [clientStop, hrunning, hshould, if_true]
            rw [hstop]
          have hmethods : (clientMethodDel s m).methods = [] := by
            show (if s.client = some m.client then s.methods.erase m else s.methods) = []
            rw [if_pos (h.own m hrunning), h.only, hrunning]
            simp
          rw [hdel]
          refine ⟨rfl, ⟨h.addrOk, h.started, h.fresh, hmethods, ?_, ?_⟩, ?_⟩
          all_goals
            intro m' hm'
            cases hm'
      | false =>
          have hkeep : clientStop lib s stale = (s, []) := by
            simp only [clientStop, hrunning, hshould]
            rw [hstop]
            rfl
          rw [hkeep]
          refine ⟨rfl, h, ?_⟩
          intro m' hm'
          cases hrunning.symm.trans hm'
          rw [hstop] at hshould
          simpa using hshould

/-- Starting a client that is to run and does not. -/
theorem clientStart_sound (hsock : ∀ ip port, lib.mdnsSockInit ip port = true) (h : Sound lib s)
    (hkeeps : ∀ m, s.clientRunning = some m →
      clientShouldRun s = true ∧ lib.sockaddrStrCmp s.cfg.client.mdns.addr m.bindAddr = 0) :
    ClientInv lib (clientStart lib s) := by
  cases hrunning : s.clientRunning with
  | some m =>
      have hstart : clientStart lib s = s := by
        rw [clientStart, hrunning, Option.isNone_some, Bool.and_false, if_neg Bool.false_ne_true]
      rw [hstart]
      obtain ⟨hrun, -⟩ := hkeeps m hrunning
      refine ⟨h, ⟨by rw [hrunning, hrun]; rfl, h.only, h.own, ?_, h.domainSuffix⟩⟩
      intro m' hm'
      exact (hkeeps m' hm').2
  | none =>
      cases hrun : clientShouldRun s with
      | false =>
          have hstart : clientStart lib s = s := by
            rw [clientStart, hrun, Bool.false_and, if_neg Bool.false_ne_true]
          rw [hstart]
          refine ⟨h, ⟨by rw [hrunning, hrun]; rfl, h.only, h.own, ?_, h.domainSuffix⟩⟩
          intro m' hm'
          exact (hkeeps m' hm').2
      | true =>
          have hallow : s.allowStartup = true := by
            rw [clientShouldRun, Bool.and_eq_true, Bool.and_eq_true] at hrun
            exact hrun.1.1
          obtain ⟨client, hclient⟩ := h.started hallow
          have hstart : clientStart lib s =
              { s with
                clientRunning := some ⟨client, s.cfg.client.mdns.addr, s.suffix⟩
                methods := s.methods ++ [⟨client, s.cfg.client.mdns.addr, s.suffix⟩] } := by
            have haddr : lib.sockaddrStrFromStr s.cfg.client.mdns.addr.ip
                s.cfg.client.mdns.addr.port = some s.cfg.client.mdns.addr := h.addrOk
            rw [clientStart, hrun, hrunning, Option.isNone_none, Bool.and_true, if_pos rfl,
              clientAddMdns, haddr, hclient]
            simp only [hsock, if_true]
          have honly : s.methods ++ [⟨client, s.cfg.client.mdns.addr, s.suffix⟩] =
              [⟨client, s.cfg.client.mdns.addr, s.suffix⟩] := by
            rw [h.only, hrunning]
            rfl
          rw [hstart]
          refine ⟨⟨h.addrOk, h.started, h.fresh, honly, ?_, ?_⟩,
            ⟨hrun.symm, honly, ?_, ?_, ?_⟩⟩
          all_goals
            intro m hm
            cases hm
          · exact hclient
          · rfl
          · exact hclient
          · exact lib.cmp_self _
          · rfl

/-- **A sound client is applied as it is configured**, and nothing is read that is not there. -/
theorem clientInv_configApply (hsock : ∀ ip port, lib.mdnsSockInit ip port = true)
    (h : Sound lib s) : (mdnsClientConfigApply lib s stale).2 = [] ∧
      ClientInv lib (mdnsClientConfigApply lib s stale).1 := by
  obtain ⟨hout, hsound, hkeeps⟩ := clientStop_sound stale h
  have hsame := sameButClient_clientStop lib s stale
  have hrun : clientShouldRun (clientStop lib s stale).1 = clientShouldRun s := by
    rw [clientShouldRun, clientShouldRun, hsame.allowStartup, hsame.cfg]
  refine ⟨hout, clientStart_sound hsock hsound ?_⟩
  intro m hm
  rw [hrun, hsame.cfg]
  exact hkeeps m hm

/-- As long as its part of the configuration is the same, the client follows. -/
theorem ClientFollows.congr {s' : System} (h : ClientFollows lib s)
    (hallow : s'.allowStartup = s.allowStartup) (hcfg : SameClient s.cfg s'.cfg)
    (hrunning : s'.clientRunning = s.clientRunning) (hclient : s'.client = s.client)
    (hmethods : s'.methods = s.methods) (hsuffix : s'.suffix = s.suffix) :
    ClientFollows lib s' := by
  obtain ⟨henable, hmdns, haddr⟩ := hcfg
  have hshould : clientShouldRun s' = clientShouldRun s := by
    rw [clientShouldRun, hallow, henable, hmdns]
    rfl
  refine ⟨by rw [hrunning, hshould]; exact h.running, by rw [hmethods, hrunning]; exact h.only,
    ?_, ?_, ?_⟩
  · rw [hrunning, hclient]
    exact h.own
  · rw [hrunning, haddr]
    exact h.addr
  · rw [hrunning, hsuffix]
    exact h.domainSuffix

/-- A client that follows and is not to run has nothing that could be out of date. -/
theorem ClientFollows.running_eq_none (h : ClientFollows lib s) (hrun : clientShouldRun s = false) :
    s.clientRunning = none := by
  rw [← Option.not_isSome_iff_eq_none, h.running, hrun]
  exact Bool.false_ne_true

theorem ClientFollows.running_eq_some (h : ClientFollows lib s) (hrun : clientShouldRun s = true) :
    ∃ m, s.clientRunning = some m := by
  rw [← Option.isSome_iff_exists, h.running, hrun]

theorem apply_client (s : System) (stale : CStr) :
    apply lib s stale [.client] = mdnsClientConfigApply lib s stale := by
  show (_, (mdnsClientConfigApply lib s stale).2 ++ []) = _
  rw [List.append_nil]
  rfl

theorem apply_server_client (s : System) (stale : CStr) :
    apply lib s stale [.server, .client] =
      mdnsClientConfigApply lib (serverMdnsConfigApply lib s) stale :=
  apply_client (serverMdnsConfigApply lib s) stale

/-- What a command does, unless it replaces the domain suffix of a client that is to run. -/
theorem clientInv_ran (hsock : ∀ ip port, lib.mdnsSockInit ip port = true) (h : ClientInv lib s)
    {replaces : Bool} {ran : Ran} (hspec : ExecSpec lib.toSockaddrLib s.cfg replaces ran)
    (hreplaces : clientShouldRun s = true → replaces = false) :
    (apply lib { s with cfg := ran.mslookup } stale ran.applies).2 = [] ∧
      ClientInv lib (apply lib { s with cfg := ran.mslookup } stale ran.applies).1 := by
  have hsound := h.1.withCfg hspec.addrOk
  rcases hspec.client with ⟨rfl, -, happlies⟩ | ⟨-, happlies | happlies | ⟨hsame, happlies⟩⟩
  · have hrun : clientShouldRun s = false := by
      cases hrun : clientShouldRun s with
      | false => rfl
      | true => cases hreplaces hrun
    have hnone := h.2.running_eq_none hrun
    -- with no client running, another domain suffix is as sound
    have hsound' : Sound lib { s with cfg := ran.mslookup, suffix := s.suffix + 1 } := by
      refine ⟨hsound.addrOk, hsound.started, hsound.fresh, hsound.only, hsound.own, ?_⟩
      intro m hm
      cases hnone.symm.trans hm
    rcases happlies with happlies | happlies
    · rw [happlies]
      show (apply lib { s with cfg := ran.mslookup, suffix := s.suffix + 1 } stale
          [.server, .client]).2 = [] ∧ ClientInv lib (apply lib
            { s with cfg := ran.mslookup, suffix := s.suffix + 1 } stale [.server, .client]).1
      rw [apply_server_client]
      exact clientInv_configApply hsock hsound'.serverConfigApply
    · rw [happlies]
      show (apply lib { s with cfg := ran.mslookup, suffix := s.suffix + 1 } stale
          [.client]).2 = [] ∧ ClientInv lib (apply lib
            { s with cfg := ran.mslookup, suffix := s.suffix + 1 } stale [.client]).1
      rw [apply_client]
      exact clientInv_configApply hsock hsound'
  · rw [happlies, apply_server_client]
    exact clientInv_configApply hsock hsound.serverConfigApply
  · rw [happlies, apply_client]
    exact clientInv_configApply hsock hsound
  · rcases happlies with happlies | happlies
    · rw [happlies]
      exact ⟨rfl, hsound.serverConfigApply, h.2.congr rfl hsame rfl rfl rfl rfl⟩
    · rw [happlies]
      exact ⟨rfl, hsound, h.2.congr rfl hsame rfl rfl rfl rfl⟩

/-- What is found out about a running client whose domain suffix has been replaced. -/
theorem clientConfigApply_reads {m : Method} (hrunning : s.clientRunning = some m)
    (hrun : clientShouldRun s = true)
    (haddr : lib.sockaddrStrCmp s.cfg.client.mdns.addr m.bindAddr = 0)
    (hsuffix : m.domainSuffix ≠ s.suffix) :
    (mdnsClientConfigApply lib s stale).2 = [.readFreed m.domainSuffix] := by
  show (clientStop lib s stale).2 = _
  simp only [clientStop, hrunning, clientShouldStop, hrun, haddr, readSuffix, hsuffix,
    Bool.not_true, Bool.false_eq_true, ne_eq, not_true_eq_false, if_false]

/-- A command that replaces the domain suffix of a running client makes it read the old one. -/
theorem ran_reads (stale : CStr) (h : ClientInv lib s) {ran : Ran} (hrun : clientShouldRun s = true)
    (hspec : ExecSpec lib.toSockaddrLib s.cfg true ran) :
    (apply lib { s with cfg := ran.mslookup } stale ran.applies).2 ≠ [] := by
  obtain ⟨m, hrunning⟩ := h.2.running_eq_some hrun
  obtain ⟨-, ⟨henable, hmdns, haddr⟩, happlies⟩ :=
    hspec.client.resolve_right fun hfalse => Bool.false_ne_true hfalse.1.symm
  have hreads : ∀ t : System, t.clientRunning = some m → t.allowStartup = s.allowStartup →
      t.cfg = ran.mslookup → t.suffix = s.suffix + 1 →
      (mdnsClientConfigApply lib t stale).2 ≠ [] := by
    intro t ht hallow hcfg hsuffix
    have hrun' : clientShouldRun t = true := by
      rw [clientShouldRun, hallow, hcfg, henable, hmdns]
      exact hrun
    have haddr' : lib.sockaddrStrCmp t.cfg.client.mdns.addr m.bindAddr = 0 := by
      rw [hcfg, haddr]
      exact h.2.addr m hrunning
    have hne : m.domainSuffix ≠ t.suffix := by
      rw [h.2.domainSuffix m hrunning, hsuffix]
      exact Nat.ne_of_lt (Nat.lt_succ_self _)
    rw [clientConfigApply_reads ht hrun' haddr' hne]
    exact List.cons_ne_nil _ _
  rcases happlies with happlies | happlies
  · rw [happlies]
    show (apply lib { s with cfg := ran.mslookup, suffix := s.suffix + 1 } stale
      [.server, .client]).2 ≠ []
    rw [apply_server_client]
    exact hreads _ hrunning rfl rfl rfl
  · rw [happlies]
    show (apply lib { s with cfg := ran.mslookup, suffix := s.suffix + 1 } stale [.client]).2 ≠ []
    rw [apply_client]
    exact hreads _ hrunning rfl rfl rfl

/-- A start makes another mslookup client the current one. -/
theorem sound_start (h : ClientInv lib s) (hrun : clientShouldRun s = false) :
    Sound lib { s with
      client := some s.clients, clients := s.clients + 1, allowStartup := true } := by
  have hnone := h.2.running_eq_none hrun
  refine ⟨h.1.addrOk, fun _ => ⟨_, rfl⟩, ?_, h.1.only, ?_, h.1.domainSuffix⟩
  · intro client hclient
    cases hclient
    exact Nat.lt_succ_self _
  · intro m hm
    cases hnone.symm.trans hm

/-- A client that is as it is configured goes on. -/
theorem clientConfigApply_keeps {m : Method} (hrunning : s.clientRunning = some m)
    (hrun : clientShouldRun s = true)
    (haddr : lib.sockaddrStrCmp s.cfg.client.mdns.addr m.bindAddr = 0)
    (hsuffix : m.domainSuffix = s.suffix) : (mdnsClientConfigApply lib s stale).1 = s := by
  have hkeep : clientStop lib s stale = (s, []) := by
    simp only [clientStop, hrunning, clientShouldStop_current lib stale hsuffix, hrun, haddr,
      Bool.not_true, ne_eq, not_true_eq_false, decide_false, Bool.or_self, Bool.false_eq_true, if_false]
  show clientStart lib (clientStop lib s stale).1 = s
  rw [hkeep, clientStart, hrunning, Option.isNone_some, Bool.and_false, if_neg Bool.false_ne_true]

/-- A client that is running when the HLR is started again stays with the mslookup client of
before. -/
theorem start_not_follows (h : ClientInv lib s) (hrun : clientShouldRun s = true) :
    ¬ClientFollows lib (dgsmStart lib s stale).1 := by
  obtain ⟨m, hrunning⟩ := h.2.running_eq_some hrun
  have hown := h.2.own m hrunning
  have hlt : m.client < s.clients := h.1.fresh _ hown
  obtain ⟨⟨-, henable⟩, hmdns⟩ : (s.allowStartup = true ∧ s.cfg.client.enable = true) ∧
      s.cfg.client.mdns.enable = true := by
    simpa [clientShouldRun] using hrun
  let t := serverMdnsConfigApply lib
    { s with client := some s.clients, clients := s.clients + 1, allowStartup := true }
  have hrun' : clientShouldRun t = true := by
    show (true && s.cfg.client.enable && s.cfg.client.mdns.enable) = true
    rw [henable, hmdns]
    rfl
  have hkeeps : (mdnsClientConfigApply lib t stale).1 = t :=
    clientConfigApply_keeps hrunning hrun' (h.2.addr m hrunning) (h.2.domainSuffix m hrunning)
  intro hfollows
  rw [dgsmStart, apply_server_client, hkeeps] at hfollows
  have hcurrent : some s.clients = some m.client := hfollows.own m hrunning
  exact Nat.ne_of_lt hlt (Option.some.inj hcurrent).symm

end Client

/-! ## Every run -/

section Runs

variable {lib : MdnsLib} {s : System} {input : Input}

theorem apply_cfg (s : System) (stale : CStr) (applies : List Apply) :
    (apply lib s stale applies).1.cfg = s.cfg := by
  induction applies generalizing s with
  | nil => rfl
  | cons a applies ih =>
      cases a with
      | server => exact ih _
      | client => exact (ih _).trans (sameButClient_configApply s stale).cfg
      | replaceClientSuffix => exact ih _

/-- The server follows after every step. -/
theorem serverFollows_step (hsock : ∀ ip port, lib.mdnsSockInit ip port = true)
    (hok : AddrOk lib.toSockaddrLib s.cfg) (h : ServerFollows lib s) (input : Input) :
    ServerFollows lib (step lib s input).1 := by
  obtain ⟨action, stale⟩ := input
  cases action with
  | start => exact serverFollows_apply hsock stale _ (Or.inr List.mem_cons_self)
  | stop => exact serverFollows_apply hsock stale _ (Or.inr List.mem_cons_self)
  | vty node words =>
      show ServerFollows lib (vty lib s node words stale).1
      rcases vty_cases lib s node words stale with ⟨hvty, -⟩ | ⟨cmd, argv, ran, hexec, -, hvty⟩
      · rw [hvty]
        exact h
      · rw [hvty]
        refine serverFollows_apply hsock stale _ ?_
        exact (spec_exec hok hexec).server.imp_left fun hsame => h.congr rfl hsame rfl
  | packet m =>
      show ServerFollows lib (if m ∈ s.methods then _ else _ : System × List Output).1
      split
      next => exact h
      next => exact h

/-- **A step that does not disturb a client that is to run keeps it as it is configured.** -/
theorem clientInv_step (hsock : ∀ ip port, lib.mdnsSockInit ip port = true) (h : ClientInv lib s)
    (hq : Quiet lib s input) :
    (step lib s input).2 = [] ∧ ClientInv lib (step lib s input).1 := by
  obtain ⟨action, stale⟩ := input
  cases action with
  | start =>
      have hrun : clientShouldRun s = false := by simpa [Quiet] using hq
      show (dgsmStart lib s stale).2 = [] ∧ ClientInv lib (dgsmStart lib s stale).1
      rw [dgsmStart, apply_server_client]
      exact clientInv_configApply hsock (sound_start h hrun).serverConfigApply
  | stop =>
      have hsound : Sound lib { s with allowStartup := false } :=
        ⟨h.1.addrOk, Bool.noConfusion, h.1.fresh, h.1.only, h.1.own, h.1.domainSuffix⟩
      show (dgsmStop lib s stale).2 = [] ∧ ClientInv lib (dgsmStop lib s stale).1
      rw [dgsmStop, apply_server_client]
      exact clientInv_configApply hsock hsound.serverConfigApply
  | vty node words =>
      show (vty lib s node words stale).2 = [] ∧ ClientInv lib (vty lib s node words stale).1
      rcases vty_cases lib s node words stale with
        ⟨hvty, -⟩ | ⟨cmd, argv, ran, hexec, hsets, hvty⟩
      · rw [hvty]
        exact ⟨rfl, h⟩
      · rw [hvty]
        refine clientInv_ran hsock h (spec_exec h.1.addrOk hexec) ?_
        intro hrun
        exact hsets.symm.trans (hq hrun)
  | packet m =>
      show (if m ∈ s.methods then _ else _ : System × List Output).2 = [] ∧
        ClientInv lib (if m ∈ s.methods then _ else _ : System × List Output).1
      split
      next hm =>
          have hrunning : s.clientRunning = some m := by simpa [h.1.only] using hm
          rw [readSuffix_current (h.1.domainSuffix m hrunning)]
          exact ⟨rfl, h⟩
      next => exact ⟨rfl, h⟩

/-- **And a step that does disturb it does not.** -/
theorem quiet_of_follows (h : ClientInv lib s) (hout : (step lib s input).2 = [])
    (hfollows : ClientFollows lib (step lib s input).1) : Quiet lib s input := by
  intro hrun
  obtain ⟨action, stale⟩ := input
  cases action with
  | start => exact start_not_follows h hrun hfollows
  | stop => trivial
  | packet m => trivial
  | vty node words =>
      rcases vty_cases lib s node words stale with
        ⟨-, hsets⟩ | ⟨cmd, argv, ran, hexec, hsets, hvty⟩
      · exact hsets
      · refine hsets.trans ?_
        have hspec := spec_exec h.1.addrOk hexec
        cases hreplaces : cmd.replaces with
        | false => rfl
        | true =>
            rw [hreplaces] at hspec
            refine absurd ?_ (ran_reads stale h hrun hspec)
            rw [← hvty]
            exact hout

/-- No command changes what has been configured as the client's address to what is not one. -/
theorem addrOk_step (hok : AddrOk lib.toSockaddrLib s.cfg) (input : Input) :
    AddrOk lib.toSockaddrLib (step lib s input).1.cfg := by
  obtain ⟨action, stale⟩ := input
  cases action with
  | start =>
      show AddrOk lib.toSockaddrLib (dgsmStart lib s stale).1.cfg
      rw [dgsmStart, apply_cfg]
      exact hok
  | stop =>
      show AddrOk lib.toSockaddrLib (dgsmStop lib s stale).1.cfg
      rw [dgsmStop, apply_cfg]
      exact hok
  | vty node words =>
      show AddrOk lib.toSockaddrLib (vty lib s node words stale).1.cfg
      rcases vty_cases lib s node words stale with
        ⟨hvty, -⟩ | ⟨cmd, argv, ran, hexec, -, hvty⟩
      · rw [hvty]
        exact hok
      · rw [hvty, apply_cfg]
        exact (spec_exec hok hexec).addrOk
  | packet m =>
      show AddrOk lib.toSockaddrLib (if m ∈ s.methods then _ else _ : System × List Output).1.cfg
      split
      next => exact hok
      next => exact hok

theorem clientInv_init (lib : MdnsLib) : ClientInv lib (System.init lib) := by
  refine ⟨⟨addrOk_init _, ?_, ?_, rfl, ?_, ?_⟩, ⟨rfl, rfl, ?_, ?_, ?_⟩⟩
  · intro hallow
    cases hallow
  all_goals
    intro m hm
    cases hm

theorem serverFollows_init (lib : MdnsLib) : ServerFollows lib (System.init lib) := by
  refine ⟨rfl, ?_, ?_⟩
  all_goals
    intro running hrunning
    cases hrunning

/-- **The mDNS server is as it is configured**, in every state that is reached. -/
theorem server_follows (hsock : ∀ ip port, lib.mdnsSockInit ip port = true)
    (inputs : List Input) : ServerFollows lib ((machine lib).run (System.init lib) inputs).1 := by
  have hinv : AddrOk lib.toSockaddrLib ((machine lib).run (System.init lib) inputs).1.cfg ∧
      ServerFollows lib ((machine lib).run (System.init lib) inputs).1 :=
    (machine lib).run_invariant
      (P := fun s => AddrOk lib.toSockaddrLib s.cfg ∧ ServerFollows lib s)
      (fun s input h => ⟨addrOk_step h.1 input, serverFollows_step hsock h.1 h.2 input⟩)
      ⟨addrOk_init _, serverFollows_init lib⟩ inputs
  exact hinv.2

/-- **The mDNS server and client are as they are configured, and no freed domain suffix is read**,
after each step of a run, exactly if the client's domain suffix is not set, and the HLR not started
again, while the client is to run. -/
theorem mdns_follows (hsock : ∀ ip port, lib.mdnsSockInit ip port = true) (inputs : List Input) :
    (machine lib).Guarded (StepFollows lib) (System.init lib) inputs ↔
      (machine lib).Guarded (Quiet lib) (System.init lib) inputs := by
  have hquiet : ∀ s input, ClientInv lib s → StepFollows lib s input → Quiet lib s input :=
    fun s input h hstep => quiet_of_follows h hstep.1 hstep.2.2
  refine (machine lib).guarded_congr (P := fun s => ClientInv lib s ∧ ServerFollows lib s)
    (H := fun _ => True) ?_ ?_ ⟨clientInv_init lib, serverFollows_init lib⟩ (fun _ _ => trivial)
  · intro s input h _ hstep
    exact ⟨(clientInv_step hsock h.1 (hquiet s input h.1 hstep)).2, hstep.2.1⟩
  · intro s input h _
    refine ⟨hquiet s input h.1, ?_⟩
    intro hq
    obtain ⟨hout, hinv⟩ := clientInv_step hsock h.1 hq
    exact ⟨hout, serverFollows_step hsock h.1.1.addrOk h.2 input, hinv.2⟩

/-- The client is enabled, moved to another address and given another domain suffix while it does
not run, and enabled and disabled. -/
def quietRun : List Input :=
  [Host.starts, Host.line .client ["mdns", "bind"], Host.line .client ["mdns", "bind", "239.1.2.3"],
    Host.stops, Host.line .mslookup ["mdns", "domain-suffix", "example.org"], Host.starts,
    Host.line .mslookup ["no", "client"], Host.line .mslookup ["client"]]

theorem mdns_follows_quiet :
    (machine Host.mdnsLib).Guarded (StepFollows Host.mdnsLib) (System.init Host.mdnsLib) quietRun :=
  (mdns_follows (fun _ _ => rfl) quietRun).2 (by decide +kernel)

/-- The client is enabled, and gets another domain suffix while it runs. -/
def suffixReplaced : List Input :=
  [Host.starts, Host.line .client ["mdns", "bind"],
    Host.line .client ["mdns", "domain-suffix", "example.org"]]

theorem suffix_replaced_reads_freed :
    (∀ ip port, Host.mdnsLib.mdnsSockInit ip port = true) ∧
      ¬(machine Host.mdnsLib).Guarded (StepFollows Host.mdnsLib) (System.init Host.mdnsLib)
        suffixReplaced := by
  refine ⟨fun _ _ => rfl, ?_⟩
  rintro ⟨-, -, ⟨hout, -⟩, -⟩
  revert hout
  decide +kernel

end Runs

end DgsmVty
end OsmoHlr
