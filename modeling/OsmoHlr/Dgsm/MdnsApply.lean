import OsmoHlr.Dgsm.DgsmVty
import OsmoHlr.Lib.Machine

/-!
# The mDNS server and client of the HLR

`dgsm_start`, `dgsm_stop` and `dgsm_mdns_client_config_apply` of `src/dgsm.c`,
`mslookup_server_mdns_config_apply` of `src/mslookup_server_mdns.c`, and the
commands that call them, in any order.

The server has a copy of the domain suffix.  The client has the pointer to the
configured string, which is freed when the configuration gets another one.

* `machine` — commands, starts, stops and packets.
* `spec_exec` — whichever part of the configuration a command changes is applied.
-/

namespace OsmoHlr
namespace DgsmVty

open CString

/-- What else is called. -/
structure MdnsLib extends SockaddrLib where
  /-- `osmo_mdns_sock_init` opens a socket, and `osmo_get_rand_id` returns an ID. -/
  mdnsSockInit : CStr → UInt16 → Bool

/-! ## What is running -/

/-- `struct osmo_mslookup_server_mdns` -/
structure MdnsServer where
  bindAddr : SockaddrStr
  /-- Its own copy. -/
  domainSuffix : CStr
  deriving DecidableEq

/-- A method of an mslookup client, with its `struct osmo_mdns_method_state`. -/
structure Method where
  /-- The mslookup client that it has been added to. -/
  client : Nat
  bindAddr : SockaddrStr
  /-- Which string its `domain_suffix` points at. -/
  domainSuffix : Nat
  deriving DecidableEq

/-- `g_hlr->mslookup`, and the methods that have a socket. -/
structure System where
  cfg : MslookupCfg
  allowStartup : Bool
  /-- `server.mdns.running` -/
  serverRunning : Option MdnsServer
  /-- `client.mdns.running` -/
  clientRunning : Option Method
  /-- `client.client`: which of the mslookup clients it is. -/
  client : Option Nat
  /-- How many mslookup clients there have been. -/
  clients : Nat
  /-- The methods that have been started and not stopped. -/
  methods : List Method
  /-- Which string `client.mdns.domain_suffix` is; the ones before it have been freed. -/
  suffix : Nat
  deriving DecidableEq

/-- A domain suffix is read that has been freed. -/
inductive Output where
  | readFreed (suffix : Nat)
  deriving DecidableEq

variable (lib : MdnsLib)

/-- Before `dgsm_start`. -/
def System.init : System :=
  ⟨MslookupCfg.init lib.toSockaddrLib, false, none, none, none, 0, [], 0⟩

/-! ## The server -/

/-- `should_run` of the server. -/
def serverShouldRun (s : System) : Bool :=
  s.allowStartup && s.cfg.server.enable && s.cfg.server.mdns.enable

/-- `osmo_mslookup_server_mdns_start` -/
def serverMdnsStart (s : System) : Option MdnsServer :=
  if lib.mdnsSockInit s.cfg.server.mdns.addr.ip s.cfg.server.mdns.addr.port then
    some ⟨s.cfg.server.mdns.addr, s.cfg.server.mdns.domainSuffix⟩
  else none

/-- `should_stop` of the server. -/
def serverShouldStop (s : System) (running : MdnsServer) : Bool :=
  !serverShouldRun s || decide (lib.sockaddrStrCmp s.cfg.server.mdns.addr running.bindAddr ≠ 0) ||
    decide (s.cfg.server.mdns.domainSuffix ≠ running.domainSuffix)

/-- `mslookup_server_mdns_config_apply` -/
def serverMdnsConfigApply (s : System) : System :=
  let running := s.serverRunning.filter fun running => !serverShouldStop lib s running
  { s with
    serverRunning :=
      match running with
      | some running => some running
      | none => if serverShouldRun s then serverMdnsStart lib s else none }

/-! ## The client -/

/-- `should_run` of the client. -/
def clientShouldRun (s : System) : Bool :=
  s.allowStartup && s.cfg.client.enable && s.cfg.client.mdns.enable

/-- What is read from the domain suffix of a method.  `stale`: what is found there if the string
has been freed. -/
def readSuffix (s : System) (m : Method) (stale : CStr) : CStr × List Output :=
  if m.domainSuffix = s.suffix then (s.cfg.client.mdns.domainSuffix, [])
  else (stale, [.readFreed m.domainSuffix])

/-- `should_stop` of the client; the domain suffixes are compared last. -/
def clientShouldStop (s : System) (m : Method) (stale : CStr) : Bool × List Output :=
  if !clientShouldRun s then (true, [])
  else if lib.sockaddrStrCmp s.cfg.client.mdns.addr m.bindAddr ≠ 0 then (true, [])
  else
    let current := readSuffix s m stale
    (decide (s.cfg.client.mdns.domainSuffix ≠ current.1), current.2)

/-- `osmo_mslookup_client_method_del`, for the current client: another one's method stays. -/
def clientMethodDel (s : System) (m : Method) : System :=
  { s with
    methods := if s.client = some m.client then s.methods.erase m else s.methods
    clientRunning := none }

/-- `osmo_mslookup_client_add_mdns`, for the current client. -/
def clientAddMdns (s : System) : System :=
  match lib.sockaddrStrFromStr s.cfg.client.mdns.addr.ip s.cfg.client.mdns.addr.port, s.client with
  | some bindAddr, some client =>
      if lib.mdnsSockInit s.cfg.client.mdns.addr.ip s.cfg.client.mdns.addr.port then
        let m : Method := ⟨client, bindAddr, s.suffix⟩
        { s with clientRunning := some m, methods := s.methods ++ [m] }
      else s
  | _, _ => s

/-- The first half of `dgsm_mdns_client_config_apply`: the client is stopped if it has to be. -/
def clientStop (s : System) (stale : CStr) : System × List Output :=
  match s.clientRunning with
  | none => (s, [])
  | some m =>
      let shouldStop := clientShouldStop lib s m stale
      (if shouldStop.1 then clientMethodDel s m else s, shouldStop.2)

/-- The second half: it is started if it has to be. -/
def clientStart (s : System) : System :=
  if clientShouldRun s && s.clientRunning.isNone then clientAddMdns lib s else s

/-- `dgsm_mdns_client_config_apply` -/
def mdnsClientConfigApply (s : System) (stale : CStr) : System × List Output :=
  let stopped := clientStop lib s stale
  (clientStart lib stopped.1, stopped.2)

/-! ## The HLR -/

/-- What a command does to what is running. -/
def apply (s : System) (stale : CStr) : List Apply → System × List Output
  | [] => (s, [])
  | .server :: applies => apply (serverMdnsConfigApply lib s) stale applies
  | .replaceClientSuffix :: applies => apply { s with suffix := s.suffix + 1 } stale applies
  | .client :: applies =>
      let applied := mdnsClientConfigApply lib s stale
      let rest := apply applied.1 stale applies
      (rest.1, applied.2 ++ rest.2)

/-- `dgsm_start` -/
def dgsmStart (s : System) (stale : CStr) : System × List Output :=
  apply lib { s with client := some s.clients, clients := s.clients + 1, allowStartup := true }
    stale [.server, .client]

/-- `dgsm_stop` -/
def dgsmStop (s : System) (stale : CStr) : System × List Output :=
  apply lib { s with allowStartup := false } stale [.server, .client]

/-- What happens to the HLR. -/
inductive Action where
  | start
  | stop
  /-- A line in a node. -/
  | vty (node : Node) (words : List CStr)
  /-- A method sends a query or receives a packet, and reads its domain suffix for it. -/
  | packet (m : Method)

/-- An action, and what is found in a freed string if one is read. -/
structure Input where
  action : Action
  stale : CStr

/-- A line in a node.  A command of which it is not defined what it does (a name that is a format)
is left out. -/
def vty (s : System) (node : Node) (words : List CStr) (stale : CStr) : System × List Output :=
  match Vty.findCommand (face lib.toSockaddrLib) node words with
  | none => (s, [])
  | some (cmd, argv) =>
      match exec lib.toSockaddrLib s.cfg node cmd argv with
      | none => (s, [])
      | some ran => apply lib { s with cfg := ran.mslookup } stale ran.applies

/-- One step. -/
def step (s : System) (input : Input) : System × List Output :=
  match input.action with
  | .start => dgsmStart lib s input.stale
  | .stop => dgsmStop lib s input.stale
  | .vty node words => vty lib s node words input.stale
  | .packet m => if m ∈ s.methods then (s, (readSuffix s m input.stale).2) else (s, [])

/-- The HLR as a machine. -/
def machine : Machine System Input Output := ⟨step lib⟩

/-! ## As it is configured -/

/-- The mDNS server runs as it is configured. -/
structure ServerFollows (s : System) : Prop where
  running : s.serverRunning.isSome = serverShouldRun s
  addr : ∀ running, s.serverRunning = some running →
    lib.sockaddrStrCmp s.cfg.server.mdns.addr running.bindAddr = 0
  domainSuffix : ∀ running, s.serverRunning = some running →
    s.cfg.server.mdns.domainSuffix = running.domainSuffix

/-- The mDNS client runs as it is configured: it is a method of the current mslookup client, no
other one has a socket, and its domain suffix is the configured string. -/
structure ClientFollows (s : System) : Prop where
  running : s.clientRunning.isSome = clientShouldRun s
  only : s.methods = s.clientRunning.toList
  own : ∀ m, s.clientRunning = some m → s.client = some m.client
  addr : ∀ m, s.clientRunning = some m →
    lib.sockaddrStrCmp s.cfg.client.mdns.addr m.bindAddr = 0
  domainSuffix : ∀ m, s.clientRunning = some m → m.domainSuffix = s.suffix

/-- After a step both run as they are configured, and no freed string has been read. -/
def StepFollows (s : System) (input : Input) : Prop :=
  (step lib s input).2 = [] ∧ ServerFollows lib (step lib s input).1 ∧
    ClientFollows lib (step lib s input).1

/-- Whether a line sets the domain suffix of the client. -/
def setsClientSuffix (node : Node) (words : List CStr) : Bool :=
  match Vty.findCommand (face lib.toSockaddrLib) node words with
  | some (.mdnsDomainSuffix, _) => true
  | some (.clientMdnsDomainSuffix, _) => true
  | _ => false

/-- The domain suffix of the client is not set, and the HLR not started, while the mDNS client is
to run. -/
def Quiet (s : System) (input : Input) : Prop :=
  clientShouldRun s = true →
    match input.action with
    | .start => False
    | .vty node words => setsClientSuffix lib node words = false
    | _ => True

instance (s : System) : (input : Input) → Decidable (Quiet lib s input)
  | ⟨.start, _⟩ => inferInstanceAs (Decidable (clientShouldRun s = true → False))
  | ⟨.vty node words, _⟩ =>
      inferInstanceAs
        (Decidable (clientShouldRun s = true → setsClientSuffix lib node words = false))
  | ⟨.stop, _⟩ => .isTrue fun _ => trivial
  | ⟨.packet _, _⟩ => .isTrue fun _ => trivial

/-! ## What the commands change -/

section Exec

variable {lib : SockaddrLib} {cfg : MslookupCfg} {ran : Ran} {node : Node} {argv : List CStr}

/-- The configured address of the client is one. -/
def AddrOk (lib : SockaddrLib) (cfg : MslookupCfg) : Prop :=
  lib.sockaddrStrFromStr cfg.client.mdns.addr.ip cfg.client.mdns.addr.port =
    some cfg.client.mdns.addr

/-- What a text is read as is read as itself. -/
theorem from_str_self {ip : CStr} {port : UInt16} {addr : SockaddrStr}
    (h : lib.sockaddrStrFromStr ip port = some addr) :
    lib.sockaddrStrFromStr addr.ip addr.port = some addr := by
  obtain ⟨hip, hport⟩ := lib.from_str_keeps ip port addr h
  rw [hip, hport, h]

theorem addrOk_init (lib : SockaddrLib) : AddrOk lib (MslookupCfg.init lib) := by
  obtain ⟨addr, haddr, -⟩ := lib.from_str_default
  have hdefault : (MslookupCfg.init lib).client.mdns.addr = addr := by
    show (lib.sockaddrStrFromStr _ _).getD _ = addr
    rw [haddr]
    rfl
  rw [AddrOk, hdefault]
  exact from_str_self haddr

/-- The mDNS part of the client as it was. -/
def SameClient (cfg cfg' : MslookupCfg) : Prop :=
  cfg'.client.enable = cfg.client.enable ∧ cfg'.client.mdns.enable = cfg.client.mdns.enable ∧
    cfg'.client.mdns.addr = cfg.client.mdns.addr

/-- The mDNS part of the server as it was. -/
def SameServer (cfg cfg' : MslookupCfg) : Prop :=
  cfg'.server.enable = cfg.server.enable ∧ cfg'.server.mdns = cfg.server.mdns

theorem SameClient.addrOk {cfg' : MslookupCfg} (h : SameClient cfg cfg') (hok : AddrOk lib cfg) :
    AddrOk lib cfg' := by
  rw [AddrOk, h.2.2]
  exact hok

/-- The commands that replace the client's domain suffix. -/
def Cmd.replaces : Cmd → Bool
  | .mdnsDomainSuffix => true
  | .clientMdnsDomainSuffix => true
  | _ => false

/-- What a command can do to the mDNS server and client: whichever part of the configuration it
changes is applied, the client's last. -/
structure ExecSpec (lib : SockaddrLib) (cfg : MslookupCfg) (replaces : Bool) (ran : Ran) :
    Prop where
  addrOk : AddrOk lib ran.mslookup
  server : SameServer cfg ran.mslookup ∨ Apply.server ∈ ran.applies
  client : (replaces = true ∧ SameClient cfg ran.mslookup ∧
      (ran.applies = [.replaceClientSuffix, .server, .client] ∨
        ran.applies = [.replaceClientSuffix, .client])) ∨
    replaces = false ∧ (ran.applies = [.server, .client] ∨ ran.applies = [.client] ∨
      SameClient cfg ran.mslookup ∧ (ran.applies = [.server] ∨ ran.applies = []))

namespace ExecSpec

variable {replaces : Bool}

/-- A command that changes nothing about mDNS. -/
theorem same (hok : AddrOk lib cfg) (hserver : SameServer cfg ran.mslookup)
    (hclient : SameClient cfg ran.mslookup) (happlies : ran.applies = []) :
    ExecSpec lib cfg false ran :=
  ⟨hclient.addrOk hok, Or.inl hserver, Or.inr ⟨rfl, Or.inr (Or.inr ⟨hclient, Or.inr happlies⟩)⟩⟩

/-- A command that applies the server. -/
theorem applyServer (hok : AddrOk lib cfg) (hclient : SameClient cfg ran.mslookup)
    (happlies : ran.applies = [.server]) : ExecSpec lib cfg false ran :=
  ⟨hclient.addrOk hok, Or.inr (by rw [happlies]; exact List.mem_cons_self),
    Or.inr ⟨rfl, Or.inr (Or.inr ⟨hclient, Or.inl happlies⟩)⟩⟩

/-- A command that applies the client. -/
theorem applyClient (hok : AddrOk lib ran.mslookup) (hserver : SameServer cfg ran.mslookup)
    (happlies : ran.applies = [.client]) : ExecSpec lib cfg false ran :=
  ⟨hok, Or.inl hserver, Or.inr ⟨rfl, Or.inr (Or.inl happlies)⟩⟩

/-- A command that applies both. -/
theorem applyBoth (hok : AddrOk lib ran.mslookup) (happlies : ran.applies = [.server, .client]) :
    ExecSpec lib cfg false ran :=
  ⟨hok, Or.inr (by rw [happlies]; exact List.mem_cons_self), Or.inr ⟨rfl, Or.inl happlies⟩⟩

end ExecSpec

/-- `mdns bind` of the server: nothing, or the server is applied. -/
theorem serverMdnsBind_cases (lib : SockaddrLib) (cfg : MslookupCfg) (argv : List CStr) :
    mslookupServerMdnsBind lib cfg argv = .warning cfg ∨
      (mslookupServerMdnsBind lib cfg argv).mslookup.client = cfg.client ∧
        (mslookupServerMdnsBind lib cfg argv).applies = [.server] := by
  unfold mslookupServerMdnsBind
  split
  next => exact Or.inl rfl
  next => exact Or.inr ⟨rfl, rfl⟩

/-- `mdns bind` of the client: nothing, or an address that is one, and the client is applied. -/
theorem clientMdnsTo_cases (lib : SockaddrLib) (cfg : MslookupCfg) (argv : List CStr) :
    mslookupClientMdnsTo lib cfg argv = .warning cfg ∨
      AddrOk lib (mslookupClientMdnsTo lib cfg argv).mslookup ∧
        (mslookupClientMdnsTo lib cfg argv).mslookup.server = cfg.server ∧
        (mslookupClientMdnsTo lib cfg argv).applies = [.client] := by
  unfold mslookupClientMdnsTo
  split
  next => exact Or.inl rfl
  next addr haddr =>
      obtain ⟨hfrom, -⟩ := Option.filter_eq_some_iff.1 haddr
      exact Or.inr ⟨from_str_self hfrom, rfl, rfl⟩

theorem sameClient_of_eq {cfg' : MslookupCfg} (h : cfg'.client = cfg.client) :
    SameClient cfg cfg' := by
  rw [SameClient, h]
  exact ⟨rfl, rfl, rfl⟩

theorem sameServer_of_eq {cfg' : MslookupCfg} (h : cfg'.server = cfg.server) :
    SameServer cfg cfg' := by
  rw [SameServer, h]
  exact ⟨rfl, rfl⟩

theorem spec_serverMdnsBind (hok : AddrOk lib cfg) (argv : List CStr) :
    ExecSpec lib cfg false (mslookupServerMdnsBind lib cfg argv) := by
  rcases serverMdnsBind_cases lib cfg argv with hwarning | ⟨hclient, happlies⟩
  · rw [hwarning]
    exact ExecSpec.same hok ⟨rfl, rfl⟩ ⟨rfl, rfl, rfl⟩ rfl
  · exact ExecSpec.applyServer hok (sameClient_of_eq hclient) happlies

theorem spec_clientMdnsTo (hok : AddrOk lib cfg) (argv : List CStr) :
    ExecSpec lib cfg false (mslookupClientMdnsTo lib cfg argv) := by
  rcases clientMdnsTo_cases lib cfg argv with hwarning | ⟨haddr, hserver, happlies⟩
  · rw [hwarning]
    exact ExecSpec.same hok ⟨rfl, rfl⟩ ⟨rfl, rfl, rfl⟩ rfl
  · exact ExecSpec.applyClient haddr (sameServer_of_eq hserver) happlies

/-- `mdns bind` of both: each of them does what it does alone. -/
theorem spec_cfgMdns (hok : AddrOk lib cfg) (argv : List CStr) :
    ExecSpec lib cfg false (cfgMdns lib cfg argv) := by
  rcases serverMdnsBind_cases lib cfg argv with hwarning | ⟨hclient, happlies⟩
  · have hcfg : (mslookupServerMdnsBind lib cfg argv).mslookup = cfg := by rw [hwarning]; rfl
    have hnone : (mslookupServerMdnsBind lib cfg argv).applies = [] := by rw [hwarning]; rfl
    have hspec := spec_clientMdnsTo hok argv
    simp only [cfgMdns, hcfg, hnone, List.nil_append]
    exact ⟨hspec.addrOk, hspec.server, hspec.client⟩
  · have hsame := sameClient_of_eq hclient
    rcases clientMdnsTo_cases lib (mslookupServerMdnsBind lib cfg argv).mslookup argv with
      hwarning | ⟨haddr, -, happlies'⟩
    · refine ExecSpec.applyServer hok ?_ ?_
      · simp only [cfgMdns, hwarning]
        exact hsame
      · simp only [cfgMdns, hwarning, happlies]
        rfl
    · refine ExecSpec.applyBoth haddr ?_
      simp only [cfgMdns, happlies, happlies']
      rfl

/-- The commands about services leave mDNS alone. -/
theorem cfgMscService_same (lib : SockaddrLib) (cfg : MslookupCfg) (node : Node)
    (service ip port : CStr) :
    SameServer cfg (cfgMscService lib cfg node service ip port).mslookup ∧
      (cfgMscService lib cfg node service ip port).mslookup.client = cfg.client ∧
      (cfgMscService lib cfg node service ip port).applies = [] := by
  unfold cfgMscService
  split
  next => exact ⟨⟨rfl, rfl⟩, rfl, rfl⟩
  next =>
      split
      next => exact ⟨⟨rfl, rfl⟩, rfl, rfl⟩
      next =>
          dsimp only
          split
          next => exact ⟨⟨rfl, rfl⟩, rfl, rfl⟩
          next => exact ⟨⟨rfl, rfl⟩, rfl, rfl⟩

theorem cfgMscNoService_same (lib : SockaddrLib) (cfg : MslookupCfg) (node : Node)
    (service : CStr) (addr : Option (CStr × CStr)) :
    SameServer cfg (cfgMscNoService lib cfg node service addr).mslookup ∧
      (cfgMscNoService lib cfg node service addr).mslookup.client = cfg.client ∧
      (cfgMscNoService lib cfg node service addr).applies = [] := by
  unfold cfgMscNoService
  split
  next => exact ⟨⟨rfl, rfl⟩, rfl, rfl⟩
  next =>
      dsimp only
      split
      next =>
          split
          next => exact ⟨⟨rfl, rfl⟩, rfl, rfl⟩
          next => exact ⟨⟨rfl, rfl⟩, rfl, rfl⟩
      next =>
          split
          next => exact ⟨⟨rfl, rfl⟩, rfl, rfl⟩
          next =>
              split
              next => exact ⟨⟨rfl, rfl⟩, rfl, rfl⟩
              next => exact ⟨⟨rfl, rfl⟩, rfl, rfl⟩

theorem cfgGatewayProxy_same (lib : SockaddrLib) (cfg : MslookupCfg) (ip : CStr)
    (port : Option CStr) :
    (cfgGatewayProxy lib cfg ip port).mslookup.server = cfg.server ∧
      SameClient cfg (cfgGatewayProxy lib cfg ip port).mslookup ∧
      (cfgGatewayProxy lib cfg ip port).applies = [] := by
  unfold cfgGatewayProxy
  dsimp only
  split
  next => exact ⟨rfl, ⟨rfl, rfl, rfl⟩, rfl⟩
  next => exact ⟨rfl, ⟨rfl, rfl, rfl⟩, rfl⟩

/-- **What a command can do to the mDNS server and client.** -/
theorem spec_exec (hok : AddrOk lib cfg) {cmd : Cmd}
    (h : exec lib cfg node cmd argv = some ran) : ExecSpec lib cfg cmd.replaces ran := by
  have hmem : ∀ {l : List Apply}, Apply.server ∈ Apply.replaceClientSuffix :: .server :: l :=
    List.mem_cons_of_mem _ List.mem_cons_self
  cases cmd with
  | mslookup =>
      cases h
      exact ExecSpec.same hok ⟨rfl, rfl⟩ ⟨rfl, rfl, rfl⟩ rfl
  | mdns =>
      cases h
      exact spec_cfgMdns hok argv
  | mdnsDomainSuffix =>
      cases h
      exact ⟨hok, Or.inr hmem, Or.inl ⟨rfl, ⟨rfl, rfl, rfl⟩, Or.inl rfl⟩⟩
  | noMdns =>
      cases h
      exact ExecSpec.applyBoth hok rfl
  | server =>
      cases h
      exact ExecSpec.applyServer hok ⟨rfl, rfl, rfl⟩ rfl
  | noServer =>
      cases h
      exact ExecSpec.applyServer hok ⟨rfl, rfl, rfl⟩ rfl
  | serverMdnsBind =>
      cases h
      exact spec_serverMdnsBind hok argv
  | serverMdnsDomainSuffix =>
      cases h
      exact ExecSpec.applyServer hok ⟨rfl, rfl, rfl⟩ rfl
  | serverNoMdnsBind =>
      cases h
      exact ExecSpec.applyServer hok ⟨rfl, rfl, rfl⟩ rfl
  | serverMsc =>
      obtain ⟨mscName, -, rfl⟩ := Option.map_eq_some_iff.1 h
      exact ExecSpec.same hok ⟨rfl, rfl⟩ ⟨rfl, rfl, rfl⟩ rfl
  | mscService =>
      cases h
      obtain ⟨hserver, hclient, happlies⟩ := cfgMscService_same lib cfg node _ _ _
      exact ExecSpec.same hok hserver (sameClient_of_eq hclient) happlies
  | mscNoService =>
      cases h
      obtain ⟨hserver, hclient, happlies⟩ := cfgMscNoService_same lib cfg node _ _
      exact ExecSpec.same hok hserver (sameClient_of_eq hclient) happlies
  | mscNoServiceAddr =>
      cases h
      obtain ⟨hserver, hclient, happlies⟩ := cfgMscNoService_same lib cfg node _ _
      exact ExecSpec.same hok hserver (sameClient_of_eq hclient) happlies
  | client =>
      cases h
      exact ExecSpec.applyClient hok ⟨rfl, rfl⟩ rfl
  | noClient =>
      cases h
      exact ExecSpec.applyClient hok ⟨rfl, rfl⟩ rfl
  | clientTimeout =>
      cases h
      exact ExecSpec.same hok ⟨rfl, rfl⟩ ⟨rfl, rfl, rfl⟩ rfl
  | clientMdnsBind =>
      cases h
      exact spec_clientMdnsTo hok argv
  | clientMdnsDomainSuffix =>
      cases h
      exact ⟨hok, Or.inl ⟨rfl, rfl⟩, Or.inl ⟨rfl, ⟨rfl, rfl, rfl⟩, Or.inr rfl⟩⟩
  | clientNoMdnsBind =>
      cases h
      exact ExecSpec.applyClient hok ⟨rfl, rfl⟩ rfl
  | gatewayProxy =>
      cases h
      obtain ⟨hserver, hclient, happlies⟩ := cfgGatewayProxy_same lib cfg _ _
      exact ExecSpec.same hok (sameServer_of_eq hserver) hclient happlies
  | noGatewayProxy =>
      cases h
      exact ExecSpec.same hok ⟨rfl, rfl⟩ ⟨rfl, rfl, rfl⟩ rfl

/-- A line is without effect, or a command does what it does. -/
theorem vty_cases (lib : MdnsLib) (s : System) (node : Node) (words : List CStr) (stale : CStr) :
    (vty lib s node words stale = (s, []) ∧ setsClientSuffix lib node words = false) ∨
      ∃ cmd argv ran, exec lib.toSockaddrLib s.cfg node cmd argv = some ran ∧
        setsClientSuffix lib node words = cmd.replaces ∧
        vty lib s node words stale =
          apply lib { s with cfg := ran.mslookup } stale ran.applies := by
  cases hfind : Vty.findCommand (face lib.toSockaddrLib) node words with
  | none => exact Or.inl ⟨by simp only [vty, hfind], by simp only [setsClientSuffix, hfind]⟩
  | some found =>
      obtain ⟨cmd, argv⟩ := found
      have hsets : setsClientSuffix lib node words = cmd.replaces := by
        simp only [setsClientSuffix, hfind]
        cases cmd <;> rfl
      cases hexec : exec lib.toSockaddrLib s.cfg node cmd argv with
      | some ran =>
          exact Or.inr ⟨cmd, argv, ran, hexec, hsets, by simp only [vty, hfind, hexec]⟩
      | none =>
          -- the commands that set it are always defined
          have hreplaces : cmd.replaces = false := by
            cases cmd <;> first | rfl | cases hexec
          exact Or.inl ⟨by simp only [vty, hfind, hexec], hsets.trans hreplaces⟩

end Exec

end DgsmVty
end OsmoHlr
