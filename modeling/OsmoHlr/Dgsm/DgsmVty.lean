import OsmoHlr.Db.DbSel
import OsmoHlr.Lib.Keyed
import OsmoHlr.Lib.Vty
import OsmoHlr.Mslookup.Basic

/-!
# The mslookup configuration

`src/dgsm_vty.c` with the lists of `src/mslookup_server.c`: the commands of the
mslookup nodes, and how the configuration is written.

What a command does to the mDNS server and client that are running is left to
`OsmoHlr.Dgsm.MdnsApply`; here it only names the functions that it calls for it.

* `exec` — the commands, each in the node it is installed in.
* `configWriteMslookup` — the lines of the configuration.
-/

namespace OsmoHlr
namespace DgsmVty

open CString CniPeerId
open Vty (Elem Interface)

/-! ## Addresses -/

/-- What is called of libosmocore. -/
structure SockaddrLib where
  /-- `osmo_sockaddr_str_from_str`; `none` for a negative return code. -/
  sockaddrStrFromStr : CStr → UInt16 → Option SockaddrStr
  /-- `osmo_sockaddr_str_is_nonzero` -/
  sockaddrStrIsNonzero : SockaddrStr → Bool
  /-- `osmo_sockaddr_str_cmp` -/
  sockaddrStrCmp : SockaddrStr → SockaddrStr → Int
  /-- `osmo_escape_str_c`, as used for names. -/
  escapeStr : List UInt8 → CStr
  /-- The text and the port are kept as they are. -/
  from_str_keeps : ∀ ip port addr, sockaddrStrFromStr ip port = some addr →
    addr.ip = ip ∧ addr.port = port
  /-- An address is equal to itself. -/
  cmp_self : ∀ addr, sockaddrStrCmp addr addr = 0
  /-- No address is not an address. -/
  nonzero_zero : sockaddrStrIsNonzero SockaddrStr.zero = false
  /-- The default multicast address is one. -/
  from_str_default : ∃ addr, sockaddrStrFromStr (CStr.lit "239.192.23.42") 4266 = some addr ∧
    sockaddrStrIsNonzero addr = true

/-- `AF_INET` -/
def afInet : UInt16 := 2

/-- `AF_INET6` -/
def afInet6 : UInt16 := 10

/-! ## The configuration -/

/-- `struct mslookup_service_host` -/
structure ServiceHost where
  service : CStr
  hostV4 : SockaddrStr
  hostV6 : SockaddrStr
  deriving DecidableEq

/-- `struct mslookup_server_msc_cfg` -/
structure MscCfg where
  name : IpaName
  serviceHosts : List ServiceHost
  deriving DecidableEq

/-- `mdns` of the server and of the client, as it is configured. -/
structure Mdns where
  enable : Bool
  /-- `bind_addr` of the server, `query_addr` of the client. -/
  addr : SockaddrStr
  domainSuffix : CStr
  deriving DecidableEq

/-- `g_hlr->mslookup.server` -/
structure Server where
  enable : Bool
  localSiteServices : List MscCfg
  mdns : Mdns
  deriving DecidableEq

/-- `g_hlr->mslookup.client` -/
structure Client where
  enable : Bool
  gsupGatewayProxy : SockaddrStr
  resultTimeoutMilliseconds : UInt32
  mdns : Mdns
  deriving DecidableEq

/-- `g_hlr->mslookup`, as it is configured. -/
structure MslookupCfg where
  server : Server
  client : Client
  deriving DecidableEq

/-- `OSMO_MDNS_DOMAIN_SUFFIX_DEFAULT` -/
def mdnsDomainSuffixDefault : CStr := CStr.lit "mdns.osmocom.org"

/-- `OSMO_GSUP_PORT` -/
def gsupPort : UInt16 := 4222

variable (lib : SockaddrLib)

/-- The address that `dgsm_init` sets. -/
def mdnsAddrDefault : SockaddrStr :=
  (lib.sockaddrStrFromStr (CStr.lit "239.192.23.42") 4266).getD SockaddrStr.zero

/-- `mdns` of the server and of the client at first. -/
def mdnsDefault : Mdns := ⟨false, mdnsAddrDefault lib, mdnsDomainSuffixDefault⟩

/-- The configuration after `main()` and `dgsm_init()`. -/
def MslookupCfg.init : MslookupCfg :=
  ⟨⟨false, [], mdnsDefault lib⟩, ⟨false, SockaddrStr.zero, 2000, mdnsDefault lib⟩⟩

/-! ## Services of MSCs -/

/-- `mslookup_server_msc_wildcard` -/
def mscWildcard : IpaName := IpaName.zero

/-- `mslookup_server_msc_get` without creating one. -/
def mscFind (mscs : List MscCfg) (mscName : IpaName) : Option MscCfg :=
  mscs.find? fun msc => ipaNameCmp msc.name mscName = 0

/-- `mslookup_server_msc_get`, which creates one. -/
def mscGet (mscs : List MscCfg) (mscName : IpaName) : MscCfg × List MscCfg :=
  match mscFind mscs mscName with
  | some msc => (msc, mscs)
  | none => (⟨mscName, []⟩, mscs ++ [⟨mscName, []⟩])

/-- Writing to an MSC that is in the list. -/
def mscSet (mscs : List MscCfg) (msc : MscCfg) : List MscCfg := Keyed.set MscCfg.name mscs msc

/-- `mslookup_server_msc_service_get`, which creates one. -/
def mscServiceGet (hosts : List ServiceHost) (service : CStr) : List ServiceHost :=
  match Keyed.find ServiceHost.service hosts service with
  | some _ => hosts
  | none => hosts ++ [⟨service, SockaddrStr.zero, SockaddrStr.zero⟩]

/-- `mslookup_server_msc_service_set`, and whether it succeeds. -/
def mscServiceSet (hosts : List ServiceHost) (service : CStr) (addr : SockaddrStr) :
    List ServiceHost × Bool :=
  if service.len = 0 ∨ Mslookup.serviceMaxlen < service.len then (hosts, false)
  else if !lib.sockaddrStrIsNonzero addr then (hosts, false)
  else
    let hosts := mscServiceGet hosts service
    let write (f : ServiceHost → ServiceHost) : List ServiceHost :=
      hosts.map fun e => if e.service = service then f e else e
    if addr.af = afInet then (write fun e => { e with hostV4 := addr }, true)
    else if addr.af = afInet6 then (write fun e => { e with hostV6 := addr }, true)
    else (hosts, false)

/-- What `mslookup_server_msc_service_del` leaves of an entry. -/
def mscServiceDelOne (service : CStr) (addr : Option SockaddrStr) (e : ServiceHost) :
    Option ServiceHost :=
  if e.service ≠ service then some e
  else
    match addr with
    | none => none
    | some addr =>
        if lib.sockaddrStrCmp addr e.hostV4 = 0 then
          -- removed one address: if the other is still there, keep the entry
          if lib.sockaddrStrIsNonzero e.hostV6 then some { e with hostV4 := SockaddrStr.zero }
          else none
        else if lib.sockaddrStrCmp addr e.hostV6 = 0 then
          if lib.sockaddrStrIsNonzero e.hostV4 then some { e with hostV6 := SockaddrStr.zero }
          else none
        else some e

/-- `mslookup_server_msc_service_del`, and how many entries it deletes. -/
def mscServiceDel (hosts : List ServiceHost) (service : CStr) (addr : Option SockaddrStr) :
    List ServiceHost × Nat :=
  let left := hosts.filterMap (mscServiceDelOne lib service addr)
  (left, hosts.length - left.length)

/-! ## Commands -/

/-- The nodes; that of an MSC has it in `vty->index`. -/
inductive Node where
  | config
  | mslookup
  | server
  | msc (name : IpaName)
  | client
  deriving DecidableEq

/-- The commands. -/
inductive Cmd where
  | mslookup
  | mdns
  | mdnsDomainSuffix
  | noMdns
  | server
  | noServer
  | serverMdnsBind
  | serverMdnsDomainSuffix
  | serverNoMdnsBind
  | serverMsc
  | mscService
  | mscNoService
  | mscNoServiceAddr
  | client
  | noClient
  | clientTimeout
  | clientMdnsBind
  | clientMdnsDomainSuffix
  | clientNoMdnsBind
  | gatewayProxy
  | noGatewayProxy
  deriving DecidableEq

/-- `CMD_SUCCESS` and `CMD_WARNING` -/
inductive Rc where
  | success
  | warning
  deriving DecidableEq

/-- What a command does to what is running, in order. -/
inductive Apply where
  /-- `mslookup_server_mdns_config_apply()` -/
  | server
  /-- `dgsm_mdns_client_config_apply()` -/
  | client
  /-- `osmo_talloc_replace_string()` of `client.mdns.domain_suffix` -/
  | replaceClientSuffix
  deriving DecidableEq

/-- A command has been executed. -/
structure Ran where
  mslookup : MslookupCfg
  rc : Rc
  applies : List Apply
  /-- The child node that it enters. -/
  child : Option Node

/-- A command that only changes the configuration, and applies it. -/
def Ran.ok (mslookup : MslookupCfg) (applies : List Apply) : Ran :=
  ⟨mslookup, .success, applies, none⟩

/-- A command that complains. -/
def Ran.warning (mslookup : MslookupCfg) : Ran := ⟨mslookup, .warning, [], none⟩

/-- `atoi` of a number. -/
def atoi (word : CStr) : Nat := Decimal.digitsValue word.bytes

/-- The address of `mdns bind [IP] [<1-65535>]`, if it is one. -/
def mdnsAddr (current : SockaddrStr) (argv : List CStr) : Option SockaddrStr :=
  let ip := argv[0]?.getD current.ip
  let port := (argv[1]?.map fun port => UInt16.ofNat (atoi port)).getD current.port
  (lib.sockaddrStrFromStr ip port).filter lib.sockaddrStrIsNonzero

/-- `mslookup_server_mdns_bind` -/
def mslookupServerMdnsBind (s : MslookupCfg) (argv : List CStr) : Ran :=
  match mdnsAddr lib s.server.mdns.addr argv with
  | none => .warning s
  | some addr =>
      .ok { s with server := { s.server with
        enable := true, mdns := { s.server.mdns with addr := addr, enable := true } } } [.server]

/-- `mslookup_client_mdns_to` -/
def mslookupClientMdnsTo (s : MslookupCfg) (argv : List CStr) : Ran :=
  match mdnsAddr lib s.client.mdns.addr argv with
  | none => .warning s
  | some addr =>
      .ok { s with client := { s.client with
        enable := true, mdns := { s.client.mdns with addr := addr, enable := true } } } [.client]

/-- Whether `mdns.enable` of the server is set. -/
def setServerMdns (s : MslookupCfg) (enable : Bool) : MslookupCfg :=
  { s with server := { s.server with mdns := { s.server.mdns with enable := enable } } }

/-- Whether `mdns.enable` of the client is set. -/
def setClientMdns (s : MslookupCfg) (enable : Bool) : MslookupCfg :=
  { s with client := { s.client with mdns := { s.client.mdns with enable := enable } } }

/-- `osmo_talloc_replace_string` of `server.mdns.domain_suffix` -/
def setServerSuffix (s : MslookupCfg) (suffix : CStr) : MslookupCfg :=
  { s with server := { s.server with mdns := { s.server.mdns with domainSuffix := suffix } } }

/-- `osmo_talloc_replace_string` of `client.mdns.domain_suffix` -/
def setClientSuffix (s : MslookupCfg) (suffix : CStr) : MslookupCfg :=
  { s with client := { s.client with mdns := { s.client.mdns with domainSuffix := suffix } } }

/-- `msc_from_node`, which may create the MSC without a name. -/
def mscFromNode (s : MslookupCfg) : Node → Option (MscCfg × List MscCfg)
  | .server => some (mscGet s.server.localSiteServices mscWildcard)
  | .msc name =>
      (mscFind s.server.localSiteServices name).map fun msc => (msc, s.server.localSiteServices)
  | _ => none

/-- The services, as a command leaves them. -/
def setServices (s : MslookupCfg) (mscs : List MscCfg) : MslookupCfg :=
  { s with server := { s.server with localSiteServices := mscs } }

/-- The address of `IP <1-65535>`, if it is one. -/
def serviceAddr (ip port : CStr) : Option SockaddrStr :=
  (lib.sockaddrStrFromStr ip (UInt16.ofNat (atoi port))).filter lib.sockaddrStrIsNonzero

/-- `cfg_mslookup_server_msc_service` -/
def cfgMscService (s : MslookupCfg) (node : Node) (service ip port : CStr) : Ran :=
  match mscFromNode s node with
  | none => .warning s
  | some (msc, mscs) =>
      match serviceAddr lib ip port with
      | none => .warning (setServices s mscs)
      | some addr =>
          let set := mscServiceSet lib msc.serviceHosts service addr
          let s' := setServices s (mscSet mscs ⟨msc.name, set.1⟩)
          if set.2 then .ok s' [] else .warning s'

/-- `cfg_mslookup_server_msc_no_service` without an address, and
`cfg_mslookup_server_msc_no_service_addr` with one. -/
def cfgMscNoService (s : MslookupCfg) (node : Node) (service : CStr) (addr : Option (CStr × CStr)) :
    Ran :=
  match mscFromNode s node with
  | none => .warning s
  | some (msc, mscs) =>
      let del (addr : Option SockaddrStr) : Ran :=
        let deleted := mscServiceDel lib msc.serviceHosts service addr
        let s' := setServices s (mscSet mscs ⟨msc.name, deleted.1⟩)
        if deleted.2 < 1 then .warning s' else .ok s' []
      match addr with
      | none => del none
      | some (ip, port) =>
          match serviceAddr lib ip port with
          | none => .warning (setServices s mscs)
          | some addr => del (some addr)

/-- `argv_concat(argv, argc, 0)` -/
def argvConcat (argv : List CStr) : CStr :=
  CStr.ofBytes ([Vty.blank].intercalate (argv.map CStr.bytes))

/-- `cfg_mslookup_server_msc`.  `none`: the name is a format that wants arguments. -/
def cfgServerMsc (s : MslookupCfg) (argv : List CStr) : Option Ran :=
  (Db.ipaNameSetFmt (some (argvConcat argv))).map fun mscName =>
    ⟨setServices s (mscGet s.server.localSiteServices mscName).2, .success, [], some (.msc mscName)⟩

/-- `cfg_mslookup_client_gateway_proxy` -/
def cfgGatewayProxy (s : MslookupCfg) (ip : CStr) (port : Option CStr) : Ran :=
  let port := (port.map fun port => UInt16.ofNat (atoi port)).getD gsupPort
  match (lib.sockaddrStrFromStr ip port).filter lib.sockaddrStrIsNonzero with
  | none => .warning s
  | some addr => .ok { s with client := { s.client with gsupGatewayProxy := addr } } []

/-- `cfg_mslookup_mdns`: the server's part, then the client's. -/
def cfgMdns (s : MslookupCfg) (argv : List CStr) : Ran :=
  let ran1 := mslookupServerMdnsBind lib s argv
  let ran2 := mslookupClientMdnsTo lib ran1.mslookup argv
  ⟨ran2.mslookup, if ran1.rc ≠ .success then ran1.rc else ran2.rc, ran1.applies ++ ran2.applies,
    none⟩

/-- What the commands do.  `none`: what a command does is not defined. -/
def exec (s : MslookupCfg) (node : Node) : Cmd → List CStr → Option Ran
  | .mslookup, _ => some ⟨s, .success, [], some .mslookup⟩
  | .mdns, argv => some (cfgMdns lib s argv)
  | .mdnsDomainSuffix, argv =>
      let suffix := argv[0]?.getD CStr.empty
      some (.ok (setClientSuffix (setServerSuffix s suffix) suffix)
        [.replaceClientSuffix, .server, .client])
  | .noMdns, _ => some (.ok (setClientMdns (setServerMdns s false) false) [.server, .client])
  | .server, _ =>
      some ⟨{ s with server := { s.server with enable := true } }, .success, [.server],
        some .server⟩
  | .noServer, _ => some (.ok { s with server := { s.server with enable := false } } [.server])
  | .serverMdnsBind, argv => some (mslookupServerMdnsBind lib s argv)
  | .serverMdnsDomainSuffix, argv =>
      some (.ok (setServerSuffix s (argv[0]?.getD CStr.empty)) [.server])
  | .serverNoMdnsBind, _ => some (.ok (setServerMdns s false) [.server])
  | .serverMsc, argv => cfgServerMsc s argv
  | .mscService, argv =>
      some (cfgMscService lib s node (argv[0]?.getD CStr.empty) (argv[1]?.getD CStr.empty)
        (argv[2]?.getD CStr.empty))
  | .mscNoService, argv => some (cfgMscNoService lib s node (argv[0]?.getD CStr.empty) none)
  | .mscNoServiceAddr, argv =>
      some (cfgMscNoService lib s node (argv[0]?.getD CStr.empty)
        (some (argv[1]?.getD CStr.empty, argv[2]?.getD CStr.empty)))
  | .client, _ =>
      some ⟨{ s with client := { s.client with enable := true } }, .success, [.client],
        some .client⟩
  | .noClient, _ => some (.ok { s with client := { s.client with enable := false } } [.client])
  | .clientTimeout, argv =>
      some (.ok { s with client := { s.client with
        resultTimeoutMilliseconds := UInt32.ofNat (atoi (argv[0]?.getD CStr.empty)) } } [])
  | .clientMdnsBind, argv => some (mslookupClientMdnsTo lib s argv)
  | .clientMdnsDomainSuffix, argv =>
      some (.ok (setClientSuffix s (argv[0]?.getD CStr.empty)) [.replaceClientSuffix, .client])
  | .clientNoMdnsBind, _ => some (.ok (setClientMdns s false) [.client])
  | .gatewayProxy, argv => some (cfgGatewayProxy lib s (argv[0]?.getD CStr.empty) argv[1]?)
  | .noGatewayProxy, _ =>
      some (.ok { s with client := { s.client with gsupGatewayProxy := SockaddrStr.zero } } [])

/-! ## The nodes -/

/-- A keyword of a command. -/
def kw (word : String) : Elem := .keyword (CStr.lit word)

/-- A port: `<1-65535>`. -/
def port : Elem := .range 1 65535

/-- The descriptions of the commands. -/
def elems : Cmd → List Elem
  | .mslookup => [kw "mslookup"]
  | .mdns => [kw "mdns", kw "bind", .optVar, .optRange 1 65535]
  | .mdnsDomainSuffix => [kw "mdns", kw "domain-suffix", .var]
  | .noMdns => [kw "no", kw "mdns", kw "bind"]
  | .server => [kw "server"]
  | .noServer => [kw "no", kw "server"]
  | .serverMdnsBind => [kw "mdns", kw "bind", .optVar, .optRange 1 65535]
  | .serverMdnsDomainSuffix => [kw "mdns", kw "domain-suffix", .var]
  | .serverNoMdnsBind => [kw "no", kw "mdns", kw "bind"]
  | .serverMsc => [kw "msc", kw "ipa-name", .rest]
  | .mscService => [kw "service", .var, kw "at", .var, port]
  | .mscNoService => [kw "no", kw "service", .var]
  | .mscNoServiceAddr => [kw "no", kw "service", .var, kw "at", .var, port]
  | .client => [kw "client"]
  | .noClient => [kw "no", kw "client"]
  | .clientTimeout => [kw "timeout", .range 1 100000]
  | .clientMdnsBind => [kw "mdns", kw "bind", .optVar, .optRange 1 65535]
  | .clientMdnsDomainSuffix => [kw "mdns", kw "domain-suffix", .var]
  | .clientNoMdnsBind => [kw "no", kw "mdns", kw "bind"]
  | .gatewayProxy => [kw "gateway-proxy", .var, .optRange 1 65535]
  | .noGatewayProxy => [kw "no", kw "gateway-proxy"]

/-- `dgsm_vty_init` -/
def installed : Node → List Cmd
  | .config => [.mslookup]
  | .mslookup => [.mdns, .mdnsDomainSuffix, .noMdns, .server, .noServer, .client, .noClient]
  | .server =>
      [.serverMdnsBind, .serverMdnsDomainSuffix, .serverNoMdnsBind, .mscService, .mscNoService,
        .mscNoServiceAddr, .serverMsc]
  | .msc _ => [.mscService, .mscNoService, .mscNoServiceAddr]
  | .client =>
      [.clientTimeout, .clientMdnsBind, .clientMdnsDomainSuffix, .clientNoMdnsBind, .gatewayProxy,
        .noGatewayProxy]

/-- The commands, as a file of them is read. -/
def face : Interface Node Cmd MslookupCfg where
  installed := installed
  elems := elems
  exec node cmd argv s := (exec lib s node cmd argv).map fun ran => (ran.mslookup, ran.child)

/-! ## Writing -/

/-- `osmo_ipa_name_to_str` -/
def ipaNameToStr (ipaName : IpaName) : CStr :=
  if ipaName.len = 0 then CStr.empty
  else if ipaName.val.getLast? = some 0 then lib.escapeStr ipaName.val.dropLast
  else lib.escapeStr ipaName.val

/-- ` %s %u` of an address -/
def addrText (addr : SockaddrStr) : List UInt8 :=
  addr.ip.bytes ++ Vty.blank :: Decimal.printDec addr.port.toNat

/-- `%sservice %s at %s %u` -/
def serviceLine (indent : String) (e : ServiceHost) (addr : SockaddrStr) : List UInt8 :=
  (CStr.lit indent).bytes ++ (CStr.lit "service ").bytes ++ e.service.bytes ++
    (CStr.lit " at ").bytes ++ addrText addr

/-- `config_write_msc_services` -/
def configWriteMscServices (indent : String) (msc : MscCfg) : List (List UInt8) :=
  msc.serviceHosts.flatMap fun e =>
    (if lib.sockaddrStrIsNonzero e.hostV4 then [serviceLine indent e e.hostV4] else []) ++
    if lib.sockaddrStrIsNonzero e.hostV6 then [serviceLine indent e e.hostV6] else []

/-- The lines of the services: those without an MSC, and those of each MSC. -/
def configWriteServices (mscs : List MscCfg) : List (List UInt8) :=
  (match mscFind mscs mscWildcard with
    | some msc => configWriteMscServices lib " " msc
    | none => []) ++
  mscs.flatMap fun msc =>
    if ipaNameCmp mscWildcard msc.name = 0 then []
    else ((CStr.lit " msc ").bytes ++ (ipaNameToStr lib msc.name).bytes) ::
      configWriteMscServices lib "  " msc

/-- The line of `mdns domain-suffix`, unless it is the default. -/
def configWriteSuffix (mdns : Mdns) : List (List UInt8) :=
  if mdns.domainSuffix ≠ mdnsDomainSuffixDefault then
    [(CStr.lit "  mdns domain-suffix ").bytes ++ mdns.domainSuffix.bytes]
  else []

/-- The part of the server. -/
def configWriteServer (server : Server) : List (List UInt8) :=
  (CStr.lit " server").bytes ::
    ((if server.mdns.enable then
        [(CStr.lit "  mdns bind").bytes ++
          if lib.sockaddrStrIsNonzero server.mdns.addr then Vty.blank :: addrText server.mdns.addr
          else []]
      else []) ++
    configWriteSuffix server.mdns ++
    configWriteServices lib server.localSiteServices ++
    -- if the server is disabled, still output the above to not lose the service config
    if !server.enable then [(CStr.lit " no server").bytes] else [])

/-- The part of the client. -/
def configWriteClient (client : Client) : List (List UInt8) :=
  (CStr.lit " client").bytes ::
    ((if lib.sockaddrStrIsNonzero client.gsupGatewayProxy then
        [(CStr.lit "  gateway-proxy ").bytes ++ addrText client.gsupGatewayProxy]
      else []) ++
    (if client.mdns.enable && lib.sockaddrStrIsNonzero client.mdns.addr then
        [(CStr.lit "  mdns bind ").bytes ++ addrText client.mdns.addr]
      else []) ++
    configWriteSuffix client.mdns)

/-- `config_write_mslookup` -/
def configWriteMslookup (s : MslookupCfg) : List (List UInt8) :=
  if !s.server.enable && s.server.localSiteServices.isEmpty && !s.client.enable then []
  else
    (CStr.lit "mslookup").bytes ::
      ((if s.server.enable || !s.server.localSiteServices.isEmpty then
          configWriteServer lib s.server
        else []) ++
      if s.client.enable then configWriteClient lib s.client else [])

end DgsmVty
end OsmoHlr
