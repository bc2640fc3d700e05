import OsmoHlr.Dgsm.DgsmVtyHost

/-!
# The mslookup configuration, written and read

What `config_write_mslookup` writes is fed to a fresh instance.

* `configured` — what any commands make of the empty configuration.
* `restored` — what is read back, if there are no services.
* `config_roundTrip` — exactly when it is what has been configured.
-/

namespace OsmoHlr
namespace DgsmVty

open CString
open Vty (IsWord Reads number)

variable (lib : SockaddrLib)

/-! ## Configurations -/

/-- A line in a node, as it has been split into words. -/
structure Line where
  node : Node
  words : List CStr
  isWord : ∀ w ∈ words, IsWord w

/-- What a line makes of the configuration; one that is not accepted leaves it as it is. -/
def enter (s : MslookupCfg) (line : Line) : MslookupCfg :=
  match Vty.findCommand (face lib) line.node line.words with
  | none => s
  | some (cmd, argv) => ((exec lib s line.node cmd argv).map Ran.mslookup).getD s

/-- The configuration after lines in any nodes. -/
def configured (lines : List Line) : MslookupCfg := lines.foldl (enter lib) (MslookupCfg.init lib)

/-- What a fresh instance makes of a file.  `none`: it is rejected. -/
def load (lines : List (List UInt8)) : Option MslookupCfg :=
  (Vty.readLines (face lib) (Vty.Reader.start (MslookupCfg.init lib) .config) lines).map
    Vty.Reader.state

/-- All that is configured is written: there is no service or MSC, the timeout is the default, and
what is disabled has its defaults. -/
structure WrittenBack (s : MslookupCfg) : Prop where
  localSiteServices : s.server.localSiteServices = []
  resultTimeout : s.client.resultTimeoutMilliseconds = 2000
  server : s.server.enable = true ∨ s.server.mdns = mdnsDefault lib
  serverMdns : s.server.mdns.enable = true ∨ s.server.mdns.addr = mdnsAddrDefault lib
  client : s.client.enable = true ∨
    s.client.gsupGatewayProxy = SockaddrStr.zero ∧ s.client.mdns = mdnsDefault lib
  clientMdns : s.client.mdns.enable = true ∨ s.client.mdns.addr = mdnsAddrDefault lib

/-- What is read back of `mdns`. -/
def restoredMdns (mdns : Mdns) : Mdns :=
  ⟨mdns.enable, if mdns.enable then mdns.addr else mdnsAddrDefault lib, mdns.domainSuffix⟩

/-- What is read back of the server, if no line is written for a service. -/
def restoredServer (server : Server) : Server :=
  if server.enable || !server.localSiteServices.isEmpty then
    ⟨server.enable, [], restoredMdns lib server.mdns⟩
  else (MslookupCfg.init lib).server

/-- What is read back of the client. -/
def restoredClient (client : Client) : Client :=
  if client.enable then ⟨true, client.gsupGatewayProxy, 2000, restoredMdns lib client.mdns⟩
  else (MslookupCfg.init lib).client

/-- What is read back, if no line is written for a service. -/
def restored (s : MslookupCfg) : MslookupCfg :=
  ⟨restoredServer lib s.server, restoredClient lib s.client⟩

/-! ## What is written can be read -/

section Sane

variable {lib} {s s' : MslookupCfg} {addr : SockaddrStr} {words argv : List CStr}

/-- An address that has been configured. -/
structure AddrSane (lib : SockaddrLib) (addr : SockaddrStr) : Prop where
  from_str : lib.sockaddrStrFromStr addr.ip addr.port = some addr
  nonzero : lib.sockaddrStrIsNonzero addr = true
  ip : IsWord addr.ip
  port : addr.port ≠ 0

/-- What is written as words has been words. -/
structure Sane (lib : SockaddrLib) (s : MslookupCfg) : Prop where
  server : AddrSane lib s.server.mdns.addr
  client : AddrSane lib s.client.mdns.addr
  gateway : s.client.gsupGatewayProxy = SockaddrStr.zero ∨ AddrSane lib s.client.gsupGatewayProxy
  serverSuffix : IsWord s.server.mdns.domainSuffix
  clientSuffix : IsWord s.client.mdns.domainSuffix

theorem AddrSane.of_from_str (ip : CStr) (port : UInt16) (hip : IsWord ip) (hport : port ≠ 0)
    (h : (lib.sockaddrStrFromStr ip port).filter lib.sockaddrStrIsNonzero = some addr) :
    AddrSane lib addr := by
  obtain ⟨hfrom, hnonzero⟩ := Option.filter_eq_some_iff.1 h
  obtain ⟨hkeepip, hkeepport⟩ := lib.from_str_keeps ip port addr hfrom
  refine ⟨from_str_self hfrom, hnonzero, ?_, ?_⟩
  · rw [hkeepip]
    exact hip
  · rw [hkeepport]
    exact hport

/-- A port that has been accepted is one. -/
theorem port_ne_zero {word : CStr} (h : Vty.inRange 1 65535 word = true) :
    UInt16.ofNat (atoi word) ≠ 0 := by
  obtain ⟨hlo, hhi⟩ := Vty.digitsValue_of_inRange h
  intro hzero
  have hnat := congrArg UInt16.toNat hzero
  rw [UInt16.toNat_ofNat', atoi, Nat.mod_eq_of_lt (by omega)] at hnat
  exact absurd hnat (Nat.ne_of_gt hlo)

theorem addrSane_default : AddrSane lib (mdnsAddrDefault lib) := by
  obtain ⟨addr, haddr, hnonzero⟩ := lib.from_str_default
  rw [mdnsAddrDefault, haddr, Option.getD_some]
  refine AddrSane.of_from_str (CStr.lit "239.192.23.42") 4266 (by decide) (by decide) ?_
  rw [haddr, Option.filter_some, if_pos hnonzero]

theorem isWord_suffixDefault : IsWord mdnsDomainSuffixDefault := by decide

theorem sane_init : Sane lib (MslookupCfg.init lib) :=
  ⟨addrSane_default, addrSane_default, Or.inl rfl, isWord_suffixDefault, isWord_suffixDefault⟩

/-- The same mDNS configuration and the same client. -/
theorem Sane.congr (h : Sane lib s) (hserver : s'.server.mdns = s.server.mdns)
    (hclient : s'.client = s.client) : Sane lib s' := by
  refine ⟨?_, ?_, ?_, ?_, ?_⟩
  · rw [hserver]
    exact h.server
  · rw [hclient]
    exact h.client
  · rw [hclient]
    exact h.gateway
  · rw [hserver]
    exact h.serverSuffix
  · rw [hclient]
    exact h.clientSuffix

/-- The arguments of `mdns bind [IP] [<1-65535>]`. -/
structure BindArgs (argv : List CStr) : Prop where
  isWord : ∀ a ∈ argv, IsWord a
  port : ∀ p, argv[1]? = some p → Vty.inRange 1 65535 p = true

theorem bindArgs_of_accept (hwords : ∀ w ∈ words, IsWord w)
    (h : Vty.accept [kw "mdns", kw "bind", .optVar, .optRange 1 65535] words = some argv) :
    BindArgs argv := by
  refine ⟨fun a ha => hwords a (Vty.mem_of_mem_accept h a ha), ?_⟩
  intro p hp
  obtain ⟨ws, -, hbind⟩ := Vty.accept_keyword_iff.1 h
  obtain ⟨ws, -, hargs⟩ := Vty.accept_keyword_iff.1 hbind
  rcases Vty.accept_optVar_iff.1 hargs with ⟨-, hnone⟩ | hargs
  · cases hnone
    cases hp
  · obtain ⟨ip, ws', argv', -, rfl, hrest⟩ := Vty.accept_var_iff.1 hargs
    rcases Vty.accept_optRange_iff.1 hrest with ⟨-, hnone⟩ | hrange
    · cases hnone
      cases hp
    · obtain ⟨port, _, _, -, rfl, hport, -⟩ := Vty.accept_range_iff.1 hrange
      cases hp
      exact hport

theorem mdnsAddr_sane {current : SockaddrStr} (hcurrent : AddrSane lib current)
    (hargv : BindArgs argv) (h : mdnsAddr lib current argv = some addr) : AddrSane lib addr := by
  refine AddrSane.of_from_str _ _ ?_ ?_ h
  · cases hip : argv[0]? with
    | none => exact hcurrent.ip
    | some ip => exact hargv.isWord ip (List.mem_of_getElem? hip)
  · cases hport : argv[1]? with
    | none => exact hcurrent.port
    | some port => exact port_ne_zero (hargv.port port hport)

theorem sane_serverMdnsBind (h : Sane lib s) (hargv : BindArgs argv) :
    Sane lib (mslookupServerMdnsBind lib s argv).mslookup := by
  unfold mslookupServerMdnsBind
  split
  next => exact h
  next addr haddr =>
      exact ⟨mdnsAddr_sane h.server hargv haddr, h.client, h.gateway, h.serverSuffix,
        h.clientSuffix⟩

theorem sane_clientMdnsTo (h : Sane lib s) (hargv : BindArgs argv) :
    Sane lib (mslookupClientMdnsTo lib s argv).mslookup := by
  unfold mslookupClientMdnsTo
  split
  next => exact h
  next addr haddr =>
      exact ⟨h.server, mdnsAddr_sane h.client hargv haddr, h.gateway, h.serverSuffix,
        h.clientSuffix⟩

/-- The argument of `mdns domain-suffix DOMAIN_SUFFIX`. -/
theorem suffix_of_accept (hwords : ∀ w ∈ words, IsWord w)
    (h : Vty.accept [kw "mdns", kw "domain-suffix", .var] words = some argv) :
    IsWord (argv[0]?.getD CStr.empty) := by
  have hall := fun a ha => hwords a (Vty.mem_of_mem_accept h a ha)
  obtain ⟨ws, -, hsuffix⟩ := Vty.accept_keyword_iff.1 h
  obtain ⟨ws, -, hvar⟩ := Vty.accept_keyword_iff.1 hsuffix
  obtain ⟨suffix, _, _, -, rfl, -⟩ := Vty.accept_var_iff.1 hvar
  exact hall suffix List.mem_cons_self

theorem sane_gatewayProxy (h : Sane lib s) (hwords : ∀ w ∈ words, IsWord w)
    (haccept : Vty.accept [kw "gateway-proxy", .var, .optRange 1 65535] words = some argv) :
    Sane lib (cfgGatewayProxy lib s (argv[0]?.getD CStr.empty) argv[1]?).mslookup := by
  have hall := fun a ha => hwords a (Vty.mem_of_mem_accept haccept a ha)
  obtain ⟨ws, -, hvar⟩ := Vty.accept_keyword_iff.1 haccept
  obtain ⟨ip, ws', argv', -, rfl, hrest⟩ := Vty.accept_var_iff.1 hvar
  have hport : ((ip :: argv')[1]?.map fun port => UInt16.ofNat (atoi port)).getD gsupPort ≠ 0 := by
    rcases Vty.accept_optRange_iff.1 hrest with ⟨-, hnone⟩ | hrange
    · cases hnone
      exact (by decide : gsupPort ≠ 0)
    · obtain ⟨port, _, _, -, rfl, hport, -⟩ := Vty.accept_range_iff.1 hrange
      exact port_ne_zero hport
  unfold cfgGatewayProxy
  dsimp only
  split
  next => exact h
  next addr haddr =>
      exact ⟨h.server, h.client,
        Or.inr (AddrSane.of_from_str _ _ (hall ip List.mem_cons_self) hport haddr),
        h.serverSuffix, h.clientSuffix⟩

/-- **What a command leaves can be written as words.** -/
theorem sane_exec (h : Sane lib s) {node : Node} {cmd : Cmd} {ran : Ran}
    (hwords : ∀ w ∈ words, IsWord w) (haccept : Vty.accept (elems cmd) words = some argv)
    (hexec : exec lib s node cmd argv = some ran) : Sane lib ran.mslookup := by
  cases cmd with
  | mdns =>
      cases hexec
      have hargv := bindArgs_of_accept hwords haccept
      exact sane_clientMdnsTo (sane_serverMdnsBind h hargv) hargv
  | mdnsDomainSuffix =>
      cases hexec
      have hsuffix := suffix_of_accept hwords haccept
      exact ⟨h.server, h.client, h.gateway, hsuffix, hsuffix⟩
  | serverMdnsBind =>
      cases hexec
      exact sane_serverMdnsBind h (bindArgs_of_accept hwords haccept)
  | serverMdnsDomainSuffix =>
      cases hexec
      exact ⟨h.server, h.client, h.gateway, suffix_of_accept hwords haccept, h.clientSuffix⟩
  | serverMsc =>
      obtain ⟨mscName, -, rfl⟩ := Option.map_eq_some_iff.1 hexec
      exact h.congr rfl rfl
  | mscService =>
      cases hexec
      obtain ⟨hserver, hclient, -⟩ := cfgMscService_same lib s node _ _ _
      exact h.congr hserver.2 hclient
  | mscNoService =>
      cases hexec
      obtain ⟨hserver, hclient, -⟩ := cfgMscNoService_same lib s node _ _
      exact h.congr hserver.2 hclient
  | mscNoServiceAddr =>
      cases hexec
      obtain ⟨hserver, hclient, -⟩ := cfgMscNoService_same lib s node _ _
      exact h.congr hserver.2 hclient
  | clientMdnsBind =>
      cases hexec
      exact sane_clientMdnsTo h (bindArgs_of_accept hwords haccept)
  | clientMdnsDomainSuffix =>
      cases hexec
      exact ⟨h.server, h.client, h.gateway, h.serverSuffix, suffix_of_accept hwords haccept⟩
  | gatewayProxy =>
      cases hexec
      exact sane_gatewayProxy h hwords haccept
  | noGatewayProxy =>
      cases hexec
      exact ⟨h.server, h.client, Or.inl rfl, h.serverSuffix, h.clientSuffix⟩
  | mslookup | noMdns | server | noServer | serverNoMdnsBind | client | noClient | clientTimeout
  | clientNoMdnsBind =>
      -- addresses and suffixes stay
      cases hexec
      exact ⟨h.server, h.client, h.gateway, h.serverSuffix, h.clientSuffix⟩

theorem sane_enter (h : Sane lib s) (line : Line) : Sane lib (enter lib s line) := by
  unfold enter
  split
  next => exact h
  next cmd argv hfind =>
      obtain ⟨-, haccept⟩ := Vty.findCommand_eq_some hfind
      cases hexec : exec lib s line.node cmd argv with
      | none => exact h
      | some ran => exact sane_exec h line.isWord haccept hexec

theorem sane_configured (lib : SockaddrLib) (lines : List Line) :
    Sane lib (configured lib lines) := by
  have hfold : ∀ s, Sane lib s → Sane lib (lines.foldl (enter lib) s) := by
    induction lines with
    | nil => exact fun s hs => hs
    | cons line lines ih => exact fun s hs => ih _ (sane_enter hs line)
  exact hfold _ sane_init

end Sane

/-! ## Reading -/

section Reading

variable {lib} {s t : MslookupCfg} {node : Node} {r : Vty.Reader Node MslookupCfg}
  {addr : SockaddrStr} {words argv : List CStr} {cmd : Cmd} {ran : Ran}

/-- A line of the mslookup node has been read. -/
def top (t : MslookupCfg) (child : Option Node) : Vty.Reader Node MslookupCfg :=
  ⟨t, .mslookup, 1, [(0, .config)], child⟩

/-- A line of a node below it has been read. -/
def below (node : Node) (t : MslookupCfg) (child : Option Node) : Vty.Reader Node MslookupCfg :=
  ⟨t, node, 2, [(1, .mslookup), (0, .config)], child⟩

/-- A line with one blank is one of the mslookup node. -/
def AtTop (t : MslookupCfg) (r : Vty.Reader Node MslookupCfg) : Prop :=
  ∃ child, r.goTo 1 = some (top t child)

/-- And one with two blanks is one of a node below it. -/
def Below (node : Node) (t : MslookupCfg) (r : Vty.Reader Node MslookupCfg) : Prop :=
  AtTop t r ∧ ∃ child, r.goTo 2 = some (below node t child)

theorem atTop_top (t : MslookupCfg) (child : Option Node) : AtTop t (top t child) :=
  ⟨child, Vty.Reader.goTo_same _⟩

theorem below_top (node : Node) (t : MslookupCfg) : Below node t (top t (some node)) :=
  ⟨atTop_top t _, none, Vty.Reader.goTo_child rfl (Nat.lt_succ_self 1)⟩

theorem below_below (node : Node) (t : MslookupCfg) (child : Option Node) :
    Below node t (below node t child) :=
  ⟨⟨none, Vty.Reader.goTo_parent rfl (Nat.lt_succ_self 1)⟩, child, Vty.Reader.goTo_same _⟩

theorem AtTop.state (h : AtTop t r) : r.state = t := by
  obtain ⟨child, hgo⟩ := h
  exact (Vty.Reader.state_goTo hgo).symm

/-- A line of the mslookup node. -/
theorem reads_top (hwords : ∀ w ∈ words, IsWord w) (hne : words ≠ [])
    (hfind : Vty.findCommand (face lib) .mslookup words = some (cmd, argv))
    (hexec : exec lib t .mslookup cmd argv = some ran) :
    Reads (face lib) (AtTop t) [Vty.render 1 words] fun r => r = top ran.mslookup ran.child := by
  refine Reads.line hwords hne ?_
  rintro r ⟨child, hgo⟩
  exact ⟨top t child, cmd, argv, (ran.mslookup, ran.child), hgo, hfind,
    by show (exec lib t .mslookup cmd argv).map _ = _; rw [hexec]; rfl, rfl⟩

/-- A line of a node below it. -/
theorem reads_below (hwords : ∀ w ∈ words, IsWord w) (hne : words ≠ [])
    (hfind : Vty.findCommand (face lib) node words = some (cmd, argv))
    (hexec : exec lib t node cmd argv = some ran) :
    Reads (face lib) (Below node t) [Vty.render 2 words] (Below node ran.mslookup) := by
  refine Reads.line hwords hne ?_
  rintro r ⟨-, child, hgo⟩
  exact ⟨below node t child, cmd, argv, (ran.mslookup, ran.child), hgo, hfind,
    by show (exec lib t node cmd argv).map _ = _; rw [hexec]; rfl, below_below _ _ _⟩

/-! ### Lines -/

/-- The words of an address. -/
def addrWords (addr : SockaddrStr) : List CStr := [addr.ip, number addr.port.toNat]

theorem render_addrWords (addr : SockaddrStr) : Vty.render 0 (addrWords addr) = addrText addr := by
  simp [Vty.render, addrText, addrWords, List.intercalate_cons_of_ne_nil]

theorem isWord_addrWords (h : AddrSane lib addr) : ∀ w ∈ addrWords addr, IsWord w := by
  intro w hw
  rcases List.mem_cons.1 hw with rfl | hw
  · exact h.ip
  · rw [List.mem_singleton.1 hw]
    exact Vty.isWord_number _

theorem inRange_port (h : AddrSane lib addr) :
    Vty.inRange 1 65535 (number addr.port.toNat) = true := by
  have hlt := addr.port.toNat_lt
  have hpos : 0 < addr.port.toNat := by
    refine Nat.pos_of_ne_zero ?_
    intro hzero
    exact h.port (UInt16.toNat_inj.1 hzero)
  exact Vty.inRange_number hpos (by omega)

/-- What is written of an address is that address. -/
theorem from_str_written (h : AddrSane lib addr) :
    (lib.sockaddrStrFromStr addr.ip (UInt16.ofNat (atoi (number addr.port.toNat)))).filter
      lib.sockaddrStrIsNonzero = some addr := by
  rw [atoi, Vty.bytes_number, Decimal.digitsValue_printDec, UInt16.ofNat_toNat, h.from_str,
    Option.filter_some, if_pos h.nonzero]

theorem mdnsAddr_written (h : AddrSane lib addr) (current : SockaddrStr) :
    mdnsAddr lib current (addrWords addr) = some addr := from_str_written h

/-! ### The mDNS part of a node -/

/-- The words of `mdns bind`. -/
def bindWords (addr : SockaddrStr) : List CStr :=
  [CStr.lit "mdns", CStr.lit "bind"] ++ addrWords addr

/-- The words of `mdns domain-suffix`. -/
def suffixWords (suffix : CStr) : List CStr :=
  [CStr.lit "mdns", CStr.lit "domain-suffix"] ++ [suffix]

theorem render_bindWords (addr : SockaddrStr) :
    Vty.render 2 (bindWords addr) =
      (CStr.lit "  mdns bind").bytes ++ Vty.blank :: addrText addr := by
  have hkeywords : Vty.render 2 [CStr.lit "mdns", CStr.lit "bind"] =
      (CStr.lit "  mdns bind").bytes := by decide
  rw [bindWords, Vty.render_append 2 (by simp) (by simp [addrWords]), render_addrWords, hkeywords]

theorem render_suffixWords (suffix : CStr) :
    Vty.render 2 (suffixWords suffix) =
      (CStr.lit "  mdns domain-suffix ").bytes ++ suffix.bytes := by
  have hkeywords : Vty.render 2 [CStr.lit "mdns", CStr.lit "domain-suffix"] ++ [Vty.blank] =
      (CStr.lit "  mdns domain-suffix ").bytes := by decide
  have hsuffix : Vty.render 0 [suffix] = suffix.bytes := by simp [Vty.render]
  rw [suffixWords, Vty.render_append 2 (by simp) (by simp), hsuffix, ← hkeywords,
    List.append_assoc]
  rfl

theorem isWord_bindWords (h : AddrSane lib addr) : ∀ w ∈ bindWords addr, IsWord w := by
  have hkeywords : ∀ w ∈ [CStr.lit "mdns", CStr.lit "bind"], IsWord w := by decide
  intro w hw
  rcases List.mem_append.1 hw with hw | hw
  · exact hkeywords w hw
  · exact isWord_addrWords h w hw

theorem isWord_suffixWords {suffix : CStr} (h : IsWord suffix) :
    ∀ w ∈ suffixWords suffix, IsWord w := by
  have hkeywords : ∀ w ∈ [CStr.lit "mdns", CStr.lit "domain-suffix"], IsWord w := by decide
  intro w hw
  rcases List.mem_append.1 hw with hw | hw
  · exact hkeywords w hw
  · rw [List.mem_singleton.1 hw]
    exact h

/-- A node in which mDNS is configured: `t` is the configuration, by its mDNS part. -/
structure MdnsNode (lib : SockaddrLib) (node : Node) (t : Mdns → MslookupCfg) : Prop where
  bind : ∀ mdns addr, AddrSane lib addr → ∃ cmd ran,
    Vty.findCommand (face lib) node (bindWords addr) = some (cmd, addrWords addr) ∧
      exec lib (t mdns) node cmd (addrWords addr) = some ran ∧
      ran.mslookup = t { mdns with addr := addr, enable := true }
  suffix : ∀ mdns suffix, ∃ cmd ran,
    Vty.findCommand (face lib) node (suffixWords suffix) = some (cmd, [suffix]) ∧
      exec lib (t mdns) node cmd [suffix] = some ran ∧
      ran.mslookup = t { mdns with domainSuffix := suffix }

/-- **What is written of the mDNS part of a node is read back.** -/
theorem MdnsNode.reads {t : Mdns → MslookupCfg} (hnode : MdnsNode lib node t) {mdns : Mdns}
    (haddr : AddrSane lib mdns.addr) (hsuffix : IsWord mdns.domainSuffix) :
    Reads (face lib) (Below node (t (mdnsDefault lib)))
      ((if mdns.enable then [(CStr.lit "  mdns bind").bytes ++ Vty.blank :: addrText mdns.addr]
        else []) ++ configWriteSuffix mdns)
      (Below node (t (restoredMdns lib mdns))) := by
  let bound : Mdns := ⟨mdns.enable, if mdns.enable then mdns.addr else mdnsAddrDefault lib,
    mdnsDomainSuffixDefault⟩
  have hbind : Reads (face lib) (Below node (t (mdnsDefault lib)))
      (if mdns.enable then [(CStr.lit "  mdns bind").bytes ++ Vty.blank :: addrText mdns.addr]
        else []) (Below node (t bound)) := by
    refine Reads.ite ?_ ?_
    · intro henable
      obtain ⟨cmd, ran, hfind, hexec, hran⟩ := hnode.bind (mdnsDefault lib) mdns.addr haddr
      have hbound : ran.mslookup = t bound := by
        simp only [hran, bound, henable, if_true]
        rfl
      rw [← render_bindWords, ← hbound]
      exact reads_below (isWord_bindWords haddr) (List.cons_ne_nil _ _) hfind hexec
    · intro henable
      refine Reads.nil ?_
      have hbound : bound = mdnsDefault lib := by
        simp only [bound, Bool.eq_false_iff.2 henable, Bool.false_eq_true, if_false]
        rfl
      rw [hbound]
      exact fun r hr => hr
  have hsuffix : Reads (face lib) (Below node (t bound)) (configWriteSuffix mdns)
      (Below node (t (restoredMdns lib mdns))) := by
    refine Reads.ite ?_ ?_
    · intro hne
      obtain ⟨cmd, ran, hfind, hexec, hran⟩ := hnode.suffix bound mdns.domainSuffix
      have hread := reads_below (isWord_suffixWords hsuffix) (List.cons_ne_nil _ _) hfind hexec
      rw [hran, render_suffixWords] at hread
      exact hread
    · intro heq
      refine Reads.nil ?_
      have hbound : bound = restoredMdns lib mdns := by
        simp only [bound, restoredMdns, Classical.not_not.1 heq]
      rw [hbound]
      exact fun r hr => hr
  exact hbind.append hsuffix

/-- `gateway-proxy` is read back. -/
theorem reads_gatewayProxy (haddr : AddrSane lib addr) {server : Server} {mdns : Mdns}
    {proxy : SockaddrStr} :
    Reads (face lib) (Below .client ⟨server, ⟨true, proxy, 2000, mdns⟩⟩)
      [(CStr.lit "  gateway-proxy ").bytes ++ addrText addr]
      (Below .client ⟨server, ⟨true, addr, 2000, mdns⟩⟩) := by
  have hkeywords : Vty.render 2 [CStr.lit "gateway-proxy"] ++ [Vty.blank] =
      (CStr.lit "  gateway-proxy ").bytes := by decide
  have hrender : Vty.render 2 ([CStr.lit "gateway-proxy"] ++ addrWords addr) =
      (CStr.lit "  gateway-proxy ").bytes ++ addrText addr := by
    rw [Vty.render_append 2 (by simp) (by simp [addrWords]), render_addrWords, ← hkeywords,
      List.append_assoc]
    rfl
  have hwords : ∀ w ∈ [CStr.lit "gateway-proxy"] ++ addrWords addr, IsWord w := by
    intro w hw
    rcases List.mem_cons.1 hw with rfl | hw
    · decide
    · exact isWord_addrWords haddr w hw
  have hfind : Vty.findCommand (face lib) .client ([CStr.lit "gateway-proxy"] ++ addrWords addr) =
      some (.gatewayProxy, addrWords addr) := by
    simp +decide [Vty.findCommand, face, installed, elems, kw, Vty.accept, addrWords,
      inRange_port haddr]
  rw [← hrender]
  have hread := reads_below (t := ⟨server, ⟨true, proxy, 2000, mdns⟩⟩) hwords
    (List.cons_ne_nil _ _) hfind rfl
  have hran : (cfgGatewayProxy lib ⟨server, ⟨true, proxy, 2000, mdns⟩⟩ addr.ip
      (some (number addr.port.toNat))).mslookup = ⟨server, ⟨true, addr, 2000, mdns⟩⟩ := by
    simp only [cfgGatewayProxy, Option.map_some, Option.getD_some, from_str_written haddr]
    rfl
  exact hread.mono fun r hr => by rw [← hran]; exact hr

theorem mdnsNode_server (client : Client) :
    MdnsNode lib .server fun mdns => ⟨⟨true, [], mdns⟩, client⟩ := by
  refine ⟨?_, ?_⟩
  · intro mdns addr haddr
    have hfind : Vty.findCommand (face lib) .server (bindWords addr) =
        some (.serverMdnsBind, addrWords addr) := by
      simp +decide [Vty.findCommand, face, installed, elems, kw, Vty.accept, bindWords, addrWords,
        inRange_port haddr]
    refine ⟨_, _, hfind, rfl, ?_⟩
    simp only [mslookupServerMdnsBind, mdnsAddr_written haddr]
    rfl
  · intro mdns suffix
    have hfind : Vty.findCommand (face lib) .server (suffixWords suffix) =
        some (.serverMdnsDomainSuffix, [suffix]) := by
      simp +decide [Vty.findCommand, face, installed, elems, kw, Vty.accept, suffixWords]
    exact ⟨_, _, hfind, rfl, rfl⟩

theorem mdnsNode_client (server : Server) (gateway : SockaddrStr) :
    MdnsNode lib .client fun mdns => ⟨server, ⟨true, gateway, 2000, mdns⟩⟩ := by
  refine ⟨?_, ?_⟩
  · intro mdns addr haddr
    have hfind : Vty.findCommand (face lib) .client (bindWords addr) =
        some (.clientMdnsBind, addrWords addr) := by
      simp +decide [Vty.findCommand, face, installed, elems, kw, Vty.accept, bindWords, addrWords,
        inRange_port haddr]
    refine ⟨_, _, hfind, rfl, ?_⟩
    simp only [mslookupClientMdnsTo, mdnsAddr_written haddr]
    rfl
  · intro mdns suffix
    have hfind : Vty.findCommand (face lib) .client (suffixWords suffix) =
        some (.clientMdnsDomainSuffix, [suffix]) := by
      simp +decide [Vty.findCommand, face, installed, elems, kw, Vty.accept, suffixWords]
    exact ⟨_, _, hfind, rfl, rfl⟩

/-! ### The server and the client -/

/-- The mDNS lines of a node. -/
def mdnsLines (mdns : Mdns) : List (List UInt8) :=
  (if mdns.enable then [(CStr.lit "  mdns bind").bytes ++ Vty.blank :: addrText mdns.addr]
    else []) ++ configWriteSuffix mdns

/-- The lines of the server: its mDNS part, its services, and whether it is disabled. -/
theorem configWriteServer_eq {server : Server} (h : AddrSane lib server.mdns.addr) :
    configWriteServer lib server =
      (CStr.lit " server").bytes :: mdnsLines server.mdns ++
        (configWriteServices lib server.localSiteServices ++
          if !server.enable then [(CStr.lit " no server").bytes] else []) := by
  simp only [configWriteServer, h.nonzero, if_true, mdnsLines, List.cons_append, List.append_assoc]

theorem configWriteClient_eq {client : Client} (h : AddrSane lib client.mdns.addr) :
    configWriteClient lib client =
      (CStr.lit " client").bytes ::
        ((if lib.sockaddrStrIsNonzero client.gsupGatewayProxy then
            [(CStr.lit "  gateway-proxy ").bytes ++ addrText client.gsupGatewayProxy]
          else []) ++ mdnsLines client.mdns) := by
  have hbind : (CStr.lit "  mdns bind ").bytes = (CStr.lit "  mdns bind").bytes ++ [Vty.blank] := by
    decide
  simp only [configWriteClient, h.nonzero, Bool.and_true, mdnsLines, List.append_assoc, hbind,
    List.singleton_append]

/-- The lines of the server up to its services. -/
theorem reads_serverMdns {server : Server} (haddr : AddrSane lib server.mdns.addr)
    (hsuffix : IsWord server.mdns.domainSuffix) (client : Client) :
    Reads (face lib) (AtTop ⟨(MslookupCfg.init lib).server, client⟩)
      ((CStr.lit " server").bytes :: mdnsLines server.mdns)
      (Below .server ⟨⟨true, [], restoredMdns lib server.mdns⟩, client⟩) := by
  have hfind : Vty.findCommand (face lib) .mslookup [CStr.lit "server"] = some (.server, []) := by
    simp +decide [Vty.findCommand, face, installed, elems, kw, Vty.accept]
  have hline : Reads (face lib) (AtTop ⟨(MslookupCfg.init lib).server, client⟩)
      [(CStr.lit " server").bytes] (Below .server ⟨⟨true, [], mdnsDefault lib⟩, client⟩) := by
    rw [show (CStr.lit " server").bytes = Vty.render 1 [CStr.lit "server"] by decide]
    refine (reads_top (by decide) (by decide) hfind rfl).mono ?_
    rintro r rfl
    exact below_top _ _
  exact hline.append ((mdnsNode_server client).reads haddr hsuffix)

/-- **The server, if no line is written for a service.** -/
theorem reads_server {server : Server} (haddr : AddrSane lib server.mdns.addr)
    (hsuffix : IsWord server.mdns.domainSuffix)
    (hservices : configWriteServices lib server.localSiteServices = []) (client : Client) :
    Reads (face lib) (AtTop ⟨(MslookupCfg.init lib).server, client⟩) (configWriteServer lib server)
      (AtTop ⟨⟨server.enable, [], restoredMdns lib server.mdns⟩, client⟩) := by
  have hfind : Vty.findCommand (face lib) .mslookup [CStr.lit "no", CStr.lit "server"] =
      some (.noServer, []) := by
    simp +decide [Vty.findCommand, face, installed, elems, kw, Vty.accept]
  rw [configWriteServer_eq haddr, hservices, List.nil_append]
  refine (reads_serverMdns haddr hsuffix client).append (Reads.ite ?_ ?_)
  · intro hdisabled
    rw [show (CStr.lit " no server").bytes =
      Vty.render 1 [CStr.lit "no", CStr.lit "server"] by decide]
    have hno : server.enable = false := by simpa using hdisabled
    have hread := reads_top (t := ⟨⟨true, [], restoredMdns lib server.mdns⟩, client⟩)
      (by decide) (by decide) hfind rfl
    rintro r ⟨hr, -⟩
    obtain ⟨r', hlines, rfl⟩ := hread r hr
    refine ⟨_, hlines, ?_⟩
    rw [hno]
    exact atTop_top _ _
  · intro henabled
    refine Reads.nil ?_
    have hyes : server.enable = true := by simpa using henabled
    rw [hyes]
    exact fun r hr => hr.1

/-- **The client.** -/
theorem reads_client {client : Client} (haddr : AddrSane lib client.mdns.addr)
    (hsuffix : IsWord client.mdns.domainSuffix)
    (hgateway : client.gsupGatewayProxy = SockaddrStr.zero ∨
      AddrSane lib client.gsupGatewayProxy) (server : Server) :
    Reads (face lib) (AtTop ⟨server, (MslookupCfg.init lib).client⟩) (configWriteClient lib client)
      (AtTop ⟨server, ⟨true, client.gsupGatewayProxy, 2000, restoredMdns lib client.mdns⟩⟩) := by
  have hfind : Vty.findCommand (face lib) .mslookup [CStr.lit "client"] = some (.client, []) := by
    simp +decide [Vty.findCommand, face, installed, elems, kw, Vty.accept]
  have hline : Reads (face lib) (AtTop ⟨server, (MslookupCfg.init lib).client⟩)
      [(CStr.lit " client").bytes]
      (Below .client ⟨server, ⟨true, SockaddrStr.zero, 2000, mdnsDefault lib⟩⟩) := by
    rw [show (CStr.lit " client").bytes = Vty.render 1 [CStr.lit "client"] by decide]
    refine (reads_top (by decide) (by decide) hfind rfl).mono ?_
    rintro r rfl
    exact below_top _ _
  have hproxy : Reads (face lib)
      (Below .client ⟨server, ⟨true, SockaddrStr.zero, 2000, mdnsDefault lib⟩⟩)
      (if lib.sockaddrStrIsNonzero client.gsupGatewayProxy then
        [(CStr.lit "  gateway-proxy ").bytes ++ addrText client.gsupGatewayProxy] else [])
      (Below .client ⟨server, ⟨true, client.gsupGatewayProxy, 2000, mdnsDefault lib⟩⟩) := by
    refine Reads.ite ?_ ?_
    · intro hnonzero
      have hsane : AddrSane lib client.gsupGatewayProxy := by
        refine hgateway.resolve_left ?_
        intro hzero
        rw [hzero, lib.nonzero_zero] at hnonzero
        cases hnonzero
      exact reads_gatewayProxy hsane
    · intro hzero
      refine Reads.nil ?_
      have hnone : client.gsupGatewayProxy = SockaddrStr.zero :=
        hgateway.resolve_right fun hsane => hzero hsane.nonzero
      rw [hnone]
      exact fun r hr => hr
  rw [configWriteClient_eq haddr]
  refine (hline.append (hproxy.append ((mdnsNode_client server client.gsupGatewayProxy).reads haddr
    hsuffix))).mono ?_
  exact fun r hr => hr.1

/-! ### Services -/

/-- A line of the mslookup node that begins with a word that is no command there. -/
def Misplaced (line : List UInt8) : Prop :=
  ∃ word rest, (word = CStr.lit "service" ∨ word = CStr.lit "msc") ∧
    line = List.replicate 1 Vty.blank ++ (word.bytes ++ Vty.blank :: rest)

/-- **It is rejected.** -/
theorem readLine_misplaced {line : List UInt8} (h : Misplaced line) (hr : AtTop t r) :
    Vty.readLine (face lib) r line = none := by
  obtain ⟨word, rest, hword, rfl⟩ := h
  obtain ⟨child, hgo⟩ := hr
  have hisWord : IsWord word := by
    rcases hword with rfl | rfl <;> decide
  have hwords := Vty.wordsOf_first hisWord 1 rest
  refine Vty.readLine_eq_none (top t child) ?_ ?_ ?_
  · rw [hwords]
    exact List.cons_ne_nil _ _
  · rw [Vty.indentOf_first hisWord]
    exact hgo
  · rw [hwords]
    rcases hword with rfl | rfl
    · simp +decide [top, Vty.findCommand, face, installed, elems, kw, Vty.accept]
    · simp +decide [top, Vty.findCommand, face, installed, elems, kw, Vty.accept]

/-- The services that are not of an MSC are indented like the server. -/
theorem misplaced_serviceLine (e : ServiceHost) (addr : SockaddrStr) :
    Misplaced (serviceLine " " e addr) := by
  refine ⟨CStr.lit "service", e.service.bytes ++ ((CStr.lit " at ").bytes ++ addrText addr),
    Or.inl rfl, ?_⟩
  have hindent : (CStr.lit " ").bytes = List.replicate 1 Vty.blank := by decide
  have hword : (CStr.lit "service ").bytes = (CStr.lit "service").bytes ++ [Vty.blank] := by decide
  rw [serviceLine, hindent, hword]
  simp only [List.append_assoc, List.cons_append, List.nil_append]

/-- And so are the MSCs, without the keyword of the command. -/
theorem misplaced_msc (name : CStr) : Misplaced ((CStr.lit " msc ").bytes ++ name.bytes) := by
  refine ⟨CStr.lit "msc", name.bytes, Or.inr rfl, ?_⟩
  have hword : (CStr.lit " msc ").bytes =
      List.replicate 1 Vty.blank ++ (CStr.lit "msc").bytes ++ [Vty.blank] := by decide
  rw [hword]
  simp only [List.append_assoc, List.singleton_append]

/-- Lines of which the first is misplaced, if there is one. -/
def Rejected (lines : List (List UInt8)) : Prop :=
  lines = [] ∨ ∃ line rest, lines = line :: rest ∧ Misplaced line

theorem Rejected.append {lines lines' : List (List UInt8)} (h : ∀ line ∈ lines, Misplaced line)
    (h' : Rejected lines') : Rejected (lines ++ lines') := by
  cases lines with
  | nil => exact h'
  | cons line lines => exact Or.inr ⟨_, _, rfl, h line List.mem_cons_self⟩

theorem misplaced_of_mem_services (msc : MscCfg) :
    ∀ line ∈ configWriteMscServices lib " " msc, Misplaced line := by
  intro line hline
  obtain ⟨e, -, hline⟩ := List.mem_flatMap.1 hline
  have hone : ∀ addr, line ∈ (if lib.sockaddrStrIsNonzero addr then [serviceLine " " e addr]
      else []) → Misplaced line := by
    intro addr haddr
    split at haddr
    next =>
        rw [List.mem_singleton.1 haddr]
        exact misplaced_serviceLine e addr
    next => cases haddr
  rcases List.mem_append.1 hline with hline | hline
  · exact hone _ hline
  · exact hone _ hline

/-- **The first line of the services is misplaced, if there is one.** -/
theorem rejected_services (lib : SockaddrLib) (mscs : List MscCfg) :
    Rejected (configWriteServices lib mscs) := by
  refine Rejected.append ?_ ?_
  · split
    next msc hmsc => exact misplaced_of_mem_services msc
    next => exact fun line hline => absurd hline List.not_mem_nil
  · induction mscs with
    | nil => exact Or.inl rfl
    | cons msc mscs ih =>
        rw [List.flatMap_cons]
        split
        next => exact ih
        next => exact Or.inr ⟨_, _, rfl, misplaced_msc _⟩

/-! ### The whole configuration -/

theorem reads_mslookup :
    Reads (face lib) (fun r => r = Vty.Reader.start (MslookupCfg.init lib) .config)
      [(CStr.lit "mslookup").bytes] (AtTop (MslookupCfg.init lib)) := by
  have hfind : Vty.findCommand (face lib) .config [CStr.lit "mslookup"] = some (.mslookup, []) := by
    simp +decide [Vty.findCommand, face, installed, elems, kw, Vty.accept]
  rw [show (CStr.lit "mslookup").bytes = Vty.render 0 [CStr.lit "mslookup"] by decide]
  refine Reads.line (by decide) (by decide) ?_
  rintro r rfl
  exact ⟨_, _, _, (MslookupCfg.init lib, some .mslookup), Vty.Reader.goTo_same _, hfind, rfl,
    none, Vty.Reader.goTo_child rfl (Nat.lt_succ_self 0)⟩

/-- **Without a line for a service the configuration is accepted.** -/
theorem load_restored (h : Sane lib s)
    (hservices : configWriteServices lib s.server.localSiteServices = []) :
    load lib (configWriteMslookup lib s) = some (restored lib s) := by
  have hserver : Reads (face lib) (AtTop (MslookupCfg.init lib))
      (if s.server.enable || !s.server.localSiteServices.isEmpty then configWriteServer lib s.server
        else []) (AtTop ⟨restoredServer lib s.server, (MslookupCfg.init lib).client⟩) := by
    refine Reads.ite ?_ ?_
    · intro hwritten
      rw [restoredServer, if_pos hwritten]
      exact reads_server h.server h.serverSuffix hservices _
    · intro hwritten
      rw [restoredServer, if_neg hwritten]
      exact Reads.nil fun r hr => hr
  have hclient : Reads (face lib)
      (AtTop ⟨restoredServer lib s.server, (MslookupCfg.init lib).client⟩)
      (if s.client.enable then configWriteClient lib s.client else [])
      (AtTop (restored lib s)) := by
    refine Reads.ite ?_ ?_
    · intro henable
      rw [restored, restoredClient, if_pos henable]
      exact reads_client h.client h.clientSuffix h.gateway _
    · intro henable
      rw [restored, restoredClient, if_neg henable]
      exact Reads.nil fun r hr => hr
  unfold configWriteMslookup
  split
  next hnothing =>
      have hrestored : restored lib s = MslookupCfg.init lib := by
        obtain ⟨⟨hdisabled, hempty⟩, hclient⟩ : (s.server.enable = false ∧
            s.server.localSiteServices = []) ∧ s.client.enable = false := by
          simpa using hnothing
        simp [restored, restoredServer, restoredClient, hdisabled, hempty, hclient]
      rw [hrestored]
      rfl
  next =>
      obtain ⟨r, hread, hr⟩ := (reads_mslookup.append (hserver.append hclient)) _ rfl
      have hcons : ∀ l : List (List UInt8), [(CStr.lit "mslookup").bytes] ++ l =
          (CStr.lit "mslookup").bytes :: l := fun _ => rfl
      rw [load, ← hcons, hread]
      exact congrArg some hr.state

/-- **With one it is rejected.** -/
theorem load_services (h : Sane lib s)
    (hservices : configWriteServices lib s.server.localSiteServices ≠ []) :
    load lib (configWriteMslookup lib s) = none := by
  obtain ⟨line, lines, hlines, hline⟩ :=
    (rejected_services lib s.server.localSiteServices).resolve_left hservices
  have hne : s.server.localSiteServices ≠ [] := by
    intro hnil
    rw [hnil] at hservices
    exact hservices rfl
  have htext : configWriteMslookup lib s =
      ([(CStr.lit "mslookup").bytes] ++ (CStr.lit " server").bytes :: mdnsLines s.server.mdns) ++
        line :: (lines ++ ((if !s.server.enable then [(CStr.lit " no server").bytes] else []) ++
          if s.client.enable then configWriteClient lib s.client else [])) := by
    rw [configWriteMslookup, if_neg (by simp [hne]), if_pos (by simp [hne]),
      configWriteServer_eq h.server, hlines]
    simp only [List.cons_append, List.nil_append, List.append_assoc]
  have hstart := reads_mslookup.append (reads_serverMdns h.server h.serverSuffix
    (MslookupCfg.init lib).client)
  rw [load, htext, hstart.reject (fun r hr => readLine_misplaced hline hr.1) _ rfl]
  rfl

theorem restoredMdns_eq_iff {mdns : Mdns} :
    restoredMdns lib mdns = mdns ↔ mdns.enable = true ∨ mdns.addr = mdnsAddrDefault lib := by
  obtain ⟨enable, addr, suffix⟩ := mdns
  cases enable with
  | true => simp [restoredMdns]
  | false => simp [restoredMdns, eq_comm]

theorem restoredServer_eq_iff {server : Server} (hnone : server.localSiteServices = []) :
    restoredServer lib server = server ↔
      (server.enable = true ∨ server.mdns = mdnsDefault lib) ∧
        (server.mdns.enable = true ∨ server.mdns.addr = mdnsAddrDefault lib) := by
  obtain ⟨enable, mscs, mdns⟩ := server
  cases (hnone : mscs = [])
  cases enable with
  | true => simp [restoredServer, restoredMdns_eq_iff]
  | false =>
      have hdefault : mdns = mdnsDefault lib → mdns.addr = mdnsAddrDefault lib := by
        rintro rfl
        rfl
      constructor
      · intro h
        have hmdns : mdns = mdnsDefault lib := (congrArg Server.mdns h).symm
        exact ⟨Or.inr hmdns, Or.inr (hdefault hmdns)⟩
      · rintro ⟨hmdns, -⟩
        cases (hmdns.resolve_left Bool.false_ne_true : mdns = mdnsDefault lib)
        rfl

theorem restoredClient_eq_iff {client : Client} :
    restoredClient lib client = client ↔
      client.resultTimeoutMilliseconds = 2000 ∧
        (client.enable = true ∨
          client.gsupGatewayProxy = SockaddrStr.zero ∧ client.mdns = mdnsDefault lib) ∧
        (client.mdns.enable = true ∨ client.mdns.addr = mdnsAddrDefault lib) := by
  obtain ⟨enable, gateway, timeout, mdns⟩ := client
  cases enable with
  | true =>
      constructor
      · intro h
        obtain ⟨-, -, rfl, hmdns⟩ := Client.mk.inj h
        exact ⟨rfl, Or.inl rfl, restoredMdns_eq_iff.1 hmdns⟩
      · rintro ⟨htimeout, -, hmdns⟩
        cases (htimeout : timeout = 2000)
        exact congrArg (Client.mk true gateway 2000) (restoredMdns_eq_iff.2 hmdns)
  | false =>
      constructor
      · intro h
        obtain ⟨-, rfl, rfl, rfl⟩ := Client.mk.inj h
        exact ⟨rfl, Or.inr ⟨rfl, rfl⟩, Or.inr rfl⟩
      · rintro ⟨htimeout, hdefault, -⟩
        obtain ⟨hgateway, hmdns⟩ := hdefault.resolve_left Bool.false_ne_true
        cases (htimeout : timeout = 2000)
        cases (hgateway : gateway = SockaddrStr.zero)
        cases (hmdns : mdns = mdnsDefault lib)
        rfl

end Reading

/-- **What is written is accepted and read as what has been configured**, after any commands,
exactly if there is no service or MSC, the timeout is the default, and what is disabled has its
defaults. -/
theorem config_roundTrip (lib : SockaddrLib) (lines : List Line) :
    load lib (configWriteMslookup lib (configured lib lines)) = some (configured lib lines) ↔
      WrittenBack lib (configured lib lines) := by
  have hsane := sane_configured lib lines
  generalize configured lib lines = s at hsane ⊢
  by_cases hservices : configWriteServices lib s.server.localSiteServices = []
  · rw [load_restored hsane hservices, Option.some.injEq]
    constructor
    · intro h
      have hserver : restoredServer lib s.server = s.server := congrArg MslookupCfg.server h
      have hclient : restoredClient lib s.client = s.client := congrArg MslookupCfg.client h
      have hnone : s.server.localSiteServices = [] := by
        rw [← hserver, restoredServer]
        split
        next => rfl
        next => rfl
      obtain ⟨henable, hmdns⟩ := (restoredServer_eq_iff hnone).1 hserver
      obtain ⟨htimeout, hcenable, hcmdns⟩ := restoredClient_eq_iff.1 hclient
      exact ⟨hnone, htimeout, henable, hmdns, hcenable, hcmdns⟩
    · intro h
      have hserver := (restoredServer_eq_iff h.localSiteServices).2 ⟨h.server, h.serverMdns⟩
      have hclient := restoredClient_eq_iff.2 ⟨h.resultTimeout, h.client, h.clientMdns⟩
      rw [restored, hserver, hclient]
  · rw [load_services hsane hservices]
    constructor
    · intro h
      cases h
    · intro h
      rw [h.localSiteServices] at hservices
      exact absurd rfl hservices

/-- A service, and nothing else. -/
def oneService : List Line :=
  [⟨.config, [CStr.lit "mslookup"], by decide⟩, ⟨.mslookup, [CStr.lit "server"], by decide⟩,
    ⟨.server, ["service", "sip.voice", "at", "1.2.3.4", "5060"].map CStr.lit, by decide⟩]

/-- A timeout of the client, and nothing else. -/
def oneTimeout : List Line :=
  [⟨.config, [CStr.lit "mslookup"], by decide⟩, ⟨.mslookup, [CStr.lit "client"], by decide⟩,
    ⟨.client, ["timeout", "5000"].map CStr.lit, by decide⟩]

/-- The one is rejected, and the other is lost. -/
theorem service_rejected_timeout_lost :
    load Host.sockaddrLib (configWriteMslookup Host.sockaddrLib
        (configured Host.sockaddrLib oneService)) = none ∧
      load Host.sockaddrLib (configWriteMslookup Host.sockaddrLib
        (configured Host.sockaddrLib oneTimeout)) ≠
          some (configured Host.sockaddrLib oneTimeout) := by
  decide +kernel

end DgsmVty
end OsmoHlr
