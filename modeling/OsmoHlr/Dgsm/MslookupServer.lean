import OsmoHlr.Dgsm.DgsmVty
import OsmoHlr.Dgsm.DoneLuHere
import OsmoHlr.Mslookup.MdnsRoundTrip

/-!
# The mslookup server

`mslookup_server_rx` of `src/mslookup_server.c` and its only transport, the mDNS server of
`src/mslookup_server_mdns.c`: other sites ask whether this is the home HLR of a subscriber, or
whether it provides a service for one.

* `mslookupServerRx` — what is answered.
* `Serves` — when a site may give an answer, in terms of what it holds.
* `serves_of_mslookupServerRx` — only such answers are given.
* `osmoMslookupServerMdnsRx` — a datagram comes in, and another one may go out.
-/

namespace OsmoHlr
namespace MslookupServer

open CString CniPeerId Db DgsmVty Dgsm
open Mslookup (Id Query Result ResultCode)
open Mdns (queryDecode resultEncode SameHost)
open MdnsRfc (Msgb)

/-! ## The code -/

/-- What else is called of libosmocore. -/
structure ServerLib extends SelLib, SockaddrLib where
  /-- What `osmo_sockaddr_str_from_str` leaves, whatever it returns; the text may be NULL. -/
  sockaddrStrOf : Option CStr → UInt16 → SockaddrStr
  /-- On success, that is the address. -/
  of_from_str : ∀ ip port addr, sockaddrStrFromStr ip port = some addr →
    sockaddrStrOf (some ip) port = addr
  /-- An address that is not zero is set. -/
  is_set_of_nonzero : ∀ addr, sockaddrStrIsNonzero addr = true → sockaddrStrIsSet addr = true

/-- `OSMO_MSLOOKUP_SERVICE_HLR_GSUP` -/
def serviceHlrGsup : CStr := CStr.lit "gsup.hlr"

/-- What the server looks at of `g_hlr`, and the static `gsup_bind` of
`mslookup_server_get_local_gsup_addr`. -/
structure Site where
  tables : Tables
  proxy : Proxy
  localSiteServices : List MscCfg
  localAttachMaxAge : UInt32
  gsupBindAddr : Option CStr
  gsupBind : ServiceHost

/-- What is around when a query comes in: what goes wrong with the database, and the time. -/
structure Env where
  db : CodedFaults
  now : Int

/-- `not_found` -/
def notFound : Result := { Result.zero with rc := .notFound }

variable (lib : ServerLib)

/-- `set_result` -/
def setResult (result : Result) (serviceHost : ServiceHost) (age : UInt32) : Result :=
  if !lib.sockaddrStrIsNonzero serviceHost.hostV4 ∧ !lib.sockaddrStrIsNonzero serviceHost.hostV6
  then notFound
  else
    { result with
      rc := .result
      hostV4 := serviceHost.hostV4
      hostV6 := serviceHost.hostV6
      age := age }

/-- `mslookup_server_service_get` -/
def mslookupServerServiceGet (mscs : List MscCfg) (mscName : IpaName) (service : CStr) :
    Option ServiceHost :=
  (mscFind mscs mscName).bind fun msc => Keyed.find ServiceHost.service msc.serviceHosts service

/-- `gsup_bind` with the GSUP bind address. -/
def Site.bindAddr (s : Site) : ServiceHost :=
  let gsupBind := { s.gsupBind with hostV4 := lib.sockaddrStrOf s.gsupBindAddr gsupPort }
  if gsupBind.hostV4.af = afInet6 then
    { gsupBind with hostV6 := gsupBind.hostV4, hostV4 := SockaddrStr.zero }
  else gsupBind

/-- `mslookup_server_get_local_gsup_addr`; what it leaves is the second component. -/
def mslookupServerGetLocalGsupAddr (s : Site) : ServiceHost × Site :=
  match mslookupServerServiceGet s.localSiteServices mscWildcard serviceHlrGsup with
  | some host => (host, s)
  | none => (s.bindAddr lib, { s with gsupBind := s.bindAddr lib })

/-- Whether the subscriber with an ID exists, as a return code; `none` for an unknown type. -/
def dbSubscrExists (f : CodedFaults) (t : Tables) : Id → Option Int
  | .imsi imsi => some (dbSubscrExistsByImsi f t imsi)
  | .msisdn msisdn => some (dbSubscrExistsByMsisdn f t msisdn)
  | .none => none

/-- `mslookup_server_rx_hlr_gsup` -/
def mslookupServerRxHlrGsup (env : Env) (s : Site) (query : Query) (result : Result) :
    Result × Site :=
  match dbSubscrExists env.db s.tables query.id with
  | none => (notFound, s)
  | some rc =>
      if rc ≠ 0 then (notFound, s)
      else
        let host := mslookupServerGetLocalGsupAddr lib s
        (setResult lib result host.1 0, host.2)

/-- The service of an MSC, or else the one of the whole site. -/
def serviceHostFor (mscs : List MscCfg) (mscName : IpaName) (service : CStr) : Option ServiceHost :=
  (mslookupServerServiceGet mscs mscName service).orElse fun _ =>
    mslookupServerServiceGet mscs mscWildcard service

/-- `mslookup_server_rx`; `none`: what happens is not defined, since a text of the database is taken
for a format that wants arguments. -/
def mslookupServerRx (env : Env) (s : Site) (query : Query) (result : Result) :
    Option (Result × Site) :=
  if query.service = serviceHlrGsup then some (mslookupServerRxHlrGsup lib env s query result)
  else
    (subscriberHasDoneLuHere lib.toSelLib env.db.toFaults s.tables s.proxy env.now
      s.localAttachMaxAge query.id none).map fun done =>
        match done with
        | none => (notFound, s)
        | some done =>
            match serviceHostFor s.localSiteServices done.localMscName query.service with
            | none => (notFound, s)
            | some serviceHost =>
                (setResult lib result serviceHost (UInt32.ofNat done.luAge), s)

/-! ### mDNS -/

/-- Why the process does not go on. -/
inductive Stop where
  | fault (fault : MdnsRfc.Fault)
  /-- A text is taken for a format that wants arguments. -/
  | format
  deriving DecidableEq

/-- What comes of a datagram. -/
structure Rx where
  ret : Int
  /-- The datagram that is sent. -/
  tx : Option Msgb
  site : Site

/-- `sizeof(buffer)` of `osmo_mslookup_server_mdns_rx` -/
def rxBufSize : Nat := 1024

/-- `osmo_mslookup_server_mdns_tx`: the datagram, unless it cannot be encoded. -/
def osmoMslookupServerMdnsTx (domainSuffix : CStr) (packetId : UInt16) (query : Query)
    (result : Result) : Except Stop (Option Msgb) :=
  match resultEncode lib.toLibosmocore packetId query result domainSuffix with
  | .error fault => .error (.fault fault)
  | .ok msg => .ok msg

/-- `osmo_mslookup_server_mdns_handle_request`; `result` is what there is on the stack. -/
def osmoMslookupServerMdnsHandleRequest (env : Env) (s : Site) (domainSuffix : CStr)
    (packetId : UInt16) (query : Query) (result : Result) : Except Stop (Option Msgb × Site) :=
  match mslookupServerRx lib env s query result with
  | none => .error .format
  | some (result, s) =>
      if result.rc ≠ .result then .ok (none, s)
      else (osmoMslookupServerMdnsTx lib domainSuffix packetId query result).map fun msg => (msg, s)

/-- `osmo_mslookup_server_mdns_rx`, from what `read` returns on. -/
def osmoMslookupServerMdnsRx (env : Env) (s : Site) (domainSuffix : CStr) (result : Result)
    (read : Except Int (List UInt8)) : Except Stop Rx :=
  match read with
  | .error n => .ok ⟨n, none, s⟩
  | .ok datagram =>
      let buffer := datagram.take rxBufSize
      if buffer = [] then .ok ⟨0, none, s⟩
      else
        match queryDecode lib.toLibosmocore buffer domainSuffix with
        | .error fault => .error (.fault fault)
        | .ok none => .ok ⟨-1, none, s⟩
        | .ok (some (packetId, query)) =>
            (osmoMslookupServerMdnsHandleRequest lib env s domainSuffix packetId query result).map
              fun handled => ⟨buffer.length, handled.1, handled.2⟩

/-! ## When a site may answer -/

/-- This is the home HLR of a subscriber. -/
def HomeOf (t : Tables) (id : Id) : Prop := ∃ row ∈ t.subscriber, RowHasId row id

/-- The name of the VLR of a record, as it is read. -/
inductive VlrOf (lib : SelLib) (t : Tables) (proxy : Proxy) (id : Id) : CsRecord → IpaName → Prop
  | db (row : SubscriberRow) (hrow : row ∈ t.subscriber) (hid : RowHasId row id) (name : IpaName)
      (hname : ipaNameSetFmt (some (dbSel lib row).vlrNumber) = some name) :
      VlrOf lib t proxy id (csRecordOfRow lib row) name
  | proxy (e : ProxySubscrListentry) (he : e ∈ proxy.subscrList.entries)
      (hid : ProxyHasId e.data id) : VlrOf lib t proxy id (csRecordOfProxy e.data) e.data.cs.vlrName

/-- A subscriber is attached at a local VLR, and has been for so many seconds. -/
def AttachedAt (env : Env) (s : Site) (id : Id) (mscName : IpaName) (age : Nat) : Prop :=
  ∃ r, VlrOf lib.toSelLib s.tables s.proxy id r mscName ∧
    Qualifies env.now s.localAttachMaxAge r ∧ (age : Int) = r.age env.now

/-- A service is at these addresses. -/
def Offers (host : ServiceHost) (result : Result) : Prop :=
  (lib.sockaddrStrIsNonzero host.hostV4 = true ∨ lib.sockaddrStrIsNonzero host.hostV6 = true) ∧
    result.hostV4 = host.hostV4 ∧ result.hostV6 = host.hostV6

/-- **A site serves a query with a result**: as the home HLR of the subscriber, at the address for
GSUP; or for a subscriber who is attached at a local VLR, with the service that is configured for
that VLR, or else for the site. -/
def Serves (env : Env) (s : Site) (query : Query) (result : Result) : Prop :=
  (query.service = serviceHlrGsup ∧ HomeOf s.tables query.id ∧ result.age = 0 ∧
    Offers lib (mslookupServerGetLocalGsupAddr lib s).1 result) ∨
  (query.service ≠ serviceHlrGsup ∧ ∃ mscName host,
    AttachedAt lib env s query.id mscName result.age.toNat ∧
    serviceHostFor s.localSiteServices mscName query.service = some host ∧ Offers lib host result)

section Serves

variable {lib : ServerLib} {env : Env} {s s' : Site} {query : Query} {result result' : Result}
  {sel : SelLib} {f : Faults} {t : Tables} {proxy : Proxy} {now : Int} {localAttachMaxAge : UInt32}
  {id : Id}

/-- What the database says although something may go wrong, it says if nothing does. -/
theorem hlr_of_faults {attached : Attached}
    (h : subscriberHasDoneLuHereHlr sel f t now localAttachMaxAge id = some (some attached)) :
    subscriberHasDoneLuHereHlr sel Faults.none t now localAttachMaxAge id =
      some (some attached) := by
  have hgood : ¬(f.binds 1 ∨ f.step) := by
    intro hbad
    cases id with
    | none => simp [subscriberHasDoneLuHereHlr] at h
    | imsi imsi => simp [subscriberHasDoneLuHereHlr, dbSubscrGetByImsi, hbad] at h
    | msisdn msisdn => simp [subscriberHasDoneLuHereHlr, dbSubscrGetByMsisdn, hbad] at h
  have hnone : ¬(Faults.none.binds 1 ∨ Faults.none.step) := by decide
  cases id with
  | none => exact h
  | imsi imsi =>
      rw [← h]
      simp only [subscriberHasDoneLuHereHlr, dbSubscrGetByImsi, if_neg hgood, if_neg hnone]
  | msisdn msisdn =>
      rw [← h]
      simp only [subscriberHasDoneLuHereHlr, dbSubscrGetByMsisdn, if_neg hgood, if_neg hnone]

/-- **Where a Location Updating was done**: at the VLR of a row, or of an entry of the proxy. -/
theorem attachedAt_of_hasDoneLuHere {done : DoneLuHere} {retImsiLen : Option Nat}
    (h : subscriberHasDoneLuHere lib.toSelLib env.db.toFaults s.tables s.proxy env.now
      s.localAttachMaxAge id retImsiLen = some (some done)) :
    AttachedAt lib env s id done.localMscName done.luAge := by
  obtain ⟨attachedHere, hhlr, hdone⟩ := Option.map_eq_some_iff.1 h
  simp only at hdone
  rcases younger_cases attachedHere
      (subscriberHasDoneLuHereProxy s.proxy env.now s.localAttachMaxAge id) with
    ⟨hyounger, -⟩ | ⟨attached, hyounger, hproxy, -⟩
  · rw [hyounger] at hdone
    cases attachedHere with
    | none => cases hdone
    | some attached =>
        simp only at hdone
        split at hdone
        · cases hdone
        · obtain rfl := Option.some.inj hdone
          rcases hlr_cases (hlr_of_faults hhlr) with
            ⟨hnone, -⟩ | ⟨row, name, hrow, hid, hqualifies, hname, hattached⟩
          · cases hnone
          · obtain rfl := Option.some.inj hattached
            exact ⟨_, .db row hrow hid name hname, hqualifies,
              Int.toNat_of_nonneg hqualifies.recent.age_nonneg⟩
  · obtain ⟨p, hget, hrecent, rfl⟩ := proxy_eq_some_iff.1 hproxy
    rw [hyounger] at hdone
    simp only at hdone
    split at hdone
    · cases hdone
    next hlen =>
        obtain rfl := Option.some.inj hdone
        have hholds : ∃ e ∈ s.proxy.subscrList.entries, e.data = p ∧ ProxyHasId p id := by
          cases id with
          | none => cases hget
          | imsi imsi =>
              obtain ⟨⟨e, he, rfl⟩, himsi⟩ := proxySubscrGetByImsi_eq_some_iff.1 hget
              exact ⟨e, he, rfl, himsi⟩
          | msisdn msisdn =>
              obtain ⟨hmsisdn, hback⟩ := get_of_proxySubscrGetByMsisdn hget
              obtain ⟨⟨e, he, rfl⟩, -⟩ := proxySubscrGetByImsi_eq_some_iff.1 hback
              exact ⟨e, he, rfl, hmsisdn⟩
        obtain ⟨e, he, rfl, hid⟩ := hholds
        exact ⟨_, .proxy e he hid, ⟨hlen, hrecent⟩, Int.toNat_of_nonneg hrecent.age_nonneg⟩

/-- A result is set at the addresses of a service, unless it has none. -/
theorem setResult_rc {host : ServiceHost} {age : UInt32}
    (h : (setResult lib result host age).rc = .result) :
    Offers lib host (setResult lib result host age) ∧
      (setResult lib result host age).age = age := by
  unfold setResult at h ⊢
  split at h
  · cases h
  next hset =>
      rw [if_neg hset]
      refine ⟨⟨?_, rfl, rfl⟩, rfl⟩
      simpa [or_iff_not_imp_left] using hset

/-- Somebody who is home here has a row. -/
theorem homeOf_of_exists (h : dbSubscrExists env.db s.tables id = some 0) :
    HomeOf s.tables id := by
  have hrow : ∃ row, rowOfId s.tables id = some row := by
    rw [← Option.isSome_iff_exists]
    cases id with
    | none => cases h
    | imsi imsi => exact (existsRc_eq_zero_iff.1 (Option.some.inj h)).2.2
    | msisdn msisdn => exact (existsRc_eq_zero_iff.1 (Option.some.inj h)).2.2
  obtain ⟨row, hrow⟩ := hrow
  exact ⟨row, rowOfId_eq_some_iff.1 hrow⟩

/-- **Only such answers are given as the site may give.** -/
theorem serves_of_mslookupServerRx
    (h : mslookupServerRx lib env s query result = some (result', s'))
    (hrc : result'.rc = .result) : Serves lib env s query result' := by
  unfold mslookupServerRx at h
  split at h
  next hservice =>
      unfold mslookupServerRxHlrGsup at h
      split at h
      · cases h
        cases hrc
      next rc hexists =>
          split at h
          · cases h
            cases hrc
          next hzero =>
              cases h
              rw [not_not.1 hzero] at hexists
              obtain ⟨hoffers, hage⟩ := setResult_rc hrc
              exact Or.inl ⟨hservice, homeOf_of_exists hexists, hage, hoffers⟩
  next hservice =>
      obtain ⟨done, hdone, hresult⟩ := Option.map_eq_some_iff.1 h
      split at hresult
      · cases hresult
        cases hrc
      next done =>
          split at hresult
          · cases hresult
            cases hrc
          next host hhost =>
              cases hresult
              obtain ⟨hoffers, hage⟩ := setResult_rc hrc
              have hattached := attachedAt_of_hasDoneLuHere hdone
              have hluAge : (UInt32.ofNat done.luAge).toNat = done.luAge := by
                obtain ⟨r, -, hqualifies, hluAge⟩ := hattached
                have hle := hqualifies.recent.age_le
                have hmax := s.localAttachMaxAge.toNat_lt
                exact UInt32.toNat_ofNat_of_lt' (by simp only [UInt32.size]; omega)
              refine Or.inr ⟨hservice, done.localMscName, host, ?_, hhost, hoffers⟩
              rw [hage, hluAge]
              exact hattached

end Serves

end MslookupServer
end OsmoHlr
