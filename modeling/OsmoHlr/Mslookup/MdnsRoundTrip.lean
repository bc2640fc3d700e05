import OsmoHlr.LibosmocoreHost
import OsmoHlr.Mslookup.Mdns

/-!
# mDNS packets are read back as they were written

Everything from the query and the result down to the bytes of the packet and
back, for a domain suffix whose labels are no longer than DNS allows.

* `queryDecode_queryEncode` — a query packet yields its packet id and query.
* `query_roundTrip` — the same, and that decoding, encoding and decoding a
  foreign packet changes nothing.
* `result_roundTrip` — an answer packet yields packet id, query, age and, for
  both address families, presence, address and port.
-/

namespace OsmoHlr
namespace Mdns

open CString MdnsRfc MdnsMsg
open Mslookup (dot Id Query Result ResultCode ValidQuery domainStr idTypeName)

variable (lib : Libosmocore)

/-- Every label of the suffix has at most 63 characters. -/
def SuffixLabels (domainSuffix : CStr) : Prop :=
  ∀ l ∈ domainSuffix.bytes.splitOn dot, l.length ≤ 63

/-! ## Domains -/

variable {lib}

/-- The domain of a valid query. -/
theorem domainFromQuery_valid {query : Query} (h : ValidQuery lib query) (suffix : CStr) :
    domainFromQuery lib query suffix =
      some (domainStr lib query ++ CStr.lit "." ++ suffix) := by
  obtain ⟨service, id⟩ := query
  cases id with
  | none => exact absurd h.id_valid (by simp [Mslookup.idValid])
  | imsi digits => rfl
  | msisdn digits => rfl

theorem bytes_domain (lib : Libosmocore) (query : Query) (suffix : CStr) :
    (domainStr lib query ++ CStr.lit "." ++ suffix).bytes =
      (domainStr lib query).bytes ++ dot :: suffix.bytes := by
  rw [CStr.bytes_append, CStr.bytes_append, Mslookup.bytes_lit_dot, List.append_assoc]
  rfl

/-- **A valid query is recovered from its domain**, if that is not too long to be a name. -/
theorem queryFromDomain_domain {query : Query} (h : ValidQuery lib query) (suffix : CStr)
    (hlen : (domainStr lib query ++ CStr.lit "." ++ suffix).len ≤ maxNameLen) :
    queryFromDomain lib (some (domainStr lib query ++ CStr.lit "." ++ suffix)) suffix =
      .ok (.ok query) := by
  have hbytes := bytes_domain lib query suffix
  have hdlen : (domainStr lib query ++ CStr.lit "." ++ suffix).len =
      (domainStr lib query).len + 1 + suffix.len := by
    rw [CStr.len, hbytes, List.length_append, List.length_cons, CStr.len, CStr.len]
    omega
  have hpos : 0 < (domainStr lib query).len := by
    have := h.service_pos
    rw [CStr.len, Mslookup.bytes_domainStr, List.length_append]
    rw [CStr.len] at this
    omega
  have hdiff : ((domainStr lib query ++ CStr.lit "." ++ suffix).len : Int) - suffix.len - 1 =
      ((domainStr lib query).len : Nat) := by
    rw [hdlen]
    omega
  have hget : (domainStr lib query ++ CStr.lit "." ++ suffix).bytes.getD
      (domainStr lib query).len 0 = dot := by
    rw [hbytes, CStr.len, List.getD_eq_getElem?_getD, List.getElem?_append_right (le_refl _)]
    simp
  have hdrop : (domainStr lib query ++ CStr.lit "." ++ suffix).drop
      ((domainStr lib query).len + 1) = suffix := by
    refine CStr.ext ?_
    rw [CStr.bytes_drop, hbytes, ← List.drop_drop, CStr.len, List.drop_left]
    rfl
  have htake : (domainStr lib query ++ CStr.lit "." ++ suffix).take (domainStr lib query).len =
      domainStr lib query := by
    refine CStr.ext ?_
    rw [CStr.bytes_take, hbytes, CStr.len, List.take_left]
  rw [queryFromDomain]
  simp only [hdiff, Int.toNat_natCast, hget, hdrop, htake, Mslookup.queryInit_domainStr lib h]
  rw [if_neg (by omega), if_neg (by simp)]

/-- Only valid queries come out of a domain. -/
theorem queryFromDomain_valid {domain : Option CStr} {suffix : CStr} {query : Query}
    (h : queryFromDomain lib domain suffix = .ok (.ok query)) : ValidQuery lib query := by
  cases domain with
  | none => cases h
  | some domain =>
      simp only [queryFromDomain] at h
      split at h
      · cases h
      · split at h
        · cases h
        next hlen _ =>
            refine Mslookup.queryInit_valid lib (Except.ok.inj h) ?_
            rintro _ ⟨⟩
            unfold maxNameLen at hlen
            rw [CStr.len, CStr.bytes_take, List.length_take]
            omega

/-- The labels of a valid query's domain are short when those of the suffix are. -/
theorem shortLabels_domain {query : Query} (h : ValidQuery lib query) {suffix : CStr}
    (hs : SuffixLabels suffix) : ShortLabels (domainStr lib query ++ CStr.lit "." ++ suffix) := by
  have hservice := h.service_le
  have hidlen : query.id.digits.len ≤ 15 := by
    obtain ⟨service, id⟩ := query
    have hid := h.id_valid
    have hmax := lib.max_digits_le
    cases id with
    | none => simp [Mslookup.idValid] at hid
    | imsi digits => exact (lib.imsi_digits digits hid).2.2.trans hmax.1
    | msisdn digits => exact (lib.msisdn_digits digits hid).2.2.trans hmax.2
  have htype : (idTypeName lib query.id.type).len ≤ 6 := by
    obtain ⟨service, id⟩ := query
    cases id with
    | none => exact absurd h.id_valid (by simp [Mslookup.idValid])
    | imsi digits => rw [Id.type, Mslookup.idTypeName_imsi]; decide
    | msisdn digits => rw [Id.type, Mslookup.idTypeName_msisdn]; decide
  intro l hl
  simp only [bytes_domain, Mslookup.bytes_domainStr, List.append_assoc, List.cons_append,
    List.splitOn_append_cons_self, List.mem_append] at hl
  unfold Mslookup.serviceMaxlen at hservice
  unfold CStr.len at hservice hidlen htype
  rcases hl with hl | hl | hl | hl
  · have := length_le_of_mem_splitOn hl
    omega
  · have := length_le_of_mem_splitOn hl
    omega
  · have := length_le_of_mem_splitOn hl
    omega
  · have := hs l hl
    omega

/-! ## Queries -/

/-- A domain that was encoded is short enough to be a name. -/
theorem len_le_of_requestEncode {req : Request} {msg : Msgb} (hshort : ShortLabels req.domain)
    (h : requestEncode Msgb.alloc req = .ok (some msg)) : req.domain.len ≤ maxNameLen := by
  obtain ⟨m, -, h⟩ := Except.bind_eq_ok.1 h
  obtain ⟨qname, hq, -⟩ := data_of_questionEncode h
  exact (qnameEncode_eq_some hq hshort).1

/-- **A query packet is read back as it was written.** -/
theorem queryDecode_queryEncode {packetId : UInt16} {query : Query} {suffix : CStr} {msg : Msgb}
    (hs : SuffixLabels suffix) (hq : ValidQuery lib query)
    (h : queryEncode lib packetId query suffix = .ok (some msg)) :
    queryDecode lib msg.data suffix = .ok (some (packetId, query)) := by
  have hshort := shortLabels_domain hq hs
  rw [queryEncode, domainFromQuery_valid hq] at h
  have hlen := len_le_of_requestEncode hshort h
  rw [queryDecode, requestDecode_requestEncode hshort h, Except.ok_bind]
  simp only [queryFromDomain_domain hq suffix hlen, Except.ok_bind]

/-- Only valid queries are decoded. -/
theorem queryDecode_valid {data : List UInt8} {packetId : UInt16} {query : Query} {suffix : CStr}
    (h : queryDecode lib data suffix = .ok (some (packetId, query))) : ValidQuery lib query := by
  obtain ⟨req, -, h⟩ := Except.bind_eq_ok.1 h
  cases req with
  | none => cases h
  | some req =>
      obtain ⟨r, hr, h⟩ := Except.bind_eq_ok.1 h
      cases r with
      | error e => cases h
      | ok q =>
          cases h
          exact queryFromDomain_valid hr

/-- **Query round trip.**  What is encoded is decoded; and whatever packet a query was decoded
from, encoding and decoding it again changes nothing. -/
theorem query_roundTrip (lib : Libosmocore) {suffix : CStr} (hs : SuffixLabels suffix) :
    (∀ packetId query msg, ValidQuery lib query →
      queryEncode lib packetId query suffix = .ok (some msg) →
      queryDecode lib msg.data suffix = .ok (some (packetId, query))) ∧
    (∀ data packetId query, queryDecode lib data suffix = .ok (some (packetId, query)) →
      ∀ packetId' msg, queryEncode lib packetId' query suffix = .ok (some msg) →
        queryDecode lib msg.data suffix = .ok (some (packetId', query))) := by
  refine ⟨fun packetId query msg hq h => queryDecode_queryEncode hs hq h, ?_⟩
  intro data packetId query hdec packetId' msg henc
  exact queryDecode_queryEncode hs (queryDecode_valid hdec) henc

/-- A service with a dot in it, asked for an IMSI. -/
def gsupQuery : Query := ⟨CStr.lit "gsup.hlr", .imsi (CStr.lit "123456789012345")⟩

/-- A suffix with dots in it. -/
def osmocomSuffix : CStr := CStr.lit "mdns.osmocom.org"

theorem osmocomSuffix_labels : SuffixLabels osmocomSuffix := by
  unfold SuffixLabels
  decide +kernel

theorem gsupQuery_valid : ValidQuery Host.libosmocore gsupQuery :=
  ⟨by decide, by decide, by decide⟩

/-- The round trip of that query, sent as packet 1337 and again as packet 42. -/
theorem query_roundTrip_gsup : ∃ msg msg' : Msgb,
    queryDecode Host.libosmocore msg.data osmocomSuffix = .ok (some (1337, gsupQuery)) ∧
    queryDecode Host.libosmocore msg'.data osmocomSuffix = .ok (some (42, gsupQuery)) := by
  obtain ⟨msg, h⟩ : Encodes (queryEncode Host.libosmocore 1337 gsupQuery osmocomSuffix) := by
    decide +kernel
  obtain ⟨msg', h'⟩ : Encodes (queryEncode Host.libosmocore 42 gsupQuery osmocomSuffix) := by
    decide +kernel
  have hboth := query_roundTrip Host.libosmocore osmocomSuffix_labels
  have hdec := hboth.1 1337 gsupQuery msg gsupQuery_valid h
  exact ⟨msg, msg', hdec, hboth.2 msg.data 1337 gsupQuery hdec 42 msg' h'⟩

/-! ## Numbers in TXT records -/

theorem noNul_printDec (n : Nat) : (0 : UInt8) ∉ Decimal.printDec n := fun h =>
  Decimal.ne_of_mem_printDec h (by decide) rfl

theorem bytes_printDec (n : Nat) :
    (CStr.ofBytes (Decimal.printDec n)).bytes = Decimal.printDec n :=
  CStr.ofBytes_bytes_of_noNul (noNul_printDec n)

theorem decodeUint32_printDec (n : UInt32) :
    decodeUint32 (CStr.ofBytes (Decimal.printDec n.toNat)) = .ok n := by
  have hn := n.toNat_lt
  have hparse : Decimal.strtoll (Decimal.printDec n.toNat) = ⟨n.toNat, [], false⟩ :=
    Decimal.strtoll_printDec (by unfold Decimal.llongMax; omega)
  simp only [decodeUint32, bytes_printDec, hparse, Int.toNat_natCast, UInt32.ofNat_toNat]
  rw [if_neg (by simp), if_neg (by omega)]

theorem decodePort_printDec (n : UInt16) :
    decodePort (CStr.ofBytes (Decimal.printDec n.toNat)) = .ok n := by
  have hn := n.toNat_lt
  have hnat : (UInt32.ofNat n.toNat).toNat = n.toNat := by
    rw [UInt32.toNat_ofNat']
    omega
  have h32 := decodeUint32_printDec (UInt32.ofNat n.toNat)
  rw [hnat] at h32
  rw [decodePort, h32, Except.ok_bind, hnat, if_neg (by omega), UInt16.ofNat_toNat]

/-- A TXT record with a number in it yields its key and the number's text. -/
theorem recordTxtKeyvalDecode_txtDec (lib : Libosmocore) {key : CStr} {n : Nat} {rec' : MdnsRecord}
    (h : txtDec key n = .ok rec') (hkey : equals ∉ key.bytes) (hlen : key.len ≤ 4)
    (hn : n < 2 ^ 32) : rec'.type = recordTypeTxt ∧
      recordTxtKeyvalDecode lib rec' txtBufSize txtBufSize =
        .ok (key, CStr.ofBytes (Decimal.printDec n)) := by
  have hdigits : (CStr.ofBytes (Decimal.printDec n)).len ≤ 10 := by
    rw [CStr.len, bytes_printDec]
    exact Decimal.length_printDec_le (by omega) (by omega)
  unfold txtDec recordTxtKeyvalEncode at h
  cases hrec : recordTxtEncode key (CStr.ofBytes (Decimal.printDec n)) with
  | none =>
      rw [Option.getD_some, hrec] at h
      cases h
  | some r =>
      rw [Option.getD_some, hrec] at h
      cases h
      refine ⟨?_, recordTxtKeyvalDecode_txtEncode lib hrec hkey (by omega)
        (by unfold txtBufSize; omega) (by unfold txtBufSize; omega)⟩
      unfold recordTxtEncode at hrec
      split at hrec
      · cases hrec
      · cases hrec
        rfl

/-! ## Records of a result -/

theorem record_age {st : FromAnswer} {age : UInt32} {rec' : MdnsRecord}
    (h : txtDec (CStr.lit "age") age.toNat = .ok rec') (hage : st.foundAge = false) :
    st.record lib rec' =
      .ok { st with foundAge := true, result := { st.result with age := age } } := by
  obtain ⟨htype, hdec⟩ := recordTxtKeyvalDecode_txtDec lib h (by decide) (by decide)
    age.toNat_lt
  have hA : ¬ recordTypeTxt = recordTypeA := by decide
  have hAaaa : ¬ recordTypeTxt = recordTypeAaaa := by decide
  simp [FromAnswer.record, htype, hA, hAaaa, hdec, hage, decodeUint32_printDec]

theorem record_port {st : FromAnswer} {port : UInt16} {rec' : MdnsRecord} {host : Host}
    (h : txtDec (CStr.lit "port") port.toNat = .ok rec') (hst : st.expectPortFor = some host) :
    st.record lib rec' = .ok (st.setPort host port) := by
  have hport := port.toNat_lt
  obtain ⟨htype, hdec⟩ := recordTxtKeyvalDecode_txtDec lib h (by decide) (by decide)
    (by omega)
  have hA : ¬ recordTypeTxt = recordTypeA := by decide
  have hAaaa : ¬ recordTypeTxt = recordTypeAaaa := by decide
  have hkey : ¬ CStr.lit "port" = CStr.lit "age" := by decide
  simp [FromAnswer.record, htype, hA, hAaaa, hdec, hkey, hst, decodePort_printDec]

/-- What the encoder writes for an address that is set. -/
theorem hostRecords_eq_some {isSet : Bool} {address : Option MdnsRecord} {port : UInt16}
    {recs : List MdnsRecord} (h : hostRecords isSet address port = .ok (some recs)) :
    (isSet = false ∧ recs = []) ∨
      ∃ recIp recPort, isSet = true ∧ address = some recIp ∧
        txtDec (CStr.lit "port") port.toNat = .ok recPort ∧ recs = [recIp, recPort] := by
  unfold hostRecords at h
  cases isSet with
  | false =>
      cases h
      exact Or.inl ⟨rfl, rfl⟩
  | true =>
      cases address with
      | none => cases h
      | some recIp =>
          obtain ⟨recPort, hport, h⟩ := Except.bind_eq_ok.1 h
          cases h
          exact Or.inr ⟨recIp, recPort, rfl, rfl, hport, rfl⟩

theorem record_recordA {st : FromAnswer} (a : Octets 4) (hexp : st.expectPortFor = none)
    (hfound : st.foundIpV4 = false) :
    st.record lib (recordA a) = .ok (st.expect .v4 (lib.sockaddrStrFrom32 a 0)) := by
  have ha : a.val.length = 4 := a.property
  simp [FromAnswer.record, recordA, hexp, hfound, ha]

theorem record_recordAaaa {st : FromAnswer} (a : Octets 16) (hexp : st.expectPortFor = none)
    (hfound : st.foundIpV6 = false) :
    st.record lib (recordAaaa a) = .ok (st.expect .v6 (lib.sockaddrStrFromIn6Addr a 0)) := by
  have ha : a.val.length = 16 := a.property
  have hne : ¬ recordTypeAaaa = recordTypeA := by decide
  simp [FromAnswer.record, recordAaaa, hexp, hfound, ha, hne]

/-- The loop behind the records of one family. -/
def FromAnswer.afterHost (st : FromAnswer) (host : Host) (isSet : Bool) (addr : SockaddrStr)
    (port : UInt16) : FromAnswer :=
  if isSet then (st.expect host addr).setPort host port else st

/-- Reading the records of one family back. -/
theorem records_hostRecords {st : FromAnswer} {isSet : Bool} {address : Option MdnsRecord}
    {port : UInt16} {recs : List MdnsRecord} {host : Host} {addr : SockaddrStr}
    (h : hostRecords isSet address port = .ok (some recs))
    (hrec : ∀ recIp, address = some recIp → st.record lib recIp = .ok (st.expect host addr))
    (rest : List MdnsRecord) :
    st.records lib (recs ++ rest) =
      FromAnswer.records lib (st.afterHost host isSet addr port) rest := by
  rcases hostRecords_eq_some h with ⟨rfl, rfl⟩ | ⟨recIp, recPort, rfl, rfl, hport, rfl⟩
  · rfl
  · have hexpect : (st.expect host addr).expectPortFor = some host := by cases host <;> rfl
    rw [List.cons_append, FromAnswer.records, hrec recIp rfl, Except.ok_bind, List.cons_append,
      FromAnswer.records, record_port hport hexpect, Except.ok_bind, List.nil_append,
      FromAnswer.afterHost, if_pos rfl]

/-- The same presence, the same address by value and the same port. -/
structure SameHost {α : Type} (lib : Libosmocore) (toAddr : SockaddrStr → Option α)
    (a b : SockaddrStr) : Prop where
  isSet : lib.sockaddrStrIsSet b = lib.sockaddrStrIsSet a
  addr : lib.sockaddrStrIsSet a = true → toAddr b = toAddr a
  port : lib.sockaddrStrIsSet a = true → b.port = a.port

/-- An address that is not set is decoded as one that is not set. -/
theorem SameHost.zero {α : Type} {toAddr : SockaddrStr → Option α} {a : SockaddrStr}
    (h : lib.sockaddrStrIsSet a = false) : SameHost lib toAddr a SockaddrStr.zero where
  isSet := by rw [h, lib.is_set_zero]
  addr := by simp [h]
  port := by simp [h]

theorem SameHost.from32 {a : SockaddrStr} {b : Octets 4} (h : lib.sockaddrStrIsSet a = true)
    (hb : lib.sockaddrStrToInAddr a = some b) :
    SameHost lib lib.sockaddrStrToInAddr a { lib.sockaddrStrFrom32 b 0 with port := a.port } where
  isSet := by
    rw [h, lib.is_set_from_32]
    exact decide_eq_true (lib.port_of_is_set a h)
  addr := fun _ => by rw [hb, lib.in_addr_from_32]
  port := fun _ => rfl

theorem SameHost.fromIn6Addr {a : SockaddrStr} {b : Octets 16} (h : lib.sockaddrStrIsSet a = true)
    (hb : lib.sockaddrStrToIn6Addr a = some b) :
    SameHost lib lib.sockaddrStrToIn6Addr a
      { lib.sockaddrStrFromIn6Addr b 0 with port := a.port } where
  isSet := by
    rw [h, lib.is_set_from_in6_addr]
    exact decide_eq_true (lib.port_of_is_set a h)
  addr := fun _ => by rw [hb, lib.in6_addr_from_in6_addr]
  port := fun _ => rfl

/-- Reading the IPv4 records back. -/
theorem records_hostV4 (st : FromAnswer) {host : SockaddrStr} {recs : List MdnsRecord}
    (h : hostV4Records lib host = .ok (some recs)) (hexp : st.expectPortFor = none)
    (hfound : st.foundIpV4 = false) (rest : List MdnsRecord) :
    ∃ addr, (lib.sockaddrStrIsSet host = true →
        SameHost lib lib.sockaddrStrToInAddr host { addr with port := host.port }) ∧
      st.records lib (recs ++ rest) = FromAnswer.records lib
        (st.afterHost .v4 (lib.sockaddrStrIsSet host) addr host.port) rest := by
  cases ha : lib.sockaddrStrToInAddr host with
  | none =>
      refine ⟨host, fun _ => ⟨rfl, fun _ => rfl, fun _ => rfl⟩, ?_⟩
      exact records_hostRecords h (by simp [ha]) rest
  | some a =>
      refine ⟨lib.sockaddrStrFrom32 a 0, fun hset => SameHost.from32 hset ha, ?_⟩
      refine records_hostRecords h ?_ rest
      intro recIp hrec
      rw [ha] at hrec
      cases hrec
      exact record_recordA a hexp hfound

/-- Reading the IPv6 records back. -/
theorem records_hostV6 (st : FromAnswer) {host : SockaddrStr} {recs : List MdnsRecord}
    (h : hostV6Records lib host = .ok (some recs)) (hexp : st.expectPortFor = none)
    (hfound : st.foundIpV6 = false) (rest : List MdnsRecord) :
    ∃ addr, (lib.sockaddrStrIsSet host = true →
        SameHost lib lib.sockaddrStrToIn6Addr host { addr with port := host.port }) ∧
      st.records lib (recs ++ rest) = FromAnswer.records lib
        (st.afterHost .v6 (lib.sockaddrStrIsSet host) addr host.port) rest := by
  cases ha : lib.sockaddrStrToIn6Addr host with
  | none =>
      refine ⟨host, fun _ => ⟨rfl, fun _ => rfl, fun _ => rfl⟩, ?_⟩
      exact records_hostRecords h (by simp [ha]) rest
  | some a =>
      refine ⟨lib.sockaddrStrFromIn6Addr a 0, fun hset => SameHost.fromIn6Addr hset ha, ?_⟩
      refine records_hostRecords h ?_ rest
      intro recIp hrec
      rw [ha] at hrec
      cases hrec
      exact record_recordAaaa a hexp hfound

/-! ## Results -/

/-- A result packet is an answer with the records for the age and for both families. -/
theorem answer_of_resultEncode {packetId : UInt16} {query : Query} {result : Result}
    {suffix : CStr} {msg : Msgb} (hq : ValidQuery lib query)
    (h : resultEncode lib packetId query result suffix = .ok (some msg)) :
    ∃ recAge ipV4 ipV6, txtDec (CStr.lit "age") result.age.toNat = .ok recAge ∧
      hostV4Records lib result.hostV4 = .ok (some ipV4) ∧
      hostV6Records lib result.hostV6 = .ok (some ipV6) ∧
      answerEncode Msgb.alloc packetId (domainStr lib query ++ CStr.lit "." ++ suffix)
        ([recAge] ++ ipV4 ++ ipV6) = .ok (some msg) := by
  rw [resultEncode, domainFromQuery_valid hq] at h
  obtain ⟨recAge, hage, h⟩ := Except.bind_eq_ok.1 h
  obtain ⟨ipV4, hv4, h⟩ := Except.bind_eq_ok.1 h
  cases ipV4 with
  | none => cases h
  | some ipV4 =>
      obtain ⟨ipV6, hv6, h⟩ := Except.bind_eq_ok.1 h
      cases ipV6 with
      | none => cases h
      | some ipV6 => exact ⟨recAge, ipV4, ipV6, hage, hv4, hv6, h⟩

/-- **The records of a result are read back as the result.** -/
theorem resultFromAnswer_records {result : Result} {recAge : MdnsRecord}
    {ipV4 ipV6 : List MdnsRecord} (id : UInt16) (domain : Option CStr)
    (hage : txtDec (CStr.lit "age") result.age.toNat = .ok recAge)
    (hv4 : hostV4Records lib result.hostV4 = .ok (some ipV4))
    (hv6 : hostV6Records lib result.hostV6 = .ok (some ipV6))
    (hset : lib.sockaddrStrIsSet result.hostV4 = true ∨ lib.sockaddrStrIsSet result.hostV6 = true) :
    ∃ result', resultFromAnswer lib ⟨id, domain, [recAge] ++ ipV4 ++ ipV6⟩ = .ok result' ∧
      result'.age = result.age ∧
      SameHost lib lib.sockaddrStrToInAddr result.hostV4 result'.hostV4 ∧
      SameHost lib lib.sockaddrStrToIn6Addr result.hostV6 result'.hostV6 := by
  obtain ⟨addr4, hsame4, hrun4⟩ := records_hostV4 { FromAnswer.start with
    foundAge := true, result := { Result.zero with age := result.age } } hv4 rfl rfl (ipV6 ++ [])
  obtain ⟨addr6, hsame6, hrun6⟩ := records_hostV6 (FromAnswer.afterHost
    { FromAnswer.start with foundAge := true, result := { Result.zero with age := result.age } }
    .v4 (lib.sockaddrStrIsSet result.hostV4) addr4 result.hostV4.port) hv6
    (by unfold FromAnswer.afterHost; split <;> rfl) (by unfold FromAnswer.afterHost; split <;> rfl) []
  have hrun : FromAnswer.start.records lib ([recAge] ++ ipV4 ++ ipV6) =
      .ok (FromAnswer.afterHost (FromAnswer.afterHost { FromAnswer.start with
          foundAge := true, result := { Result.zero with age := result.age } }
        .v4 (lib.sockaddrStrIsSet result.hostV4) addr4 result.hostV4.port)
        .v6 (lib.sockaddrStrIsSet result.hostV6) addr6 result.hostV6.port) := by
    rw [List.append_assoc, List.singleton_append, FromAnswer.records, record_age hage rfl,
      Except.ok_bind, ← List.append_nil ipV6]
    exact hrun4.trans hrun6
  rw [resultFromAnswer, hrun, Except.ok_bind]
  cases h4 : lib.sockaddrStrIsSet result.hostV4 with
  | false =>
      have h6 : lib.sockaddrStrIsSet result.hostV6 = true := by simpa [h4] using hset
      rw [h6]
      exact ⟨_, rfl, rfl, SameHost.zero h4, hsame6 h6⟩
  | true =>
      cases h6 : lib.sockaddrStrIsSet result.hostV6 with
      | false => exact ⟨_, rfl, rfl, hsame4 h4, SameHost.zero h6⟩
      | true => exact ⟨_, rfl, rfl, hsame4 h4, hsame6 h6⟩

/-- **Result round trip.**  A result packet that was encoded is decoded with the same packet id,
query and age, and with the same addresses and ports. -/
theorem result_roundTrip (lib : Libosmocore) {suffix : CStr} (hs : SuffixLabels suffix)
    (packetId : UInt16) {query : Query} (hq : ValidQuery lib query) {result : Result}
    (hset : lib.sockaddrStrIsSet result.hostV4 = true ∨ lib.sockaddrStrIsSet result.hostV6 = true)
    {msg : Msgb} (h : resultEncode lib packetId query result suffix = .ok (some msg)) :
    ∃ result', resultDecode lib msg.data suffix = .ok (.ok (packetId, query, result')) ∧
      result'.age = result.age ∧
      SameHost lib lib.sockaddrStrToInAddr result.hostV4 result'.hostV4 ∧
      SameHost lib lib.sockaddrStrToIn6Addr result.hostV6 result'.hostV6 := by
  have hshort := shortLabels_domain hq hs
  obtain ⟨recAge, ipV4, ipV6, hage, hv4, hv6, hans⟩ := answer_of_resultEncode hq h
  obtain ⟨result', hfrom, hsame⟩ := resultFromAnswer_records packetId
    (some (domainStr lib query ++ CStr.lit "." ++ suffix)) hage hv4 hv6 hset
  obtain ⟨m, -, hloop⟩ := Except.bind_eq_ok.1 hans
  obtain ⟨name, hname, -⟩ := data_of_answerEncodeLoop (by simp) hloop
  have hlen := (qnameEncode_eq_some hname hshort).1
  refine ⟨result', ?_, hsame⟩
  rw [resultDecode, answerDecode_answerEncode hshort (by simp) hans, Except.ok_bind]
  simp only [queryFromDomain_domain hq suffix hlen, Except.ok_bind, hfrom]

/-- A result with an IPv4 address only. -/
def gsupResult : Result :=
  ⟨.result, ⟨Host.afInet, CStr.lit "42.42.42.42", 444⟩, SockaddrStr.zero, 3, false⟩

/-- The round trip of that result. -/
theorem result_roundTrip_gsup : ∃ msg result',
    resultEncode Host.libosmocore 1337 gsupQuery gsupResult osmocomSuffix = .ok (some msg) ∧
    resultDecode Host.libosmocore msg.data osmocomSuffix = .ok (.ok (1337, gsupQuery, result')) ∧
    result'.age = 3 ∧ result'.hostV4.port = 444 := by
  obtain ⟨msg, h⟩ : Encodes
      (resultEncode Host.libosmocore 1337 gsupQuery gsupResult osmocomSuffix) := by
    decide +kernel
  have hset : Host.libosmocore.sockaddrStrIsSet gsupResult.hostV4 = true := by decide
  obtain ⟨result', hdec, hage, hv4, -⟩ := result_roundTrip Host.libosmocore osmocomSuffix_labels
    1337 gsupQuery_valid (Or.inl hset) h
  exact ⟨msg, result', h, hdec, hage, hv4.port hset⟩

end Mdns
end OsmoHlr
