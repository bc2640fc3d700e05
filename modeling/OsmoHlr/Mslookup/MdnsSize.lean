import OsmoHlr.Mslookup.MdnsRoundTrip

/-!
# Messages and the room that is allocated for them

Every message is written into 1024 bytes, and nothing looks at what is left of them before
`msgb_put`, which aborts.  The domain is in front of every record, so that it is the number
of records that matters: three of them always fit, and five of them only if the domain is
not too long.

* `answerEncode_eq` — an answer is written as a whole, or `msgb_put` aborts.
* `length_recordsBytes` — how long its records are.
* `answers_fit_iff` — which queries and results fit.
-/

namespace OsmoHlr

open CString
open Mslookup (dot Query Result ValidQuery)

namespace MdnsRfc

/-! ## One piece after the other -/

/-- Two pieces are put as one. -/
theorem Msgb.put_put {β : Type} (msg : Msgb) (a b : List UInt8) (f : Msgb → Except Fault β) :
    (msg.put a >>= fun msg => msg.put b >>= f) = msg.put (a ++ b) >>= f := by
  unfold Msgb.put
  by_cases ha : msg.data.length + a.length ≤ msgbSize
  · rw [dif_pos ha, Except.ok_bind]
    simp only [List.length_append, ← Nat.add_assoc, List.append_assoc]
  · rw [dif_neg ha, dif_neg (by rw [List.length_append]; omega)]
    rfl

theorem Msgb.put_eq_error_iff (msg : Msgb) (b : List UInt8) :
    (msg.put b >>= fun msg => .ok (some msg)) = .error Fault.msgbPut ↔
      msgbSize < msg.data.length + b.length := by
  unfold Msgb.put
  by_cases h : msg.data.length + b.length ≤ msgbSize
  · rw [dif_pos h, Except.ok_bind]
    simp [h]
  · rw [dif_neg h, Except.error_bind]
    simpa using h

theorem questionEncode_eq {qname : CStr} {qst : Question} (h : qnameEncode qst.domain = some qname)
    (msg : Msgb) :
    questionEncode msg qst =
      msg.put (questionBytes qname qst) >>= fun msg => .ok (some msg) := by
  unfold questionEncode
  simp only [h, Msgb.put_put]
  simp only [questionBytes, List.append_assoc, List.cons_append, List.nil_append]

theorem recordEncode_eq {name : CStr} {rec' : Record} (h : qnameEncode rec'.domain = some name)
    (msg : Msgb) :
    recordEncode msg rec' = msg.put (recordBytes name rec') >>= fun msg => .ok (some msg) := by
  unfold recordEncode
  simp only [h, Msgb.put_put]
  simp only [recordBytes, List.append_assoc, List.cons_append, List.nil_append]

/-- Which domains can be encoded. -/
def Encodable (domain : CStr) : Prop :=
  domain.len ≤ maxNameLen ∧ ∀ l ∈ domain.bytes.splitOn dot, 0 < l.length

instance (domain : CStr) : Decidable (Encodable domain) := inferInstanceAs (Decidable (_ ∧ _))

theorem encodable_iff (domain : CStr) :
    Encodable domain ↔ ∃ name, qnameEncode domain = some name := by
  refine ⟨?_, ?_⟩
  · rintro ⟨hlen, hpos⟩
    have hloop : ∀ (ls : List (List UInt8)) (buf : List UInt8), (∀ l ∈ ls, 0 < l.length) →
        ∃ b, qnameEncodeLoop ls buf = some b := by
      intro ls
      induction ls with
      | nil => exact fun buf _ => ⟨buf, rfl⟩
      | cons l ls ih =>
          intro buf hls
          rw [qnameEncodeLoop, if_neg (Nat.pos_iff_ne_zero.1 (hls l List.mem_cons_self))]
          exact ih _ fun l' hl' => hls l' (List.mem_cons_of_mem l hl')
    obtain ⟨b, hb⟩ := hloop _ [] hpos
    rw [qnameEncode, if_neg (Nat.not_lt.2 hlen), hb]
    exact ⟨_, rfl⟩
  · rintro ⟨name, hname⟩
    obtain ⟨hlen, hpos, -⟩ := wire_of_qnameEncode hname
    exact ⟨hlen, hpos⟩

end MdnsRfc

namespace MdnsMsg

open MdnsRfc

theorem answerEncodeLoop_eq {domain name : CStr} (h : qnameEncode domain = some name) (msg : Msgb)
    (records : List MdnsRecord) :
    answerEncodeLoop domain msg records =
      msg.put (recordsBytes domain name records) >>= fun msg => .ok (some msg) := by
  induction records generalizing msg with
  | nil =>
      have hfits : msg.data.length + ([] : List UInt8).length ≤ msgbSize := msg.fits
      rw [recordsBytes, List.flatMap_nil, Msgb.put, dif_pos hfits]
      simp only [List.append_nil]
      rfl
  | cons r records ih =>
      have hrec := recordEncode_eq (show qnameEncode (rfcRecord domain r).domain = some name from h)
      rw [answerEncodeLoop, hrec, bind_assoc]
      simp only [Except.ok_bind, ih, Msgb.put_put]
      rw [recordsBytes, recordsBytes, List.flatMap_cons]

/-- **An answer is written as a whole**, or `msgb_put` aborts. -/
theorem answerEncode_eq {domain name : CStr} (h : qnameEncode domain = some name) (msg : Msgb)
    (id : UInt16) (records : List MdnsRecord) :
    answerEncode msg id domain records =
      msg.put ((answerHeader id records.length).bytes ++ recordsBytes domain name records) >>=
        fun msg => .ok (some msg) := by
  unfold answerEncode headerEncode
  simp only [answerEncodeLoop_eq h, Msgb.put_put]

theorem answerEncode_of_not_encodable {domain : CStr} (h : ¬Encodable domain) (id : UInt16)
    (r : MdnsRecord) (records : List MdnsRecord) :
    answerEncode Msgb.alloc id domain (r :: records) = .ok none := by
  have hnone : qnameEncode (rfcRecord domain r).domain = none :=
    Option.eq_none_iff_forall_ne_some.2 fun name hname => h ((encodable_iff domain).2 ⟨name, hname⟩)
  have hput : (answerHeader id (r :: records).length).bytes.length ≤ msgbSize := by
    rw [length_headerBytes]
    decide
  unfold answerEncode headerEncode Msgb.put
  rw [dif_pos (by simpa [Msgb.alloc] using hput), Except.ok_bind, answerEncodeLoop, recordEncode,
    hnone]
  rfl

/-- The domain, twelve more bytes, and the data: so long is a record. -/
theorem length_recordsBytes {domain name : CStr} (h : qnameEncode domain = some name)
    (records : List MdnsRecord) :
    (recordsBytes domain name records).length =
      (records.map fun r => domain.len + 12 + r.data.length).sum := by
  induction records with
  | nil => rfl
  | cons r records ih =>
      have hlen := len_qnameEncode h
      have hdata : (rfcRecord domain r).rdata = r.data := rfl
      rw [recordsBytes, List.flatMap_cons, List.length_append, length_recordBytes, hdata, ← recordsBytes,
        ih, List.map_cons, List.sum_cons]
      omega

/-- An answer aborts if it is longer than what is allocated. -/
theorem answerEncode_aborts_iff {domain : CStr} (h : Encodable domain) (id : UInt16)
    (records : List MdnsRecord) :
    answerEncode Msgb.alloc id domain records = .error .msgbPut ↔
      msgbSize < headerLen + (records.map fun r => domain.len + 12 + r.data.length).sum := by
  obtain ⟨name, hname⟩ := (encodable_iff domain).1 h
  rw [answerEncode_eq hname, Msgb.put_eq_error_iff, List.length_append, length_headerBytes,
    length_recordsBytes hname]
  simp [Msgb.alloc]

/-- A request is shorter than that, whatever it asks for. -/
theorem requestEncode_fits (req : Request) : requestEncode Msgb.alloc req ≠ .error .msgbPut := by
  have hput : (requestHeader req.id).bytes.length ≤ msgbSize := by
    rw [length_headerBytes]
    decide
  unfold requestEncode headerEncode
  cases hname : qnameEncode req.domain with
  | none =>
      unfold Msgb.put
      rw [dif_pos (by simpa [Msgb.alloc] using hput), Except.ok_bind, questionEncode, hname]
      intro h
      cases h
  | some name =>
      obtain ⟨hlen, -⟩ := wire_of_qnameEncode hname
      have hname' := len_qnameEncode hname
      have hqst : qnameEncode (⟨req.domain, req.type, classIn⟩ : Question).domain = some _ := hname
      have heq := questionEncode_eq hqst
      simp only [heq, Msgb.put_put]
      rw [ne_eq, Msgb.put_eq_error_iff, List.length_append, length_headerBytes]
      simp only [questionBytes, List.length_append, List.length_cons, BigEndian.length_store16,
        Msgb.alloc, List.length_nil, headerLen, msgbSize]
      unfold CStr.len maxNameLen at *
      omega

end MdnsMsg

namespace Mdns

open MdnsRfc MdnsMsg

variable {lib : Libosmocore} {query : Query} {result : Result} {suffix : CStr}

/-- So many characters has a number. -/
def digits (n : Nat) : Nat := (Decimal.printDec n).length

/-- A number behind its key, the equals sign and the length. -/
theorem txtDec_eq (key : CStr) (n : Nat) (h : key.len + 1 + digits n < maxCharacterStringLen) :
    ∃ rec', txtDec key n = .ok rec' ∧ rec'.data.length = key.len + 2 + digits n := by
  have hlen : (CStr.ofBytes (Decimal.printDec n)).len = digits n := by
    rw [CStr.len, bytes_printDec, digits]
  unfold txtDec recordTxtKeyvalEncode recordTxtEncode
  rw [Option.getD_some, dif_neg (by rw [hlen]; unfold maxCharacterStringLen at *; omega)]
  refine ⟨_, rfl, ?_⟩
  simp only [txtData, List.length_cons, List.length_append]
  unfold CStr.len at *
  omega

theorem digits_age (age : UInt32) : digits age.toNat ≤ 10 :=
  Decimal.length_printDec_le (by decide) (Nat.lt_trans age.toNat_lt (by decide))

theorem digits_port (port : UInt16) : digits port.toNat ≤ 5 :=
  Decimal.length_printDec_le (by decide) (Nat.lt_trans port.toNat_lt (by decide))

/-- What is written for one family: nothing, or an address of so many bytes and a port. -/
theorem hostRecords_cases (isSet : Bool) {address : Option MdnsRecord} {k : Nat}
    (hk : ∀ rec' ∈ address, rec'.data.length = k) (port : UInt16) :
    (isSet = true ∧ address.isSome = false ∧ hostRecords isSet address port = .ok none) ∨
      ∃ recs, hostRecords isSet address port = .ok (some recs) ∧
        (isSet = true → address.isSome = true) ∧
        ∀ n, (recs.map fun r => n + 12 + r.data.length).sum =
          if isSet then 2 * n + 30 + k + digits port.toNat else 0 := by
  cases isSet with
  | false => exact Or.inr ⟨[], rfl, nofun, fun _ => rfl⟩
  | true =>
      cases address with
      | none => exact Or.inl ⟨rfl, rfl, rfl⟩
      | some recIp =>
          have hport := digits_port port
          have hkey : (CStr.lit "port").len = 4 := by decide
          have hip := hk recIp rfl
          obtain ⟨recPort, hrec, hlen⟩ := txtDec_eq (CStr.lit "port") port.toNat
            (by unfold maxCharacterStringLen; omega)
          refine Or.inr ⟨[recIp, recPort], ?_, fun _ => rfl, ?_⟩
          · simp only [hostRecords, hrec, Except.ok_bind, if_true]
          · intro n
            simp only [List.map_cons, List.map_nil, List.sum_cons, List.sum_nil, if_true]
            omega

theorem length_recordA (address : Option (Octets 4)) :
    ∀ rec' ∈ address.map recordA, rec'.data.length = 4 := by
  intro rec' hrec'
  obtain ⟨a, -, rfl⟩ := Option.mem_map.1 hrec'
  exact a.property

theorem length_recordAaaa (address : Option (Octets 16)) :
    ∀ rec' ∈ address.map recordAaaa, rec'.data.length = 16 := by
  intro rec' hrec'
  obtain ⟨a, -, rfl⟩ := Option.mem_map.1 hrec'
  exact a.property

/-- Both addresses are written. -/
def BothWritten (lib : Libosmocore) (result : Result) : Prop :=
  (lib.sockaddrStrIsSet result.hostV4 = true ∧
      (lib.sockaddrStrToInAddr result.hostV4).isSome = true) ∧
    lib.sockaddrStrIsSet result.hostV6 = true ∧
      (lib.sockaddrStrToIn6Addr result.hostV6).isSome = true

/-- Both addresses are written, and the domain and the numbers are too long for that. -/
def TooLong (lib : Libosmocore) (query : Query) (result : Result) (suffix : CStr) : Prop :=
  BothWritten lib result ∧ ∃ domain, domainFromQuery lib query suffix = some domain ∧
    Encodable domain ∧ 915 < 5 * domain.len + digits result.age.toNat +
      digits result.hostV4.port.toNat + digits result.hostV6.port.toNat

theorem resultEncode_aborts_iff (lib : Libosmocore) (packetId : UInt16) (query : Query)
    (result : Result) (suffix : CStr) :
    resultEncode lib packetId query result suffix = .error .msgbPut ↔
      TooLong lib query result suffix := by
  have hage := digits_age result.age
  have hport4 := digits_port result.hostV4.port
  have hport6 := digits_port result.hostV6.port
  have hkey : (CStr.lit "age").len = 3 := by decide
  obtain ⟨recAge, hrec, hlen⟩ := txtDec_eq (CStr.lit "age") result.age.toNat
    (by unfold maxCharacterStringLen; omega)
  unfold resultEncode TooLong
  cases hdomain : domainFromQuery lib query suffix with
  | none => simp
  | some domain =>
      simp only [hrec, Except.ok_bind, hostV4Records, hostV6Records, Option.some.injEq,
        exists_eq_left']
      rcases hostRecords_cases (lib.sockaddrStrIsSet result.hostV4)
        (length_recordA (lib.sockaddrStrToInAddr result.hostV4))
        result.hostV4.port with ⟨-, hnone, h4⟩ | ⟨ipV4, h4, hsome4, hsum4⟩
      · have hnot : ¬BothWritten lib result := by
          rintro ⟨⟨-, hsome⟩, -⟩
          simp [hsome] at hnone
        simp [h4, hnot]
      · rcases hostRecords_cases (lib.sockaddrStrIsSet result.hostV6)
          (length_recordAaaa (lib.sockaddrStrToIn6Addr result.hostV6))
          result.hostV6.port with ⟨-, hnone, h6⟩ | ⟨ipV6, h6, hsome6, hsum6⟩
        · have hnot : ¬BothWritten lib result := by
            rintro ⟨-, -, hsome⟩
            simp [hsome] at hnone
          simp [h4, h6, hnot]
        · simp only [h4, h6, Except.ok_bind]
          by_cases henc : Encodable domain
          · rw [answerEncode_aborts_iff henc]
            simp only [List.map_append, List.sum_append, hsum4, hsum6, List.map_cons, List.map_nil,
              List.sum_cons, List.sum_nil, hlen, hkey]
            have hboth : BothWritten lib result ↔ lib.sockaddrStrIsSet result.hostV4 = true ∧
                lib.sockaddrStrIsSet result.hostV6 = true := by
              refine ⟨fun h => ⟨h.1.1, h.2.1⟩, ?_⟩
              rintro ⟨hset4, hset6⟩
              exact ⟨⟨hset4, by simpa using hsome4 hset4⟩, hset6, by simpa using hsome6 hset6⟩
            have hshort := henc.1
            rw [hboth, and_iff_right henc]
            unfold msgbSize headerLen
            unfold maxNameLen at hshort
            cases lib.sockaddrStrIsSet result.hostV4 <;>
              cases lib.sockaddrStrIsSet result.hostV6 <;>
              simp <;> omega
          · rw [List.append_assoc, List.singleton_append, answerEncode_of_not_encodable henc]
            simp [henc]

/-- **What fits into a message.**  All queries do, and so do all results, but for those that are
too long. -/
theorem answers_fit_iff (lib : Libosmocore) (packetId : UInt16) (query : Query) (result : Result)
    (suffix : CStr) :
    (queryEncode lib packetId query suffix ≠ .error .msgbPut ∧
        resultEncode lib packetId query result suffix ≠ .error .msgbPut) ↔
      ¬TooLong lib query result suffix := by
  have hquery : queryEncode lib packetId query suffix ≠ .error .msgbPut := by
    unfold queryEncode
    cases domainFromQuery lib query suffix with
    | none => exact nofun
    | some domain => exact requestEncode_fits _
  rw [and_iff_right hquery, ne_eq, resultEncode_aborts_iff]

/-- A suffix of 200 characters. -/
def longSuffix : CStr :=
  CStr.lit ("mslookup.a-long-label-for-the-site-of-an-operator-in-a-far-away-place." ++
    "and-another-one-for-the-region-that-the-site-is-a-part-of-today." ++
    "and-one-for-the-country-that-the-region-is-a-part-of-today.osmocom")

/-- A result with both addresses. -/
def dualResult : Result :=
  { gsupResult with hostV6 := ⟨Host.afInet6, CStr.lit "2001:0db8:0000:0000:0000:0000:0000:0001", 444⟩ }

/-- The domain is not too long to be encoded, and the answer aborts. -/
theorem answer_aborts :
    ValidQuery Host.libosmocore gsupQuery ∧
      (∃ domain, domainFromQuery Host.libosmocore gsupQuery longSuffix = some domain ∧
        domain.len ≤ maxNameLen) ∧
      resultEncode Host.libosmocore 1337 gsupQuery dualResult longSuffix = .error .msgbPut := by
  -- the domain is evaluated once, for all that is to be known of it
  have hdomain : (domainFromQuery Host.libosmocore gsupQuery longSuffix).any (fun domain =>
      domain.len ≤ maxNameLen ∧ Encodable domain ∧
        915 < 5 * domain.len + digits dualResult.age.toNat +
          digits dualResult.hostV4.port.toNat + digits dualResult.hostV6.port.toNat) = true := by
    decide +kernel
  obtain ⟨domain, hsome, hlong⟩ := Option.any_eq_true _ _ |>.1 hdomain
  obtain ⟨hlen, henc, htoo⟩ := of_decide_eq_true hlong
  refine ⟨gsupQuery_valid, ⟨domain, hsome, hlen⟩, ?_⟩
  rw [resultEncode_aborts_iff]
  exact ⟨⟨⟨by decide, by decide +kernel⟩, by decide, by decide +kernel⟩, domain, hsome, henc, htoo⟩

end Mdns
end OsmoHlr
