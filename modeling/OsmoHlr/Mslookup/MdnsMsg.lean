import OsmoHlr.Mslookup.Sections

/-!
# mDNS messages: requests, answers and TXT records

`src/mslookup/mdns_msg.c`, the layer between the sections of a packet and the
mslookup queries and results.

* `requestEncode`, `requestDecode` — one header and one question, with the round
  trip `requestDecode_requestEncode`.
* `answerEncode`, `answerDecode` — one header and the resource records, each
  with the domain in front, with the round trip `answerDecode_answerEncode`.
* `recordTxtKeyvalEncode`, `recordTxtKeyvalDecode` — `key=value` behind its
  redundant length byte.
-/

namespace OsmoHlr
namespace MdnsMsg

open CString MdnsRfc
open Mslookup (dot)

/-- `-EINVAL` -/
def einval : Int := -22

/-- A bit has a value: the numerals of the flags are read with this instance. -/
theorem neZero_two : NeZero 2 := inferInstance

attribute [local instance] neZero_two

/-- `struct osmo_mdns_record`; `length` is the length of `data`. -/
structure MdnsRecord where
  type : UInt16
  data : List UInt8
  /-- `length` is a `uint16_t`. -/
  length_lt : data.length < 2 ^ 16
  deriving DecidableEq

/-- `struct osmo_mdns_msg_request` -/
structure Request where
  id : UInt16
  domain : CStr
  type : UInt16
  deriving DecidableEq

/-- `struct osmo_mdns_msg_answer`; a domain of `none` is the null pointer. -/
structure Answer where
  id : UInt16
  domain : Option CStr
  records : List MdnsRecord
  deriving DecidableEq

/-! ## Requests -/

/-- The header of a request. -/
def requestHeader (id : UInt16) : Header := { Header.zero with id := id, qdcount := 1 }

/-- `osmo_mdns_msg_request_encode`; `none` is `-EINVAL`. -/
def requestEncode (msg : Msgb) (req : Request) : Except Fault (Option Msgb) := do
  let msg ← headerEncode msg (requestHeader req.id)
  questionEncode msg ⟨req.domain, req.type, classIn⟩

/-- `osmo_mdns_msg_request_decode`; `none` is the null pointer it returns on error. -/
def requestDecode (data : List UInt8) : Except Fault (Option Request) :=
  if data.length < headerLen then .ok none
  else
    match headerDecode (data.take headerLen) with
    | .error _ => .ok none
    | .ok hdr =>
        if hdr.qr ≠ 0 then .ok none
        else do
          match ← questionDecode (data.drop headerLen) with
          | none => .ok none
          | some qst => .ok (some ⟨hdr.id, qst.domain, qst.qtype⟩)

/-! ## Answers -/

/-- The `struct osmo_mdns_rfc_record` of one record of an answer. -/
def rfcRecord (domain : CStr) (rec' : MdnsRecord) : Record where
  domain := domain
  type := rec'.type
  rclass := classIn
  ttl := 0
  rdata := rec'.data
  rdata_lt := rec'.length_lt

/-- The `llist_for_each_entry` loop of `osmo_mdns_msg_answer_encode`. -/
def answerEncodeLoop (domain : CStr) : Msgb → List MdnsRecord → Except Fault (Option Msgb)
  | msg, [] => .ok (some msg)
  | msg, ansRecord :: records => do
      match ← recordEncode msg (rfcRecord domain ansRecord) with
      | none => .ok none
      | some msg => answerEncodeLoop domain msg records

/-- The header of an answer with `count` records. -/
def answerHeader (id : UInt16) (count : Nat) : Header :=
  { Header.zero with id := id, qr := 1, ancount := UInt16.ofNat count }

/-- `osmo_mdns_msg_answer_encode` of an answer with the given domain; `none` is `-EINVAL`. -/
def answerEncode (msg : Msgb) (id : UInt16) (domain : CStr) (records : List MdnsRecord) :
    Except Fault (Option Msgb) := do
  let msg ← headerEncode msg (answerHeader id records.length)
  answerEncodeLoop domain msg records

/-- The simplified record that is added to the answer. -/
def mdnsRecord (rec' : Record) : MdnsRecord := ⟨rec'.type, rec'.rdata, rec'.rdata_lt⟩

/-- Adding a record to the answer: all of them must be for one domain. -/
def Answer.add (ret : Answer) (rec' : Record) : Option Answer :=
  match ret.domain with
  | some domain =>
      if domain ≠ rec'.domain then none
      else some { ret with records := ret.records ++ [mdnsRecord rec'] }
  | none =>
      some { ret with domain := some rec'.domain, records := ret.records ++ [mdnsRecord rec'] }

/-- The `while (data_len)` loop of `osmo_mdns_msg_answer_decode`. -/
def answerDecodeLoop : Nat → List UInt8 → Answer → Except Fault (Option Answer)
  | _, [], ret => .ok (some ret)
  | 0, _ :: _, _ => .error .diverge
  | fuel + 1, c :: cs, ret => do
      match ← recordDecode (c :: cs) with
      | none => .ok none
      | some (rec', recordLen) =>
          match ret.add rec' with
          | none => .ok none
          | some ret => answerDecodeLoop fuel ((c :: cs).drop recordLen) ret

/-- `osmo_mdns_msg_answer_decode`; `none` is the null pointer it returns on error. -/
def answerDecode (data : List UInt8) : Except Fault (Option Answer) :=
  if data.length < headerLen then .ok none
  else
    match headerDecode (data.take headerLen) with
    | .error _ => .ok none
    | .ok hdr =>
        if hdr.qr ≠ 1 then .ok none
        else do
          let data := data.drop headerLen
          match ← answerDecodeLoop data.length data ⟨hdr.id, none, []⟩ with
          | none => .ok none
          | some ret => if ret.records.length ≠ hdr.ancount.toNat then .ok none else .ok (some ret)

/-! ## Messages are read back as they were written -/

/-- No label of the domain is too long for a positive `char`. -/
def ShortLabels (domain : CStr) : Prop := ∀ l ∈ domain.bytes.splitOn dot, l.length < 128

theorem headerDecode_take (hdr : Header) (rest : List UInt8) :
    headerDecode ((hdr.bytes ++ rest).take headerLen) = .ok hdr := by
  rw [List.take_left' (length_headerBytes hdr), headerDecode_bytes]

theorem drop_headerBytes (hdr : Header) (rest : List UInt8) :
    (hdr.bytes ++ rest).drop headerLen = rest := List.drop_left' (length_headerBytes hdr)

theorem not_lt_headerLen (hdr : Header) (rest : List UInt8) :
    ¬ (hdr.bytes ++ rest).length < headerLen := by
  rw [List.length_append, length_headerBytes]
  omega

/-- **A request is read back as it was written.** -/
theorem requestDecode_requestEncode {req : Request} {msg : Msgb} (hshort : ShortLabels req.domain)
    (h : requestEncode Msgb.alloc req = .ok (some msg)) : requestDecode msg.data = .ok (some req) := by
  obtain ⟨m, hm, h⟩ := Except.bind_eq_ok.1 h
  obtain ⟨qname, hq, hdata⟩ := data_of_questionEncode h
  rw [data_of_headerEncode hm] at hdata
  simp only [Msgb.alloc, List.nil_append] at hdata
  have hqr : (requestHeader req.id).qr = 0 := rfl
  rw [hdata, requestDecode, if_neg (not_lt_headerLen _ _), headerDecode_take, drop_headerBytes]
  simp only [hqr, ne_eq, not_true_eq_false, if_false]
  rw [questionDecode_bytes hq hshort]
  rfl

/-- The resource records of a message. -/
def recordsBytes (domain name : CStr) (records : List MdnsRecord) : List UInt8 :=
  records.flatMap fun r => recordBytes name (rfcRecord domain r)

theorem data_of_answerEncodeLoop {domain : CStr} {records : List MdnsRecord} {msg msg' : Msgb}
    (hne : records ≠ []) (h : answerEncodeLoop domain msg records = .ok (some msg')) :
    ∃ name, qnameEncode domain = some name ∧
      msg'.data = msg.data ++ recordsBytes domain name records := by
  induction records generalizing msg with
  | nil => exact absurd rfl hne
  | cons r records ih =>
      obtain ⟨m, hm, h⟩ := Except.bind_eq_ok.1 h
      cases m with
      | none => cases h
      | some m =>
          obtain ⟨name, hname, hdata⟩ := data_of_recordEncode hm
          refine ⟨name, hname, ?_⟩
          rw [recordsBytes, List.flatMap_cons, ← List.append_assoc, ← hdata]
          cases records with
          | nil =>
              cases h
              rw [List.flatMap_nil, List.append_nil]
          | cons r' records =>
              obtain ⟨name', hname', hdata'⟩ := ih (by simp) h
              have heq : name' = name := Option.some.inj (hname'.symm.trans hname)
              rw [hdata', heq, recordsBytes]

theorem length_le_recordsBytes (domain name : CStr) (records : List MdnsRecord) :
    records.length ≤ (recordsBytes domain name records).length := by
  induction records with
  | nil => exact Nat.zero_le _
  | cons r records ih =>
      have hlen := length_recordBytes name (rfcRecord domain r)
      rw [recordsBytes, List.flatMap_cons, List.length_append, hlen, List.length_cons]
      rw [recordsBytes] at ih
      omega

/-- The loop of the decoder over records that were written for one domain. -/
theorem answerDecodeLoop_recordsBytes {domain name : CStr} (hname : qnameEncode domain = some name)
    (hshort : ShortLabels domain) (records : List MdnsRecord) (fuel : Nat) (ret : Answer)
    (hret : ret.domain = none ∨ ret.domain = some domain)
    (hfuel : (recordsBytes domain name records).length ≤ fuel)
    (hsize : (recordsBytes domain name records).length < 2 ^ 63) :
    answerDecodeLoop fuel (recordsBytes domain name records) ret =
      .ok (some ⟨ret.id, if records = [] then ret.domain else some domain,
        ret.records ++ records⟩) := by
  induction records generalizing fuel ret with
  | nil => simp [recordsBytes, answerDecodeLoop]
  | cons r records ih =>
      have hlen := length_recordBytes name (rfcRecord domain r)
      have hcons : recordsBytes domain name (r :: records) =
          recordBytes name (rfcRecord domain r) ++ recordsBytes domain name records := by
        rw [recordsBytes, List.flatMap_cons, recordsBytes]
      rw [hcons] at hfuel hsize ⊢
      have hadd : ret.add (rfcRecord domain r) =
          some ⟨ret.id, some domain, ret.records ++ [r]⟩ := by
        rcases hret with hret | hret <;> simp [Answer.add, hret, rfcRecord, mdnsRecord]
      have hdecode : recordDecode (recordBytes name (rfcRecord domain r) ++
          recordsBytes domain name records) =
            .ok (some (rfcRecord domain r, (recordBytes name (rfcRecord domain r)).length)) := by
        apply recordDecode_bytes
        · exact hname
        · exact hshort
        · exact hsize
      obtain ⟨fuel, rfl⟩ : ∃ k, fuel = k + 1 := by
        refine ⟨fuel - 1, ?_⟩
        rw [List.length_append] at hfuel
        omega
      obtain ⟨c, cs, hcs⟩ : ∃ c cs, recordBytes name (rfcRecord domain r) ++
          recordsBytes domain name records = c :: cs := by
        refine List.exists_cons_of_ne_nil fun hnil => ?_
        have := congrArg List.length hnil
        rw [List.length_append, List.length_nil] at this
        omega
      rw [List.length_append] at hfuel hsize
      rw [hcs, answerDecodeLoop, ← hcs, hdecode, Except.ok_bind]
      simp only [hadd, List.drop_left]
      rw [ih fuel _ (Or.inr rfl) (by omega) (by omega)]
      simp

/-- **An answer is read back as it was written.** -/
theorem answerDecode_answerEncode {id : UInt16} {domain : CStr} {records : List MdnsRecord}
    {msg : Msgb} (hshort : ShortLabels domain) (hne : records ≠ [])
    (h : answerEncode Msgb.alloc id domain records = .ok (some msg)) :
    answerDecode msg.data = .ok (some ⟨id, some domain, records⟩) := by
  obtain ⟨m, hm, h⟩ := Except.bind_eq_ok.1 h
  obtain ⟨name, hname, hdata⟩ := data_of_answerEncodeLoop hne h
  rw [data_of_headerEncode hm] at hdata
  have hfits := msg.fits
  have hcount := length_le_recordsBytes domain name records
  simp only [Msgb.alloc, List.nil_append] at hdata
  rw [hdata, List.length_append] at hfits
  unfold msgbSize at hfits
  have hqr : (answerHeader id records.length).qr = 1 := rfl
  rw [hdata, answerDecode, if_neg (not_lt_headerLen _ _), headerDecode_take, drop_headerBytes]
  simp only [hqr, ne_eq, not_true_eq_false, if_false]
  rw [answerDecodeLoop_recordsBytes hname hshort records _ _ (Or.inl rfl) (le_refl _) (by omega),
    Except.ok_bind]
  have hmod : (answerHeader id records.length).ancount.toNat = records.length := by
    rw [answerHeader, UInt16.toNat_ofNat']
    exact Nat.mod_eq_of_lt (by omega)
  have hid : (answerHeader id records.length).id = id := rfl
  simp [hne, hmod, hid]

/-! ## TXT records -/

/-- `'='` -/
def equals : UInt8 := 61

/-- The bytes of a TXT record: a length, the key, an equals sign and the value. -/
def txtData (key value : CStr) : List UInt8 :=
  UInt8.ofNat (key.len + 1 + value.len) :: (key.bytes ++ equals :: value.bytes)

/-- `_osmo_mdns_record_txt_encode`; `none` is the null pointer it returns on error. -/
def recordTxtEncode (key value : CStr) : Option MdnsRecord :=
  if h : maxCharacterStringLen - 1 < key.len + 1 + value.len then none
  else some ⟨recordTypeTxt, txtData key value, by
    simp only [txtData, List.length_cons, List.length_append, CStr.len, maxCharacterStringLen] at h ⊢
    omega⟩

/-- `osmo_mdns_record_txt_keyval_encode`; `none` stands for the format string being null, `some`
for what it prints. -/
def recordTxtKeyvalEncode (key : CStr) (value : Option CStr) : Option MdnsRecord :=
  recordTxtEncode key (value.getD CStr.empty)

/-- `osmo_mdns_record_txt_keyval_decode`: what is in `key_buf` and in `value_buf` afterwards. -/
def recordTxtKeyvalDecode (lib : Libosmocore) (rec' : MdnsRecord) (keySize valueSize : Nat) :
    Except Int (CStr × CStr) :=
  if rec'.type ≠ recordTypeTxt then .error einval
  -- a record without data has no length byte; it then fails here or at the next check
  else if SizeT.charToInt (rec'.data.head?.getD lib.emptyAlloc) ≠ (rec'.data.length : Int) - 1 then
    .error einval
  else if rec'.data.length ≤ 1 then .error einval
  else
    let keyValue := rec'.data.drop 1
    match lib.strnchr keyValue equals with
    | none => .error einval
    | some sep => .ok (lib.printN keySize (keyValue.take sep),
        lib.printN valueSize (keyValue.drop (sep + 1)))

/-- **A key and a value are read back as they were written**, as long as the length byte is
positive as a `char` and the key has no equals sign in it. -/
theorem recordTxtKeyvalDecode_txtEncode (lib : Libosmocore) {key value : CStr} {rec' : MdnsRecord}
    {keySize valueSize : Nat} (h : recordTxtEncode key value = some rec')
    (hkey : equals ∉ key.bytes) (hlen : key.len + 1 + value.len < 128)
    (hks : key.len < keySize) (hvs : value.len < valueSize) :
    recordTxtKeyvalDecode lib rec' keySize valueSize = .ok (key, value) := by
  unfold recordTxtEncode at h
  rw [dif_neg (by unfold maxCharacterStringLen; omega)] at h
  cases h
  have hlength : (txtData key value).length = key.len + value.len + 2 := by
    simp only [txtData, List.length_cons, List.length_append, CStr.len]
    omega
  have hfirst : SizeT.charToInt ((txtData key value).head?.getD lib.emptyAlloc) =
      ((txtData key value).length : Int) - 1 := by
    have hnat : (UInt8.ofNat (key.len + 1 + value.len)).toNat = key.len + 1 + value.len := by
      rw [UInt8.toNat_ofNat']
      omega
    rw [hlength, txtData, List.head?_cons, Option.getD_some, SizeT.charToInt_of_lt (by omega), hnat]
    omega
  have hdrop : (txtData key value).drop 1 = key.bytes ++ equals :: value.bytes := rfl
  have hnul : (0 : UInt8) ∉ key.bytes ++ equals :: value.bytes := by
    simp [key.noNul, value.noNul, equals]
  have hidx : (key.bytes ++ equals :: value.bytes).idxOf? equals = some key.bytes.length := by
    rw [List.idxOf?_eq_some_iff]
    refine ⟨by simp, by simp, ?_⟩
    intro j hj
    rw [List.getElem_append_left hj]
    intro heq
    apply hkey
    rw [← heq]
    exact List.getElem_mem hj
  have hval : (key.bytes ++ equals :: value.bytes).drop (key.bytes.length + 1) = value.bytes := by
    rw [← List.drop_drop, List.drop_left]
    rfl
  rw [recordTxtKeyvalDecode]
  simp only [hdrop, lib.strnchr_first _ _ hnul, hidx, List.take_left, hval]
  rw [if_neg (by simp), if_neg (by simpa using hfirst), if_neg (by omega)]
  have hk : lib.printN keySize key.bytes = key := CStr.ext (lib.print_fits _ _ key.noNul hks)
  have hv : lib.printN valueSize value.bytes = value := CStr.ext (lib.print_fits _ _ value.noNul hvs)
  rw [hk, hv]

end MdnsMsg
end OsmoHlr
