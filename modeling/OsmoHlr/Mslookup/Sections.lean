import OsmoHlr.Mslookup.Qname

/-!
# Sections of a packet are read back as they were written

* `headerDecode_bytes` — every header, whatever its flags.
* `questionDecode_bytes` — a question that takes up the rest of the packet.
* `recordDecode_bytes` — a resource record at the start of any packet; its
  length is what the decoder reports.
* `data_of_headerEncode`, `data_of_questionEncode`, `data_of_recordEncode` — what
  a successful encoder appends to the message.
-/

namespace OsmoHlr
namespace MdnsRfc

open CString
open Mslookup (dot)

/-! ## Header -/

theorem length_headerBytes (hdr : Header) : hdr.bytes.length = headerLen := rfl

theorem toNat_flags (hdr : Header) : hdr.flags.toNat =
    128 * hdr.qr.val + 8 * hdr.opcode.val + 4 * hdr.aa.val + 2 * hdr.tc.val + hdr.rd.val := by
  rw [Header.flags, UInt8.toNat_ofNat']
  omega

theorem toNat_codes (hdr : Header) :
    hdr.codes.toNat = 128 * hdr.ra.val + 16 * hdr.z.val + hdr.rcode.val := by
  rw [Header.codes, UInt8.toNat_ofNat']
  omega

/-- **A header is read back as it was written.** -/
theorem headerDecode_bytes (hdr : Header) : headerDecode hdr.bytes = .ok hdr := by
  have hflags : hdr.bytes.getD 2 0 = hdr.flags := rfl
  have hcodes : hdr.bytes.getD 3 0 = hdr.codes := rfl
  have hqd : hdr.bytes.drop 4 = BigEndian.store16 hdr.qdcount ++
      (BigEndian.store16 hdr.ancount ++ (BigEndian.store16 hdr.nscount ++
        BigEndian.store16 hdr.arcount)) := rfl
  have han : hdr.bytes.drop 6 = BigEndian.store16 hdr.ancount ++
      (BigEndian.store16 hdr.nscount ++ BigEndian.store16 hdr.arcount) := rfl
  have hns : hdr.bytes.drop 8 =
      BigEndian.store16 hdr.nscount ++ BigEndian.store16 hdr.arcount := rfl
  have har : hdr.bytes.drop 10 = BigEndian.store16 hdr.arcount ++ [] := rfl
  have hid : BigEndian.load16 hdr.bytes = hdr.id := by
    simp only [Header.bytes, List.append_assoc, BigEndian.load16_store16_append]
  unfold headerDecode
  rw [if_neg (by rw [length_headerBytes]; exact fun h => h rfl), hflags, hcodes, hqd, han, hns, har,
    hid, toNat_flags, toNat_codes]
  simp only [BigEndian.load16_store16_append]
  obtain ⟨id, rd, tc, aa, opcode, qr, rcode, z, ra, qd, an, ns, ar⟩ := hdr
  simp only [Except.ok.injEq, Header.mk.injEq, Fin.ext_iff, Fin.ofNat, true_and, and_true]
  omega

theorem data_of_headerEncode {msg msg' : Msgb} {hdr : Header} (h : headerEncode msg hdr = .ok msg') :
    msg'.data = msg.data ++ hdr.bytes := Msgb.data_of_put h

/-! ## Question -/

/-- What a question looks like behind its encoded name. -/
def questionBytes (qname : CStr) (qst : Question) : List UInt8 :=
  qname.bytes ++ 0 :: (BigEndian.store16 qst.qtype ++ BigEndian.store16 qst.qclass)

theorem data_of_questionEncode {msg msg' : Msgb} {qst : Question}
    (h : questionEncode msg qst = .ok (some msg')) :
    ∃ qname, qnameEncode qst.domain = some qname ∧
      msg'.data = msg.data ++ questionBytes qname qst := by
  unfold questionEncode at h
  cases hq : qnameEncode qst.domain with
  | none =>
      rw [hq] at h
      cases h
  | some qname =>
      rw [hq] at h
      simp only [Except.bind_eq_ok] at h
      obtain ⟨m1, h1, m2, h2, m3, h3, h⟩ := h
      cases h
      refine ⟨qname, rfl, ?_⟩
      rw [Msgb.data_of_put h3, Msgb.data_of_put h2, Msgb.data_of_put h1, questionBytes]
      simp only [List.append_assoc, List.cons_append, List.nil_append]

/-- **A question is read back as it was written.** -/
theorem questionDecode_bytes {qname : CStr} {qst : Question}
    (h : qnameEncode qst.domain = some qname)
    (hshort : ∀ l ∈ qst.domain.bytes.splitOn dot, l.length < 128) :
    questionDecode (questionBytes qname qst) = .ok (some qst) := by
  have hlen : (questionBytes qname qst).length = qname.len + 5 := by
    simp only [questionBytes, List.length_append, List.length_cons, BigEndian.length_store16,
      CStr.len]
  have hle := (qnameEncode_eq_some h hshort).1
  have hq := len_qnameEncode h
  unfold maxNameLen at hle
  have hsub : questionQnameLen (questionBytes qname qst).length = qname.len + 1 := by
    rw [hlen, questionQnameLen, SizeT.sub_of_le (by omega) (by unfold SizeT.modulus; omega)]
    omega
  have hname : qnameDecode (questionBytes qname qst) (qname.len + 1) = .ok (some qst.domain) := by
    refine qnameDecode_qnameEncode h hshort _ (by omega) ?_ (by omega)
    show _ ≤ (questionBytes qname qst).length
    omega
  have hsplit : questionBytes qname qst =
      (qname.bytes ++ [0]) ++ (BigEndian.store16 qst.qtype ++ BigEndian.store16 qst.qclass) := by
    rw [questionBytes, List.append_assoc]
    rfl
  have hplus : (qname.bytes ++ [0]).length = qname.len + 1 := List.length_append
  have hdrop : (questionBytes qname qst).drop (qname.len + 1) =
      BigEndian.store16 qst.qtype ++ BigEndian.store16 qst.qclass := by
    rw [hsplit]
    exact List.drop_left' hplus
  have hdrop2 : (questionBytes qname qst).drop (qname.len + 1 + 2) =
      BigEndian.store16 qst.qclass ++ [] := by
    rw [← List.drop_drop, hdrop]
    rfl
  simp only [questionDecode, hsub]
  rw [if_neg (by rw [hlen]; unfold questionMinLen; omega), hname, hdrop, hdrop2,
    Except.ok_bind, BigEndian.load16_store16_append, BigEndian.load16_store16_append]

/-! ## Resource records -/

/-- What a record looks like behind its encoded name. -/
def recordBytes (name : CStr) (rec' : Record) : List UInt8 :=
  name.bytes ++ 0 :: (BigEndian.store16 rec'.type ++ (BigEndian.store16 rec'.rclass ++
    (BigEndian.store32 rec'.ttl ++ (BigEndian.store16 rec'.rdlength ++ rec'.rdata))))

theorem length_recordBytes (name : CStr) (rec' : Record) :
    (recordBytes name rec').length = name.len + 11 + rec'.rdata.length := by
  simp only [recordBytes, List.length_append, List.length_cons, BigEndian.length_store16,
    BigEndian.length_store32, CStr.len]
  omega

theorem data_of_recordEncode {msg msg' : Msgb} {rec' : Record}
    (h : recordEncode msg rec' = .ok (some msg')) :
    ∃ name, qnameEncode rec'.domain = some name ∧
      msg'.data = msg.data ++ recordBytes name rec' := by
  unfold recordEncode at h
  cases hq : qnameEncode rec'.domain with
  | none =>
      rw [hq] at h
      cases h
  | some name =>
      rw [hq] at h
      simp only [Except.bind_eq_ok] at h
      obtain ⟨m1, h1, m2, h2, m3, h3, m4, h4, m5, h5, m6, h6, h⟩ := h
      cases h
      refine ⟨name, rfl, ?_⟩
      rw [Msgb.data_of_put h6, Msgb.data_of_put h5, Msgb.data_of_put h4, Msgb.data_of_put h3,
        Msgb.data_of_put h2, Msgb.data_of_put h1, recordBytes]
      simp only [List.append_assoc, List.cons_append, List.nil_append]

/-- **A record is read back as it was written**, with its length. -/
theorem recordDecode_bytes {name : CStr} {rec' : Record} (h : qnameEncode rec'.domain = some name)
    (hshort : ∀ l ∈ rec'.domain.bytes.splitOn dot, l.length < 128) (rest : List UInt8)
    (hsize : (recordBytes name rec' ++ rest).length < 2 ^ 63) :
    recordDecode (recordBytes name rec' ++ rest) =
      .ok (some (rec', (recordBytes name rec').length)) := by
  have hlen := length_recordBytes name rec'
  have hq := len_qnameEncode h
  rw [List.length_append, hlen] at hsize
  have hsub : recordQnameMaxLen (recordBytes name rec' ++ rest).length =
      name.len + 1 + rec'.rdata.length + rest.length := by
    rw [List.length_append, hlen, recordQnameMaxLen,
      SizeT.sub_of_le (by omega) (by unfold SizeT.modulus; omega)]
    omega
  have hname : qnameDecode (recordBytes name rec' ++ rest)
      (name.len + 1 + rec'.rdata.length + rest.length) = .ok (some rec'.domain) := by
    rw [recordBytes, List.append_assoc, List.cons_append]
    refine qnameDecode_qnameEncode h hshort _ (by omega) ?_ (by omega)
    rw [← List.cons_append, ← List.append_assoc]
    show _ ≤ (recordBytes name rec' ++ rest).length
    rw [List.length_append, hlen]
    omega
  have hdomain : rec'.domain.len + 2 = name.len + 1 := by omega
  have hdrop : ∀ k, (recordBytes name rec' ++ rest).drop (name.len + 1 + k) =
      (BigEndian.store16 rec'.type ++ (BigEndian.store16 rec'.rclass ++
        (BigEndian.store32 rec'.ttl ++ (BigEndian.store16 rec'.rdlength ++
          (rec'.rdata ++ rest))))).drop k := by
    intro k
    have hsplit : recordBytes name rec' ++ rest = (name.bytes ++ [0]) ++
        (BigEndian.store16 rec'.type ++ (BigEndian.store16 rec'.rclass ++
          (BigEndian.store32 rec'.ttl ++ (BigEndian.store16 rec'.rdlength ++
            (rec'.rdata ++ rest))))) := by
      simp only [recordBytes, List.append_assoc, List.cons_append, List.nil_append]
    have hplus : (name.bytes ++ [0]).length = name.len + 1 := List.length_append
    rw [← List.drop_drop, hsplit, List.drop_left' hplus]
  have htype : BigEndian.load16 ((recordBytes name rec' ++ rest).drop (name.len + 1)) =
      rec'.type := by
    rw [← Nat.add_zero (name.len + 1), hdrop, List.drop_zero, BigEndian.load16_store16_append]
  have hclass : BigEndian.load16 ((recordBytes name rec' ++ rest).drop (name.len + 1 + 2)) =
      rec'.rclass := by
    rw [hdrop, List.drop_left' (BigEndian.length_store16 _), BigEndian.load16_store16_append]
  have httl : BigEndian.load32 ((recordBytes name rec' ++ rest).drop (name.len + 1 + 4)) =
      rec'.ttl := by
    rw [hdrop, ← List.append_assoc, List.drop_left' (by simp), BigEndian.load32_store32_append]
  have hrdlength : BigEndian.load16 ((recordBytes name rec' ++ rest).drop (name.len + 1 + 8)) =
      rec'.rdlength := by
    rw [hdrop, ← List.append_assoc, ← List.append_assoc, List.drop_left' (by simp),
      BigEndian.load16_store16_append]
  have hnat : rec'.rdlength.toNat = rec'.rdata.length := by
    rw [Record.rdlength, UInt16.toNat_ofNat']
    exact Nat.mod_eq_of_lt rec'.rdata_lt
  have hrdata : ((recordBytes name rec' ++ rest).drop (name.len + 1 + 10)).take
      rec'.rdata.length = rec'.rdata := by
    rw [hdrop, ← List.append_assoc, ← List.append_assoc, ← List.append_assoc,
      List.drop_left' (by simp), List.take_left]
  rw [recordDecode, hsub, hname, Except.ok_bind]
  simp only [hdomain, hrdlength, hnat, htype, hclass, httl, hrdata]
  rw [if_neg (by rw [List.length_append, hlen]; omega),
    if_neg (by rw [List.length_append, hlen]; omega), hlen]

end MdnsRfc
end OsmoHlr
