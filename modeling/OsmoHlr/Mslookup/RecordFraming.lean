import OsmoHlr.Mslookup.MdnsMsg
import OsmoHlr.Mslookup.QnameRoundTrip

/-!
# Where a resource record ends

`osmo_mdns_rfc_record_decode` takes the length of a name on the wire from the text
it was decoded to, two bytes more than that.  That is the length of the name if
it has a label and its labels have no NUL; otherwise the record is read at the
wrong offsets, and whatever follows it is too.

* `Frame` — a record as it is on the wire; `Framed` says that a decoded one is
  what the data starts with.
* `recordDecode_framed_iff`, `splitsInto_iff` — the same for the records of a
  packet, one behind the other.
* `record_framing` — both.
-/

namespace OsmoHlr
namespace MdnsMsg

open CString MdnsRfc

/-! ## Records on the wire -/

/-- A resource record on the wire: the labels of its name, and what comes behind the name. -/
structure Frame where
  labels : List (List UInt8)
  label : ∀ l ∈ labels, 0 < l.length ∧ l.length < 256
  type : UInt16
  rclass : UInt16
  ttl : UInt32
  rdata : List UInt8
  rdata_lt : rdata.length < 2 ^ 16

namespace Frame

/-- How long the name is, with the zero byte at its end. -/
def nameLen (frame : Frame) : Nat := (wire frame.labels).length + 1

/-- What follows the name. -/
def body (frame : Frame) : List UInt8 :=
  BigEndian.store16 frame.type ++ (BigEndian.store16 frame.rclass ++
    (BigEndian.store32 frame.ttl ++
      (BigEndian.store16 (UInt16.ofNat frame.rdata.length) ++ frame.rdata)))

/-- The record as the bytes of the packet. -/
def bytes (frame : Frame) : List UInt8 := wire frame.labels ++ 0 :: frame.body

theorem length_body (frame : Frame) : frame.body.length = 10 + frame.rdata.length := by
  simp only [body, List.length_append, BigEndian.length_store16, BigEndian.length_store32]
  omega

theorem length_bytes (frame : Frame) :
    frame.bytes.length = frame.nameLen + 10 + frame.rdata.length := by
  rw [bytes, List.length_append, List.length_cons, length_body, nameLen]
  omega

theorem wireName (frame : Frame) (rest : List UInt8) :
    WireName (frame.bytes ++ rest) frame.labels (frame.body ++ rest) where
  data_eq := by rw [bytes, List.append_assoc, List.cons_append]
  label := frame.label

/-- The bytes determine where a record ends. -/
theorem length_unique {frame frame' : Frame} {rest rest' : List UInt8}
    (h : frame.bytes ++ rest = frame'.bytes ++ rest') :
    frame.bytes.length = frame'.bytes.length := by
  obtain ⟨hlabels, hbody⟩ := (h ▸ frame.wireName rest).unique (frame'.wireName rest')
  have hrdlength : ∀ (f : Frame) (r : List UInt8),
      (BigEndian.load16 ((f.body ++ r).drop 8)).toNat = f.rdata.length := by
    intro f r
    have hdrop : (f.body ++ r).drop 8 =
        BigEndian.store16 (UInt16.ofNat f.rdata.length) ++ (f.rdata ++ r) := rfl
    rw [hdrop, BigEndian.load16_store16_append, UInt16.toNat_ofNat']
    exact Nat.mod_eq_of_lt f.rdata_lt
  rw [length_bytes, length_bytes, nameLen, nameLen, hlabels, ← hrdlength frame rest,
    ← hrdlength frame' rest', hbody]

end Frame

/-- The data starts with the record as it was decoded, and the reported length is its length: that
of the name, 10 more, and that of the `rdata`. -/
def Framed (data : List UInt8) (rec' : Record) (recordLen : Nat) : Prop :=
  ∃ (frame : Frame) (rest : List UInt8), data = frame.bytes ++ rest ∧ frame.type = rec'.type ∧
    frame.rclass = rec'.rclass ∧ frame.ttl = rec'.ttl ∧ frame.rdata = rec'.rdata ∧
    recordLen = frame.nameLen + 10 + rec'.rdata.length

/-- There is a label, and no label has a NUL. -/
def PlainLabels (ls : List (List UInt8)) : Prop := ls ≠ [] ∧ ∀ l ∈ ls, (0 : UInt8) ∉ l

/-! ## One record -/

/-- Bytes that are enough for type, class, TTL and `rdlength` are these and more. -/
theorem split_body {b : List UInt8} (h : 10 ≤ b.length) :
    b = BigEndian.store16 (BigEndian.load16 b) ++
      (BigEndian.store16 (BigEndian.load16 (b.drop 2)) ++
        (BigEndian.store32 (BigEndian.load32 (b.drop 4)) ++
          (BigEndian.store16 (BigEndian.load16 (b.drop 8)) ++ b.drop 10))) := by
  have hlen : ∀ k, (b.drop k).length = b.length - k := fun k => List.length_drop
  have h8 : BigEndian.store16 (BigEndian.load16 (b.drop 8)) ++ b.drop 10 = b.drop 8 := by
    have := BigEndian.store16_load16_append (b := b.drop 8) (by rw [hlen]; omega)
    rwa [List.drop_drop] at this
  have h4 : BigEndian.store32 (BigEndian.load32 (b.drop 4)) ++ b.drop 8 = b.drop 4 := by
    have := BigEndian.store32_load32_append (b := b.drop 4) (by rw [hlen]; omega)
    rwa [List.drop_drop] at this
  have h2 : BigEndian.store16 (BigEndian.load16 (b.drop 2)) ++ b.drop 4 = b.drop 2 := by
    have := BigEndian.store16_load16_append (b := b.drop 2) (by rw [hlen]; omega)
    rwa [List.drop_drop] at this
  rw [h8, h4, h2, BigEndian.store16_load16_append (by omega)]

section Record

variable {data : List UInt8} {rec' : Record} {recordLen : Nat}

/-- What is decoded is read behind the name that the text is taken for. -/
theorem recordDecode_eq_some (hsize : data.length < 2 ^ 63)
    (h : recordDecode data = .ok (some (rec', recordLen))) :
    ∃ ls rest, WireName data ls rest ∧ rec'.domain = CStr.ofBytes (dotted ls) ∧
      rec'.domain.len + 12 + rec'.rdata.length ≤ data.length ∧
      recordLen = rec'.domain.len + 12 + rec'.rdata.length ∧
      rec'.type = BigEndian.load16 (data.drop (rec'.domain.len + 2)) ∧
      rec'.rclass = BigEndian.load16 (data.drop (rec'.domain.len + 4)) ∧
      rec'.ttl = BigEndian.load32 (data.drop (rec'.domain.len + 6)) ∧
      UInt16.ofNat rec'.rdata.length = BigEndian.load16 (data.drop (rec'.domain.len + 10)) ∧
      rec'.rdata = (data.drop (rec'.domain.len + 12)).take rec'.rdata.length := by
  obtain ⟨name, hname, h⟩ := Except.bind_eq_ok.1 h
  cases name with
  | none => cases h
  | some domain =>
      simp only at h
      split at h
      · cases h
      next hshort =>
          split at h
          · cases h
          next hlong =>
              cases h
              have hlen : ((data.drop (domain.len + 2 + 10)).take
                  (BigEndian.load16 (data.drop (domain.len + 2 + 8))).toNat).length =
                    (BigEndian.load16 (data.drop (domain.len + 2 + 8))).toNat := by
                rw [List.length_take, List.length_drop]
                omega
              have hmax : recordQnameMaxLen data.length = data.length - 10 :=
                SizeT.sub_of_le (by omega) (by unfold SizeT.modulus; omega)
              rw [hmax] at hname
              obtain ⟨ls, rest, hcopied, hdomain, -⟩ :=
                qnameDecode_eq_some (by omega) (by omega) hname
              refine ⟨ls, rest, hcopied.wireName, hdomain, ?_, ?_, rfl, rfl, rfl, ?_, ?_⟩
              · simp only [hlen]
                omega
              · simp only [hlen]
              · simp only [hlen]
                rw [UInt16.ofNat_toNat]
              · simp only [hlen]

/-- A string that is as long as its buffer has no NUL in it. -/
theorem noNul_of_len_ofBytes {b : List UInt8} (h : (CStr.ofBytes b).len = b.length) :
    (0 : UInt8) ∉ b := by
  have hall : b.takeWhile (· != 0) = b := (List.takeWhile_prefix _).eq_of_length h
  intro h0
  simpa using List.takeWhile_eq_self_iff.1 hall 0 h0

/-- **A record is read where it is exactly if its name has a label and its labels have no NUL.** -/
theorem recordDecode_framed_iff (hsize : data.length < 2 ^ 63)
    (h : recordDecode data = .ok (some (rec', recordLen))) :
    Framed data rec' recordLen ↔ ∃ ls rest, WireName data ls rest ∧ PlainLabels ls := by
  obtain ⟨ls, rest, hname, hdomain, hfits, hrecordLen, htype, hclass, httl, hrdlength, hrdata⟩ :=
    recordDecode_eq_some hsize h
  constructor
  · rintro ⟨frame, rest', rfl, -, -, -, -, hlen⟩
    obtain ⟨rfl, -⟩ := (frame.wireName rest').unique hname
    rw [Frame.nameLen] at hlen
    have hwire : (wire frame.labels).length = rec'.domain.len + 1 := by omega
    have hne : frame.labels ≠ [] := by
      intro hnil
      rw [hnil, wire_nil, List.length_nil] at hwire
      omega
    refine ⟨frame.labels, _, hname, hne, ?_⟩
    rw [length_wire hne, hdomain] at hwire
    have hnul := noNul_of_len_ofBytes (Nat.succ.inj hwire).symm
    exact fun l hl h0 => hnul (mem_intercalate_of_mem h0 _ hl)
  · rintro ⟨ls', rest', hname', hne, hplain⟩
    obtain ⟨rfl, rfl⟩ := hname'.unique hname
    have hlen : rec'.domain.len + 2 = (wire ls').length + 1 := by
      rw [length_wire hne, hdomain, CStr.len,
        CStr.ofBytes_bytes_of_noNul (noNul_dotted hplain)]
    have hdrop : ∀ k, data.drop (rec'.domain.len + 2 + k) = rest'.drop k := by
      intro k
      have hsplit : data = (wire ls' ++ [0]) ++ rest' := by
        rw [hname.data_eq, List.append_assoc]
        rfl
      have hfront : (wire ls' ++ [0]).length = rec'.domain.len + 2 := by
        rw [List.length_append, List.length_singleton]
        omega
      rw [← List.drop_drop, hsplit, List.drop_left' hfront]
    have hrest : rest'.length = data.length - (rec'.domain.len + 2) := by
      have := congrArg List.length (hdrop 0)
      rw [Nat.add_zero, List.length_drop, List.drop_zero] at this
      exact this.symm
    rw [hdrop 0, List.drop_zero] at htype
    rw [hdrop 2] at hclass
    rw [hdrop 4] at httl
    rw [hdrop 8] at hrdlength
    rw [hdrop 10] at hrdata
    refine ⟨⟨ls', hname.label, rec'.type, rec'.rclass, rec'.ttl, rec'.rdata, rec'.rdata_lt⟩,
      rest'.drop (10 + rec'.rdata.length), ?_, rfl, rfl, rfl, rfl, ?_⟩
    · have hbody := split_body (b := rest') (by omega)
      rw [← htype, ← hclass, ← httl, ← hrdlength,
        ← List.take_append_drop rec'.rdata.length (rest'.drop 10), ← hrdata, List.drop_drop] at hbody
      simp only [Frame.bytes, Frame.body, List.append_assoc, List.cons_append]
      exact hname.data_eq.trans (congrArg (fun b => wire ls' ++ 0 :: b) hbody)
    · show recordLen = (wire ls').length + 1 + 10 + rec'.rdata.length
      omega

end Record

/-! ## All records of a packet -/

/-- Decoding one record after the other, each is where it is read, and nothing is left in the
end. -/
def SplitsInto : List UInt8 → List MdnsRecord → Prop
  | data, [] => data = []
  | data, r :: records => ∃ rec' recordLen, recordDecode data = .ok (some (rec', recordLen)) ∧
      mdnsRecord rec' = r ∧ Framed data rec' recordLen ∧ SplitsInto (data.drop recordLen) records

/-- The name of the record has a label, and its labels have no NUL. -/
def Frame.Plain (frame : Frame) : Prop := PlainLabels frame.labels

/-- Records one behind the other, with such names. -/
def PlainFrames (data : List UInt8) : Prop :=
  ∃ frames : List Frame, (∀ frame ∈ frames, frame.Plain) ∧ data = frames.flatMap Frame.bytes

/-- The records that are split off are records with such names. -/
theorem plainFrames_of_splitsInto {records : List MdnsRecord} {data : List UInt8}
    (hsize : data.length < 2 ^ 63) (h : SplitsInto data records) : PlainFrames data := by
  induction records generalizing data with
  | nil => exact ⟨[], nofun, h⟩
  | cons r records ih =>
      obtain ⟨rec', recordLen, hdecode, -, hframed, hrest⟩ := h
      obtain ⟨ls, rest, hname, hplain⟩ := (recordDecode_framed_iff hsize hdecode).1 hframed
      obtain ⟨frame, rest', rfl, -, -, -, hrdata, hlen⟩ := hframed
      obtain ⟨rfl, -⟩ := (frame.wireName rest').unique hname
      rw [← hrdata, ← frame.length_bytes] at hlen
      rw [hlen, List.drop_left] at hrest
      rw [List.length_append] at hsize
      obtain ⟨frames, hframes, rfl⟩ := ih (by omega) hrest
      refine ⟨frame :: frames, ?_, by rw [List.flatMap_cons]⟩
      intro f hf
      rcases List.mem_cons.1 hf with rfl | hf
      · exact hplain
      · exact hframes f hf

theorem Answer.records_of_add {ret ret' : Answer} {rec' : Record} (h : ret.add rec' = some ret') :
    ret'.records = ret.records ++ [mdnsRecord rec'] := by
  unfold Answer.add at h
  split at h
  · split at h
    · cases h
    · cases h
      rfl
  · cases h
    rfl

/-- One round of the loop that comes to an end with an answer. -/
theorem answerDecodeLoop_cons {fuel : Nat} {data : List UInt8} {ret ans : Answer}
    (hdata : data ≠ []) (h : answerDecodeLoop fuel data ret = .ok (some ans)) :
    ∃ fuel' rec' recordLen ret', recordDecode data = .ok (some (rec', recordLen)) ∧
      ret'.records = ret.records ++ [mdnsRecord rec'] ∧
      answerDecodeLoop fuel' (data.drop recordLen) ret' = .ok (some ans) := by
  obtain ⟨c, cs, rfl⟩ := List.exists_cons_of_ne_nil hdata
  cases fuel with
  | zero => cases h
  | succ fuel =>
      rw [answerDecodeLoop] at h
      obtain ⟨dec, hdec, h⟩ := Except.bind_eq_ok.1 h
      cases dec with
      | none => cases h
      | some dec =>
          obtain ⟨rec', recordLen⟩ := dec
          simp only at h
          split at h
          · cases h
          next ret' hadd =>
              exact ⟨fuel, rec', recordLen, ret', hdec, Answer.records_of_add hadd, h⟩

/-- Records with such names are split where they end. -/
theorem splitsInto_of_plainFrames {frames : List Frame} (hplain : ∀ frame ∈ frames, frame.Plain)
    {fuel : Nat} {ret ans : Answer} (hsize : (frames.flatMap Frame.bytes).length < 2 ^ 63)
    (h : answerDecodeLoop fuel (frames.flatMap Frame.bytes) ret = .ok (some ans)) :
    ∃ records, ans.records = ret.records ++ records ∧
      SplitsInto (frames.flatMap Frame.bytes) records := by
  induction frames generalizing fuel ret with
  | nil =>
      rw [List.flatMap_nil, answerDecodeLoop] at h
      cases h
      exact ⟨[], (List.append_nil _).symm, rfl⟩
  | cons frame frames ih =>
      rw [List.flatMap_cons] at h hsize ⊢
      have hdata : frame.bytes ++ frames.flatMap Frame.bytes ≠ [] := by
        intro hnil
        have hlen := congrArg List.length hnil
        rw [List.length_append, frame.length_bytes, List.length_nil] at hlen
        omega
      obtain ⟨fuel', rec', recordLen, ret', hdecode, hret', hloop⟩ := answerDecodeLoop_cons hdata h
      have hframed : Framed (frame.bytes ++ frames.flatMap Frame.bytes) rec' recordLen :=
        (recordDecode_framed_iff hsize hdecode).2
          ⟨_, _, frame.wireName _, hplain frame List.mem_cons_self⟩
      have hlen : recordLen = frame.bytes.length := by
        obtain ⟨frame', rest', hbytes, -, -, -, hrdata, hlen⟩ := hframed
        rw [hlen, ← hrdata, ← frame'.length_bytes, Frame.length_unique hbytes]
      rw [List.length_append] at hsize
      rw [hlen, List.drop_left] at hloop
      obtain ⟨records, hrecords, hsplits⟩ :=
        ih (fun f hf => hplain f (List.mem_cons_of_mem _ hf)) (by omega) hloop
      refine ⟨mdnsRecord rec' :: records, ?_, rec', recordLen, hdecode, rfl, hframed, ?_⟩
      · rw [hrecords, hret', List.append_assoc]
        rfl
      · rw [hlen, List.drop_left]
        exact hsplits

/-- The loop that has made an answer. -/
theorem answerDecode_eq_some {data : List UInt8} {ans : Answer}
    (h : answerDecode data = .ok (some ans)) :
    ∃ fuel id, answerDecodeLoop fuel (data.drop headerLen) ⟨id, none, []⟩ = .ok (some ans) := by
  unfold answerDecode at h
  split at h
  · cases h
  split at h
  · cases h
  next hdr _ =>
      split at h
      · cases h
      obtain ⟨ret, hret, h⟩ := Except.bind_eq_ok.1 h
      cases ret with
      | none => cases h
      | some ret =>
          simp only at h
          split at h
          · cases h
          · cases h
            exact ⟨_, _, hret⟩

/-- **A packet is split where its records end exactly if it consists of records with such
names.** -/
theorem answerDecode_splitsInto_iff {data : SizeT.Object} {ans : Answer}
    (h : answerDecode data.bytes = .ok (some ans)) :
    SplitsInto (data.bytes.drop headerLen) ans.records ↔
      PlainFrames (data.bytes.drop headerLen) := by
  have hsize : (data.bytes.drop headerLen).length < 2 ^ 63 := by
    rw [List.length_drop]
    exact Nat.lt_of_le_of_lt (Nat.sub_le _ _) data.size_lt
  constructor
  · exact plainFrames_of_splitsInto hsize
  · rintro ⟨frames, hplain, hdata⟩
    obtain ⟨fuel, id, hloop⟩ := answerDecode_eq_some h
    rw [hdata] at hloop hsize ⊢
    obtain ⟨records, hrecords, hsplits⟩ := splitsInto_of_plainFrames hplain hsize hloop
    rw [List.nil_append] at hrecords
    exact hrecords ▸ hsplits

/-- **Where a record ends**: the reported length is that of the record on the wire, and what is
returned is read at the offsets in it, exactly if the name has a label and its labels have no NUL;
a packet is split where its records end exactly if all of them have such names. -/
theorem record_framing (data : SizeT.Object) :
    (∀ rec' recordLen,
      recordDecode data.bytes = .ok (some (rec', recordLen)) →
      (Framed data.bytes rec' recordLen ↔
        ∃ ls rest, WireName data.bytes ls rest ∧ PlainLabels ls)) ∧
    ∀ ans, answerDecode data.bytes = .ok (some ans) →
      (SplitsInto (data.bytes.drop headerLen) ans.records ↔
        PlainFrames (data.bytes.drop headerLen)) :=
  ⟨fun _ _ h => recordDecode_framed_iff data.size_lt h,
    fun _ h => answerDecode_splitsInto_iff h⟩

/-- The header of an answer with one record, and a record with the empty name, type TXT and no
`rdata`; one byte follows. -/
def rootAnswer : SizeT.Object :=
  ⟨(answerHeader 0 1).bytes ++ [0, 0, 16, 0, 1, 0, 0, 0, 0, 0, 0, 0], by decide⟩

/-- The record and what follows it. -/
def rootRecord : SizeT.Object := ⟨rootAnswer.bytes.drop headerLen, by decide⟩

/-- It is read one byte too far, and the packet is accepted. -/
theorem record_not_framed :
    (¬ ∀ (data : SizeT.Object) rec' recordLen,
      recordDecode data.bytes = .ok (some (rec', recordLen)) →
      Framed data.bytes rec' recordLen) ∧
    ¬ ∀ (data : SizeT.Object) ans, answerDecode data.bytes = .ok (some ans) →
      SplitsInto (data.bytes.drop headerLen) ans.records := by
  have hroot : ¬ ∃ ls rest, WireName rootRecord.bytes ls rest ∧ PlainLabels ls := by
    rintro ⟨ls, rest, hname, hne, -⟩
    have hempty : WireName rootRecord.bytes [] (rootRecord.bytes.drop 1) := ⟨by decide, nofun⟩
    exact hne (hname.unique hempty).1
  have hdecode : recordDecode rootRecord.bytes =
      .ok (some (⟨CStr.empty, 4096, 256, 0, [], by decide⟩, 12)) := by
    have hname : qnameDecode rootRecord.bytes (recordQnameMaxLen rootRecord.bytes.length) =
        .ok (some CStr.empty) := by decide +kernel
    rw [recordDecode, hname]
    rfl
  have hanswer : answerDecode rootAnswer.bytes =
      .ok (some ⟨0, some CStr.empty, [⟨4096, [], by decide⟩]⟩) := by decide +kernel
  constructor
  · intro h
    exact hroot ((recordDecode_framed_iff rootRecord.size_lt hdecode).1 (h _ _ _ hdecode))
  · intro h
    obtain ⟨rec', recordLen, hrec, -, hframed, -⟩ := h _ _ hanswer
    exact hroot ((recordDecode_framed_iff rootRecord.size_lt hrec).1 hframed)

/-- A record of the name "a", with one byte of `rdata`. -/
def plainFrame : Frame := ⟨[[97]], by decide, 16, 1, 0, [7], by decide⟩

/-- The header of an answer with one record, and that record. -/
def plainAnswer : SizeT.Object := ⟨(answerHeader 0 1).bytes ++ plainFrame.bytes, by decide⟩

/-- It is read where it is. -/
theorem record_framing_plain :
    Framed plainFrame.bytes ⟨CStr.lit "a", 16, 1, 0, [7], by decide⟩ 14 ∧
      SplitsInto plainFrame.bytes [⟨16, [7], by decide⟩] := by
  have hplain : plainFrame.Plain := by
    refine ⟨by decide, ?_⟩
    decide
  have hdecode : recordDecode plainFrame.bytes =
      .ok (some (⟨CStr.lit "a", 16, 1, 0, [7], by decide⟩, 14)) := by
    have hname : qnameDecode plainFrame.bytes (recordQnameMaxLen plainFrame.bytes.length) =
        .ok (some (CStr.lit "a")) := by decide +kernel
    rw [recordDecode, hname]
    rfl
  have hanswer : answerDecode plainAnswer.bytes =
      .ok (some ⟨0, some (CStr.lit "a"), [⟨16, [7], by decide⟩]⟩) := by decide +kernel
  have hname : WireName plainFrame.bytes [[97]] plainFrame.body := ⟨rfl, by decide⟩
  constructor
  · obtain ⟨hframed, -⟩ := record_framing ⟨plainFrame.bytes, by decide⟩
    exact (hframed _ 14 hdecode).2 ⟨_, _, hname, hplain⟩
  · obtain ⟨-, hsplits⟩ := record_framing plainAnswer
    exact (hsplits _ hanswer).2
      ⟨[plainFrame], by simpa using hplain, by decide⟩

end MdnsMsg
end OsmoHlr
