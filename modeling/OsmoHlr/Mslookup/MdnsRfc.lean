import OsmoHlr.Lib.BigEndian
import OsmoHlr.Lib.SizeT
import OsmoHlr.Mslookup.Basic

/-!
# mDNS on the wire: names, headers, questions and resource records

`src/mslookup/mdns_rfc.c`, the bottom layer of the mDNS code.  Packets are byte
lists; a pointer into one is a displacement from its first byte and `size_t` is
64 bits wide (`OsmoHlr.Lib.SizeT`).

The decoder of a `qname` copies bytes between two buffers under hand-written
bounds checks.  Its model performs every access through `load`, `loadRange` and
`store`, which stop the run with a `Fault` when the access is outside the packet
or outside `buf`; nothing else stops it there, as nothing else stops the code.

* `qnameEncode`, `qnameDecode` — dotted text to length-prefixed labels and back.
* `headerEncode`, `headerDecode`, `questionEncode`, `questionDecode`,
  `recordEncode`, `recordDecode` — the sections of a message.
-/

namespace OsmoHlr
namespace MdnsRfc

open CString
open Mslookup (dot)

/-- `OSMO_MDNS_RFC_MAX_NAME_LEN` -/
def maxNameLen : Nat := 255

/-- `OSMO_MDNS_RFC_MAX_CHARACTER_STRING_LEN` -/
def maxCharacterStringLen : Nat := 256

/-! ### `enum osmo_mdns_rfc_record_type` and `enum osmo_mdns_rfc_class`, as they are on the wire -/

def recordTypeA : UInt16 := 1
def recordTypeTxt : UInt16 := 16
def recordTypeAaaa : UInt16 := 28
def recordTypeAll : UInt16 := 255
def classIn : UInt16 := 1

/-- The ways a run ends other than by returning. -/
inductive Fault where
  /-- A byte outside the packet was read. -/
  | readOutside (p : Int)
  /-- A byte outside the 256-byte name buffer was written. -/
  | writeOutside (i : Nat)
  /-- The loop did not come to an end. -/
  | diverge
  /-- A domain that is not there was used as a string. -/
  | nullDomain
  /-- `msgb_put` found no room and aborted. -/
  | msgbPut
  /-- `OSMO_ASSERT` failed. -/
  | assert
  deriving DecidableEq

/-! ## Message buffers -/

/-- What `osmo_mdns_msgb_alloc` asks `msgb_alloc` for. -/
def msgbSize : Nat := 1024

/-- A `struct msgb` from `osmo_mdns_msgb_alloc`: what has been put into it. -/
structure Msgb where
  data : List UInt8
  /-- There is never more in it than was allocated. -/
  fits : data.length ≤ msgbSize

/-- A fresh buffer. -/
def Msgb.alloc : Msgb := ⟨[], Nat.zero_le _⟩

/-- `msgb_put` and filling what it returns. -/
def Msgb.put (msg : Msgb) (b : List UInt8) : Except Fault Msgb :=
  if h : msg.data.length + b.length ≤ msgbSize then .ok ⟨msg.data ++ b, by simpa using h⟩
  else .error .msgbPut

theorem Msgb.data_of_put {msg msg' : Msgb} {b : List UInt8} (h : msg.put b = .ok msg') :
    msg'.data = msg.data ++ b := by
  unfold Msgb.put at h
  split at h
  · cases h
    rfl
  · cases h

/-- An encoder came to an end with a message. -/
def Encodes (r : Except Fault (Option Msgb)) : Prop := ∃ msg, r = .ok (some msg)

instance (r : Except Fault (Option Msgb)) : Decidable (Encodes r) :=
  match r with
  | .ok (some msg) => .isTrue ⟨msg, rfl⟩
  | .ok none => .isFalse (by rintro ⟨msg, h⟩; cases h)
  | .error _ => .isFalse (by rintro ⟨msg, h⟩; cases h)

/-! ## Names -/

/-- One label behind its length byte. -/
def wireLabel (label : List UInt8) : List UInt8 := UInt8.ofNat label.length :: label

/-- The `strsep` loop of `osmo_mdns_rfc_qname_encode`. -/
def qnameEncodeLoop : List (List UInt8) → List UInt8 → Option (List UInt8)
  | [], buf => some buf
  | label :: labels, buf =>
      -- empty domain, dot at start, two dots in a row, or ending with a dot
      if label.length = 0 then none else qnameEncodeLoop labels (buf ++ wireLabel label)

/-- `osmo_mdns_rfc_qname_encode` -/
def qnameEncode (domain : CStr) : Option CStr :=
  if maxNameLen < domain.len then none
  else (qnameEncodeLoop (domain.bytes.splitOn dot) []).map CStr.ofBytes

/-- `*p` -/
def load (data : List UInt8) (p : Int) : Except Fault UInt8 :=
  if 0 ≤ p then
    match data[p.toNat]? with
    | some c => .ok c
    | none => .error (.readOutside p)
  else .error (.readOutside p)

/-- The `n` bytes a `memcpy` reads from `p`. -/
def loadRange (data : List UInt8) (p : Int) (n : Nat) : Except Fault (List UInt8) :=
  if 0 ≤ p ∧ p + n ≤ data.length then .ok ((data.drop p.toNat).take n)
  else .error (.readOutside p)

/-- Writing `n` bytes into `buf` from index `i` on. -/
def store (i n : Nat) : Except Fault Unit :=
  if i + n ≤ maxNameLen + 1 then .ok () else .error (.writeOutside (i + n - 1))

/-- `if (i) { ... buf[i] = '.'; i++; }` -/
def putDot (buf : List UInt8) : Except Fault (List UInt8) :=
  if buf.length = 0 then .ok buf
  else do
    store buf.length 1
    .ok (buf ++ [dot])

/-- `memcpy(buf + i, qname + 1, len); i += len;`, behind the dot. -/
def copyLabel (data : List UInt8) (qname : Int) (len : Nat) (buf : List UInt8) :
    Except Fault (List UInt8) := do
  let buf ← putDot buf
  store buf.length len
  let label ← loadRange data (qname + 1) len
  .ok (buf ++ label)

/-- The loop of `osmo_mdns_rfc_qname_decode` from `qname` on; `buf` is what has been written, so
that `i` is its length. -/
def qnameDecodeLoop (data : List UInt8) (qnameMaxLen : Nat) :
    Nat → Int → List UInt8 → Except Fault (Option (List UInt8))
  | 0, _, _ => .error .diverge
  | fuel + 1, qname, buf => do
      let c ← load data qname
      if c = 0 then do
        store buf.length 1
        .ok (some buf)
      else if qnameMaxLen ≤ buf.length then .ok none
      else
        let len := SizeT.ofChar c
        let nextLabel := SizeT.ptrAdd qname (SizeT.add len 1)
        if SizeT.ptrAdd 0 qnameMaxLen ≤ nextLabel ∨ maxNameLen < SizeT.add buf.length len then
          .ok none
        -- two dots in a row is not allowed
        else if buf.getLast? = some dot then .ok none
        else do
          let buf ← copyLabel data qname len buf
          qnameDecodeLoop data qnameMaxLen fuel nextLabel buf

/-- `osmo_mdns_rfc_qname_decode`; `none` is the null pointer it returns on error. -/
def qnameDecode (data : List UInt8) (qnameMaxLen : Nat) : Except Fault (Option CStr) :=
  if qnameMaxLen < 1 then .ok none
  else do
    let buf ← qnameDecodeLoop data qnameMaxLen (data.length + 1) 0 []
    .ok (buf.map CStr.ofBytes)

/-! ## Header -/

/-- `struct osmo_mdns_rfc_header` -/
structure Header where
  id : UInt16
  rd : Fin 2
  tc : Fin 2
  aa : Fin 2
  opcode : Fin 16
  qr : Fin 2
  rcode : Fin 16
  z : Fin 8
  ra : Fin 2
  qdcount : UInt16
  ancount : UInt16
  nscount : UInt16
  arcount : UInt16
  deriving DecidableEq

/-- `struct osmo_mdns_rfc_header hdr = {0}` -/
def Header.zero : Header := ⟨0, 0, 0, 0, 0, 0, 0, 0, 0, 0, 0, 0, 0⟩

/-- `sizeof(struct osmo_mdns_rfc_header)` -/
def headerLen : Nat := 12

/-- The byte of `qr`, `opcode`, `aa`, `tc` and `rd`. -/
def Header.flags (hdr : Header) : UInt8 :=
  UInt8.ofNat (128 * hdr.qr.val + 8 * hdr.opcode.val + 4 * hdr.aa.val + 2 * hdr.tc.val + hdr.rd.val)

/-- The byte of `ra`, `z` and `rcode`. -/
def Header.codes (hdr : Header) : UInt8 :=
  UInt8.ofNat (128 * hdr.ra.val + 16 * hdr.z.val + hdr.rcode.val)

/-- The header as the bytes of the packet. -/
def Header.bytes (hdr : Header) : List UInt8 :=
  BigEndian.store16 hdr.id ++ [hdr.flags, hdr.codes] ++ BigEndian.store16 hdr.qdcount ++
    BigEndian.store16 hdr.ancount ++ BigEndian.store16 hdr.nscount ++ BigEndian.store16 hdr.arcount

/-- `osmo_mdns_rfc_header_encode` -/
def headerEncode (msg : Msgb) (hdr : Header) : Except Fault Msgb := msg.put hdr.bytes

/-- `osmo_mdns_rfc_header_decode` -/
def headerDecode (data : List UInt8) : Except Int Header :=
  if data.length ≠ headerLen then .error (-22)
  else
    let flags := (data.getD 2 0).toNat
    let codes := (data.getD 3 0).toNat
    .ok {
      id := BigEndian.load16 data
      rd := Fin.ofNat 2 flags
      tc := Fin.ofNat 2 (flags / 2)
      aa := Fin.ofNat 2 (flags / 4)
      opcode := Fin.ofNat 16 (flags / 8)
      qr := Fin.ofNat 2 (flags / 128)
      rcode := Fin.ofNat 16 codes
      z := Fin.ofNat 8 (codes / 16)
      ra := Fin.ofNat 2 (codes / 128)
      qdcount := BigEndian.load16 (data.drop 4)
      ancount := BigEndian.load16 (data.drop 6)
      nscount := BigEndian.load16 (data.drop 8)
      arcount := BigEndian.load16 (data.drop 10) }

/-! ## Question -/

/-- `struct osmo_mdns_rfc_question` -/
structure Question where
  domain : CStr
  qtype : UInt16
  qclass : UInt16
  deriving DecidableEq

/-- `osmo_mdns_rfc_question_encode`; `none` is `-EINVAL`. -/
def questionEncode (msg : Msgb) (qst : Question) : Except Fault (Option Msgb) :=
  match qnameEncode qst.domain with
  | none => .ok none
  | some qname => do
      let msg ← msg.put (qname.bytes ++ [0])
      let msg ← msg.put (BigEndian.store16 qst.qtype)
      let msg ← msg.put (BigEndian.store16 qst.qclass)
      .ok (some msg)

/-- The `qname_len` of `osmo_mdns_rfc_question_decode`. -/
def questionQnameLen (dataLen : Nat) : Nat := SizeT.sub dataLen 4

/-- The shortest data that `osmo_mdns_rfc_question_decode` looks at. -/
def questionMinLen : Nat := 6

/-- `osmo_mdns_rfc_question_decode`; `none` is the null pointer it returns on error. -/
def questionDecode (data : List UInt8) : Except Fault (Option Question) :=
  let qnameLen := questionQnameLen data.length
  if data.length < questionMinLen then .ok none
  else do
    match ← qnameDecode data qnameLen with
    | none => .ok none
    | some domain =>
        .ok (some ⟨domain, BigEndian.load16 (data.drop qnameLen),
          BigEndian.load16 (data.drop (qnameLen + 2))⟩)

/-! ## Resource records -/

/-- `struct osmo_mdns_rfc_record`; `rdlength` is the length of `rdata`. -/
structure Record where
  domain : CStr
  type : UInt16
  rclass : UInt16
  ttl : UInt32
  rdata : List UInt8
  /-- `rdlength` is a `uint16_t`. -/
  rdata_lt : rdata.length < 2 ^ 16

/-- The `rdlength` of a record. -/
def Record.rdlength (rec : Record) : UInt16 := UInt16.ofNat rec.rdata.length

/-- `osmo_mdns_rfc_record_encode`; `none` is `-EINVAL`. -/
def recordEncode (msg : Msgb) (rec : Record) : Except Fault (Option Msgb) :=
  match qnameEncode rec.domain with
  | none => .ok none
  | some name => do
      let msg ← msg.put (name.bytes ++ [0])
      let msg ← msg.put (BigEndian.store16 rec.type)
      let msg ← msg.put (BigEndian.store16 rec.rclass)
      let msg ← msg.put (BigEndian.store32 rec.ttl)
      let msg ← msg.put (BigEndian.store16 rec.rdlength)
      let msg ← msg.put rec.rdata
      .ok (some msg)

/-- The `qname_max_len` that `osmo_mdns_rfc_record_decode` passes on. -/
def recordQnameMaxLen (dataLen : Nat) : Nat := SizeT.sub dataLen 10

/-- `osmo_mdns_rfc_record_decode`: the record and `*record_len`, or `none` for the null pointer. -/
def recordDecode (data : List UInt8) : Except Fault (Option (Record × Nat)) := do
  match ← qnameDecode data (recordQnameMaxLen data.length) with
  | none => .ok none
  | some domain =>
      let nameLen := domain.len + 2
      if data.length < nameLen + 10 then .ok none
      else
        let rdlength := BigEndian.load16 (data.drop (nameLen + 8))
        if data.length < nameLen + 10 + rdlength.toNat then .ok none
        else
          let rdata := (data.drop (nameLen + 10)).take rdlength.toNat
          let rec' : Record := {
            domain := domain
            type := BigEndian.load16 (data.drop nameLen)
            rclass := BigEndian.load16 (data.drop (nameLen + 2))
            ttl := BigEndian.load32 (data.drop (nameLen + 4))
            rdata := rdata
            rdata_lt := lt_of_le_of_lt (List.length_take_le ..) rdlength.toNat_lt }
          .ok (some (rec', nameLen + 10 + rdlength.toNat))

end MdnsRfc
end OsmoHlr
