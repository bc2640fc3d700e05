import OsmoHlr.LibosmocoreHost
import OsmoHlr.Mslookup.MdnsMsg

/-!
# TXT records with a key and a value

The length byte in front of the text is written as a `char` and compared as one,
so it agrees with the length of the record up to 127 only; and it is read before
the length of the record is looked at.

* `recordTxtKeyvalRead` — `osmo_mdns_record_txt_keyval_decode` with every access
  to the record's data, and `recordTxtKeyvalRead_eq` for what it returns.
* `txtKeyval_codec` — which records are read back, and which are read inside their
  data.
-/

namespace OsmoHlr
namespace MdnsMsg

open CString MdnsRfc

/-- What `osmo_strnchr` points at is in the buffer. -/
def FindsInside (lib : Libosmocore) : Prop :=
  ∀ b c i, lib.strnchr b c = some i → i < b.length

/-- `osmo_mdns_record_txt_keyval_decode`, by what it reads of the data: the length byte, and the
bytes that it has searched and copied by `osmo_strnchr` and `osmo_print_n`. -/
def recordTxtKeyvalRead (lib : Libosmocore) (rec' : MdnsRecord) (keySize valueSize : Nat) :
    Except Fault (Except Int (CStr × CStr)) :=
  if rec'.type ≠ recordTypeTxt then .ok (.error einval)
  else do
    let len ← load rec'.data 0
    if SizeT.charToInt len ≠ (rec'.data.length : Int) - 1 then .ok (.error einval)
    else if rec'.data.length ≤ 1 then .ok (.error einval)
    else do
      let keyValue ← loadRange rec'.data 1 (rec'.data.length - 1)
      match lib.strnchr keyValue equals with
      | none => .ok (.error einval)
      | some sep => do
          let key ← loadRange rec'.data 1 sep
          let value ← loadRange rec'.data ((sep + 2 : Nat) : Int) (rec'.data.length - (sep + 2))
          .ok (.ok (lib.printN keySize key, lib.printN valueSize value))

variable {lib : Libosmocore} {rec' : MdnsRecord} {key : CStr} {value : Option CStr}
  {keySize valueSize : Nat}

theorem load_zero {c : UInt8} {cs : List UInt8} : load (c :: cs) 0 = .ok c := rfl

theorem loadRange_of_le (data : List UInt8) (p n : Nat) (h : p + n ≤ data.length) :
    loadRange data (p : Int) n = .ok ((data.drop p).take n) := by
  rw [loadRange, if_pos ⟨Int.natCast_nonneg p, by omega⟩, Int.toNat_natCast]

/-- **With data in the record, all is read inside it**, and what is returned is returned. -/
theorem recordTxtKeyvalRead_eq (hlib : FindsInside lib) (hdata : rec'.data ≠ [])
    (keySize valueSize : Nat) :
    recordTxtKeyvalRead lib rec' keySize valueSize =
      .ok (recordTxtKeyvalDecode lib rec' keySize valueSize) := by
  obtain ⟨c, cs, hcs⟩ := List.exists_cons_of_ne_nil hdata
  rw [recordTxtKeyvalRead, recordTxtKeyvalDecode, hcs]
  by_cases htype : rec'.type ≠ recordTypeTxt
  · rw [if_pos htype, if_pos htype]
  rw [if_neg htype, if_neg htype, load_zero, Except.ok_bind, List.head?_cons, Option.getD_some]
  by_cases hbyte : SizeT.charToInt c ≠ ((c :: cs).length : Int) - 1
  · rw [if_pos hbyte, if_pos hbyte]
  rw [if_neg hbyte, if_neg hbyte]
  by_cases hshort : (c :: cs).length ≤ 1
  · rw [if_pos hshort, if_pos hshort]
  have hlen : (c :: cs).length = cs.length + 1 := rfl
  have hall : loadRange (c :: cs) 1 ((c :: cs).length - 1) = .ok cs := by
    have h := loadRange_of_le (c :: cs) 1 cs.length (by omega)
    rwa [List.drop_one, List.tail_cons, List.take_length] at h
  rw [if_neg hshort, if_neg hshort, hall, Except.ok_bind, List.drop_one, List.tail_cons]
  cases hsep : lib.strnchr cs equals with
  | none => simp only [hsep]
  | some sep =>
      have hlt := hlib cs equals sep hsep
      have hkey : loadRange (c :: cs) 1 sep = .ok (cs.take sep) :=
        loadRange_of_le (c :: cs) 1 sep (by omega)
      have hvalue : loadRange (c :: cs) ((sep + 2 : Nat) : Int) ((c :: cs).length - (sep + 2)) =
          .ok (cs.drop (sep + 1)) := by
        rw [loadRange_of_le _ _ _ (by omega), List.drop_succ_cons, List.take_of_length_le]
        rw [List.length_drop]
        omega
      simp only [hsep, hkey, hvalue, Except.ok_bind]

/-- The length byte of a record without data is outside of it. -/
theorem recordTxtKeyvalRead_nil (htype : rec'.type = recordTypeTxt) (hdata : rec'.data = [])
    (keySize valueSize : Nat) :
    recordTxtKeyvalRead lib rec' keySize valueSize = .error (.readOutside 0) := by
  rw [recordTxtKeyvalRead, if_neg (by simp [htype]), hdata]
  rfl

/-- A length byte that is negative as a `char` is not the length of anything. -/
theorem recordTxtKeyvalDecode_of_long {value : CStr} (h : recordTxtEncode key value = some rec')
    (hlen : 128 ≤ key.len + 1 + value.len) :
    recordTxtKeyvalDecode lib rec' keySize valueSize = .error einval := by
  unfold recordTxtEncode at h
  split at h
  · cases h
  next hle =>
      cases h
      unfold maxCharacterStringLen at hle
      have hnat : (UInt8.ofNat (key.len + 1 + value.len)).toNat = key.len + 1 + value.len := by
        rw [UInt8.toNat_ofNat']
        omega
      have hnegative : SizeT.charToInt ((txtData key value).head?.getD lib.emptyAlloc) < 0 := by
        rw [txtData, List.head?_cons, Option.getD_some, SizeT.charToInt, hnat, if_neg (by omega)]
        omega
      have hpos : 0 < (txtData key value).length := by
        rw [txtData, List.length_cons]
        exact Nat.succ_pos _
      have hbyte : SizeT.charToInt ((txtData key value).head?.getD lib.emptyAlloc) ≠
          ((txtData key value).length : Int) - 1 := by omega
      rw [recordTxtKeyvalDecode, if_neg (by simp)]
      exact if_pos hbyte

/-- A record is read back exactly if its length byte is positive as a `char`. -/
theorem recordTxtKeyvalDecode_encode_iff (lib : Libosmocore) (hkey : equals ∉ key.bytes)
    (h : recordTxtKeyvalEncode key value = some rec') (hks : key.len < keySize)
    (hvs : (value.getD CStr.empty).len < valueSize) :
    recordTxtKeyvalDecode lib rec' keySize valueSize = .ok (key, value.getD CStr.empty) ↔
      key.len + 1 + (value.getD CStr.empty).len < 128 := by
  constructor
  · intro hdecode
    refine Nat.lt_of_not_le fun hlen => ?_
    rw [recordTxtKeyvalDecode_of_long h hlen] at hdecode
    cases hdecode
  · intro hlen
    exact recordTxtKeyvalDecode_txtEncode lib h hkey hlen hks hvs

/-- The data of a TXT record is not left exactly if there is any. -/
theorem recordTxtKeyvalRead_ok_iff (hlib : FindsInside lib) (htype : rec'.type = recordTypeTxt)
    (keySize valueSize : Nat) :
    (∃ rc, recordTxtKeyvalRead lib rec' keySize valueSize = .ok rc) ↔ rec'.data.length ≠ 0 := by
  constructor
  · rintro ⟨rc, hrc⟩ hzero
    rw [recordTxtKeyvalRead_nil htype (List.length_eq_zero_iff.1 hzero)] at hrc
    cases hrc
  · intro hdata
    exact ⟨_, recordTxtKeyvalRead_eq hlib (fun hnil => hdata (by rw [hnil]; rfl)) _ _⟩

/-- **Keys and values, back and forth**: what is encoded is read back exactly if it is shorter than
128 bytes in all, and decoding stays in the data of a TXT record exactly if that is not empty. -/
theorem txtKeyval_codec (lib : Libosmocore) (hlib : FindsInside lib) :
    (∀ key value rec' keySize valueSize, equals ∉ key.bytes →
      recordTxtKeyvalEncode key value = some rec' → key.len < keySize →
      (value.getD CStr.empty).len < valueSize →
      (recordTxtKeyvalDecode lib rec' keySize valueSize = .ok (key, value.getD CStr.empty) ↔
        key.len + 1 + (value.getD CStr.empty).len < 128)) ∧
    ∀ rec' keySize valueSize, rec'.type = recordTypeTxt →
      ((∃ rc, recordTxtKeyvalRead lib rec' keySize valueSize = .ok rc) ↔
        rec'.data.length ≠ 0) :=
  ⟨fun _ _ _ _ _ hkey h hks hvs => recordTxtKeyvalDecode_encode_iff lib hkey h hks hvs,
    fun _ _ _ htype => recordTxtKeyvalRead_ok_iff hlib htype _ _⟩

/-- A value of 126 characters. -/
def longValue : CStr := ⟨List.replicate 126 97, by simp⟩

/-- The record of "k" and such a value. -/
def longValueRecord : MdnsRecord :=
  ⟨recordTypeTxt, txtData (CStr.lit "k") longValue, by decide +kernel⟩

/-- It is not read back, and a record without data is read outside of it. -/
theorem txtKeyval_not_codec :
    (¬ ∀ key value rec' keySize valueSize, equals ∉ key.bytes →
      recordTxtKeyvalEncode key value = some rec' → key.len < keySize →
      (value.getD CStr.empty).len < valueSize →
      recordTxtKeyvalDecode Host.libosmocore rec' keySize valueSize =
        .ok (key, value.getD CStr.empty)) ∧
    ¬ ∀ rec' keySize valueSize, rec'.type = recordTypeTxt →
      ∃ rc, recordTxtKeyvalRead Host.libosmocore rec' keySize valueSize = .ok rc := by
  constructor
  · intro h
    have hencode : recordTxtEncode (CStr.lit "k") longValue = some longValueRecord := by
      decide +kernel
    have hlen : 128 ≤ (CStr.lit "k").len + 1 + longValue.len := by decide +kernel
    have hdecode : recordTxtKeyvalDecode Host.libosmocore longValueRecord 64 256 =
        .error einval := recordTxtKeyvalDecode_of_long hencode hlen
    have hok := h (CStr.lit "k") (some longValue) longValueRecord 64 256 (by decide) hencode
      (by decide) (by decide +kernel)
    cases hdecode.symm.trans hok
  · intro h
    obtain ⟨rc, hrc⟩ := h ⟨recordTypeTxt, [], by decide⟩ 64 64 rfl
    cases hrc

/-- The library's search stays inside. -/
theorem findsInside_host : FindsInside Host.libosmocore := by
  intro b c i h
  have hlt : i < (CStr.ofBytes b).bytes.length := by
    obtain ⟨hi, -⟩ := List.idxOf?_eq_some_iff.1 h
    exact hi
  exact Nat.lt_of_lt_of_le hlt (CStr.len_ofBytes_le b)

/-- The age of a result, and a record without data. -/
theorem txtKeyval_codec_age :
    recordTxtKeyvalDecode Host.libosmocore
        ⟨recordTypeTxt, txtData (CStr.lit "age") (CStr.lit "3"), by decide⟩ 64 64 =
      .ok (CStr.lit "age", CStr.lit "3") ∧
    ¬ ∃ rc, recordTxtKeyvalRead Host.libosmocore ⟨recordTypeTxt, [], by decide⟩ 64 64 = .ok rc := by
  obtain ⟨hcodec, hread⟩ := txtKeyval_codec Host.libosmocore findsInside_host
  constructor
  · exact (hcodec (CStr.lit "age") (some (CStr.lit "3")) _ 64 64 (by decide) (by decide)
      (by decide) (by decide)).2 (by decide)
  · exact fun h => (hread ⟨recordTypeTxt, [], by decide⟩ 64 64 rfl).1 h rfl

end MdnsMsg
end OsmoHlr
