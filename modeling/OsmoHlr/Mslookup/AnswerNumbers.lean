import OsmoHlr.LibosmocoreHost
import OsmoHlr.Mslookup.AnswerGrammar

/-!
# The numbers in an answer

The values of `age` and `port` go through a buffer of 64 bytes to `strtoll`, which has a
grammar of its own: blanks and a sign may stand in front of the digits, and nothing at
all is 0.

* `decodeUint32_eq_ok_iff`, `decodePort_eq_ok_iff` — what is read as which number.
* `record_number_iff` — what the loop over the records takes for the number of a record.
* `numberRead_iff` — when that is the number that the record holds.
-/

namespace OsmoHlr
namespace Mdns

open CString Decimal MdnsRfc MdnsMsg

/-- The keys whose values are numbers. -/
inductive NumberKey where
  | age
  | port
  deriving DecidableEq

/-- The key, as it is written. -/
def NumberKey.key : NumberKey → CStr
  | .age => CStr.lit "age"
  | .port => CStr.lit "port"

/-- The largest number for the key. -/
def NumberKey.max : NumberKey → Nat
  | .age => 2 ^ 32 - 1
  | .port => 65535

/-- A number, as an item of the answer. -/
def NumberKey.item : NumberKey → Nat → Item
  | .age, n => .age (UInt32.ofNat n)
  | .port, n => .port (UInt16.ofNat n)

/-- The text of a TXT record with a key and a value. -/
def txtBytes (key : CStr) (value : List UInt8) : List UInt8 := key.bytes ++ equals :: value

/-- A TXT record with a key and a value, behind the length of both. -/
structure IsTxt (rec' : MdnsRecord) (key : CStr) (value : List UInt8) : Prop where
  type : rec'.type = recordTypeTxt
  data : rec'.data = UInt8.ofNat (txtBytes key value).length :: txtBytes key value

/-- What `osmo_strnchr` and `osmo_print_n` do up to the first NUL. -/
structure StopsAtNul (lib : Libosmocore) : Prop where
  strnchr : ∀ b c, lib.strnchr b c = (CStr.ofBytes b).bytes.idxOf? c
  printN : ∀ size b, 0 < size → lib.printN size b = (CStr.ofBytes b).take (size - 1)

/-- What is in `txt_value` for a value: up to the first NUL, and not more than 63 bytes. -/
def txtValueOf (value : List UInt8) : CStr := (CStr.ofBytes value).take (txtBufSize - 1)

/-- **A number is read exactly**: in any state of the loop, the record is taken for the number that
is its whole value, and for nothing else. -/
def NumberRead (lib : Libosmocore) (k : NumberKey) (rec' : MdnsRecord) (value : List UInt8) :
    Prop :=
  ∀ st st' : FromAnswer, st.record lib rec' = .ok st' ↔
    ∃ n, IsNumber value n ∧ n ≤ k.max ∧ st.item (k.item n) = some st'

/-- When that is so.  A number is to be shorter than the buffer, or 0, and the text shorter than 128
bytes; anything else must not look like a number where it is cut. -/
def ReadsNumber (k : NumberKey) (value : List UInt8) : Prop :=
  (∀ n, IsNumber value n → n ≤ k.max →
      (txtBytes k.key value).length < 128 ∧ (value.length < txtBufSize ∨ n = 0)) ∧
    ((∀ n, IsNumber value n → k.max < n) → (txtBytes k.key value).length < 128 →
      ∀ n, ReadsAs (txtValueOf value).bytes n → k.max < n)

variable {lib : Libosmocore} {k : NumberKey} {rec' : MdnsRecord} {value : List UInt8}
  {st st' : FromAnswer} {n : Nat}

/-! ## Reading a number -/

/-- **What `decode_uint32_t` accepts.** -/
theorem decodeUint32_eq_ok_iff {str : CStr} {val : UInt32} :
    decodeUint32 str = .ok val ↔ ReadsAs str.bytes val.toNat := by
  have hval := val.toNat_lt
  rw [← strtoll_eq_iff (by unfold llongMax; omega), decodeUint32]
  constructor
  · intro h
    split at h
    · cases h
    next hend =>
        split at h
        · cases h
        next hrange =>
            obtain ⟨herange, hendptr⟩ := not_or.1 hend
            obtain ⟨hlow, hhigh⟩ := not_or.1 hrange
            have heq : val.toNat = (strtoll str.bytes).value.toNat := by
              rw [← Except.ok.inj h, UInt32.toNat_ofNat']
              omega
            have hvalue : (strtoll str.bytes).value = val.toNat := by omega
            have herange : (strtoll str.bytes).erange = false := by simpa using herange
            have hendptr : (strtoll str.bytes).endptr = [] := not_not.1 hendptr
            rw [← hvalue, ← herange, ← hendptr]
  · intro h
    have hrange : ¬((val.toNat : Int) < 0 ∨ (2 ^ 32 - 1 : Int) < val.toNat) := by omega
    rw [h]
    simp only [Bool.false_eq_true, ne_eq, not_true_eq_false, or_self, ↓reduceIte]
    rw [if_neg hrange, Int.toNat_natCast, UInt32.ofNat_toNat]

/-- **What `decode_port` accepts.** -/
theorem decodePort_eq_ok_iff {str : CStr} {port : UInt16} :
    decodePort str = .ok port ↔ ReadsAs str.bytes port.toNat := by
  have hport := port.toNat_lt
  have hnat : (UInt32.ofNat port.toNat).toNat = port.toNat := by
    rw [UInt32.toNat_ofNat']
    omega
  rw [decodePort, ← hnat, ← decodeUint32_eq_ok_iff, Except.bind_eq_ok]
  constructor
  · rintro ⟨val, hval, h⟩
    split at h
    · cases h
    next hle =>
        have heq : UInt32.ofNat port.toNat = val := by
          rw [← UInt32.toNat_inj, hnat, ← Except.ok.inj h, UInt16.toNat_ofNat']
          omega
        rwa [heq]
  · intro h
    refine ⟨_, h, ?_⟩
    rw [if_neg (by omega), hnat, UInt16.ofNat_toNat]

/-! ## The value of a record -/

theorem charToInt_lt (c : UInt8) : SizeT.charToInt c < 128 := by
  have hc := c.toNat_lt
  unfold SizeT.charToInt
  split <;> omega

theorem length_txtBytes (key : CStr) (value : List UInt8) :
    (txtBytes key value).length = key.len + 1 + value.length := by
  rw [txtBytes, List.length_append, List.length_cons, CStr.len]
  omega

/-- The length byte is the length of the text exactly if that is positive as a `char`. -/
theorem charToInt_length_iff {length : Nat} :
    SizeT.charToInt (UInt8.ofNat length) = length ↔ length < 128 := by
  constructor
  · intro h
    have hlt := charToInt_lt (UInt8.ofNat length)
    omega
  · intro h
    have hnat : (UInt8.ofNat length).toNat = length := by
      rw [UInt8.toNat_ofNat']
      omega
    rw [SizeT.charToInt_of_lt (by omega), hnat]

/-- Up to the first NUL, a text with a key is the key and the value up to there. -/
theorem ofBytes_txtBytes (key : CStr) (value : List UInt8) :
    (CStr.ofBytes (txtBytes key value)).bytes = key.bytes ++ equals :: (CStr.ofBytes value).bytes := by
  have hkey : ∀ c ∈ key.bytes, (c != 0) = true := fun c hc => by
    simpa using fun h0 : c = 0 => key.noNul (h0 ▸ hc)
  unfold txtBytes CStr.ofBytes
  simp only
  rw [List.takeWhile_append_of_pos hkey, List.takeWhile_cons_of_pos (by decide)]

/-- **What is decoded of such a record.** -/
theorem recordTxtKeyvalDecode_isTxt (hlib : StopsAtNul lib) {key : CStr} (hkey : equals ∉ key.bytes)
    (hlen : key.len < txtBufSize) (h : IsTxt rec' key value) :
    recordTxtKeyvalDecode lib rec' txtBufSize txtBufSize =
      if (txtBytes key value).length < 128 then .ok (key, txtValueOf value) else .error einval := by
  have hlength : (rec'.data.length : Int) - 1 = (txtBytes key value).length := by
    rw [h.data, List.length_cons]
    omega
  have hshort : ¬rec'.data.length ≤ 1 := by
    rw [h.data, List.length_cons, length_txtBytes]
    omega
  have hfirst : rec'.data.head?.getD lib.emptyAlloc = UInt8.ofNat (txtBytes key value).length := by
    rw [h.data]
    rfl
  unfold recordTxtKeyvalDecode
  rw [if_neg (not_not.2 h.type), hfirst, hlength]
  by_cases hchar : (txtBytes key value).length < 128
  · have hsep : lib.strnchr (rec'.data.drop 1) equals = some key.bytes.length := by
      rw [hlib.strnchr, h.data, List.drop_one, List.tail_cons, ofBytes_txtBytes,
        List.idxOf?_eq_some_iff]
      refine ⟨by simp, by simp, fun j hj => ?_⟩
      rw [List.getElem_append_left hj]
      exact fun heq => hkey (heq ▸ List.getElem_mem hj)
    have hkeyText : lib.printN txtBufSize ((rec'.data.drop 1).take key.bytes.length) = key := by
      rw [hlib.printN _ _ (by decide), h.data, List.drop_one, List.tail_cons, txtBytes,
        List.take_left, CStr.ofBytes_bytes]
      refine CStr.ext ?_
      rw [CStr.bytes_take, List.take_of_length_le]
      exact Nat.le_pred_of_lt hlen
    have hvalue : lib.printN txtBufSize ((rec'.data.drop 1).drop (key.bytes.length + 1)) =
        txtValueOf value := by
      rw [hlib.printN _ _ (by decide), h.data, List.drop_one, List.tail_cons, txtBytes, txtValueOf,
        ← List.drop_drop, List.drop_left]
      rfl
    rw [if_neg (not_not.2 (charToInt_length_iff.2 hchar)), if_neg hshort, if_pos hchar]
    simp only [hsep, hkeyText, hvalue]
  · rw [if_pos fun hbyte => hchar (charToInt_length_iff.1 hbyte), if_neg hchar]

/-- What a text is as the value of a key. -/
theorem itemOfTxt_eq_some_iff {i : Item} {text : CStr} :
    itemOfTxt k.key text = some i ↔ ∃ n, ReadsAs text.bytes n ∧ n ≤ k.max ∧ k.item n = i := by
  cases k with
  | age =>
      have hage : itemOfTxt NumberKey.age.key text = (decodeUint32 text).toOption.map Item.age := rfl
      rw [hage]
      constructor
      · intro h
        obtain ⟨val, hval, rfl⟩ := Option.map_eq_some_iff.1 h
        have hok : decodeUint32 text = .ok val := by
          cases hdec : decodeUint32 text with
          | error e => rw [hdec] at hval; cases hval
          | ok x => rw [hdec] at hval; exact congrArg Except.ok (Option.some.inj hval)
        refine ⟨val.toNat, decodeUint32_eq_ok_iff.1 hok, Nat.le_pred_of_lt val.toNat_lt, ?_⟩
        exact congrArg Item.age UInt32.ofNat_toNat
      · rintro ⟨n, hn, hmax, rfl⟩
        have hmax : n ≤ 2 ^ 32 - 1 := hmax
        have hnat : (UInt32.ofNat n).toNat = n := by
          rw [UInt32.toNat_ofNat']
          omega
        have hok : decodeUint32 text = .ok (UInt32.ofNat n) :=
          decodeUint32_eq_ok_iff.2 (hnat.symm ▸ hn)
        rw [hok]
        rfl
  | port =>
      have hport : itemOfTxt NumberKey.port.key text =
          (decodePort text).toOption.map Item.port := rfl
      rw [hport]
      constructor
      · intro h
        obtain ⟨val, hval, rfl⟩ := Option.map_eq_some_iff.1 h
        have hok : decodePort text = .ok val := by
          cases hdec : decodePort text with
          | error e => rw [hdec] at hval; cases hval
          | ok x => rw [hdec] at hval; exact congrArg Except.ok (Option.some.inj hval)
        refine ⟨val.toNat, decodePort_eq_ok_iff.1 hok, Nat.le_pred_of_lt val.toNat_lt, ?_⟩
        exact congrArg Item.port UInt16.ofNat_toNat
      · rintro ⟨n, hn, hmax, rfl⟩
        have hmax : n ≤ 65535 := hmax
        have hnat : (UInt16.ofNat n).toNat = n := by
          rw [UInt16.toNat_ofNat']
          omega
        have hok : decodePort text = .ok (UInt16.ofNat n) :=
          decodePort_eq_ok_iff.2 (hnat.symm ▸ hn)
        rw [hok]
        rfl

/-- **What the loop takes for the number of a record**: what `strtoll` makes of the text in the
buffer, as long as the record is short. -/
theorem record_number_iff (hlib : StopsAtNul lib) (h : IsTxt rec' k.key value) :
    st.record lib rec' = .ok st' ↔
      ∃ n, (txtBytes k.key value).length < 128 ∧ ReadsAs (txtValueOf value).bytes n ∧ n ≤ k.max ∧
        st.item (k.item n) = some st' := by
  have hkey : equals ∉ k.key.bytes ∧ k.key.len < txtBufSize := by cases k <;> decide
  have hdecode := recordTxtKeyvalDecode_isTxt hlib hkey.1 hkey.2 h
  have hA : ¬recordTypeTxt = recordTypeA := by decide
  have hAaaa : ¬recordTypeTxt = recordTypeAaaa := by decide
  rw [FromAnswer.record_eq_ok_iff, itemOf, h.type, if_neg hA, if_neg hAaaa, if_pos rfl, hdecode]
  by_cases hchar : (txtBytes k.key value).length < 128
  · rw [if_pos hchar]
    simp only [itemOfTxt_eq_some_iff]
    constructor
    · rintro ⟨i, ⟨n, hn, hmax, rfl⟩, hst⟩
      exact ⟨n, hchar, hn, hmax, hst⟩
    · rintro ⟨n, -, hn, hmax, hst⟩
      exact ⟨_, ⟨n, hn, hmax, rfl⟩, hst⟩
  · rw [if_neg hchar]
    simp [hchar]

/-! ## Numbers that are read exactly -/

/-- There is a state of the loop in which the number of a record is seen. -/
theorem exists_observing (k : NumberKey) :
    ∃ st : FromAnswer, ∀ n ≤ k.max, ∃ st', st.item (k.item n) = some st' ∧
      ∀ m ≤ k.max, st.item (k.item m) = some st' → m = n := by
  cases k with
  | age =>
      refine ⟨FromAnswer.start, fun n hn => ⟨_, rfl, fun m hm h => ?_⟩⟩
      have hage : UInt32.ofNat m = UInt32.ofNat n :=
        congrArg (fun st : FromAnswer => st.result.age) (Option.some.inj h)
      have hn : n ≤ 2 ^ 32 - 1 := hn
      have hm : m ≤ 2 ^ 32 - 1 := hm
      rw [← UInt32.toNat_inj, UInt32.toNat_ofNat', UInt32.toNat_ofNat'] at hage
      omega
  | port =>
      refine ⟨FromAnswer.start.expect .v4 SockaddrStr.zero, fun n hn => ⟨_, rfl, fun m hm h => ?_⟩⟩
      have hport : UInt16.ofNat m = UInt16.ofNat n :=
        congrArg (fun st : FromAnswer => st.result.hostV4.port) (Option.some.inj h)
      have hn : n ≤ 65535 := hn
      have hm : m ≤ 65535 := hm
      rw [← UInt16.toNat_inj, UInt16.toNat_ofNat', UInt16.toNat_ofNat'] at hport
      omega

/-- So it comes down to the same numbers. -/
theorem numberRead_iff_same (hlib : StopsAtNul lib) (h : IsTxt rec' k.key value) :
    NumberRead lib k rec' value ↔
      ∀ n ≤ k.max, ((txtBytes k.key value).length < 128 ∧ ReadsAs (txtValueOf value).bytes n) ↔
        IsNumber value n := by
  unfold NumberRead
  simp only [record_number_iff hlib h]
  constructor
  · intro hread n hn
    obtain ⟨st, hst⟩ := exists_observing k
    obtain ⟨st', hitem, hinj⟩ := hst n hn
    constructor
    · rintro ⟨hchar, htext⟩
      obtain ⟨m, hm, hmax, hitem'⟩ := (hread st st').1 ⟨n, hchar, htext, hn, hitem⟩
      exact hinj m hmax hitem' ▸ hm
    · intro hnum
      obtain ⟨m, hchar, htext, hmax, hitem'⟩ := (hread st st').2 ⟨n, hnum, hn, hitem⟩
      exact ⟨hchar, hinj m hmax hitem' ▸ htext⟩
  · intro hsame st st'
    constructor
    · rintro ⟨n, hchar, htext, hn, hitem⟩
      exact ⟨n, (hsame n hn).1 ⟨hchar, htext⟩, hn, hitem⟩
    · rintro ⟨n, hnum, hn, hitem⟩
      obtain ⟨hchar, htext⟩ := (hsame n hn).2 hnum
      exact ⟨n, hchar, htext, hn, hitem⟩

/-- Numbers for a key fit a `long long`. -/
theorem le_llongMax (hn : n ≤ k.max) : (n : Int) ≤ llongMax := by
  have hmax : k.max ≤ 2 ^ 32 - 1 := by cases k <;> decide
  unfold llongMax
  omega

/-- A text is read as one number only. -/
theorem readsAs_unique {text : List UInt8} {m : Nat} (hm : m ≤ k.max) (hn : n ≤ k.max)
    (htext : ReadsAs text m) (htext' : ReadsAs text n) : m = n := by
  have hread := (strtoll_eq_iff (le_llongMax hm)).2 htext
  rw [(strtoll_eq_iff (le_llongMax hn)).2 htext'] at hread
  have hvalue : (n : Int) = m := congrArg Parsed.value hread
  omega

/-- **A number is read from the buffer if it fits there, or is 0.** -/
theorem readsAs_txtValueOf_iff (hnum : IsNumber value n) (hn : n ≤ k.max) :
    ReadsAs (txtValueOf value).bytes n ↔ value.length < txtBufSize ∨ n = 0 := by
  obtain ⟨hne, hdigits, rfl⟩ := hnum
  have hnul : (0 : UInt8) ∉ value := fun h0 => by
    have hzero := hdigits 0 h0
    revert hzero
    decide
  have htext : (txtValueOf value).bytes = value.take (txtBufSize - 1) := by
    rw [txtValueOf, CStr.bytes_take, CStr.ofBytes_bytes_of_noNul hnul]
  have hcut : ReadsAs (value.take (txtBufSize - 1)) (digitsValue (value.take (txtBufSize - 1))) := by
    refine .plain [] _ _ (by simp) ⟨?_, fun c hc => hdigits c (List.mem_of_mem_take hc), rfl⟩
    rw [ne_eq, List.take_eq_nil_iff]
    exact not_or.2 ⟨by decide, hne⟩
  have hsize : value.length < txtBufSize ↔ value.length ≤ txtBufSize - 1 := by
    unfold txtBufSize
    omega
  rw [htext, hsize, ← digitsValue_take_eq_iff]
  constructor
  · intro hread
    by_cases hle : digitsValue (value.take (txtBufSize - 1)) ≤ k.max
    · exact readsAs_unique hle hn hcut hread
    · -- the text in the buffer is not longer than the whole
      have hsum := digitsValue_append (value.take (txtBufSize - 1)) (value.drop (txtBufSize - 1))
      rw [List.take_append_drop] at hsum
      have hpow : 0 < 10 ^ (value.drop (txtBufSize - 1)).length := by positivity
      nlinarith
  · intro heq
    rwa [heq] at hcut

/-- **When a number is read exactly**, for any record with the key and any value. -/
theorem numberRead_iff (lib : Libosmocore) (hlib : StopsAtNul lib) (k : NumberKey)
    (rec' : MdnsRecord) (value : List UInt8) (h : IsTxt rec' k.key value) :
    NumberRead lib k rec' value ↔ ReadsNumber k value := by
  rw [numberRead_iff_same hlib h]
  constructor
  · intro hsame
    refine ⟨fun n hnum hn => ?_, fun hnone hchar n htext => ?_⟩
    · obtain ⟨hchar, htext⟩ := (hsame n hn).2 hnum
      exact ⟨hchar, (readsAs_txtValueOf_iff hnum hn).1 htext⟩
    · by_contra hn
      have hn : n ≤ k.max := Nat.le_of_not_lt hn
      exact absurd (hnone n ((hsame n hn).1 ⟨hchar, htext⟩)) (Nat.not_lt.2 hn)
  · rintro ⟨hnumber, hother⟩ n hn
    constructor
    · rintro ⟨hchar, htext⟩
      by_cases hexists : ∃ m ≤ k.max, IsNumber value m
      · obtain ⟨m, hm, hnum⟩ := hexists
        have htext' := (readsAs_txtValueOf_iff hnum hm).2 (hnumber m hnum hm).2
        exact readsAs_unique hm hn htext' htext ▸ hnum
      · have hnone : ∀ m, IsNumber value m → k.max < m := fun m hnum =>
          Nat.lt_of_not_le fun hm => hexists ⟨m, hm, hnum⟩
        exact absurd (hother hnone hchar n htext) (Nat.not_lt.2 hn)
    · intro hnum
      obtain ⟨hchar, hfits⟩ := hnumber n hnum hn
      exact ⟨hchar, (readsAs_txtValueOf_iff hnum hn).2 hfits⟩

theorem stopsAtNul_host : StopsAtNul OsmoHlr.Host.libosmocore := ⟨fun _ _ => rfl, fun _ _ _ => rfl⟩

/-- `age=42` -/
theorem numberRead_42 :
    NumberRead OsmoHlr.Host.libosmocore .age
      ⟨recordTypeTxt, [6, 0x61, 0x67, 0x65, 0x3d, 0x34, 0x32], by decide⟩ [0x34, 0x32] := by
  refine (numberRead_iff _ stopsAtNul_host .age _ _ ⟨rfl, by decide⟩).2
    ⟨fun n _ _ => ⟨by decide, Or.inl (by decide)⟩, fun hnone => ?_⟩
  exact absurd (hnone 42 ⟨by decide, by simp [Decimal.isDigit], by decide⟩) (by decide)

/-- `age=` is taken for an age of 0. -/
theorem numberRead_not_always :
    ¬∀ (lib : Libosmocore), StopsAtNul lib → ∀ (k : NumberKey) (rec' : MdnsRecord)
        (value : List UInt8), IsTxt rec' k.key value → NumberRead lib k rec' value := by
  intro h
  have hread := h _ stopsAtNul_host .age
    ⟨recordTypeTxt, [4, 0x61, 0x67, 0x65, 0x3d], by decide⟩ [] ⟨rfl, by decide⟩
  obtain ⟨n, ⟨hne, -⟩, -⟩ :=
    (hread FromAnswer.start (FromAnswer.start.setAge 0)).1 (by decide +kernel)
  exact hne rfl

end Mdns
end OsmoHlr
