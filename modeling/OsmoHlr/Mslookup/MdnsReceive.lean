import OsmoHlr.LibosmocoreHost
import OsmoHlr.Mslookup.Mdns
import OsmoHlr.Mslookup.QnameSafety

/-!
# Receiving an answer packet

What `osmo_mdns_result_decode` does with bytes from the network, given that the
names in them are decoded inside their buffers (`OsmoHlr.Mslookup.QnameSafety`
says when they are).

* `answerDecodeLoop_safe` — the loop over the records comes to an end, and
  behind at least one record the domain is present.
* `resultDecode_safe_iff` — receiving is safe except for a bare header that
  announces an answer of no records.
-/

namespace OsmoHlr
namespace Mdns

open CString MdnsRfc MdnsMsg
open Mslookup (Query Result)

/-- Wherever a record may start in `body`, its name is decoded safely. -/
def NamesSafe (body : List UInt8) : Prop :=
  ∀ p < body.length,
    NameSafe (qnameDecode (body.drop p) (recordQnameMaxLen (body.length - p)))

instance (body : List UInt8) : Decidable (NamesSafe body) := Nat.decidableBallLT _ _

/-- Success with a query and a result, or a negative return code. -/
def ReceivedSafely (r : Except Fault (Except Int (UInt16 × Query × Result))) : Prop :=
  (∃ x, r = .ok (.ok x)) ∨ ∃ rc, r = .ok (.error rc) ∧ rc < 0

/-- A header that says it is an answer of no records, and nothing behind it. -/
def HeaderOnly (data : List UInt8) : Prop :=
  data.length = headerLen ∧ 128 ≤ (data.getD 2 0).toNat ∧ data.getD 6 0 = 0 ∧ data.getD 7 0 = 0

theorem NamesSafe.drop {body : List UInt8} (h : NamesSafe body) (k : Nat) :
    NamesSafe (body.drop k) := by
  intro p hp
  rw [List.length_drop] at hp ⊢
  have hk := h (k + p) (by omega)
  rwa [List.drop_drop, show body.length - k - p = body.length - (k + p) by omega]

/-- A record whose name is decoded safely is decoded safely, and takes up space. -/
theorem recordDecode_safe {data : List UInt8}
    (h : NameSafe (qnameDecode data (recordQnameMaxLen data.length))) :
    ∃ r, recordDecode data = .ok r ∧ ∀ x ∈ r, 0 < x.2 := by
  obtain ⟨name, hname, -⟩ := h
  rw [recordDecode, hname, Except.ok_bind]
  cases name with
  | none => exact ⟨none, rfl, by simp⟩
  | some domain =>
      simp only
      split
      · exact ⟨none, rfl, by simp⟩
      · split
        · exact ⟨none, rfl, by simp⟩
        · refine ⟨_, rfl, ?_⟩
          intro x hx
          cases hx
          simp only
          omega

theorem Answer.domain_of_add {ret ret' : Answer} {rec' : Record} (h : ret.add rec' = some ret') :
    ret'.domain.isSome = true := by
  unfold Answer.add at h
  cases hd : ret.domain with
  | none =>
      rw [hd] at h
      cases h
      rfl
  | some domain =>
      rw [hd] at h
      simp only at h
      split at h
      · cases h
      · cases h
        rfl

/-- **The loop over the records comes to an end**, and behind a record the domain is present. -/
theorem answerDecodeLoop_safe (fuel : Nat) {body : List UInt8} (ret : Answer)
    (h : NamesSafe body) (hfuel : body.length ≤ fuel) :
    ∃ r, answerDecodeLoop fuel body ret = .ok r ∧
      ∀ ret' ∈ r, (ret.domain.isSome = true ∨ body ≠ []) → ret'.domain.isSome = true := by
  induction fuel generalizing body ret with
  | zero =>
      obtain rfl : body = [] := List.eq_nil_of_length_eq_zero (by omega)
      refine ⟨some ret, rfl, ?_⟩
      intro ret' hret'
      cases hret'
      simp
  | succ fuel ih =>
      cases body with
      | nil =>
          refine ⟨some ret, rfl, ?_⟩
          intro ret' hret'
          cases hret'
          simp
      | cons c cs =>
          obtain ⟨r, hr, hpos⟩ := recordDecode_safe (h 0 (by simp))
          rw [List.drop_zero] at hr
          rw [answerDecodeLoop, hr, Except.ok_bind]
          cases r with
          | none => exact ⟨none, rfl, by simp⟩
          | some x =>
              obtain ⟨rec', recordLen⟩ := x
              simp only
              cases hadd : ret.add rec' with
              | none => exact ⟨none, rfl, by simp⟩
              | some ret1 =>
                  have hlen : 0 < recordLen := hpos (rec', recordLen) rfl
                  obtain ⟨r, hr, hdomain⟩ := ih ret1 (h.drop recordLen) (by
                    rw [List.length_drop]
                    rw [List.length_cons] at hfuel ⊢
                    omega)
                  refine ⟨r, hr, ?_⟩
                  intro ret' hret' _
                  exact hdomain ret' hret' (Or.inl (Answer.domain_of_add hadd))

/-! ## The header -/

theorem headerDecode_take_of_le {data : List UInt8} (h : headerLen ≤ data.length) :
    ∃ hdr, headerDecode (data.take headerLen) = .ok hdr ∧
      (hdr.qr = 1 ↔ 128 ≤ (data.getD 2 0).toNat) ∧
      (hdr.ancount.toNat = 0 ↔ data.getD 6 0 = 0 ∧ data.getD 7 0 = 0) := by
  have hlen : (data.take headerLen).length = headerLen := by
    rw [List.length_take]
    omega
  have hget : ∀ i < headerLen, (data.take headerLen).getD i 0 = data.getD i 0 := by
    intro i hi
    rw [List.getD_eq_getElem?_getD, List.getElem?_take_of_lt hi, List.getD_eq_getElem?_getD]
  have h6 : ((data.take headerLen).drop 6).getD 0 0 = data.getD 6 0 := by
    rw [← hget 6 (by decide)]
    simp [List.getD_eq_getElem?_getD]
  have h7 : ((data.take headerLen).drop 6).getD 1 0 = data.getD 7 0 := by
    rw [← hget 7 (by decide)]
    simp [List.getD_eq_getElem?_getD]
  rw [headerDecode, if_neg (by rw [hlen]; exact fun h => h rfl)]
  refine ⟨_, rfl, ?_, ?_⟩
  · have hlt := (data.getD 2 0).toNat_lt
    simp only [hget 2 (by decide), Fin.ext_iff, Fin.ofNat]
    omega
  · have hlt6 := (data.getD 6 0).toNat_lt
    have hlt7 := (data.getD 7 0).toNat_lt
    simp only [BigEndian.load16, h6, h7, UInt16.toNat_ofNat', ← UInt8.toNat_inj, UInt8.toNat_zero]
    omega

/-- **Decoding an answer comes to an end**; the domain is missing from it only behind a bare
header. -/
theorem answerDecode_safe {data : List UInt8} (h : NamesSafe (data.drop headerLen)) :
    ∃ r, answerDecode data = .ok r ∧ ∀ ans ∈ r, ans.domain.isSome = true ∨ HeaderOnly data := by
  rw [answerDecode]
  split
  · exact ⟨none, rfl, by simp⟩
  · rename_i hlen
    obtain ⟨hdr, hdec, hqr, hcount⟩ := headerDecode_take_of_le (Nat.le_of_not_lt hlen)
    rw [hdec]
    simp only
    split
    · exact ⟨none, rfl, by simp⟩
    · rename_i hanswer
      obtain ⟨r, hr, hdomain⟩ := answerDecodeLoop_safe _ ⟨hdr.id, none, []⟩ h (le_refl _)
      rw [hr, Except.ok_bind]
      cases r with
      | none => exact ⟨none, rfl, by simp⟩
      | some ret =>
          simp only
          split
          · exact ⟨none, rfl, by simp⟩
          · rename_i hrecords
            refine ⟨some ret, rfl, ?_⟩
            intro ans hans
            cases hans
            by_cases hbody : data.drop headerLen = []
            · -- the loop was not entered: the answer is the empty one
              rw [hbody] at hr
              cases hr
              have hle := List.drop_eq_nil_iff.1 hbody
              simp only [List.length_nil, ne_eq, not_not] at hrecords hanswer
              exact Or.inr ⟨by omega, hqr.1 hanswer, hcount.1 hrecords.symm⟩
            · exact Or.inl (hdomain ret rfl (Or.inr hbody))

/-- A bare header is an answer without a domain. -/
theorem answerDecode_headerOnly {data : List UInt8} (h : HeaderOnly data) :
    ∃ id, answerDecode data = .ok (some ⟨id, none, []⟩) := by
  obtain ⟨hlen, hflags, hcount⟩ := h
  obtain ⟨hdr, hdec, hqr, hancount⟩ := headerDecode_take_of_le (Nat.le_of_eq hlen.symm)
  have hbody : data.drop headerLen = [] := List.drop_eq_nil_iff.2 (Nat.le_of_eq hlen)
  refine ⟨hdr.id, ?_⟩
  rw [answerDecode, if_neg (by omega), hdec]
  simp only [hqr.2 hflags, ne_eq, not_true_eq_false, if_false, hbody]
  simp [answerDecodeLoop, hancount.2 hcount]

/-! ## Results -/

/-- With a domain that is there, decoding it does not fault. -/
theorem queryFromDomain_some (lib : Libosmocore) (domain suffix : CStr) :
    ∃ r, queryFromDomain lib (some domain) suffix = .ok r := by
  simp only [queryFromDomain]
  split
  · exact ⟨_, rfl⟩
  · split
    · exact ⟨_, rfl⟩
    · exact ⟨_, rfl⟩

/-- **Receiving an answer is safe, except for a bare header that announces no records.** -/
theorem resultDecode_safe_iff (lib : Libosmocore) (data : List UInt8) (suffix : CStr)
    (h : NamesSafe (data.drop headerLen)) :
    ReceivedSafely (resultDecode lib data suffix) ↔ ¬ HeaderOnly data := by
  constructor
  · intro hsafe hbare
    obtain ⟨id, hans⟩ := answerDecode_headerOnly hbare
    have hnull : resultDecode lib data suffix = .error .nullDomain := by
      rw [resultDecode, hans]
      rfl
    rw [hnull] at hsafe
    rcases hsafe with ⟨x, hx⟩ | ⟨rc, hrc, -⟩
    · cases hx
    · cases hrc
  · intro hbare
    obtain ⟨r, hr, hdomain⟩ := answerDecode_safe h
    rw [resultDecode, hr, Except.ok_bind]
    cases r with
    | none => exact Or.inr ⟨einval, rfl, by decide⟩
    | some ans =>
        obtain ⟨domain, hsome⟩ := Option.isSome_iff_exists.1
          ((hdomain ans rfl).resolve_right hbare)
        obtain ⟨q, hq⟩ := queryFromDomain_some lib domain suffix
        simp only [hsome, hq, Except.ok_bind]
        cases q with
        | error rc => exact Or.inr ⟨einval, rfl, by decide⟩
        | ok query =>
            simp only
            cases resultFromAnswer lib ans with
            | error rc => exact Or.inr ⟨einval, rfl, by decide⟩
            | ok result => exact Or.inl ⟨_, rfl⟩

/-- An answer header with no records announced and none behind it. -/
def bareAnswer : List UInt8 := [0, 0, 128, 0, 0, 0, 0, 0, 0, 0, 0, 0]

/-- Its missing domain is used as a string, although no name was decoded at all. -/
theorem resultDecode_bareAnswer : NamesSafe (bareAnswer.drop headerLen) ∧
    ¬ ReceivedSafely
      (resultDecode Host.libosmocore bareAnswer (CStr.lit "mdns.osmocom.org")) := by
  refine ⟨fun p hp => absurd hp (Nat.not_lt_zero p), ?_⟩
  have hnull : resultDecode Host.libosmocore bareAnswer (CStr.lit "mdns.osmocom.org") =
      .error .nullDomain := by decide +kernel
  rw [hnull]
  rintro (⟨x, hx⟩ | ⟨rc, hrc, -⟩)
  · cases hx
  · cases hrc

/-- An answer with one empty A record for the domain `"a"`. -/
def emptyRecordAnswer : List UInt8 :=
  [0, 0, 128, 0, 0, 0, 0, 1, 0, 0, 0, 0] ++ [1, 97, 0, 0, 1, 0, 1, 0, 0, 0, 0, 0, 0]

/-- It is received safely. -/
theorem resultDecode_emptyRecordAnswer : ReceivedSafely
    (resultDecode Host.libosmocore emptyRecordAnswer (CStr.lit "mdns.osmocom.org")) :=
  (resultDecode_safe_iff Host.libosmocore emptyRecordAnswer (CStr.lit "mdns.osmocom.org")
    (by decide +kernel)).2 fun h => absurd h.1 (by decide)

end Mdns
end OsmoHlr
