import OsmoHlr.Mslookup.Qname

/-!
# When decoding a name stays inside its buffers

`osmo_mdns_rfc_qname_decode` compares lengths as `size_t`, so that a length byte
from `0x80` on, which is negative as a `char`, wraps around; and it checks the
length of the text before it adds the dot to it.

* `Trap` — the packets on which the decoder leaves its buffers;
  `nameSafe_iff_not_trap` says that there are no others.
* `packetNames_safe_iff` — the same for the calls that the packet decoders make,
  with the lengths they compute.
-/

namespace OsmoHlr
namespace MdnsRfc

open CString
open Mslookup (dot)

/-! ## Traps -/

/-- The decoder came to an end inside its buffers, with a name that fits. -/
def NameSafe (r : Except Fault (Option CStr)) : Prop :=
  ∃ name, r = .ok name ∧ ∀ s ∈ name, s.len ≤ maxNameLen

instance (r : Except Fault (Option CStr)) : Decidable (NameSafe r) :=
  match r with
  | .ok name =>
      if h : ∀ s ∈ name, s.len ≤ maxNameLen then .isTrue ⟨name, rfl, h⟩
      else .isFalse (by rintro ⟨name', hname, h'⟩; cases hname; exact h h')
  | .error _ => .isFalse (by rintro ⟨name, hname, -⟩; cases hname)

/-- The packets that take the decoder out of its name buffer: labels it accepts, and then
* a zero byte, when the text fills the buffer so that the terminator lands behind it; or
* a length byte that is negative as a `char`, so that the length check wraps around, when there is
  enough text for that and it does not end with a dot. -/
def Trap (data : List UInt8) (qnameMaxLen : Nat) : Prop :=
  ∃ ls c rest, Copied data qnameMaxLen ls (c :: rest) ∧
    ((c = 0 ∧ (dotted ls).length = maxNameLen + 1) ∨
      (128 ≤ c.toNat ∧ 256 - c.toNat ≤ (dotted ls).length ∧ (dotted ls).getLast? ≠ some dot))

section Safety

variable {data rest : List UInt8} {m : Nat} {ls : List (List UInt8)}

/-- From any labels on, the decoder comes to a safe end or the packet is a trap. -/
theorem loopAt_safe_or_trap (hm : m ≤ data.length) (hsize : m < 2 ^ 63) (fuel : Nat)
    (h : Copied data m ls rest) (hfuel : data.length < (wire ls).length + fuel) :
    (∃ buf, loopAt data m fuel ls = .ok buf ∧ ∀ b ∈ buf, b.length ≤ maxNameLen) ∨
      Trap data m := by
  induction fuel generalizing ls rest with
  | zero =>
      have := h.wire_lt
      omega
  | succ fuel ih =>
      have hw := h.wire_lt
      have htext := h.text_le
      obtain ⟨c, rest, rfl⟩ := List.exists_cons_of_ne_nil (h.wire_length_lt hm)
      by_cases h0 : c = 0
      · subst h0
        by_cases hfull : (dotted ls).length = maxNameLen + 1
        · exact Or.inr ⟨ls, 0, rest, h, Or.inl ⟨rfl, hfull⟩⟩
        · refine Or.inl ⟨some (dotted ls), ?_, ?_⟩
          · rw [loopAt_nul h, store, if_pos (by omega)]
            rfl
          · intro b hb
            cases hb
            omega
      · rcases loopAt_round h hm hsize h0 fuel with ⟨hbad, -⟩ | hnone | ⟨l, rest', hsnoc, hrun⟩
        · exact Or.inr ⟨ls, c, rest, h, Or.inr hbad⟩
        · exact Or.inl ⟨none, hnone, by simp⟩
        · rw [hrun]
          refine ih hsnoc ?_
          rw [wire_concat, List.length_append, length_wireLabel]
          omega

/-- **The decoder leaves its buffers on a trap and on nothing else.** -/
theorem nameSafe_iff_not_trap (h0 : 0 < m) (hm : m ≤ data.length) (hsize : m < 2 ^ 63) :
    NameSafe (qnameDecode data m) ↔ ¬ Trap data m := by
  constructor
  · rintro ⟨name, hname, -⟩ ⟨ls, c, rest, h, hend⟩
    obtain ⟨fuel, -, hrun⟩ := qnameDecode_copied h hm hsize
    have hfault : ∃ e, loopAt data m (fuel + 1) ls = .error e := by
      rcases hend with ⟨rfl, hfull⟩ | ⟨hc, hbad⟩
      · rw [loopAt_nul h, store, if_neg (by omega)]
        exact ⟨_, rfl⟩
      · have hfault := loopAt_signed h hsize hc fuel
        rwa [if_pos hbad] at hfault
    obtain ⟨e, he⟩ := hfault
    rw [hrun, he] at hname
    cases hname
  · intro hno
    rcases loopAt_safe_or_trap hm hsize (data.length + 1) (Copied.start h0)
      (by rw [wire_nil, List.length_nil]; omega) with ⟨buf, hbuf, hlen⟩ | htrap
    · refine ⟨buf.map CStr.ofBytes, by rw [qnameDecode_eq_loopAt h0, hbuf]; rfl, ?_⟩
      intro s hs
      obtain ⟨b, hb, rfl⟩ := Option.map_eq_some_iff.1 hs
      exact (CStr.len_ofBytes_le b).trans (hlen b hb)
    · exact absurd htrap hno

end Safety

/-! ## The calls of the packet decoders -/

/-- The name of a question is decoded safely, if it comes to that. -/
def QuestionNameSafe (data : SizeT.Object) : Prop :=
  questionMinLen ≤ data.len → NameSafe (qnameDecode data.bytes (questionQnameLen data.len))

/-- The name of a record is decoded safely. -/
def RecordNameSafe (data : SizeT.Object) : Prop :=
  NameSafe (qnameDecode data.bytes (recordQnameMaxLen data.len))

theorem questionNameSafe_iff (data : SizeT.Object) :
    QuestionNameSafe data ↔ ¬ (questionMinLen ≤ data.len ∧ Trap data.bytes (data.len - 4)) := by
  have hsize := data.size_lt
  rw [QuestionNameSafe, not_and]
  refine imp_congr_right fun hmin => ?_
  unfold questionMinLen SizeT.Object.len at *
  rw [questionQnameLen, SizeT.sub_of_le (by omega) (by unfold SizeT.modulus; omega)]
  exact nameSafe_iff_not_trap (by omega) (by omega) (by omega)

/-- When `data_len - 10` wraps around, nothing is copied: the end lies in front of the packet. -/
theorem qnameDecode_of_wrapped {c : UInt8} {rest : List UInt8} (hlen : (c :: rest).length < 10) :
    ∃ name, qnameDecode (c :: rest) (recordQnameMaxLen (c :: rest).length) = .ok name ∧
      ∀ s ∈ name, s.len = 0 := by
  set m := recordQnameMaxLen (c :: rest).length with hm
  have hval : m = SizeT.modulus - (10 - (c :: rest).length) :=
    SizeT.sub_of_lt hlen (by unfold SizeT.modulus; omega)
  have hend : SizeT.ptrAdd 0 m = (c :: rest).length - 10 := by
    rw [hval, SizeT.ptrAdd_of_wrap] <;> unfold SizeT.modulus <;> omega
  have hm0 : 0 < m := by
    rw [hval]
    unfold SizeT.modulus
    omega
  have hcopied : Copied (c :: rest) m [] (c :: rest) := Copied.start hm0
  rw [qnameDecode_eq_loopAt hm0]
  by_cases h0 : c = 0
  · subst h0
    refine ⟨some (CStr.ofBytes []), by rw [loopAt_nul hcopied]; rfl, ?_⟩
    intro s hs
    cases hs
    rfl
  · refine ⟨none, ?_, by simp⟩
    have hreject : SizeT.ptrAdd 0 m ≤
          SizeT.ptrAdd (wire []).length (SizeT.add (SizeT.ofChar c) 1) ∨
        maxNameLen < SizeT.add (dotted []).length (SizeT.ofChar c) := by
      rw [hend, wire_nil, dotted_nil, List.length_nil]
      by_cases hc : c.toNat < 128
      · rw [SizeT.ofChar_of_lt hc, SizeT.add_of_lt (by unfold SizeT.modulus; omega),
          SizeT.ptrAdd_of_lt (by omega) (by omega)]
        omega
      · have hlt := c.toNat_lt
        rw [SizeT.ofChar_of_ge (by omega), SizeT.add_of_lt (a := 0) (by
          unfold SizeT.modulus; omega)]
        right
        unfold SizeT.modulus maxNameLen
        omega
    rw [loopAt_cons hcopied h0, if_pos hreject]
    rfl

theorem recordNameSafe_iff (data : SizeT.Object) :
    RecordNameSafe data ↔
      data.len ≠ 0 ∧ ¬ (11 ≤ data.len ∧ Trap data.bytes (data.len - 10)) := by
  obtain ⟨bytes, hsize⟩ := data
  simp only [RecordNameSafe, SizeT.Object.len]
  rcases Nat.lt_or_ge bytes.length 10 with hlt | hge
  · cases bytes with
    | nil =>
        -- the only read that is made, of the first byte, is already outside
        simp only [List.length_nil, ne_eq, not_true_eq_false, false_and, iff_false]
        rintro ⟨name, hname, -⟩
        have : qnameDecode [] (recordQnameMaxLen 0) = .error (.readOutside 0) := rfl
        rw [this] at hname
        cases hname
    | cons c rest =>
        obtain ⟨name, hname, hempty⟩ := qnameDecode_of_wrapped hlt
        refine ⟨fun _ => ⟨by simp, by omega⟩, fun _ => ⟨name, hname, ?_⟩⟩
        intro s hs
        rw [hempty s hs]
        exact Nat.zero_le _
  · rw [recordQnameMaxLen, SizeT.sub_of_le hge (by unfold SizeT.modulus; omega)]
    rcases Nat.lt_or_ge bytes.length 11 with hten | hmore
    · have hzero : bytes.length - 10 = 0 := by omega
      rw [hzero]
      refine ⟨fun _ => ⟨by omega, by omega⟩, fun _ => ⟨none, rfl, by simp⟩⟩
    · rw [nameSafe_iff_not_trap (by omega) (by omega) (by omega)]
      refine ⟨fun h => ⟨by omega, fun ht => h ht.2⟩, fun h ht => h.2 ⟨hmore, ht⟩⟩

/-- **When the packet decoders' use of `osmo_mdns_rfc_qname_decode` is safe**: the packet is not a
trap for the length they compute, and a record is not decoded from no data at all. -/
theorem packetNames_safe_iff (data : SizeT.Object) :
    (QuestionNameSafe data ↔ ¬ (questionMinLen ≤ data.len ∧ Trap data.bytes (data.len - 4))) ∧
    (RecordNameSafe data ↔
      data.len ≠ 0 ∧ ¬ (11 ≤ data.len ∧ Trap data.bytes (data.len - 10))) :=
  ⟨questionNameSafe_iff data, recordNameSafe_iff data⟩

/-- The question `"\x01" "a" "\xff"`, with type and class behind it. -/
def signedQuestion : SizeT.Object := ⟨[1, 97, 255, 0, 255, 0, 1], by decide⟩

/-- A record whose name is 256 characters long, and the ten bytes it takes to get that far. -/
def longRecord : SizeT.Object :=
  ⟨wire (List.replicate 64 97 :: List.replicate 3 (List.replicate 63 97)) ++ List.replicate 12 0,
    by decide +kernel⟩

/-- Neither question nor record is safe for every packet. -/
theorem packetNames_not_safe :
    ¬ QuestionNameSafe signedQuestion ∧ ¬ RecordNameSafe longRecord := by
  constructor
  · intro h
    obtain ⟨name, hname, -⟩ := h (by decide)
    have hfault : qnameDecode signedQuestion.bytes (questionQnameLen signedQuestion.len) =
        .error (.writeOutside (2 ^ 64)) := by decide
    rw [hfault] at hname
    cases hname
  · rintro ⟨name, hname, -⟩
    have hfault : qnameDecode longRecord.bytes (recordQnameMaxLen longRecord.len) =
        .error (.writeOutside 256) := by decide +kernel
    rw [hfault] at hname
    cases hname

end MdnsRfc
end OsmoHlr
