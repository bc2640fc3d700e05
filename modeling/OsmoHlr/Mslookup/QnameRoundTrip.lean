import OsmoHlr.Mslookup.QnameSafety

/-!
# Names, back and forth

A name on the wire is read in one way only: its labels and its end are determined
by the bytes (`WireName.unique`).  So whatever the decoder returns, it has copied
those labels, and a name that is encoded comes back exactly if the decoder takes
its labels, that is, if none of them has a length byte that is negative as a
`char`.

* `qnameDecode_eq_some` — what there is in front of the decoder if it returns.
* `qnameEncode_dotted` — the text of labels is encoded as these labels.
* `qname_roundTrip` — both directions.
-/

namespace OsmoHlr
namespace MdnsRfc

open CString
open Mslookup (dot)

/-! ## The name in front of some bytes -/

/-- The bytes start with a name: the labels `ls`, each behind its length byte, and a zero byte. -/
structure WireName (data : List UInt8) (ls : List (List UInt8)) (rest : List UInt8) : Prop where
  data_eq : data = wire ls ++ 0 :: rest
  label : ∀ l ∈ ls, 0 < l.length ∧ l.length < 256

theorem length_byte {l : List UInt8} (hl : 0 < l.length ∧ l.length < 256) :
    (UInt8.ofNat l.length).toNat = l.length := by
  rw [UInt8.toNat_ofNat']
  omega

theorem length_byte_ne_zero {l : List UInt8} (hl : 0 < l.length ∧ l.length < 256) :
    UInt8.ofNat l.length ≠ 0 := by
  intro h0
  have hnat := length_byte hl
  rw [h0, UInt8.toNat_zero] at hnat
  omega

/-- **The labels and what is behind them are determined by the bytes.** -/
theorem WireName.unique {data rest rest' : List UInt8} {ls ls' : List (List UInt8)}
    (h : WireName data ls rest) (h' : WireName data ls' rest') : ls = ls' ∧ rest = rest' := by
  have heq : wire ls ++ 0 :: rest = wire ls' ++ 0 :: rest' := h.data_eq.symm.trans h'.data_eq
  obtain ⟨-, hls⟩ := h
  obtain ⟨-, hls'⟩ := h'
  induction ls generalizing ls' with
  | nil =>
      cases ls' with
      | nil => exact ⟨rfl, (List.cons.inj heq).2⟩
      | cons l' ls' =>
          have hhead := (List.cons.inj heq).1
          exact absurd hhead.symm (length_byte_ne_zero (hls' l' List.mem_cons_self))
  | cons l ls ih =>
      have hl := hls l List.mem_cons_self
      cases ls' with
      | nil =>
          have hhead := (List.cons.inj heq).1
          exact absurd hhead (length_byte_ne_zero hl)
      | cons l' ls' =>
          have hl' := hls' l' List.mem_cons_self
          have hcons : wireLabel l ++ (wire ls ++ 0 :: rest) =
              wireLabel l' ++ (wire ls' ++ 0 :: rest') := by
            rw [← List.append_assoc, ← List.append_assoc]
            exact heq
          obtain ⟨hhead, htail⟩ := List.cons.inj hcons
          have hlen : l.length = l'.length := by
            rw [← length_byte hl, ← length_byte hl', hhead]
          obtain ⟨rfl, hrest⟩ := List.append_inj htail hlen
          obtain ⟨rfl, rfl⟩ := ih hrest (fun x hx => hls x (List.mem_cons_of_mem _ hx))
            fun x hx => hls' x (List.mem_cons_of_mem _ hx)
          exact ⟨rfl, rfl⟩

/-! ## What the decoder has read -/

section Decoded

variable {data rest : List UInt8} {m : Nat} {ls : List (List UInt8)} {name : CStr}

theorem Copied.wireName (h : Copied data m ls (0 :: rest)) : WireName data ls rest where
  data_eq := h.data_eq
  label := by
    intro l hl
    have hlabel := h.label l hl
    exact ⟨hlabel.1, Nat.lt_trans hlabel.2 (by decide)⟩

/-- Text is returned at a zero byte only, and it is the text of the labels in front of it. -/
theorem loopAt_eq_some (hm : m ≤ data.length) (hsize : m < 2 ^ 63) (fuel : Nat)
    (h : Copied data m ls rest) {buf : List UInt8}
    (hrun : loopAt data m fuel ls = .ok (some buf)) :
    ∃ ls' rest', Copied data m ls' (0 :: rest') ∧ buf = dotted ls' ∧
      buf.length ≤ maxNameLen := by
  induction fuel generalizing ls rest with
  | zero => cases hrun
  | succ fuel ih =>
      obtain ⟨c, rest, rfl⟩ := List.exists_cons_of_ne_nil (h.wire_length_lt hm)
      by_cases h0 : c = 0
      · subst h0
        rw [loopAt_nul h, store] at hrun
        split at hrun
        next hfits =>
            cases hrun
            exact ⟨ls, rest, h, rfl, Nat.le_of_succ_le_succ hfits⟩
        next => cases hrun
      · rcases loopAt_round h hm hsize h0 fuel with ⟨-, e, he⟩ | hnone | ⟨l, rest', hsnoc, hnext⟩
        · rw [he] at hrun
          cases hrun
        · rw [hnone] at hrun
          cases hrun
        · exact ih hsnoc (hnext.symm.trans hrun)

/-- **What is returned is the text of the labels that the data starts with.** -/
theorem qnameDecode_eq_some (hm : m ≤ data.length) (hsize : m < 2 ^ 63)
    (h : qnameDecode data m = .ok (some name)) :
    ∃ ls rest, Copied data m ls (0 :: rest) ∧ name = CStr.ofBytes (dotted ls) ∧
      (dotted ls).length ≤ maxNameLen := by
  have h0 : 0 < m := by
    refine Nat.pos_of_ne_zero fun hz => ?_
    rw [hz, qnameDecode, if_pos (by decide)] at h
    cases h
  rw [qnameDecode_eq_loopAt h0] at h
  cases hrun : loopAt data m (data.length + 1) [] with
  | error e =>
      rw [hrun] at h
      cases h
  | ok buf =>
      rw [hrun] at h
      obtain ⟨b, hb, rfl⟩ := Option.map_eq_some_iff.1 (Except.ok.inj h)
      subst hb
      obtain ⟨ls, rest, hcopied, rfl, hfits⟩ :=
        loopAt_eq_some hm hsize _ (Copied.start h0) hrun
      exact ⟨ls, rest, hcopied, rfl, hfits⟩

end Decoded

/-! ## Text and its labels -/

theorem noNul_dotted {ls : List (List UInt8)} (h : ∀ l ∈ ls, (0 : UInt8) ∉ l) :
    (0 : UInt8) ∉ dotted ls := by
  intro hmem
  rcases List.mem_cons.1 (mem_of_mem_intercalate hmem) with hdot | hmem
  · exact absurd hdot (by decide)
  · obtain ⟨l, hl, h0⟩ := List.mem_flatten.1 hmem
    exact h l hl h0

theorem qnameEncodeLoop_of_pos {ls : List (List UInt8)} (h : ∀ l ∈ ls, 0 < l.length)
    (buf : List UInt8) : qnameEncodeLoop ls buf = some (buf ++ wire ls) := by
  induction ls generalizing buf with
  | nil => rw [qnameEncodeLoop, wire_nil, List.append_nil]
  | cons l ls ih =>
      have hl := h l List.mem_cons_self
      rw [qnameEncodeLoop, if_neg (by omega), ih fun x hx => h x (List.mem_cons_of_mem _ hx),
        List.append_assoc]
      rfl

/-- **The text of labels without dots and NULs is encoded as these labels.** -/
theorem qnameEncode_dotted {ls : List (List UInt8)} (hne : ls ≠ [])
    (hlabel : ∀ l ∈ ls, 0 < l.length ∧ l.length < 256)
    (hplain : ∀ l ∈ ls, dot ∉ l ∧ (0 : UInt8) ∉ l) (hlen : (dotted ls).length ≤ maxNameLen) :
    ∃ qname, qnameEncode (CStr.ofBytes (dotted ls)) = some qname ∧ qname.bytes = wire ls := by
  have hbytes : (CStr.ofBytes (dotted ls)).bytes = dotted ls :=
    CStr.ofBytes_bytes_of_noNul (noNul_dotted fun l hl => (hplain l hl).2)
  have hsplit : (dotted ls).splitOn dot = ls :=
    List.splitOn_intercalate dot (fun l hl => (hplain l hl).1) hne
  refine ⟨CStr.ofBytes (wire ls), ?_, ?_⟩
  · rw [qnameEncode, CStr.len, hbytes, if_neg (Nat.not_lt.2 hlen), hsplit,
      qnameEncodeLoop_of_pos fun l hl => (hlabel l hl).1]
    rfl
  · exact CStr.ofBytes_bytes_of_noNul (noNul_wire hlabel fun l hl => (hplain l hl).2)

/-! ## Back and forth -/

/-- An encoded name, as a string, is a name on the wire. -/
theorem wireName_of_qnameEncode {domain qname : CStr} (h : qnameEncode domain = some qname) :
    WireName (qname.bytes ++ [0]) (domain.bytes.splitOn dot) [] := by
  obtain ⟨hlen, hpos, hq⟩ := wire_of_qnameEncode h
  refine ⟨by rw [hq], ?_⟩
  intro l hl
  have hle := length_le_of_mem_splitOn hl
  unfold CStr.len maxNameLen at hlen
  exact ⟨hpos l hl, by omega⟩

/-- A name that is encoded is read back exactly if no label is longer than a `char` says. -/
theorem qnameDecode_qnameEncode_iff {domain qname : CStr} (h : qnameEncode domain = some qname) :
    qnameDecode (qname.bytes ++ [0]) (qname.len + 1) = .ok (some domain) ↔
      ∀ l ∈ domain.bytes.splitOn dot, l.length < 128 := by
  have hlen : qname.len + 1 ≤ (qname.bytes ++ [0]).length := by
    rw [List.length_append, List.length_singleton]
    exact Nat.le_refl _
  have hsize : qname.len + 1 < 2 ^ 63 := by
    have hdomain := (wire_of_qnameEncode h).1
    have hq := len_qnameEncode h
    unfold maxNameLen at hdomain
    omega
  constructor
  · intro hdecode
    -- the decoder has copied labels, and there are no others than those of the domain
    obtain ⟨ls, rest, hcopied, -, -⟩ := qnameDecode_eq_some hlen hsize hdecode
    obtain ⟨rfl, -⟩ := (wireName_of_qnameEncode h).unique hcopied.wireName
    exact fun l hl => (hcopied.label l hl).2
  · intro hshort
    exact qnameDecode_qnameEncode h hshort [] (Nat.lt_succ_self _) hlen hsize

/-- A name that is decoded is encoded as the bytes it was read from. -/
theorem qnameEncode_qnameDecode {data : SizeT.Object} {m : Nat} {name : CStr}
    (hm : m ≤ data.len) (h : qnameDecode data.bytes m = .ok (some name)) (hne : name.bytes ≠ []) :
    ∃ ls rest, WireName data.bytes ls rest ∧
      ((∀ l ∈ ls, dot ∉ l ∧ (0 : UInt8) ∉ l) →
        ∃ qname, qnameEncode name = some qname ∧ qname.bytes = wire ls) := by
  obtain ⟨ls, rest, hcopied, rfl, hlen⟩ :=
    qnameDecode_eq_some hm (Nat.lt_of_le_of_lt hm data.size_lt) h
  refine ⟨ls, rest, hcopied.wireName, fun hplain => ?_⟩
  have hls : ls ≠ [] := by
    rintro rfl
    exact hne rfl
  exact qnameEncode_dotted hls hcopied.wireName.label hplain hlen

/-- **Names, back and forth**: what is encoded is read back exactly if every label is shorter than
128 bytes; and what is decoded from labels without dots and NULs is encoded as the bytes that it
was read from, but for the empty name. -/
theorem qname_roundTrip (domain : CStr) (data : SizeT.Object) :
    (∀ qname, qnameEncode domain = some qname →
      (qnameDecode (qname.bytes ++ [0]) (qname.len + 1) = .ok (some domain) ↔
        ∀ l ∈ domain.bytes.splitOn dot, l.length < 128)) ∧
    ∀ m name, m ≤ data.len →
      qnameDecode data.bytes m = .ok (some name) → name.bytes ≠ [] →
      ∃ ls rest, WireName data.bytes ls rest ∧
        ((∀ l ∈ ls, dot ∉ l ∧ (0 : UInt8) ∉ l) →
          ∃ qname, qnameEncode name = some qname ∧ qname.bytes = wire ls) :=
  ⟨fun _ h => qnameDecode_qnameEncode_iff h,
    fun _ _ hm h hne => qnameEncode_qnameDecode hm h hne⟩

/-- A label of 128 bytes. -/
def longLabel : CStr := ⟨List.replicate 128 97, by simp⟩

/-- The label behind its length byte. -/
def longLabelQname : CStr := ⟨128 :: List.replicate 128 97, by simp⟩

/-- It is encoded, but not read back. -/
theorem longLabel_no_roundTrip :
    ¬ ∀ domain qname, qnameEncode domain = some qname →
      qnameDecode (qname.bytes ++ [0]) (qname.len + 1) = .ok (some domain) := by
  intro h
  have hencode : qnameEncode longLabel = some longLabelQname := by decide +kernel
  have hdecode : qnameDecode (longLabelQname.bytes ++ [0]) (longLabelQname.len + 1) = .ok none := by
    decide +kernel
  cases hdecode.symm.trans (h _ _ hencode)

/-- Both directions at the name "hlr". -/
theorem qname_roundTrip_hlr :
    qnameDecode [3, 104, 108, 114, 0] 5 = .ok (some (CStr.lit "hlr")) ∧
      ∃ ls rest, WireName [3, 104, 108, 114, 0] ls rest ∧
        ((∀ l ∈ ls, dot ∉ l ∧ (0 : UInt8) ∉ l) →
          ∃ qname, qnameEncode (CStr.lit "hlr") = some qname ∧ qname.bytes = wire ls) := by
  obtain ⟨hback, hforth⟩ :=
    qname_roundTrip (CStr.lit "hlr") ⟨[3, 104, 108, 114, 0], by decide⟩
  have hdecode : qnameDecode [3, 104, 108, 114, 0] 5 = .ok (some (CStr.lit "hlr")) :=
    (hback ⟨[3, 104, 108, 114], by decide⟩ (by decide)).2 (by decide)
  exact ⟨hdecode, hforth 5 (CStr.lit "hlr") (by decide) hdecode (by decide)⟩

end MdnsRfc
end OsmoHlr
