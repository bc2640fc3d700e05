import OsmoHlr.Mslookup.MdnsRfc

/-!
# Names in a packet

What `osmo_mdns_rfc_qname_decode` does with its input, label by label.  A run of
the decoder is described by the labels it has copied: `Copied data m ls rest`
says of the packet that it starts with the labels `ls`, each of which passes the
decoder's checks, and that `rest` comes next.

* `loop_copied` — the decoder gets to the end of any labels it accepts.
* `qnameDecode_qnameEncode` — a name whose labels are positive as `char` is read
  back as it was written.
-/

namespace OsmoHlr
namespace MdnsRfc

open CString
open Mslookup (dot)

/-! ## Labels -/

/-- A label whose length byte is positive as a `char`. -/
def IsLabel (label : List UInt8) : Prop := 0 < label.length ∧ label.length < 128

/-- Labels one behind the other, each behind its length byte. -/
def wire (labels : List (List UInt8)) : List UInt8 := labels.flatMap wireLabel

/-- Labels as text, with dots between them. -/
def dotted (labels : List (List UInt8)) : List UInt8 := [dot].intercalate labels

@[simp] theorem wire_nil : wire [] = [] := rfl

@[simp] theorem dotted_nil : dotted [] = [] := rfl

@[simp] theorem wire_concat (ls : List (List UInt8)) (l : List UInt8) :
    wire (ls ++ [l]) = wire ls ++ wireLabel l := by simp [wire]

@[simp] theorem length_wireLabel (l : List UInt8) : (wireLabel l).length = l.length + 1 := by
  simp [wireLabel]

theorem dotted_concat (ls : List (List UInt8)) (l : List UInt8) :
    dotted (ls ++ [l]) = if ls = [] then l else dotted ls ++ dot :: l := by
  by_cases h : ls = []
  · simp [dotted, h]
  · rw [if_neg h]
    exact intercalate_concat h l

/-- The text is one byte shorter than the labels on the wire. -/
theorem length_wire {ls : List (List UInt8)} (h : ls ≠ []) :
    (wire ls).length = (dotted ls).length + 1 := by
  induction ls using List.reverseRecOn with
  | nil => exact absurd rfl h
  | append_singleton ls l ih =>
      rw [wire_concat, dotted_concat, List.length_append, length_wireLabel]
      by_cases hls : ls = []
      · simp [hls]
      · rw [if_neg hls, ih hls, List.length_append, List.length_cons]
        omega

theorem length_le_wire (ls : List (List UInt8)) : ls.length ≤ (wire ls).length := by
  induction ls using List.reverseRecOn with
  | nil => exact le_refl _
  | append_singleton ls l ih =>
      rw [wire_concat, List.length_append, List.length_append, length_wireLabel,
        List.length_singleton]
      omega

theorem dotted_eq_nil_iff {ls : List (List UInt8)} (h : ∀ l ∈ ls, IsLabel l) :
    (dotted ls).length = 0 ↔ ls = [] := by
  induction ls using List.reverseRecOn with
  | nil => simp
  | append_singleton ls l _ =>
      have hl : 0 < l.length := (h l (by simp)).1
      have hpos : 0 < (dotted (ls ++ [l])).length := by
        rw [dotted_concat]
        split
        · exact hl
        · simp
      simp only [List.append_eq_nil_iff, List.cons_ne_nil, and_false, iff_false]
      omega

/-- The text ends as its last label does. -/
theorem getLast?_dotted_concat (ls : List (List UInt8)) {l : List UInt8} (hl : IsLabel l) :
    (dotted (ls ++ [l])).getLast? = l.getLast? := by
  have hne : l ≠ [] := List.ne_nil_of_length_pos hl.1
  rw [dotted_concat]
  split
  · rfl
  · rw [List.getLast?_append_of_ne_nil _ (by simp), List.getLast?_cons_of_ne_nil hne]

/-! ## A run of the decoder -/

/-- The packet starts with the labels `ls`, they pass the checks, and `rest` follows them. -/
structure Copied (data : List UInt8) (qnameMaxLen : Nat) (ls : List (List UInt8))
    (rest : List UInt8) : Prop where
  data_eq : data = wire ls ++ rest
  label : ∀ l ∈ ls, IsLabel l
  wire_lt : (wire ls).length < qnameMaxLen
  text_le : (dotted ls).length ≤ maxNameLen + 1
  /-- No label but the last ends with a dot. -/
  no_dot : ∀ l ∈ ls.dropLast, l.getLast? ≠ some dot

namespace Copied

variable {data rest : List UInt8} {m : Nat} {ls : List (List UInt8)} {l : List UInt8}

theorem start (hm : 0 < m) : Copied data m [] data where
  data_eq := rfl
  label := by simp
  wire_lt := hm
  text_le := by simp
  no_dot := by simp

/-- The text in front of the last label. -/
theorem length_dotted_concat (hls : ∀ l ∈ ls, IsLabel l) :
    (dotted (ls ++ [l])).length =
      (if (dotted ls).length = 0 then 0 else (dotted ls).length + 1) + l.length := by
  rw [dotted_concat]
  by_cases h : ls = []
  · simp [h]
  · have h0 : (dotted ls).length ≠ 0 := fun h0 => h ((dotted_eq_nil_iff hls).1 h0)
    rw [if_neg h, if_neg h0, List.length_append, List.length_cons]
    omega

theorem no_dot_dotted (h : Copied data m (ls ++ [l]) rest) :
    (dotted ls).getLast? ≠ some dot := by
  induction ls using List.reverseRecOn with
  | nil => simp
  | append_singleton ls' l' _ =>
      rw [getLast?_dotted_concat _ (h.label l' (by simp))]
      exact h.no_dot l' (by simp)

/-- Before the last label was copied, the others had been. -/
theorem before (h : Copied data m (ls ++ [l]) rest) : Copied data m ls (wireLabel l ++ rest) where
  data_eq := by rw [h.data_eq, wire_concat, List.append_assoc]
  label := fun l hl => h.label l (by simp [hl])
  wire_lt := by
    have := h.wire_lt
    rw [wire_concat, List.length_append] at this
    omega
  text_le := by
    have := h.text_le
    rw [length_dotted_concat fun l hl => h.label l (by simp [hl])] at this
    split at this <;> omega
  no_dot := fun l hl => h.no_dot l (by
    rw [List.dropLast_concat]
    exact List.mem_of_mem_dropLast hl)

/-- Copying one more label. -/
theorem snoc (h : Copied data m ls (wireLabel l ++ rest)) (hl : IsLabel l)
    (hw : (wire ls).length + l.length + 1 < m) (ht : (dotted ls).length + l.length ≤ maxNameLen)
    (hdot : (dotted ls).getLast? ≠ some dot) : Copied data m (ls ++ [l]) rest where
  data_eq := by rw [wire_concat, List.append_assoc, h.data_eq]
  label := by
    intro l' hl'
    rcases List.mem_append.1 hl' with hl' | hl'
    · exact h.label l' hl'
    · rw [List.mem_singleton.1 hl']
      exact hl
  wire_lt := by
    rw [wire_concat, List.length_append, length_wireLabel]
    omega
  text_le := by
    rw [length_dotted_concat h.label]
    split <;> omega
  no_dot := by
    rw [List.dropLast_concat]
    induction ls using List.reverseRecOn with
    | nil => simp
    | append_singleton ls' l' _ =>
        rw [getLast?_dotted_concat _ (h.label l' (by simp))] at hdot
        intro x hx
        rcases List.mem_append.1 hx with hx | hx
        · exact h.no_dot x (by simpa using hx)
        · rw [List.mem_singleton.1 hx]
          exact hdot

/-- The decoder's place in the packet. -/
theorem wire_length_lt (h : Copied data m ls rest) (hm : m ≤ data.length) : rest ≠ [] := by
  intro hnil
  have hlen := congrArg List.length h.data_eq
  have := h.wire_lt
  rw [hnil, List.append_nil] at hlen
  omega

end Copied

/-! ## One round of the loop -/

section Round

variable {data rest : List UInt8} {m : Nat} {ls : List (List UInt8)} {c : UInt8}

/-- The decoder behind the labels `ls`. -/
def loopAt (data : List UInt8) (m fuel : Nat) (ls : List (List UInt8)) :
    Except Fault (Option (List UInt8)) :=
  qnameDecodeLoop data m fuel (wire ls).length (dotted ls)

theorem load_copied (h : Copied data m ls (c :: rest)) : load data (wire ls).length = .ok c := by
  rw [load, if_pos (Int.natCast_nonneg _), h.data_eq, Int.toNat_natCast,
    List.getElem?_append_right (le_refl _), Nat.sub_self]
  rfl

/-- The text never outgrows what has been read. -/
theorem length_dotted_lt (h : Copied data m ls rest) : (dotted ls).length < m := by
  by_cases hls : ls = []
  · have := h.wire_lt
    simp_all
  · have := h.wire_lt
    rw [length_wire hls] at this
    omega

/-- At a zero byte the text is terminated. -/
theorem loopAt_nul (h : Copied data m ls (0 :: rest)) (fuel : Nat) :
    loopAt data m (fuel + 1) ls = (store (dotted ls).length 1).map fun _ => some (dotted ls) := by
  rw [loopAt, qnameDecodeLoop, load_copied h, Except.ok_bind, if_pos rfl]
  cases store (dotted ls).length 1 <;> rfl

theorem length_wire_le (h : Copied data m ls rest) : (wire ls).length ≤ maxNameLen + 2 := by
  by_cases hls : ls = []
  · simp [hls]
  · have := h.text_le
    rw [length_wire hls]
    omega

/-- A round of the loop at a byte that is not zero. -/
theorem loopAt_cons (h : Copied data m ls (c :: rest)) (h0 : c ≠ 0) (fuel : Nat) :
    loopAt data m (fuel + 1) ls =
      if SizeT.ptrAdd 0 m ≤ SizeT.ptrAdd (wire ls).length (SizeT.add (SizeT.ofChar c) 1) ∨
          maxNameLen < SizeT.add (dotted ls).length (SizeT.ofChar c) then .ok none
      else if (dotted ls).getLast? = some dot then .ok none
      else copyLabel data (wire ls).length (SizeT.ofChar c) (dotted ls) >>=
        qnameDecodeLoop data m fuel
          (SizeT.ptrAdd (wire ls).length (SizeT.add (SizeT.ofChar c) 1)) := by
  have hlt := length_dotted_lt h
  rw [loopAt, qnameDecodeLoop, load_copied h, Except.ok_bind, if_neg h0, if_neg (by omega)]

/-- Where the next label starts, and how much text there will be, when the length is positive. -/
theorem next_of_lt (h : Copied data m ls (c :: rest)) (hm : m < 2 ^ 63) (hc : c.toNat < 128) :
    SizeT.ptrAdd 0 m = m ∧
    SizeT.ptrAdd (wire ls).length (SizeT.add (SizeT.ofChar c) 1) =
      ((wire ls).length + c.toNat + 1 : Nat) ∧
    SizeT.add (dotted ls).length (SizeT.ofChar c) = (dotted ls).length + c.toNat := by
  have hw := length_wire_le h
  have ht := h.text_le
  unfold maxNameLen at hw ht
  have hadd : SizeT.add c.toNat 1 = c.toNat + 1 :=
    SizeT.add_of_lt (by unfold SizeT.modulus; omega)
  rw [SizeT.ofChar_of_lt hc, hadd]
  refine ⟨?_, ?_, ?_⟩
  · rw [SizeT.ptrAdd_of_lt (by omega) (by omega)]
    omega
  · rw [SizeT.ptrAdd_of_lt (by omega) (by omega)]
    omega
  · exact SizeT.add_of_lt (by unfold SizeT.modulus; omega)

/-- A length that points behind the end, or that does not fit the text, is an error. -/
theorem loopAt_reject (h : Copied data m ls (c :: rest)) (hm : m < 2 ^ 63) (h0 : c ≠ 0)
    (hc : c.toNat < 128) (hbig : m ≤ (wire ls).length + c.toNat + 1 ∨
      maxNameLen < (dotted ls).length + c.toNat) (fuel : Nat) :
    loopAt data m (fuel + 1) ls = .ok none := by
  obtain ⟨hend, hnext, htext⟩ := next_of_lt h hm hc
  rw [loopAt_cons h h0, hend, hnext, htext]
  exact if_pos (by omega)

/-- Text that already ends with a dot takes no further label. -/
theorem loopAt_dot (h : Copied data m ls (c :: rest)) (h0 : c ≠ 0)
    (hdot : (dotted ls).getLast? = some dot) (fuel : Nat) :
    loopAt data m (fuel + 1) ls = .ok none := by
  rw [loopAt_cons h h0, if_pos hdot, ite_self]

/-- Copying a label that is there, and that fits. -/
theorem copyLabel_wireLabel {l : List UInt8} (h : Copied data m (ls ++ [l]) rest) :
    copyLabel data (wire ls).length l.length (dotted ls) = .ok (dotted (ls ++ [l])) := by
  have htext := h.text_le
  have hrange : loadRange data ((wire ls).length + 1) l.length = .ok l := by
    have hsplit : data = (wire ls ++ [UInt8.ofNat l.length]) ++ (l ++ rest) := by
      simp [h.data_eq, wireLabel]
    have hnat : ((wire ls).length + 1 : Int).toNat = (wire ls ++ [UInt8.ofNat l.length]).length := by
      simp
    rw [loadRange, if_pos ⟨by omega, by rw [hsplit]; simp; omega⟩, hnat, hsplit, List.drop_left,
      List.take_left]
  rw [Copied.length_dotted_concat h.before.label] at htext
  rw [copyLabel, hrange, dotted_concat]
  by_cases hls : ls = []
  · subst hls
    rw [dotted_nil, List.length_nil, if_pos rfl] at htext
    rw [dotted_nil, putDot, List.length_nil, if_pos rfl, Except.ok_bind, store, List.length_nil,
      if_pos htext]
    rfl
  · have hne : (dotted ls).length ≠ 0 := fun h0 => hls ((dotted_eq_nil_iff h.before.label).1 h0)
    rw [if_neg hne] at htext
    rw [putDot, if_neg hne, store, if_pos (by omega), if_neg hls, Except.ok_bind, Except.ok_bind,
      store, List.length_append, List.length_singleton, if_pos htext, Except.ok_bind,
      Except.ok_bind, List.append_assoc]
    rfl

/-- A label that the decoder accepts is copied behind a dot. -/
theorem loopAt_label {l : List UInt8} (h : Copied data m (ls ++ [l]) rest) (hm : m < 2 ^ 63)
    (fuel : Nat) : loopAt data m (fuel + 1) ls = loopAt data m fuel (ls ++ [l]) := by
  have hb : Copied data m ls (UInt8.ofNat l.length :: (l ++ rest)) := h.before
  have hl : IsLabel l := h.label l (by simp)
  have hc : (UInt8.ofNat l.length).toNat = l.length := by
    rw [UInt8.toNat_ofNat']
    have := hl.2
    omega
  have h0 : UInt8.ofNat l.length ≠ 0 := by
    intro h0
    have hpos := hl.1
    rw [h0] at hc
    simp only [UInt8.toNat_zero] at hc
    omega
  obtain ⟨hend, hnext, htext⟩ := next_of_lt hb hm (by rw [hc]; exact hl.2)
  have hwire := h.wire_lt
  have hfits : (dotted ls).length + l.length ≤ maxNameLen := by
    have htextle := h.text_le
    rw [Copied.length_dotted_concat hb.label] at htextle
    have hlt := hl.2
    unfold maxNameLen at *
    split at htextle <;> omega
  rw [wire_concat, List.length_append, length_wireLabel] at hwire
  rw [loopAt_cons hb h0, hend, hnext, htext, hc, SizeT.ofChar_of_lt (by rw [hc]; exact hl.2), hc,
    if_neg (by omega), if_neg h.no_dot_dotted, copyLabel_wireLabel h, Except.ok_bind, loopAt,
    wire_concat, List.length_append, length_wireLabel, Nat.add_assoc]

/-- No buffer has room for a negative `char` as a length. -/
theorem copyLabel_of_huge (data : List UInt8) (qname : Int) (buf : List UInt8)
    (hc : 128 ≤ c.toNat) : ∃ e, copyLabel data qname (SizeT.ofChar c) buf = .error e := by
  rw [copyLabel]
  cases hdot : putDot buf with
  | error e => exact ⟨e, rfl⟩
  | ok buf' =>
      have hstore : store buf'.length (SizeT.ofChar c) =
          .error (.writeOutside (buf'.length + SizeT.ofChar c - 1)) := by
        rw [store, if_neg]
        rw [SizeT.ofChar_of_ge hc]
        unfold SizeT.modulus maxNameLen
        omega
      rw [Except.ok_bind, hstore]
      exact ⟨_, rfl⟩

/-- A length byte that is negative as a `char` passes the checks once there is enough text, and
then nothing fits. -/
theorem loopAt_signed (h : Copied data m ls (c :: rest)) (hm : m < 2 ^ 63) (hc : 128 ≤ c.toNat)
    (fuel : Nat) :
    if 256 - c.toNat ≤ (dotted ls).length ∧ (dotted ls).getLast? ≠ some dot then
      ∃ e, loopAt data m (fuel + 1) ls = .error e
    else loopAt data m (fuel + 1) ls = .ok none := by
  have h0 : c ≠ 0 := by
    rintro rfl
    exact absurd hc (by decide)
  have hlt := c.toNat_lt
  have ht := h.text_le
  have hw := length_wire_le h
  have hwm := h.wire_lt
  unfold maxNameLen at ht hw
  have hend : SizeT.ptrAdd 0 m = m := by
    rw [SizeT.ptrAdd_of_lt (by omega) (by omega)]
    omega
  have hnext : SizeT.ptrAdd (wire ls).length (SizeT.add (SizeT.ofChar c) 1) < m := by
    rw [SizeT.ofChar_of_ge hc]
    by_cases htop : c.toNat = 255
    · rw [SizeT.add_of_wrap, SizeT.ptrAdd_of_lt] <;> unfold SizeT.modulus <;> omega
    · rw [SizeT.add_of_lt, SizeT.ptrAdd_of_wrap] <;> unfold SizeT.modulus <;> omega
  rw [loopAt_cons h h0, hend]
  by_cases hroom : 256 - c.toNat ≤ (dotted ls).length
  · have hadd : SizeT.add (dotted ls).length (SizeT.ofChar c) =
        (dotted ls).length + c.toNat - 256 := by
      rw [SizeT.ofChar_of_ge hc, SizeT.add_of_wrap] <;> unfold SizeT.modulus <;> omega
    have hpass : ¬ ((m : Int) ≤ SizeT.ptrAdd (wire ls).length (SizeT.add (SizeT.ofChar c) 1) ∨
        maxNameLen < SizeT.add (dotted ls).length (SizeT.ofChar c)) := by
      rw [hadd]
      unfold maxNameLen
      omega
    rw [if_neg hpass]
    by_cases hdot : (dotted ls).getLast? = some dot
    · simp [hdot]
    · obtain ⟨e, he⟩ := copyLabel_of_huge data (wire ls).length (dotted ls) hc
      rw [if_pos ⟨hroom, hdot⟩, if_neg hdot, he]
      exact ⟨e, rfl⟩
  · have hadd : SizeT.add (dotted ls).length (SizeT.ofChar c) =
        (dotted ls).length + SizeT.ofChar c := by
      rw [SizeT.ofChar_of_ge hc, SizeT.add_of_lt]
      unfold SizeT.modulus
      omega
    have hreject : maxNameLen < SizeT.add (dotted ls).length (SizeT.ofChar c) := by
      rw [hadd, SizeT.ofChar_of_ge hc]
      unfold SizeT.modulus maxNameLen
      omega
    rw [if_pos (Or.inr hreject), if_neg (fun hbad => hroom hbad.1)]

/-- **What a round of the loop comes to** at a byte that is not zero: a length that is negative as
a `char` leaves the buffer; the name is refused; or a label is copied. -/
theorem loopAt_round (h : Copied data m ls (c :: rest)) (hm : m ≤ data.length)
    (hsize : m < 2 ^ 63) (h0 : c ≠ 0) (fuel : Nat) :
    ((128 ≤ c.toNat ∧ 256 - c.toNat ≤ (dotted ls).length ∧ (dotted ls).getLast? ≠ some dot) ∧
        ∃ e, loopAt data m (fuel + 1) ls = .error e) ∨
      loopAt data m (fuel + 1) ls = .ok none ∨
      ∃ l rest', Copied data m (ls ++ [l]) rest' ∧
        loopAt data m (fuel + 1) ls = loopAt data m fuel (ls ++ [l]) := by
  by_cases hc : c.toNat < 128
  · by_cases hdot : (dotted ls).getLast? = some dot
    · exact Or.inr (Or.inl (loopAt_dot h h0 hdot fuel))
    · by_cases hbig : m ≤ (wire ls).length + c.toNat + 1 ∨
        maxNameLen < (dotted ls).length + c.toNat
      · exact Or.inr (Or.inl (loopAt_reject h hsize h0 hc hbig fuel))
      · -- the label is complete: the round ends behind it
        have hlen := congrArg List.length h.data_eq
        rw [List.length_append, List.length_cons] at hlen
        have htake : (rest.take c.toNat).length = c.toNat := by
          rw [List.length_take]
          omega
        have hpos : c.toNat ≠ 0 := fun hz => h0 (UInt8.toNat_inj.1 hz)
        have hnext : Copied data m ls (wireLabel (rest.take c.toNat) ++ rest.drop c.toNat) := by
          rw [wireLabel, htake, UInt8.ofNat_toNat, List.cons_append, List.take_append_drop]
          exact h
        have hsnoc := hnext.snoc ⟨by omega, by omega⟩ (by omega) (by omega) hdot
        exact Or.inr (Or.inr ⟨_, _, hsnoc, loopAt_label hsnoc hsize fuel⟩)
  · have hsigned := loopAt_signed h hsize (by omega) fuel
    split at hsigned
    next hbad => exact Or.inl ⟨⟨by omega, hbad⟩, hsigned⟩
    next => exact Or.inr (Or.inl hsigned)

end Round

/-! ## Whole runs -/

section Runs

variable {data rest : List UInt8} {m : Nat} {ls : List (List UInt8)}

/-- **The decoder gets to the end of any labels it accepts.** -/
theorem loop_copied (h : Copied data m ls rest) (hm : m < 2 ^ 63) (fuel : Nat) :
    loopAt data m (ls.length + fuel) [] = loopAt data m fuel ls := by
  induction ls using List.reverseRecOn generalizing rest fuel with
  | nil => rw [List.length_nil, Nat.zero_add]
  | append_singleton ls l ih =>
      rw [List.length_append, List.length_singleton, Nat.add_assoc, Nat.add_comm 1,
        ih h.before (fuel + 1), loopAt_label h hm]

theorem qnameDecode_eq_loopAt (hm : 0 < m) (data : List UInt8) :
    qnameDecode data m =
      (loopAt data m (data.length + 1) []).map (fun buf => buf.map CStr.ofBytes) := by
  rw [qnameDecode, if_neg (by omega)]
  show _ = (qnameDecodeLoop data m (data.length + 1) 0 []).map _
  cases qnameDecodeLoop data m (data.length + 1) 0 [] <;> rfl

/-- The decoder, from the labels it has copied on. -/
theorem qnameDecode_copied (h : Copied data m ls rest) (hm : m ≤ data.length)
    (hsize : m < 2 ^ 63) : ∃ fuel, data.length < (wire ls).length + (fuel + 1) ∧
      qnameDecode data m = (loopAt data m (fuel + 1) ls).map (fun buf => buf.map CStr.ofBytes) := by
  have hlen := length_le_wire ls
  have hw := h.wire_lt
  refine ⟨data.length - ls.length, by omega, ?_⟩
  rw [qnameDecode_eq_loopAt (by omega), ← loop_copied h hsize]
  congr 2
  omega

end Runs

/-! ## What is encoded is decoded -/

theorem qnameEncodeLoop_eq_some {ls : List (List UInt8)} {buf b : List UInt8}
    (h : qnameEncodeLoop ls buf = some b) : (∀ l ∈ ls, 0 < l.length) ∧ b = buf ++ wire ls := by
  induction ls generalizing buf with
  | nil =>
      cases h
      simp
  | cons l ls ih =>
      rw [qnameEncodeLoop] at h
      split at h
      · cases h
      · obtain ⟨hls, rfl⟩ := ih h
        refine ⟨?_, by simp [wire]⟩
        intro x hx
        rcases List.mem_cons.1 hx with rfl | hx
        · omega
        · exact hls x hx

/-- Labels of text without a NUL have none on the wire either. -/
theorem noNul_wire {ls : List (List UInt8)} (hl : ∀ l ∈ ls, 0 < l.length ∧ l.length < 256)
    (h0 : ∀ l ∈ ls, (0 : UInt8) ∉ l) : (0 : UInt8) ∉ wire ls := by
  intro hmem
  obtain ⟨l, hls, hmem⟩ := List.mem_flatMap.1 hmem
  rcases List.mem_cons.1 hmem with hlen | hmem
  · have hnat := congrArg UInt8.toNat hlen
    rw [UInt8.toNat_ofNat', UInt8.toNat_zero] at hnat
    have hpos := (hl l hls).1
    have hlt := (hl l hls).2
    omega
  · exact h0 l hls hmem

/-- A domain that is encoded is not too long and has no empty label; its labels are what is
written. -/
theorem wire_of_qnameEncode {domain qname : CStr} (h : qnameEncode domain = some qname) :
    domain.len ≤ maxNameLen ∧ (∀ l ∈ domain.bytes.splitOn dot, 0 < l.length) ∧
      qname.bytes = wire (domain.bytes.splitOn dot) := by
  unfold qnameEncode at h
  split at h
  · cases h
  next hlen =>
      obtain ⟨buf, hbuf, rfl⟩ := Option.map_eq_some_iff.1 h
      obtain ⟨hpos, rfl⟩ := qnameEncodeLoop_eq_some hbuf
      refine ⟨Nat.not_lt.1 hlen, hpos, ?_⟩
      refine CStr.ofBytes_bytes_of_noNul (noNul_wire ?_ ?_)
      · intro l hl
        have hle := length_le_of_mem_splitOn hl
        unfold CStr.len maxNameLen at hlen
        exact ⟨hpos l hl, by omega⟩
      · intro l hl h0
        exact domain.noNul (mem_of_mem_splitOn hl h0)

/-- The same, with labels that are read back. -/
theorem qnameEncode_eq_some {domain qname : CStr} (h : qnameEncode domain = some qname)
    (hshort : ∀ l ∈ domain.bytes.splitOn dot, l.length < 128) :
    domain.len ≤ maxNameLen ∧ (∀ l ∈ domain.bytes.splitOn dot, IsLabel l) ∧
      qname.bytes = wire (domain.bytes.splitOn dot) := by
  obtain ⟨hlen, hpos, hq⟩ := wire_of_qnameEncode h
  exact ⟨hlen, fun l hl => ⟨hpos l hl, hshort l hl⟩, hq⟩

/-- The encoded name is one byte longer than its text. -/
theorem len_qnameEncode {domain qname : CStr} (h : qnameEncode domain = some qname) :
    qname.len = domain.len + 1 := by
  obtain ⟨-, -, hq⟩ := wire_of_qnameEncode h
  rw [CStr.len, hq, length_wire (List.splitOn_ne_nil dot domain.bytes), dotted,
    List.intercalate_splitOn, CStr.len]

/-- **A name is read back as it was written**, from any packet that starts with it. -/
theorem qnameDecode_qnameEncode {domain qname : CStr} (h : qnameEncode domain = some qname)
    (hshort : ∀ l ∈ domain.bytes.splitOn dot, l.length < 128) (rest : List UInt8) {m : Nat}
    (hlo : qname.len < m) (hhi : m ≤ (qname.bytes ++ 0 :: rest).length) (hsize : m < 2 ^ 63) :
    qnameDecode (qname.bytes ++ 0 :: rest) m = .ok (some domain) := by
  obtain ⟨hlen, hlabel, hq⟩ := qnameEncode_eq_some h hshort
  have htext : dotted (domain.bytes.splitOn dot) = domain.bytes := List.intercalate_splitOn dot
  have hcopied : Copied (qname.bytes ++ 0 :: rest) m (domain.bytes.splitOn dot) (0 :: rest) := by
    refine ⟨by rw [hq], hlabel, by rwa [← hq], ?_, ?_⟩
    · rw [htext]
      exact Nat.le_succ_of_le hlen
    · intro l hl hdot
      exact not_mem_of_mem_splitOn (List.mem_of_mem_dropLast hl) (List.mem_of_getLast? hdot)
  obtain ⟨fuel, -, hrun⟩ := qnameDecode_copied hcopied hhi hsize
  have hstore : store (dotted (domain.bytes.splitOn dot)).length 1 = .ok () := by
    rw [htext, store, if_pos]
    exact Nat.succ_le_succ hlen
  rw [hrun, loopAt_nul hcopied, hstore, htext]
  simp [Except.map]

end MdnsRfc
end OsmoHlr
