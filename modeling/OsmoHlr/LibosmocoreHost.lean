import OsmoHlr.Libosmocore

/-!
# libosmocore on a Linux host

One implementation of the assumed functions, which shows that their documented
behaviour can be met together.  IPv4 addresses are in dotted decimal; IPv6
addresses are written with all the digits of their eight groups.

* `Host.libosmocore` — the implementation.
-/

namespace OsmoHlr
namespace Host

open CString

/-! ## Digits of an identifier -/

/-- `osmo_imsi_str_valid` -/
def imsiStrValid (s : CStr) : Bool :=
  decide (6 ≤ s.len) && decide (s.len ≤ 15) && s.bytes.all Decimal.isDigit

/-- `osmo_msisdn_str_valid` -/
def msisdnStrValid (s : CStr) : Bool :=
  decide (1 ≤ s.len) && decide (s.len ≤ 15) && s.bytes.all Decimal.isDigit

/-! ## Value strings -/

/-- `get_value_string` -/
def getValueString (vs : List (Nat × CStr)) (v : Nat) : CStr :=
  match vs.find? (fun e => e.1 == v) with
  | some e => e.2
  | none => CStr.lit "unknown"

/-- `get_string_value` -/
def getStringValue (vs : List (Nat × CStr)) (s : CStr) : Int :=
  match vs.find? (fun e => caseEq e.2 s) with
  | some e => (e.1 : Int)
  | none => -22

/-! ## IPv4 -/

/-- `AF_INET` -/
def afInet : UInt16 := 2

/-- `'.'` -/
def dot : UInt8 := 46

/-- One number of an address: decimal, without leading zeros, at most 255. -/
def parseOctet (p : List UInt8) : Option UInt8 :=
  let v := Decimal.digitsValue p
  if v < 256 ∧ Decimal.printDec v = p then some (UInt8.ofNat v) else none

/-- Dotted decimal. -/
def printIn (a : List UInt8) : List UInt8 :=
  [dot].intercalate (a.map fun b => Decimal.printDec b.toNat)

theorem parseOctet_printDec (b : UInt8) : parseOctet (Decimal.printDec b.toNat) = some b := by
  have hb := b.toNat_lt
  rw [parseOctet, Decimal.digitsValue_printDec, if_pos ⟨by omega, rfl⟩, UInt8.ofNat_toNat]

/-- `inet_pton(AF_INET, ...)` -/
def parseIn (s : List UInt8) : Option (Octets 4) :=
  match (s.splitOn dot).mapM parseOctet with
  | some b => if h : b.length = 4 then some ⟨b, h⟩ else none
  | none => none

theorem mapM_parseOctet (a : List UInt8) :
    (a.map fun b => Decimal.printDec b.toNat).mapM parseOctet = some a := by
  induction a with
  | nil => rfl
  | cons b a ih => simp [List.mapM_cons, parseOctet_printDec, ih]

theorem parseIn_printIn (a : Octets 4) : parseIn (printIn a.val) = some a := by
  have hne : a.val.map (fun b => Decimal.printDec b.toNat) ≠ [] := by
    intro hnil
    have hlen := congrArg List.length hnil
    rw [List.length_map, a.property] at hlen
    cases hlen
  have hdot : ∀ l ∈ a.val.map (fun b => Decimal.printDec b.toNat), dot ∉ l := by
    intro l hl hmem
    obtain ⟨b, -, rfl⟩ := List.mem_map.1 hl
    exact Decimal.ne_of_mem_printDec hmem (by decide) rfl
  rw [parseIn, printIn, List.splitOn_intercalate dot hdot hne, mapM_parseOctet]
  exact dif_pos a.property

/-! ## IPv6 -/

/-- `AF_INET6` -/
def afInet6 : UInt16 := 10

/-- `':'` -/
def colon : UInt8 := 58

/-- A hexadecimal digit. -/
def hexDigit (d : Nat) : UInt8 := if d < 10 then UInt8.ofNat (48 + d) else UInt8.ofNat (87 + d)

/-- The value of a hexadecimal digit. -/
def hexValue (c : UInt8) : Option Nat :=
  if 48 ≤ c.toNat ∧ c.toNat ≤ 57 then some (c.toNat - 48)
  else if 97 ≤ c.toNat ∧ c.toNat ≤ 102 then some (c.toNat - 87)
  else none

theorem hexValue_hexDigit {d : Nat} (h : d < 16) : hexValue (hexDigit d) = some d := by
  interval_cases d <;> rfl

/-- The byte of two hexadecimal digits. -/
def hexByte (hi lo : Nat) : UInt8 := UInt8.ofNat (16 * hi + lo)

theorem hexByte_div_mod (x : UInt8) : hexByte (x.toNat / 16) (x.toNat % 16) = x := by
  rw [hexByte, Nat.div_add_mod, UInt8.ofNat_toNat]

/-- The groups of an address. -/
def printGroups : List UInt8 → List (List UInt8)
  | a :: b :: t => [hexDigit (a.toNat / 16), hexDigit (a.toNat % 16), hexDigit (b.toNat / 16),
      hexDigit (b.toNat % 16)] :: printGroups t
  | _ => []

/-- The bytes of the groups. -/
def parseGroups : List (List UInt8) → Option (List UInt8)
  | [] => some []
  | [a, b, c, d] :: t => do
      let a ← hexValue a
      let b ← hexValue b
      let c ← hexValue c
      let d ← hexValue d
      let t ← parseGroups t
      some (hexByte a b :: hexByte c d :: t)
  | _ => none

theorem parseGroups_printGroups :
    ∀ a : List UInt8, a.length % 2 = 0 → parseGroups (printGroups a) = some a
  | [], _ => rfl
  | [a], h => by simp at h
  | a :: b :: t, h => by
      have ha := a.toNat_lt
      have hb := b.toNat_lt
      have ht : t.length % 2 = 0 := by
        simp only [List.length_cons] at h
        omega
      simp [printGroups, parseGroups, hexValue_hexDigit (show a.toNat / 16 < 16 by omega),
        hexValue_hexDigit (Nat.mod_lt a.toNat (by decide : 0 < 16)),
        hexValue_hexDigit (show b.toNat / 16 < 16 by omega),
        hexValue_hexDigit (Nat.mod_lt b.toNat (by decide : 0 < 16)),
        parseGroups_printGroups t ht, hexByte_div_mod]

/-- Groups of four digits, with colons between them. -/
def printIn6 (a : List UInt8) : List UInt8 := [colon].intercalate (printGroups a)

/-- `inet_pton(AF_INET6, ...)` -/
def parseIn6 (s : List UInt8) : Option (Octets 16) :=
  match parseGroups (s.splitOn colon) with
  | some b => if h : b.length = 16 then some ⟨b, h⟩ else none
  | none => none

/-- Neither a NUL nor a colon is a hexadecimal digit. -/
theorem hexDigit_ne {d : Nat} (h : d < 16) : hexDigit d ≠ 0 ∧ hexDigit d ≠ colon := by
  interval_cases d <;> decide

theorem ne_of_mem_printGroups :
    ∀ a : List UInt8, ∀ g ∈ printGroups a, ∀ c ∈ g, c ≠ 0 ∧ c ≠ colon
  | [], g, hg, _, _ => by simp [printGroups] at hg
  | [a], g, hg, _, _ => by simp [printGroups] at hg
  | a :: b :: t, g, hg, c, hc => by
      have ha := a.toNat_lt
      have hb := b.toNat_lt
      rw [printGroups] at hg
      rcases List.mem_cons.1 hg with rfl | hg
      · simp only [List.mem_cons, List.not_mem_nil, or_false] at hc
        rcases hc with rfl | rfl | rfl | rfl <;> exact hexDigit_ne (by omega)
      · exact ne_of_mem_printGroups t g hg c hc

theorem parseIn6_printIn6 (a : Octets 16) : parseIn6 (printIn6 a.val) = some a := by
  have hne : printGroups a.val ≠ [] := by
    obtain ⟨l, hl⟩ := a
    match l, hl with
    | _ :: _ :: _, _ => simp [printGroups]
  have hcolon : ∀ g ∈ printGroups a.val, colon ∉ g := fun g hg hmem =>
    (ne_of_mem_printGroups a.val g hg colon hmem).2 rfl
  rw [parseIn6, printIn6, List.splitOn_intercalate colon hcolon hne,
    parseGroups_printGroups a.val (by rw [a.property])]
  exact dif_pos a.property

/-! ## Socket addresses -/

/-- `osmo_sockaddr_str_is_set` -/
def sockaddrStrIsSet (a : SockaddrStr) : Bool :=
  decide (0 < a.ip.len) && decide (a.port ≠ 0) && (a.af == afInet || a.af == afInet6)

/-- `osmo_sockaddr_str_from_32` -/
def sockaddrStrFrom32 (a : Octets 4) (port : UInt16) : SockaddrStr :=
  ⟨afInet, CStr.ofBytes (printIn a.val), port⟩

/-- `osmo_sockaddr_str_from_in6_addr` -/
def sockaddrStrFromIn6Addr (a : Octets 16) (port : UInt16) : SockaddrStr :=
  ⟨afInet6, CStr.ofBytes (printIn6 a.val), port⟩

/-- `osmo_sockaddr_str_to_in_addr` -/
def sockaddrStrToInAddr (a : SockaddrStr) : Option (Octets 4) :=
  if a.af = afInet then parseIn a.ip.bytes else none

/-- `osmo_sockaddr_str_to_in6_addr` -/
def sockaddrStrToIn6Addr (a : SockaddrStr) : Option (Octets 16) :=
  if a.af = afInet6 then parseIn6 a.ip.bytes else none

theorem bytes_printIn (a : List UInt8) : (CStr.ofBytes (printIn a)).bytes = printIn a := by
  refine CStr.ofBytes_bytes_of_noNul ?_
  intro hmem
  have hmem' : (0 : UInt8) ∈ dot :: (a.map fun b => Decimal.printDec b.toNat).flatten := by
    rw [printIn] at hmem
    exact mem_of_mem_intercalate hmem
  rcases List.mem_cons.1 hmem' with h | h
  · exact absurd h (by decide)
  · obtain ⟨l, hl, h0⟩ := List.mem_flatten.1 h
    obtain ⟨b, -, rfl⟩ := List.mem_map.1 hl
    exact Decimal.ne_of_mem_printDec h0 (by decide) rfl

theorem bytes_printIn6 (a : List UInt8) : (CStr.ofBytes (printIn6 a)).bytes = printIn6 a := by
  refine CStr.ofBytes_bytes_of_noNul ?_
  intro hmem
  rcases List.mem_cons.1 (mem_of_mem_intercalate hmem) with h | h
  · exact absurd h (by decide)
  · obtain ⟨g, hg, h0⟩ := List.mem_flatten.1 h
    exact (ne_of_mem_printGroups a g hg 0 h0).1 rfl

/-- **The assumed functions can be had together.** -/
def libosmocore : Libosmocore where
  imsiMaxDigits := 15
  msisdnMaxDigits := 15
  imsiStrValid := imsiStrValid
  msisdnStrValid := msisdnStrValid
  getValueString := getValueString
  getStringValue := getStringValue
  strnchr b c := (CStr.ofBytes b).bytes.idxOf? c
  printN size b := (CStr.ofBytes b).take (size - 1)
  emptyAlloc := 0
  sockaddrStrIsSet := sockaddrStrIsSet
  sockaddrStrToInAddr := sockaddrStrToInAddr
  sockaddrStrToIn6Addr := sockaddrStrToIn6Addr
  sockaddrStrFrom32 := sockaddrStrFrom32
  sockaddrStrFromIn6Addr := sockaddrStrFromIn6Addr
  max_digits_le := ⟨le_refl _, le_refl _⟩
  imsi_digits := by
    intro s h
    simp only [imsiStrValid, Bool.and_eq_true, decide_eq_true_eq, List.all_eq_true] at h
    exact ⟨h.2, by omega, h.1.2⟩
  msisdn_digits := by
    intro s h
    simp only [msisdnStrValid, Bool.and_eq_true, decide_eq_true_eq, List.all_eq_true] at h
    exact ⟨h.2, by omega, h.1.2⟩
  value_string := by
    intro vs v s h
    rw [getValueString, h]
  string_value := fun _ _ => rfl
  strnchr_first := by
    intro b c h
    rw [CStr.ofBytes_bytes_of_noNul h]
  print_fits := by
    intro size b h hlen
    rw [CStr.bytes_take, CStr.ofBytes_bytes_of_noNul h, List.take_of_length_le (by omega)]
  print_len := by
    intro size b h
    have := List.length_take_le (size - 1) (CStr.ofBytes b).bytes
    rw [CStr.len, CStr.bytes_take]
    omega
  is_set_zero := by decide
  port_of_is_set := by
    intro a h
    simp only [sockaddrStrIsSet, Bool.and_eq_true, decide_eq_true_eq] at h
    exact h.1.2
  is_set_from_32 := by
    intro a p q
    have hpos : 0 < (CStr.ofBytes (printIn a.val)).len := by
      rw [CStr.len, bytes_printIn]
      refine List.length_pos_of_ne_nil fun hnil => ?_
      have hparse := parseIn_printIn a
      rw [hnil] at hparse
      cases hparse
    simp [sockaddrStrIsSet, sockaddrStrFrom32, hpos]
  is_set_from_in6_addr := by
    intro a p q
    have hpos : 0 < (CStr.ofBytes (printIn6 a.val)).len := by
      rw [CStr.len, bytes_printIn6]
      refine List.length_pos_of_ne_nil fun hnil => ?_
      have hparse := parseIn6_printIn6 a
      rw [hnil] at hparse
      cases hparse
    simp [sockaddrStrIsSet, sockaddrStrFromIn6Addr, hpos]
  in_addr_from_32 := by
    intro a p q
    simp [sockaddrStrToInAddr, sockaddrStrFrom32, bytes_printIn, parseIn_printIn]
  in6_addr_from_in6_addr := by
    intro a p q
    simp [sockaddrStrToIn6Addr, sockaddrStrFromIn6Addr, bytes_printIn6, parseIn6_printIn6]

end Host
end OsmoHlr
