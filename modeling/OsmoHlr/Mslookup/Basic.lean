import OsmoHlr.Lib.Except
import OsmoHlr.Lib.SizeT
import OsmoHlr.Libosmocore

/-!
# mslookup: identifiers, queries and results

`src/mslookup/mslookup.c` and the types of `mslookup.h`: what is looked up, what
comes back, and the textual form `service.id.type` of a query.

* `queryInitFromDomainStr` — `osmo_mslookup_query_init_from_domain_str`, with the
  error codes of the source.
* `queryInit_eq_ok_iff` — the scan from the right finds the last two dots; what is
  accepted, and what is kept of the three parts.
* `queryInit_domainStr` — the parser recovers service, type and digits of a
  valid query from its text, although the service may contain dots.
* `queryInit_valid` — what the parser accepts is a valid query.
-/

namespace OsmoHlr
namespace Mslookup

open CString

/-- `'.'` -/
def dot : UInt8 := 46

/-- `OSMO_MSLOOKUP_SERVICE_MAXLEN` -/
def serviceMaxlen : Nat := 64

/-- `struct osmo_mslookup_id`: the type and the member of the union it selects. -/
inductive Id where
  | none
  | imsi (digits : CStr)
  | msisdn (digits : CStr)
  deriving DecidableEq

/-- `enum osmo_mslookup_id_type` -/
def Id.type : Id → Nat
  | .none => 0
  | .imsi _ => 1
  | .msisdn _ => 2

/-- `osmo_mslookup_id_type_names` -/
def idTypeNames : List (Nat × CStr) :=
  [(0, CStr.lit "none"), (1, CStr.lit "imsi"), (2, CStr.lit "msisdn")]

/-- `struct osmo_mslookup_query`, without the caller's `priv`. -/
structure Query where
  service : CStr
  id : Id
  deriving DecidableEq

/-- `enum osmo_mslookup_result_code` -/
inductive ResultCode where
  | none
  | result
  | notFound
  deriving DecidableEq

/-- `struct osmo_mslookup_result` -/
structure Result where
  rc : ResultCode
  hostV4 : SockaddrStr
  hostV6 : SockaddrStr
  age : UInt32
  last : Bool
  deriving DecidableEq

/-- `(struct osmo_mslookup_result){}` -/
def Result.zero : Result := ⟨.none, SockaddrStr.zero, SockaddrStr.zero, 0, false⟩

instance : Inhabited Result := ⟨Result.zero⟩

/-! ## Validity -/

variable (lib : Libosmocore)

/-- `osmo_mslookup_id_valid` -/
def idValid : Id → Bool
  | .imsi digits => lib.imsiStrValid digits
  | .msisdn digits => lib.msisdnStrValid digits
  | .none => false

/-- `osmo_mslookup_service_valid` -/
def serviceValid (service : CStr) : Bool := decide (0 < service.len)

/-- `osmo_mslookup_id_type_name` -/
def idTypeName (type : Nat) : CStr := lib.getValueString idTypeNames type

/-- A query a user may ask: a service that fits its buffer, and a valid identifier. -/
structure ValidQuery (q : Query) : Prop where
  service_pos : 0 < q.service.len
  service_le : q.service.len ≤ serviceMaxlen
  id_valid : idValid lib q.id = true

/-! ## Comparing identifiers -/

/-- `strncmp`: the sign of the first difference in `n` characters. -/
def strncmp : Nat → List UInt8 → List UInt8 → Int
  | 0, _, _ => 0
  | _ + 1, [], [] => 0
  | _ + 1, [], _ :: _ => -1
  | _ + 1, _ :: _, [] => 1
  | n + 1, x :: xs, y :: ys => if x = y then strncmp n xs ys else if x < y then -1 else 1

/-- `OSMO_CMP` -/
def osmoCmp (a b : Nat) : Int := if a < b then -1 else if b < a then 1 else 0

/-- `osmo_mslookup_id_cmp`; `none` is a null pointer. -/
def idCmp : Option Id → Option Id → Int
  | .none, .none => 0
  | .none, some _ => -1
  | some _, .none => 1
  | some a, some b =>
      let cmp := osmoCmp a.type b.type
      if cmp ≠ 0 then cmp
      else
        match a, b with
        | .imsi x, .imsi y => strncmp (lib.imsiMaxDigits + 1) x.bytes y.bytes
        | .msisdn x, .msisdn y => strncmp (lib.msisdnMaxDigits + 1) x.bytes y.bytes
        | _, _ => 0

theorem strncmp_eq_zero_iff {n : Nat} {a b : List UInt8} (ha : a.length < n) (hb : b.length < n) :
    strncmp n a b = 0 ↔ a = b := by
  induction n generalizing a b with
  | zero => omega
  | succ n ih =>
      cases a with
      | nil => cases b <;> simp [strncmp]
      | cons x xs =>
          cases b with
          | nil => simp [strncmp]
          | cons y ys =>
              simp only [List.length_cons] at ha hb
              by_cases h : x = y
              · subst h
                simpa [strncmp] using ih (by omega) (by omega)
              · by_cases hlt : x < y <;> simp [strncmp, h, hlt]

/-- Valid identifiers compare equal only when they are. -/
theorem idCmp_eq_zero_iff {a b : Id} (ha : idValid lib a = true) (hb : idValid lib b = true) :
    idCmp lib (some a) (some b) = 0 ↔ a = b := by
  cases a with
  | none => simp [idValid] at ha
  | imsi x =>
      cases b with
      | none => simp [idValid] at hb
      | imsi y =>
          obtain ⟨-, -, hx⟩ := lib.imsi_digits x ha
          obtain ⟨-, -, hy⟩ := lib.imsi_digits y hb
          simp only [idCmp, Id.type, osmoCmp, lt_irrefl, if_false, ne_eq, not_true_eq_false]
          rw [strncmp_eq_zero_iff (Nat.lt_succ_of_le hx) (Nat.lt_succ_of_le hy), Id.imsi.injEq,
            CStr.ext_iff]
      | msisdn y => simp [idCmp, Id.type, osmoCmp]
  | msisdn x =>
      cases b with
      | none => simp [idValid] at hb
      | imsi y => simp [idCmp, Id.type, osmoCmp]
      | msisdn y =>
          obtain ⟨-, -, hx⟩ := lib.msisdn_digits x ha
          obtain ⟨-, -, hy⟩ := lib.msisdn_digits y hb
          simp only [idCmp, Id.type, osmoCmp, lt_irrefl, if_false, ne_eq, not_true_eq_false]
          rw [strncmp_eq_zero_iff (Nat.lt_succ_of_le hx) (Nat.lt_succ_of_le hy), Id.msisdn.injEq,
            CStr.ext_iff]

/-! ## The domain string -/

/-- `token`: the characters from `start` up to `stop`, if they fit `dest_size`.  Their number is an
`int`. -/
def token (destSize : Nat) (s : CStr) (start stop : Nat) : Except Int CStr :=
  if stop ≤ start then .error (-10)
  else
    let len := SizeT.toInt (stop - start)
    -- compared as a `size_t`, a negative length is too large
    if len < 0 ∨ (destSize : Int) ≤ len then .error (-11)
    else .ok ((s.drop start).take len.toNat)

/-- What a token is, for a buffer that an `int` can tell the size of. -/
theorem token_eq {n : Nat} (hn : n ≤ 2 ^ 31) (s : CStr) (start stop : Nat) :
    token n s start stop =
      if stop ≤ start then .error (-10)
      else if n ≤ (stop - start) % 2 ^ 32 then .error (-11)
      else .ok ((s.drop start).take ((stop - start) % 2 ^ 32)) := by
  unfold token
  rcases SizeT.toInt_cases (stop - start) with ⟨hlt, hlen⟩ | ⟨hge, hneg⟩
  · have hneg : ¬(((stop - start) % 2 ^ 32 : Nat) : Int) < 0 := by omega
    simp only [hlen, hneg, false_or, Int.toNat_natCast, Nat.cast_le]
  · simp only
    rw [if_pos (Or.inl hneg), if_pos (hn.trans hge)]

/-- `for (second_last_dot = last_dot - 1; second_last_dot > domain && *second_last_dot != '.';
second_last_dot--);`, started at the given index. -/
def scanBack (s : List UInt8) : Nat → Nat
  | 0 => 0
  | i + 1 => if s.getD (i + 1) 0 = dot then i + 1 else scanBack s i

/-- `osmo_mslookup_query_init_from_domain_str`; `none` is a null pointer. -/
def queryInitFromDomainStr : Option CStr → Except Int Query
  | none => .error (-1)
  | some domain =>
      match strrchr dot domain.bytes with
      | none => .error (-2)
      | some lastDot =>
          if lastDot = 0 then .error (-3)
          else
            let secondLastDot := scanBack domain.bytes (lastDot - 1)
            if secondLastDot = 0 ∨ domain.bytes.getD secondLastDot 0 ≠ dot then .error (-3)
            else
              let idType := domain.drop (lastDot + 1)
              if idType.len = 0 then .error (-4)
              else
                let type := lib.getStringValue idTypeNames idType
                if type = 1 then do
                  let imsi ← token (lib.imsiMaxDigits + 1) domain (secondLastDot + 1) lastDot
                  if !lib.imsiStrValid imsi then .error (-5)
                  else do
                    let service ← token (serviceMaxlen + 1) domain 0 secondLastDot
                    .ok ⟨service, .imsi imsi⟩
                else if type = 2 then do
                  let msisdn ← token (lib.msisdnMaxDigits + 1) domain (secondLastDot + 1) lastDot
                  if !lib.msisdnStrValid msisdn then .error (-6)
                  else do
                    let service ← token (serviceMaxlen + 1) domain 0 secondLastDot
                    .ok ⟨service, .msisdn msisdn⟩
                else .error (-7)

/-- The digits of an identifier. -/
def Id.digits : Id → CStr
  | .none => CStr.empty
  | .imsi digits => digits
  | .msisdn digits => digits

/-- The text `service.id.type` of a query. -/
def domainStr (q : Query) : CStr :=
  q.service ++ CStr.lit "." ++ q.id.digits ++ CStr.lit "." ++ idTypeName lib q.id.type

theorem bytes_lit_dot : (CStr.lit ".").bytes = [dot] := by decide

theorem idTypeName_imsi : idTypeName lib 1 = CStr.lit "imsi" :=
  lib.value_string idTypeNames 1 (CStr.lit "imsi") (by decide)

theorem idTypeName_msisdn : idTypeName lib 2 = CStr.lit "msisdn" :=
  lib.value_string idTypeNames 2 (CStr.lit "msisdn") (by decide)

theorem getStringValue_imsi : lib.getStringValue idTypeNames (CStr.lit "imsi") = 1 := by
  rw [lib.string_value]
  decide

theorem getStringValue_msisdn : lib.getStringValue idTypeNames (CStr.lit "msisdn") = 2 := by
  rw [lib.string_value]
  decide

/-- A valid identifier is a non-empty run of digits. -/
theorem digits_of_idValid {id : Id} (h : idValid lib id = true) :
    (∀ c ∈ id.digits.bytes, Decimal.isDigit c = true) ∧ 0 < id.digits.len := by
  cases id with
  | none => simp [idValid] at h
  | imsi digits => exact ⟨(lib.imsi_digits digits h).1, (lib.imsi_digits digits h).2.1⟩
  | msisdn digits => exact ⟨(lib.msisdn_digits digits h).1, (lib.msisdn_digits digits h).2.1⟩

theorem dot_not_mem_digits {id : Id} (h : idValid lib id = true) : dot ∉ id.digits.bytes := by
  intro hdot
  exact absurd ((digits_of_idValid lib h).1 dot hdot) (by decide)

/-- Walking back over a piece without dots ends at the dot in front of it. -/
theorem scanBack_append {a b rest : List UInt8} (hb : dot ∉ b) :
    ∀ k ≤ b.length, scanBack (a ++ dot :: (b ++ rest)) (a.length + k) = a.length := by
  intro k
  induction k with
  | zero =>
      intro _
      cases ha : a.length with
      | zero => rfl
      | succ n =>
          have hget : (a ++ dot :: (b ++ rest)).getD (n + 1) 0 = dot := by
            simp [List.getD_eq_getElem?_getD, ← ha]
          rw [Nat.add_zero, scanBack, if_pos hget]
  | succ k ih =>
      intro hk
      have hget : (a ++ dot :: (b ++ rest)).getD (a.length + k + 1) 0 = b.getD k 0 := by
        rw [List.getD_eq_getElem?_getD, List.getElem?_append_right (by omega),
          show a.length + k + 1 - a.length = k + 1 by omega, List.getElem?_cons_succ,
          List.getElem?_append_left (by omega), List.getD_eq_getElem?_getD]
      have hne : b.getD k 0 ≠ dot := by
        intro hc
        apply hb
        rw [List.getD_eq_getElem?_getD, List.getElem?_eq_getElem (by omega), Option.getD_some] at hc
        rw [← hc]
        exact List.getElem_mem _
      rw [← Nat.add_assoc, scanBack, hget, if_neg hne]
      exact ih (by omega)

/-- What an `int` length leaves of a part. -/
def kept (part : CStr) : CStr := part.take (part.len % 2 ^ 32)

@[simp] theorem len_kept (part : CStr) : (kept part).len = part.len % 2 ^ 32 := by
  rw [kept, CStr.len, CStr.bytes_take, List.length_take]
  exact Nat.min_eq_left (Nat.mod_le _ _)

theorem kept_of_lt {part : CStr} (h : part.len < 2 ^ 32) : kept part = part := by
  refine CStr.ext ?_
  rw [kept, Nat.mod_eq_of_lt h, CStr.bytes_take, CStr.len, List.take_length]

/-- `token` of a whole part. -/
def tokenOf (n : Nat) (part : CStr) : Except Int CStr :=
  if part.len = 0 then .error (-10)
  else if n ≤ part.len % 2 ^ 32 then .error (-11)
  else .ok (kept part)

/-- Cutting a part out of a string. -/
theorem token_part {n : Nat} {s part : CStr} {a c : List UInt8}
    (h : s.bytes = a ++ (part.bytes ++ c)) (hsize : n ≤ 2 ^ 31) :
    token n s a.length (a.length + part.len) = tokenOf n part := by
  have hpiece : ∀ k ≤ part.len, (s.drop a.length).take k = part.take k := by
    intro k hk
    refine CStr.ext ?_
    rw [CStr.bytes_take, CStr.bytes_drop, h, List.drop_left, List.take_append_of_le_length hk,
      CStr.bytes_take]
  have hiff : a.length + part.len ≤ a.length ↔ part.len = 0 := by omega
  rw [token_eq hsize, Nat.add_sub_cancel_left, hpiece _ (Nat.mod_le _ _)]
  simp only [hiff, tokenOf, kept]

theorem tokenOf_eq_ok_iff {n : Nat} {part t : CStr} :
    tokenOf n part = .ok t ↔ 0 < part.len ∧ (kept part).len < n ∧ t = kept part := by
  rw [tokenOf, len_kept]
  split
  · simp only [reduceCtorEq, false_iff]
    omega
  · split
    · simp only [reduceCtorEq, false_iff]
      omega
    · rw [Except.ok.injEq, eq_comm]
      exact ⟨fun ht => ⟨by omega, by omega, ht⟩, fun ht => ht.2.2⟩

/-- The string is `service.id.type`, cut at its last two dots. -/
structure Parts (domain service id type : CStr) : Prop where
  text : domain.bytes = service.bytes ++ dot :: (id.bytes ++ dot :: type.bytes)
  id_dot : dot ∉ id.bytes
  type_dot : dot ∉ type.bytes

/-- What the parser makes of the three parts. -/
def ofParts (service id type : CStr) : Except Int Query :=
  if type.len = 0 then .error (-4)
  else
    let type := lib.getStringValue idTypeNames type
    if type = 1 then do
      let imsi ← tokenOf (lib.imsiMaxDigits + 1) id
      if !lib.imsiStrValid imsi then .error (-5)
      else do
        let service ← tokenOf (serviceMaxlen + 1) service
        .ok ⟨service, .imsi imsi⟩
    else if type = 2 then do
      let msisdn ← tokenOf (lib.msisdnMaxDigits + 1) id
      if !lib.msisdnStrValid msisdn then .error (-6)
      else do
        let service ← tokenOf (serviceMaxlen + 1) service
        .ok ⟨service, .msisdn msisdn⟩
    else .error (-7)

/-- **The two scans find the last two dots.** -/
theorem queryInit_parts {domain service id type : CStr} (h : Parts domain service id type)
    (hpos : 0 < service.len) :
    queryInitFromDomainStr lib (some domain) = ofParts lib service id type := by
  obtain ⟨htext, hid, htype⟩ := h
  have hlast : strrchr dot domain.bytes = some (service.len + 1 + id.len) := by
    rw [htext, ← List.cons_append, ← List.append_assoc, strrchr_append_cons _ htype]
    simp [CStr.len]
    omega
  have hscan : scanBack domain.bytes (service.len + 1 + id.len - 1) = service.len := by
    rw [show service.len + 1 + id.len - 1 = service.bytes.length + id.len by
      simp only [CStr.len]; omega, htext]
    exact scanBack_append hid _ (le_refl _)
  have hget : domain.bytes.getD service.len 0 = dot := by
    simp [htext, List.getD_eq_getElem?_getD, CStr.len]
  have hdrop : domain.drop (service.len + 1 + id.len + 1) = type := by
    have hsplit : domain.bytes = (service.bytes ++ dot :: (id.bytes ++ [dot])) ++ type.bytes := by
      simp [htext]
    have hlen : (service.bytes ++ dot :: (id.bytes ++ [dot])).length =
        service.len + 1 + id.len + 1 := by
      simp only [CStr.len, List.length_append, List.length_cons, List.length_nil]
      omega
    refine CStr.ext ?_
    rw [CStr.bytes_drop, hsplit]
    exact List.drop_left' hlen
  have htok : ∀ n ≤ 16, token n domain (service.len + 1) (service.len + 1 + id.len) =
      tokenOf n id := by
    intro n hn
    have hpiece : domain.bytes = (service.bytes ++ [dot]) ++ (id.bytes ++ dot :: type.bytes) := by
      simp [htext]
    have := token_part hpiece (Nat.le_trans hn (by decide))
    simpa [CStr.len] using this
  have hserv : token (serviceMaxlen + 1) domain 0 service.len =
      tokenOf (serviceMaxlen + 1) service := by
    have hpiece : domain.bytes = [] ++ (service.bytes ++ dot :: (id.bytes ++ dot :: type.bytes)) :=
      htext
    have := token_part hpiece (show serviceMaxlen + 1 ≤ 2 ^ 31 by decide)
    simpa using this
  have hlastne : service.len + 1 + id.len ≠ 0 := by omega
  rw [queryInitFromDomainStr, hlast]
  simp only [if_neg hlastne, hscan, hget, hdrop, hserv,
    htok _ (Nat.succ_le_succ lib.max_digits_le.1), htok _ (Nat.succ_le_succ lib.max_digits_le.2)]
  rw [if_neg (by simp; omega), ofParts]

theorem bytes_domainStr (q : Query) : (domainStr lib q).bytes =
    q.service.bytes ++ dot :: (q.id.digits.bytes ++ dot :: (idTypeName lib q.id.type).bytes) := by
  simp [domainStr, bytes_lit_dot]

/-- No identifier is longer than its buffer. -/
theorem len_digits_le {id : Id} (h : idValid lib id = true) : id.digits.len ≤ 15 := by
  cases id with
  | none => simp [idValid] at h
  | imsi digits => exact (lib.imsi_digits digits h).2.2.trans lib.max_digits_le.1
  | msisdn digits => exact (lib.msisdn_digits digits h).2.2.trans lib.max_digits_le.2

/-- What the parser keeps of the three parts, when it takes the string. -/
structure Reads (service id type : CStr) (i : Id) : Prop where
  type_eq : lib.getStringValue idTypeNames type = i.type
  digits_eq : i.digits = kept id
  id_valid : idValid lib i = true
  service_pos : 0 < service.len
  service_le : (kept service).len ≤ serviceMaxlen

/-- A name in a table of value strings is one of its names but for the case. -/
theorem caseEq_of_getStringValue {vs : List (Nat × CStr)} {s : CStr} {v : Nat}
    (h : lib.getStringValue vs s = v) : ∃ e ∈ vs, caseEq e.2 s = true := by
  rw [lib.string_value] at h
  cases hfind : vs.find? fun e => caseEq e.2 s with
  | none =>
      rw [hfind] at h
      simp only at h
      omega
  | some e => exact ⟨e, List.mem_of_find?_eq_some hfind, by simpa using List.find?_some hfind⟩

/-- No name of a type is empty, and none contains a dot. -/
theorem type_of_getStringValue {type : CStr} {v : Nat}
    (h : lib.getStringValue idTypeNames type = v) : dot ∉ type.bytes ∧ 0 < type.len := by
  obtain ⟨e, he, hcase⟩ := caseEq_of_getStringValue lib h
  have hbytes : e.2.bytes.map toLower = type.bytes.map toLower := by simpa [caseEq] using hcase
  have hnames : ∀ e ∈ idTypeNames,
      dot ∉ e.2.bytes.map toLower ∧ 0 < (e.2.bytes.map toLower).length := by decide
  obtain ⟨hdot, hlen⟩ := hnames e he
  rw [hbytes] at hdot hlen
  constructor
  · intro hmem
    exact hdot (List.mem_map.2 ⟨dot, hmem, by decide⟩)
  · simpa [CStr.len] using hlen

/-- **What the parser makes of three parts**: the type decides how the digits are read, and both
buffers are filled with what is kept of a part. -/
theorem ofParts_eq_ok_iff {service id type : CStr} {q : Query} :
    ofParts lib service id type = .ok q ↔
      Reads lib service id type q.id ∧ q.service = kept service := by
  obtain ⟨name, i⟩ := q
  constructor
  · intro h
    rw [ofParts] at h
    split at h
    · cases h
    · simp only at h
      split at h
      · rename_i ht
        obtain ⟨imsi, himsi, h⟩ := Except.bind_eq_ok.1 h
        split at h
        · cases h
        · rename_i hvalid
          obtain ⟨service', hserv, h⟩ := Except.bind_eq_ok.1 h
          cases h
          obtain ⟨-, -, rfl⟩ := tokenOf_eq_ok_iff.1 himsi
          obtain ⟨hpos, hlen, rfl⟩ := tokenOf_eq_ok_iff.1 hserv
          exact ⟨⟨ht, rfl, by simpa [idValid] using hvalid, hpos, Nat.le_of_lt_succ hlen⟩, rfl⟩
      · split at h
        · rename_i ht
          obtain ⟨msisdn, hmsisdn, h⟩ := Except.bind_eq_ok.1 h
          split at h
          · cases h
          · rename_i hvalid
            obtain ⟨service', hserv, h⟩ := Except.bind_eq_ok.1 h
            cases h
            obtain ⟨-, -, rfl⟩ := tokenOf_eq_ok_iff.1 hmsisdn
            obtain ⟨hpos, hlen, rfl⟩ := tokenOf_eq_ok_iff.1 hserv
            exact ⟨⟨ht, rfl, by simpa [idValid] using hvalid, hpos, Nat.le_of_lt_succ hlen⟩, rfl⟩
        · cases h
  · rintro ⟨⟨ht, hdigits, hvalid, hpos, hlen⟩, rfl⟩
    have hserv : tokenOf (serviceMaxlen + 1) service = .ok (kept service) :=
      tokenOf_eq_ok_iff.2 ⟨hpos, Nat.lt_succ_of_le hlen, rfl⟩
    have hidpos := (digits_of_idValid lib hvalid).2
    have hid : 0 < id.len := by
      rw [hdigits, len_kept] at hidpos
      exact Nat.lt_of_lt_of_le hidpos (Nat.mod_le _ _)
    have htype := (type_of_getStringValue lib ht).2
    rw [ofParts, if_neg (by omega)]
    cases i with
    | none => simp [idValid] at hvalid
    | imsi digits =>
        obtain rfl : digits = kept id := hdigits
        have hmax := (lib.imsi_digits _ hvalid).2.2
        have htok : tokenOf (lib.imsiMaxDigits + 1) id = .ok (kept id) :=
          tokenOf_eq_ok_iff.2 ⟨hid, Nat.lt_succ_of_le hmax, rfl⟩
        have hvalid' : lib.imsiStrValid (kept id) = true := hvalid
        simp [ht, Id.type, htok, hvalid', hserv]
    | msisdn digits =>
        obtain rfl : digits = kept id := hdigits
        have hmax := (lib.msisdn_digits _ hvalid).2.2
        have htok : tokenOf (lib.msisdnMaxDigits + 1) id = .ok (kept id) :=
          tokenOf_eq_ok_iff.2 ⟨hid, Nat.lt_succ_of_le hmax, rfl⟩
        have hvalid' : lib.msisdnStrValid (kept id) = true := hvalid
        simp [ht, Id.type, htok, hvalid', hserv]

/-- Where the scan for the second last dot ends. -/
theorem scanBack_spec (s : List UInt8) (i : Nat) :
    scanBack s i ≤ i ∧ ∀ j, scanBack s i < j → j ≤ i → s.getD j 0 ≠ dot := by
  induction i with
  | zero => exact ⟨le_refl _, fun j hj hle => absurd hle (by rw [scanBack] at hj; omega)⟩
  | succ i ih =>
      rw [scanBack]
      split
      · exact ⟨le_refl _, fun j hj hle => absurd hle (by omega)⟩
      · rename_i hne
        refine ⟨Nat.le_succ_of_le ih.1, ?_⟩
        intro j hj hle
        rcases Nat.lt_or_eq_of_le hle with hlt | rfl
        · exact ih.2 j hj (by omega)
        · exact hne

/-- A string with two dots after its first character is cut at the last two. -/
theorem parts_of_scan {domain : CStr} {lastDot : Nat}
    (hlast : strrchr dot domain.bytes = some lastDot) (hpos : lastDot ≠ 0)
    (hne : scanBack domain.bytes (lastDot - 1) ≠ 0)
    (hdot : domain.bytes.getD (scanBack domain.bytes (lastDot - 1)) 0 = dot) :
    ∃ service id type, Parts domain service id type ∧ 0 < service.len := by
  obtain ⟨a, b, hab, rfl, hb⟩ := eq_of_strrchr hlast
  obtain ⟨hle, hafter⟩ := scanBack_spec domain.bytes (a.length - 1)
  set k := scanBack domain.bytes (a.length - 1) with hk
  have hka : k < a.length := by omega
  have hget : ∀ j < a.length, domain.bytes.getD j 0 = a.getD j 0 := by
    intro j hj
    rw [hab, List.getD_eq_getElem?_getD, List.getElem?_append_left hj, List.getD_eq_getElem?_getD]
  have hak : a[k] = dot := by
    rw [hget k hka, List.getD_eq_getElem?_getD, List.getElem?_eq_getElem hka, Option.getD_some]
      at hdot
    exact hdot
  have hsplit : a = a.take k ++ dot :: a.drop (k + 1) := by
    rw [← hak, ← List.drop_eq_getElem_cons hka, List.take_append_drop]
  have hbytes : domain.bytes = a.take k ++ dot :: (a.drop (k + 1) ++ dot :: b) := by
    rw [hab]
    nth_rewrite 1 [hsplit]
    simp
  have hnul := domain.noNul
  rw [hbytes] at hnul
  simp only [List.mem_append, List.mem_cons, not_or] at hnul
  refine ⟨⟨a.take k, hnul.1⟩, ⟨a.drop (k + 1), hnul.2.2.1⟩, ⟨b, hnul.2.2.2.2⟩,
    ⟨hbytes, ?_, hb⟩, ?_⟩
  · intro hmem
    obtain ⟨j, hj, hdotj⟩ := List.mem_iff_getElem.1 hmem
    rw [List.length_drop] at hj
    have hjlt : k + 1 + j < a.length := by omega
    refine hafter (k + 1 + j) (by omega) (by omega) ?_
    rw [hget _ hjlt, List.getD_eq_getElem?_getD, List.getElem?_eq_getElem hjlt, Option.getD_some,
      ← hdotj, List.getElem_drop]
  · simp only [CStr.len, List.length_take]
    omega

/-- **What the parser accepts**: a service, an identifier and a type, of which it keeps as much as
an `int` counts. -/
theorem queryInit_eq_ok_iff {domain : CStr} {q : Query} :
    queryInitFromDomainStr lib (some domain) = .ok q ↔ ∃ service id type,
      Parts domain service id type ∧ Reads lib service id type q.id ∧ q.service = kept service := by
  constructor
  · intro h
    have hparts : ∃ service id type, Parts domain service id type ∧ 0 < service.len := by
      rw [queryInitFromDomainStr] at h
      split at h
      · cases h
      · rename_i lastDot hlast
        split at h
        · cases h
        · rename_i hpos
          simp only at h
          split at h
          · cases h
          · rename_i hne
            rw [not_or, not_not] at hne
            exact parts_of_scan hlast hpos hne.1 hne.2
    obtain ⟨service, id, type, hparts, hpos⟩ := hparts
    rw [queryInit_parts lib hparts hpos] at h
    exact ⟨service, id, type, hparts, (ofParts_eq_ok_iff lib).1 h⟩
  · rintro ⟨service, id, type, hparts, hreads⟩
    rw [queryInit_parts lib hparts hreads.1.service_pos]
    exact (ofParts_eq_ok_iff lib).2 hreads

/-- **The parser inverts the text of a query.**  The service may contain dots:
the digits and the type are cut off from the right. -/
theorem queryInit_domainStr {q : Query} (h : ValidQuery lib q) :
    queryInitFromDomainStr lib (some (domainStr lib q)) = .ok q := by
  obtain ⟨hpos, hle, hid⟩ := h
  have hshort : q.service.len < 2 ^ 32 := by
    rw [serviceMaxlen] at hle
    omega
  have hdigits : q.id.digits.len < 2 ^ 32 := by
    have := len_digits_le lib hid
    omega
  have htype : lib.getStringValue idTypeNames (idTypeName lib q.id.type) = q.id.type := by
    obtain ⟨service, id⟩ := q
    cases id with
    | none => simp [idValid] at hid
    | imsi digits => rw [Id.type, idTypeName_imsi, getStringValue_imsi]; rfl
    | msisdn digits => rw [Id.type, idTypeName_msisdn, getStringValue_msisdn]; rfl
  refine (queryInit_eq_ok_iff lib).2 ⟨q.service, q.id.digits, idTypeName lib q.id.type,
    ⟨bytes_domainStr lib q, dot_not_mem_digits lib hid, (type_of_getStringValue lib htype).1⟩,
    ⟨htype, (kept_of_lt hdigits).symm, hid, hpos, ?_⟩, (kept_of_lt hshort).symm⟩
  rw [kept_of_lt hshort]
  exact hle

/-- **What the parser accepts is a valid query**, as long as an `int` counts the string. -/
theorem queryInit_valid {domain : Option CStr} {q : Query}
    (h : queryInitFromDomainStr lib domain = .ok q) (hlen : ∀ s ∈ domain, s.len < 2 ^ 32) :
    ValidQuery lib q := by
  cases domain with
  | none => cases h
  | some domain =>
      obtain ⟨service, id, type, hparts, hreads, hserv⟩ := (queryInit_eq_ok_iff lib).1 h
      have hle : service.len ≤ domain.len := by
        rw [CStr.len, CStr.len, hparts.text, List.length_append]
        exact Nat.le_add_right _ _
      have hlt := hlen domain rfl
      rw [kept_of_lt (by omega)] at hserv
      refine ⟨hserv ▸ hreads.service_pos, ?_, hreads.id_valid⟩
      rw [hserv, ← kept_of_lt (show service.len < 2 ^ 32 by omega)]
      exact hreads.service_le

end Mslookup
end OsmoHlr
