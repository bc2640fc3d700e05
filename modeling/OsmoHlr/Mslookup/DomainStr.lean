import OsmoHlr.Mslookup.Basic
import OsmoHlr.LibosmocoreHost

/-!
# Domain strings

`osmo_mslookup_query_init_from_domain_str` takes the strings `service.id.type`
apart that `osmo_mslookup_id_name_buf` helps to print.  `token` counts the
characters of a part in an `int`: what a string of four gigabytes says is cut
down to what is left modulo `2 ^ 32`.

* `IsDomainStr` — the form of a domain string, and the query it stands for.
* `Wraps` — a string with a part that an `int` does not count, but whose rest
  would be accepted.
* `domainStr_iff` — exactly these strings are taken for queries they are not;
  and the text of every valid query reads back as that query.
-/

namespace OsmoHlr
namespace Mslookup

open CString

variable (lib : Libosmocore)

/-- `osmo_mslookup_id_name_buf`: the text in the buffer, and the number of characters it needs. -/
def idNameBuf (buflen : Nat) (id : Id) : CStr × Nat :=
  let digits :=
    match id with
    | .imsi imsi => imsi
    | .msisdn msisdn => msisdn
    | .none => CStr.lit "?"
  let name := digits ++ CStr.lit "." ++ idTypeName lib id.type
  -- what does not fit is cut off
  (name.take (buflen - 1), name.len)

/-- `domain` has the form `service.id.type`, with a type that names that of the identifier, and
stands for the query. -/
structure IsDomainStr (domain : CStr) (q : Query) : Prop where
  text : ∃ type : CStr,
    domain.bytes = q.service.bytes ++ dot :: (q.id.digits.bytes ++ dot :: type.bytes) ∧
      lib.getStringValue idTypeNames type = q.id.type
  id_dot : dot ∉ q.id.digits.bytes
  valid : ValidQuery lib q

/-- `domain` has a part of `2 ^ 32` characters or more, and what is left of its parts makes an
acceptable query. -/
def Wraps (domain : CStr) : Prop :=
  ∃ (service id type : CStr) (i : Id), Parts domain service id type ∧ Reads lib service id type i ∧
    (2 ^ 32 ≤ service.len ∨ 2 ^ 32 ≤ id.len)

variable {lib}

/-- The text of a valid query fits where it is printed, so nothing is cut off. -/
theorem idNameBuf_of_valid {buflen : Nat} {q : Query} (hid : idValid lib q.id = true)
    (hbuf : (idNameBuf lib buflen q.id).2 < buflen) :
    q.service ++ CStr.lit "." ++ (idNameBuf lib buflen q.id).1 = domainStr lib q := by
  obtain ⟨service, id⟩ := q
  have hname : (idNameBuf lib buflen id).1 =
      id.digits ++ CStr.lit "." ++ idTypeName lib id.type := by
    cases id with
    | none => simp [idValid] at hid
    | imsi digits =>
        refine CStr.ext (List.take_of_length_le ?_)
        simp only [idNameBuf, CStr.len] at hbuf ⊢
        omega
    | msisdn digits =>
        refine CStr.ext (List.take_of_length_le ?_)
        simp only [idNameBuf, CStr.len] at hbuf ⊢
        omega
  refine CStr.ext ?_
  simp [hname, domainStr]

/-- The cut at the last dot is unique. -/
theorem append_dot_inj {a a' b b' : List UInt8} (hb : dot ∉ b) (hb' : dot ∉ b')
    (h : a ++ dot :: b = a' ++ dot :: b') : a = a' ∧ b = b' := by
  have hlen : some a.length = some a'.length := by
    rw [← strrchr_append_cons a hb, h, strrchr_append_cons a' hb']
  obtain ⟨rfl, hcons⟩ := List.append_inj h (Option.some.inj hlen)
  exact ⟨rfl, (List.cons.inj hcons).2⟩

/-- The three parts of a string are unique. -/
theorem Parts.unique {domain service id type service' id' type' : CStr}
    (h : Parts domain service id type) (h' : Parts domain service' id' type') :
    service = service' ∧ id = id' := by
  have htext : (service.bytes ++ dot :: id.bytes) ++ dot :: type.bytes =
      (service'.bytes ++ dot :: id'.bytes) ++ dot :: type'.bytes := by
    rw [List.append_assoc, List.cons_append, ← h.text, List.append_assoc, List.cons_append,
      ← h'.text]
  obtain ⟨hfront, -⟩ := append_dot_inj h.type_dot h'.type_dot htext
  obtain ⟨hserv, hid⟩ := append_dot_inj h.id_dot h'.id_dot hfront
  exact ⟨CStr.ext hserv, CStr.ext hid⟩

/-- A domain string is cut into its own parts. -/
theorem IsDomainStr.parts {domain : CStr} {q : Query} (h : IsDomainStr lib domain q) :
    ∃ type, Parts domain q.service q.id.digits type ∧
      lib.getStringValue idTypeNames type = q.id.type := by
  obtain ⟨type, htext, htype⟩ := h.text
  exact ⟨type, ⟨htext, h.id_dot, (type_of_getStringValue lib htype).1⟩, htype⟩

/-- A domain string is accepted, as the query it stands for. -/
theorem IsDomainStr.queryInit {domain : CStr} {q : Query} (h : IsDomainStr lib domain q) :
    queryInitFromDomainStr lib (some domain) = .ok q := by
  obtain ⟨type, hparts, htype⟩ := h.parts
  obtain ⟨hpos, hle, hid⟩ := h.valid
  have hserv : kept q.service = q.service := by
    rw [serviceMaxlen] at hle
    exact kept_of_lt (by omega)
  have hdigits : kept q.id.digits = q.id.digits := by
    have := len_digits_le lib hid
    exact kept_of_lt (by omega)
  exact (queryInit_eq_ok_iff lib).2 ⟨q.service, q.id.digits, type, hparts,
    ⟨htype, hdigits.symm, hid, hpos, hserv.symm ▸ hle⟩, hserv.symm⟩

/-- Parts that an `int` counts are kept as they are. -/
theorem isDomainStr_of_reads {domain service id type : CStr} {q : Query}
    (hparts : Parts domain service id type) (hreads : Reads lib service id type q.id)
    (hq : q.service = kept service) (hserv : service.len < 2 ^ 32) (hid : id.len < 2 ^ 32) :
    IsDomainStr lib domain q := by
  obtain ⟨htype, hdigits, hvalid, hpos, hle⟩ := hreads
  rw [kept_of_lt hid] at hdigits
  rw [kept_of_lt hserv] at hq hle
  refine ⟨⟨type, ?_, htype⟩, ?_, ?_⟩
  · rw [hq, hdigits]
    exact hparts.text
  · rw [hdigits]
    exact hparts.id_dot
  · exact ⟨hq ▸ hpos, hq ▸ hle, hvalid⟩

/-- **A string is taken for what it is, unless a part of it wraps.** -/
theorem queryInit_iff_isDomainStr (domain : CStr) :
    (∀ q, queryInitFromDomainStr lib (some domain) = .ok q ↔ IsDomainStr lib domain q) ↔
      ¬Wraps lib domain := by
  constructor
  · rintro h ⟨service, id, type, i, hparts, hreads, hlong⟩
    have hok : queryInitFromDomainStr lib (some domain) = .ok ⟨kept service, i⟩ :=
      (queryInit_eq_ok_iff lib).2 ⟨service, id, type, hparts, hreads, rfl⟩
    obtain ⟨type', hparts', -⟩ := ((h _).1 hok).parts
    obtain ⟨hserv, hid⟩ := hparts.unique hparts'
    have hservlt : service.len < 2 ^ 32 := by
      rw [hserv, len_kept]
      exact Nat.mod_lt _ (by decide)
    have hidlt : id.len < 2 ^ 32 := by
      rw [hid, hreads.digits_eq, len_kept]
      exact Nat.mod_lt _ (by decide)
    omega
  · intro h q
    refine ⟨?_, IsDomainStr.queryInit⟩
    intro hok
    obtain ⟨service, id, type, hparts, hreads, hq⟩ := (queryInit_eq_ok_iff lib).1 hok
    have hshort : ¬(2 ^ 32 ≤ service.len ∨ 2 ^ 32 ≤ id.len) :=
      fun hlong => h ⟨service, id, type, q.id, hparts, hreads, hlong⟩
    exact isDomainStr_of_reads hparts hreads hq (by omega) (by omega)

/-- **The parser of domain strings.**  A string that does not wrap is accepted if and only if it
is the domain string of a query, and then as that query; a null pointer is refused; and the text of
every valid query reads back as that query. -/
theorem domainStr_iff (lib : Libosmocore) :
    (∀ domain, (∀ q, queryInitFromDomainStr lib (some domain) = .ok q ↔
        IsDomainStr lib domain q) ↔ ¬Wraps lib domain) ∧
      (∀ q, queryInitFromDomainStr lib none ≠ .ok q) ∧
      ∀ buflen q, ValidQuery lib q → (idNameBuf lib buflen q.id).2 < buflen →
        queryInitFromDomainStr lib
          (some (q.service ++ CStr.lit "." ++ (idNameBuf lib buflen q.id).1)) = .ok q := by
  refine ⟨queryInit_iff_isDomainStr, ?_, ?_⟩
  · intro q h
    cases h
  · intro buflen q hq hbuf
    rw [idNameBuf_of_valid hq.id_valid hbuf]
    exact queryInit_domainStr lib hq

/-! ## A service of four gigabytes -/

/-- `2 ^ 32 + 3` times the letter `a`. -/
def longService : CStr where
  bytes := List.replicate (2 ^ 32 + 3) 97
  noNul := fun h => absurd (List.eq_of_mem_replicate h) (by decide)

/-- The long service, an IMSI and its type. -/
def longDomain : CStr :=
  longService ++ CStr.lit "." ++ CStr.lit "123456789012345" ++ CStr.lit "." ++ CStr.lit "imsi"

theorem len_longService : longService.len = 2 ^ 32 + 3 := List.length_replicate

theorem parts_longDomain :
    Parts longDomain longService (CStr.lit "123456789012345") (CStr.lit "imsi") where
  text := by simp [longDomain, bytes_lit_dot]
  id_dot := by decide
  type_dot := by decide

/-- The service is read as `aaa`. -/
theorem reads_longDomain : Reads Host.libosmocore longService (CStr.lit "123456789012345")
    (CStr.lit "imsi") (.imsi (CStr.lit "123456789012345")) where
  type_eq := getStringValue_imsi _
  digits_eq := (kept_of_lt (by decide)).symm
  id_valid := by decide
  service_pos := by
    rw [len_longService]
    norm_num
  service_le := by
    rw [len_kept, len_longService]
    decide

/-- **A string is accepted whose service does not fit the buffer**, and the query says another
service. -/
theorem queryInit_longDomain :
    ∃ q, queryInitFromDomainStr Host.libosmocore (some longDomain) = .ok q ∧
      ¬IsDomainStr Host.libosmocore longDomain q := by
  refine ⟨⟨kept longService, .imsi (CStr.lit "123456789012345")⟩,
    (queryInit_eq_ok_iff _).2 ⟨_, _, _, parts_longDomain, reads_longDomain, rfl⟩, ?_⟩
  intro h
  obtain ⟨type, hparts, -⟩ := h.parts
  have hserv : longService.len = (kept longService).len :=
    congrArg CStr.len (parts_longDomain.unique hparts).1
  rw [len_kept, len_longService] at hserv
  norm_num at hserv

end Mslookup
end OsmoHlr
