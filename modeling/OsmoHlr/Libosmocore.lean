import OsmoHlr.Lib.CString
import OsmoHlr.Lib.Decimal

/-!
# libosmocore and libosmogsm, as the program relies on them

The repository links against libosmocore and libosmogsm; their code is not part
of it.  What the modelled functions call from there is the structure
`Libosmocore`: the functions as fields, and beside them, as further fields, the
documented behaviour the program relies on.  Everything downstream is stated for
an arbitrary `Libosmocore`, so it holds for whatever version is linked in.
-/

namespace OsmoHlr

open CString

/-- `n` bytes of an address, in network order. -/
abbrev Octets (n : Nat) := { b : List UInt8 // b.length = n }

/-- `struct osmo_sockaddr_str`: an address family, the address as text, a port. -/
structure SockaddrStr where
  af : UInt16
  ip : CStr
  port : UInt16
  deriving DecidableEq

/-- `(struct osmo_sockaddr_str){}` -/
def SockaddrStr.zero : SockaddrStr := ⟨0, CStr.empty, 0⟩

instance : Inhabited SockaddrStr := ⟨SockaddrStr.zero⟩

/-- The part of libosmocore and libosmogsm that the modelled code calls. -/
structure Libosmocore where
  /-- `GSM23003_IMSI_MAX_DIGITS` -/
  imsiMaxDigits : Nat
  /-- `GSM23003_MSISDN_MAX_DIGITS` -/
  msisdnMaxDigits : Nat
  /-- `osmo_imsi_str_valid` -/
  imsiStrValid : CStr → Bool
  /-- `osmo_msisdn_str_valid` -/
  msisdnStrValid : CStr → Bool
  /-- `get_value_string` -/
  getValueString : List (Nat × CStr) → Nat → CStr
  /-- `get_string_value`; a negative number when the string is not in the table. -/
  getStringValue : List (Nat × CStr) → CStr → Int
  /-- `osmo_strnchr` over a buffer of known size; the index of what it points at. -/
  strnchr : List UInt8 → UInt8 → Option Nat
  /-- `osmo_print_n(buf, size, str, n)`: what `buf` holds afterwards. -/
  printN : Nat → List UInt8 → CStr
  /-- The byte that an allocation of size 0 points at. -/
  emptyAlloc : UInt8
  /-- `osmo_sockaddr_str_is_set` -/
  sockaddrStrIsSet : SockaddrStr → Bool
  /-- `osmo_sockaddr_str_to_in_addr`; `none` for a negative return code. -/
  sockaddrStrToInAddr : SockaddrStr → Option (Octets 4)
  /-- `osmo_sockaddr_str_to_in6_addr`; `none` for a negative return code. -/
  sockaddrStrToIn6Addr : SockaddrStr → Option (Octets 16)
  /-- `osmo_sockaddr_str_from_32` -/
  sockaddrStrFrom32 : Octets 4 → UInt16 → SockaddrStr
  /-- `osmo_sockaddr_str_from_in6_addr` -/
  sockaddrStrFromIn6Addr : Octets 16 → UInt16 → SockaddrStr
  /-- No identifier has more than 15 digits. -/
  max_digits_le : imsiMaxDigits ≤ 15 ∧ msisdnMaxDigits ≤ 15
  /-- A valid IMSI is a run of digits that fits its buffer. -/
  imsi_digits : ∀ s, imsiStrValid s = true →
    (∀ c ∈ s.bytes, Decimal.isDigit c = true) ∧ 0 < s.len ∧ s.len ≤ imsiMaxDigits
  /-- A valid MSISDN is a run of digits that fits its buffer. -/
  msisdn_digits : ∀ s, msisdnStrValid s = true →
    (∀ c ∈ s.bytes, Decimal.isDigit c = true) ∧ 0 < s.len ∧ s.len ≤ msisdnMaxDigits
  /-- A value of the table is printed as its first entry has it. -/
  value_string : ∀ vs v s, vs.find? (fun e => e.1 == v) = some (v, s) → getValueString vs v = s
  /-- A string is looked up without regard to case; the first entry counts. -/
  string_value : ∀ vs s, getStringValue vs s =
    match vs.find? (fun e => caseEq e.2 s) with
    | some e => (e.1 : Int)
    | none => -22
  /-- In a buffer without a NUL the first occurrence is found. -/
  strnchr_first : ∀ b c, (0 : UInt8) ∉ b → strnchr b c = b.idxOf? c
  /-- Text that fits is copied as it is. -/
  print_fits : ∀ size b, (0 : UInt8) ∉ b → b.length < size → (printN size b).bytes = b
  /-- What is printed fits its buffer. -/
  print_len : ∀ size b, 0 < size → (printN size b).len < size
  /-- A zeroed address is not set. -/
  is_set_zero : sockaddrStrIsSet SockaddrStr.zero = false
  /-- A set address has a port. -/
  port_of_is_set : ∀ a, sockaddrStrIsSet a = true → a.port ≠ 0
  /-- An address read from 32 bits is set as soon as its port is. -/
  is_set_from_32 : ∀ a p q,
    sockaddrStrIsSet { sockaddrStrFrom32 a p with port := q } = decide (q ≠ 0)
  /-- An address read from 128 bits is set as soon as its port is. -/
  is_set_from_in6_addr : ∀ a p q,
    sockaddrStrIsSet { sockaddrStrFromIn6Addr a p with port := q } = decide (q ≠ 0)
  /-- IPv4 text written from 32 bits reads back as the same bits. -/
  in_addr_from_32 : ∀ a p q,
    sockaddrStrToInAddr { sockaddrStrFrom32 a p with port := q } = some a
  /-- IPv6 text written from 128 bits reads back as the same bits. -/
  in6_addr_from_in6_addr : ∀ a p q,
    sockaddrStrToIn6Addr { sockaddrStrFromIn6Addr a p with port := q } = some a

end OsmoHlr
