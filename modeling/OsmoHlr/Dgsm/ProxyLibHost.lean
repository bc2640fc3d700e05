import OsmoHlr.Dgsm.Dgsm
import OsmoHlr.Gsup.GsupLibHost

/-!
# The addresses and numbers of libosmocore

One implementation of the assumed functions: addresses are compared as text, and numbers are
digits, two to a byte, behind a length.

* `Host.proxyLib` — the implementation.
-/

namespace OsmoHlr
namespace Host

open CString CniPeerId Gsup Dgsm

/-- `osmo_sockaddr_str_cmp`, of which only matters whether it is 0. -/
def sockaddrStrCmp (a b : SockaddrStr) : Int := if a = b then 0 else 1

/-- `osmo_sockaddr_str_is_nonzero` -/
def sockaddrStrIsNonzero (a : SockaddrStr) : Bool :=
  (a.af = 2 ∨ a.af = 10) ∧ a.port ≠ 0 ∧
    a.ip ≠ CStr.empty ∧ a.ip ≠ CStr.lit "0.0.0.0" ∧ a.ip ≠ CStr.lit "::"

/-- `gsm48_decode_bcd_number2` without a header -/
def gsm48DecodeBcdNumber2 (size : Nat) : List UInt8 → Option CStr
  | [] => none
  | len :: rest =>
      let digits := unpackBcd (rest.take len.toNat)
      if len.toNat ≤ rest.length ∧ digits.length < size then some (CStr.ofBytes digits) else none

theorem sockaddrStrCmp_eq_zero_iff (a b : SockaddrStr) : sockaddrStrCmp a b = 0 ↔ a = b := by
  unfold sockaddrStrCmp
  split
  next h => exact ⟨fun _ => h, fun _ => rfl⟩
  next h => exact ⟨fun h1 => absurd h1 (by decide), fun h1 => absurd h1 h⟩

/-- **The assumed functions.** -/
def proxyLib : ProxyLib where
  toGsupProtocol := gsupProtocol
  sockaddrStrCmp := sockaddrStrCmp
  sockaddrStrIsNonzero := sockaddrStrIsNonzero
  gsm48DecodeBcdNumber2 := gsm48DecodeBcdNumber2
  cmp_equivalence := by
    simp only [sockaddrStrCmp_eq_zero_iff]
    exact eq_equivalence
  nonzero_zero := by decide
  causeNum_ne cause := by cases cause <;> decide

/-! ## Messages -/

/-- The address of the home HLR of these runs. -/
def hlrAddr : SockaddrStr := ⟨2, CStr.lit "10.9.8.7", 4222⟩

/-- The subscriber of these runs. -/
def roamer : CStr := CStr.lit "262420000000001"

/-- An Update Location Request. -/
def updateLocation (peer : String) (cnDomain : CnDomain) : GsupReq where
  gsup := { GsupMessage.zero with
    messageType := msgt .updateLocation .request
    imsi := roamer
    cnDomain := cnDomain }
  sourceName := .ofIpaName (ipaNameSetStr (CStr.lit peer))
  viaProxy := .zero
  sendResponseCb := true

/-- What the home HLR answers to a peer. -/
def updateLocationAnswer (peer : String) (kind : MsgKind) : GsupMessage :=
  { GsupMessage.zero with
    messageType := msgt .updateLocation kind
    imsi := roamer
    cause := if kind = .error then causeNum .gmmPlmnNotallowed else 0
    destinationName := (ipaNameSetStr (CStr.lit peer)).val }

/-- Another subscriber. -/
def visitor : CStr := CStr.lit "262420000000002"

/-- An Update Location Request for the other subscriber. -/
def visit : GsupReq :=
  { updateLocation "msc" .cs with gsup := { (updateLocation "msc" .cs).gsup with imsi := visitor } }

/-- The home HLR says that a subscriber of the MSC has the number 12345. -/
def insertData (imsi : CStr) : GsupMessage :=
  { GsupMessage.zero with
    messageType := msgt .insertData .request
    imsi := imsi
    msisdnEnc := [3, 0x21, 0x43, 0xf5]
    destinationName := (ipaNameSetStr (CStr.lit "msc")).val }

/-- An MSC and an SGSN are connected, and home HLRs are looked up. -/
def dgsmEnv : Dgsm.Env where
  now := 100
  routes :=
    { routes := [⟨(ipaNameSetStr (CStr.lit "msc")).val, 1⟩,
        ⟨(ipaNameSetStr (CStr.lit "sgsn")).val, 2⟩]
      addrs_nodup := by decide }
  peerName conn := ipaNameSetStr (CStr.lit (if conn = 1 then "msc" else "sgsn"))
  dbSubscrExistsByImsi _ := -2
  gsupGatewayProxy := SockaddrStr.zero
  mslookupClientActive := true
  mslookupClientRequest _ := 1
  gsupClientCreate3 _ := true

/-- A lookup finds the home HLR. -/
def hlrFound : Input :=
  .result (hlrQuery roamer) { Mslookup.Result.zero with rc := .result, hostV4 := hlrAddr } dgsmEnv

end Host
end OsmoHlr
