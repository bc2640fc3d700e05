import OsmoHlr.Gsup.GsupLibHost
import OsmoHlr.Ussd.HlrUssd

/-!
# The GSM 04.80 coding of libosmogsm

One implementation of the assumed functions: a component is its tag, its invoke ID
and an operation with a text of seven-bit characters, or an error.

* `Host.ssLib` — the implementation.
-/

namespace OsmoHlr
namespace Host

open CString Gsup Ussd

/-! ## Seven-bit characters -/

/-- The digits of a number, the lowest one first. -/
def digits (base : Nat) : Nat → Nat → List UInt8
  | 0, _ => []
  | n + 1, v => UInt8.ofNat (v % base) :: digits base n (v / base)

/-- The number of which these are the digits. -/
def ofDigits (base : Nat) (ds : List UInt8) : Nat :=
  ds.foldr (fun d v => d.toNat + base * v) 0

/-- `gsm_7bit_encode_n_ussd` of characters that are the same in ASCII: seven bits left over are a
CR. -/
def encode7bitUssd (text : List UInt8) : List UInt8 :=
  let septets := if text.length % 8 = 7 then text ++ [0x0d] else text
  digits 256 ((septets.length * 7 + 7) / 8) (ofDigits 128 septets)

/-- `gsm_7bit_decode_n_ussd` -/
def decode7bitUssd (octets : List UInt8) : List UInt8 :=
  let septets := digits 128 (octets.length * 8 / 7) (ofDigits 256 octets)
  if septets.length % 8 = 0 ∧ septets.getLast? = some 0x0d then septets.dropLast else septets

/-! ## Components -/

/-- A tag, a length and a value. -/
def tl (tag : UInt8) (val : List UInt8) : List UInt8 := tag :: UInt8.ofNat val.length :: val

/-- An operation with a text. -/
def ussdArg (text : List UInt8) : List UInt8 :=
  tl 0x30 (tl 0x04 [0x0f] ++ tl 0x04 (encode7bitUssd text))

/-- An Invoke component. -/
def invokeUssd (invokeId opcode : UInt8) (text : String) : List UInt8 :=
  tl 0xa1 (tl 0x02 [invokeId] ++ tl 0x02 [opcode] ++ ussdArg (CStr.lit text).bytes)

/-- `gsm0480_gen_ussd_resp_7bit` -/
def genUssdResp7bit (invokeId : UInt8) (text : CStr) : List UInt8 :=
  tl 0xa2 (tl 0x02 [invokeId] ++ tl 0x30 (tl 0x02 [0x3b] ++ ussdArg text.bytes))

/-- `gsm0480_gen_return_error` -/
def genReturnError (invokeId errorCode : UInt8) : List UInt8 :=
  tl 0xa3 (tl 0x02 [invokeId] ++ tl 0x02 [errorCode])

/-- `gsm0480_parse_facility_ie` of one component: an Invoke, a Return Result or a Return Error. -/
def parseFacilityIe : List UInt8 → Option SsRequest
  | 0xa1 :: _ :: 0x02 :: 0x01 :: invokeId :: 0x02 :: 0x01 :: opcode :: 0x30 :: _ :: 0x04 :: 0x01 ::
      0x0f :: 0x04 :: _ :: octets =>
      some ⟨opcode, invokeId, CStr.ofBytes (decode7bitUssd octets)⟩
  | 0xa1 :: _ :: 0x02 :: 0x01 :: invokeId :: 0x02 :: 0x01 :: opcode :: _ =>
      some ⟨opcode, invokeId, CStr.empty⟩
  | 0xa2 :: _ :: 0x02 :: 0x01 :: invokeId :: 0x30 :: _ :: 0x02 :: 0x01 :: opcode :: 0x30 :: _ ::
      0x04 :: 0x01 :: 0x0f :: 0x04 :: _ :: octets =>
      some ⟨opcode, invokeId, CStr.ofBytes (decode7bitUssd octets)⟩
  | 0xa3 :: _ :: 0x02 :: 0x01 :: invokeId :: _ => some ⟨0, invokeId, CStr.empty⟩
  | _ => none

/-- What is sent is read back. -/
example : parseFacilityIe (genUssdResp7bit 7 (CStr.lit "*#100#")) =
    some ⟨0x3b, 7, CStr.lit "*#100#"⟩ := by
  decide +kernel

/-- The number of an operation. -/
def opCode : UssdOp → UInt8
  | .processUssData => 0x13
  | .processUssReq => 0x3b
  | .ussRequest => 0x3c
  | .ussNotify => 0x3d

/-- The number of an error. -/
def errCode : ErrCode → UInt8
  | .unknownSubscriber => 0x01
  | .ssNotAvailable => 0x12
  | .facilityNotSupported => 0x15
  | .systemFailure => 0x22

/-- **The assumed functions.**  There is nothing to print in a format without arguments. -/
def ssLib : SsLib where
  toGsupProtocol := gsupProtocol
  opCode := opCode
  errCode := errCode
  parseFacilityIe := parseFacilityIe
  genReturnError := genReturnError
  genUssdResp7bit := genUssdResp7bit
  printFormat fmt := fmt

/-! ## Messages -/

/-- A message about the one session of these runs. -/
def procSs (peer : String) (sessionState : SessionState) (ssInfo : List UInt8) : GsupReq where
  gsup := { GsupMessage.zero with
    messageType := msgt .procSs .request
    imsi := CStr.lit "262420000000001"
    sessionId := 1
    sessionState := sessionState
    ssInfo := ssInfo }
  sourceName := .ofIpaName (ipaNameSetStr (CStr.lit peer))
  viaProxy := .zero
  sendResponseCb := true

/-- An MSC and an EUSE are connected. -/
def ussdEnv : Ussd.Env where
  routes :=
    { routes := [⟨(ipaNameSetStr (CStr.lit "msc")).val, 1⟩,
        ⟨(ipaNameSetStr (CStr.lit "EUSE-foo")).val, 2⟩]
      addrs_nodup := by decide }
  dbSubscrGetByImsi imsi := .ok ⟨1, imsi, CStr.lit "1234", CStr.lit "msc", true, true⟩

end Host
end OsmoHlr
