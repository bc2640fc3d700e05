import OsmoHlr.Gsup.Protocol
import OsmoHlr.Lib.BigEndian
import OsmoHlr.LibosmocoreHost

/-!
# The GSUP coding of libosmogsm

One implementation of the assumed functions: a message is its type, its IMSI and
any number of information elements, each with a tag and a length.

* `Host.gsupLib`, `Host.gsupProtocol` — the implementation.
-/

namespace OsmoHlr
namespace Host

open CString Gsup

/-! ## Digits -/

/-- Digits, two to a byte, the first one in the lower half. -/
def packBcd : List UInt8 → List UInt8
  | a :: b :: t => (16 * (b - 48) + (a - 48)) :: packBcd t
  | [a] => [0xf0 + (a - 48)]
  | [] => []

/-- The digits of the bytes, up to the filler. -/
def unpackBcd : List UInt8 → List UInt8
  | [] => []
  | x :: xs =>
      if x / 16 = 0xf then [x % 16 + 48] else (x % 16 + 48) :: (x / 16 + 48) :: unpackBcd xs

/-! ## Information elements -/

/-- The tags of the information elements. -/
inductive Iei where
  | imsi
  | cause
  | messageClass
  | sessionId
  | sessionState
  | smRpMr
  | sourceName
  | destinationName
  | cnDomain
  | msisdn
  | ssInfo
  deriving DecidableEq

/-- The number of a tag. -/
def Iei.tag : Iei → UInt8
  | .imsi => 0x01
  | .cause => 0x02
  | .messageClass => 0x0a
  | .sessionId => 0x30
  | .sessionState => 0x31
  | .smRpMr => 0x40
  | .sourceName => 0x60
  | .destinationName => 0x61
  | .cnDomain => 0x28
  | .msisdn => 0x08
  | .ssInfo => 0x35

/-- An information element. -/
def ie (iei : Iei) (val : List UInt8) : List UInt8 := iei.tag :: UInt8.ofNat val.length :: val

/-- The tags that may follow the IMSI. -/
def ieis : List Iei :=
  [.cause, .messageClass, .sessionId, .sessionState, .smRpMr, .sourceName, .destinationName,
    .cnDomain, .msisdn, .ssInfo]

/-- `enum osmo_gsup_session_state` as a byte. -/
def sessionStateByte : SessionState → UInt8
  | .stateNone => 0
  | .stateBegin => 1
  | .stateContinue => 2
  | .stateEnd => 3
  | .other v => v

/-- The session state that a byte stands for. -/
def sessionStateOf (v : UInt8) : SessionState :=
  if v = 0 then .stateNone else if v = 1 then .stateBegin else if v = 2 then .stateContinue
  else if v = 3 then .stateEnd else .other v

/-- `enum osmo_gsup_cn_domain` as a byte. -/
def cnDomainByte : CnDomain → UInt8
  | .absent => 0
  | .ps => 1
  | .cs => 2
  | .other v => v

/-- The CN domain that a byte stands for. -/
def cnDomainOf (v : UInt8) : CnDomain :=
  if v = 0 then .absent else if v = 1 then .ps else if v = 2 then .cs else .other v

/-- A number that is sent only if it is set. -/
def byteUnlessZero (v : UInt8) : List UInt8 := if v = 0 then [] else [v]

/-- The bytes of a message for a tag; none if it is not set. -/
def ieVal (gsup : GsupMessage) : Iei → List UInt8
  | .imsi => packBcd gsup.imsi.bytes
  | .cause => byteUnlessZero gsup.cause
  | .messageClass => byteUnlessZero gsup.messageClass
  | .sessionId => if gsup.sessionId = 0 then [] else BigEndian.store32 gsup.sessionId
  | .sessionState => byteUnlessZero (sessionStateByte gsup.sessionState)
  | .smRpMr => gsup.smRpMr.toList
  | .sourceName => gsup.sourceName
  | .destinationName => gsup.destinationName
  | .cnDomain => byteUnlessZero (cnDomainByte gsup.cnDomain)
  | .msisdn => gsup.msisdnEnc
  | .ssInfo => gsup.ssInfo

/-- A message with what an information element says. -/
def setIe (gsup : GsupMessage) (iei : Iei) (val : List UInt8) : GsupMessage :=
  match iei with
  | .imsi => { gsup with imsi := CStr.ofBytes (unpackBcd val) }
  | .cause => { gsup with cause := val.headD 0 }
  | .messageClass => { gsup with messageClass := val.headD 0 }
  | .sessionId => { gsup with sessionId := BigEndian.load32 val }
  | .sessionState => { gsup with sessionState := sessionStateOf (val.headD 0) }
  | .smRpMr => { gsup with smRpMr := val.head? }
  | .sourceName => { gsup with sourceName := val }
  | .destinationName => { gsup with destinationName := val }
  | .cnDomain => { gsup with cnDomain := cnDomainOf (val.headD 0) }
  | .msisdn => { gsup with msisdnEnc := val }
  | .ssInfo => { gsup with ssInfo := val }

/-! ## Messages -/

/-- `osmo_gsup_encode` -/
def gsupEncode (gsup : GsupMessage) : Option (List UInt8) :=
  if gsup.imsi.bytes = [] ∨ 255 < gsup.sourceName.length ∨ 255 < gsup.destinationName.length then
    none
  else
    some (gsup.messageType :: ie .imsi (ieVal gsup .imsi) ++
      (ieis.filter fun iei => ieVal gsup iei ≠ []).flatMap fun iei => ie iei (ieVal gsup iei))

/-- The information elements behind the IMSI; unknown tags are passed over. -/
def gsupDecodeIes : Nat → List UInt8 → GsupMessage → Option GsupMessage
  | _, [], gsup => some gsup
  | fuel + 1, tag :: len :: rest, gsup =>
      if rest.length < len.toNat then none
      else
        gsupDecodeIes fuel (rest.drop len.toNat) <|
          match ieis.find? fun iei => iei.tag = tag with
          | some iei => setIe gsup iei (rest.take len.toNat)
          | none => gsup
  | _, _, _ => none

/-- `osmo_gsup_decode` -/
def gsupDecode : List UInt8 → Option GsupMessage
  | messageType :: tag :: len :: rest =>
      if tag = Iei.imsi.tag ∧ len.toNat ≤ rest.length then
        gsupDecodeIes rest.length (rest.drop len.toNat) <|
          setIe { GsupMessage.zero with messageType := messageType } .imsi (rest.take len.toNat)
      else none
  | _ => none

/-! ## Types -/

/-- The message type of the request of a procedure. -/
def requestType : Procedure → UInt8
  | .updateLocation => 0x04
  | .sendAuthInfo => 0x08
  | .purgeMs => 0x0c
  | .insertData => 0x10
  | .deleteData => 0x14
  | .locationCancel => 0x1c
  | .procSs => 0x20
  | .checkImei => 0x30

/-- A message type. -/
def msgt (p : Procedure) : MsgKind → UInt8
  | .request => requestType p
  | .error => requestType p + 1
  | .result => requestType p + 2

/-- The number of a cause. -/
def causeNum : Cause → UInt8
  | .gmmImsiUnknown => 0x02
  | .gmmGprsNotallowed => 0x07
  | .gmmPlmnNotallowed => 0x0b
  | .gmmMscTempNotreach => 0x10
  | .gmmNetFail => 0x11
  | .gsmNetFail => 0x11
  | .gmmInvMandInfo => 0x60
  | .gmmMsgtIncompPState => 0x62
  | .gmmProtoErrUnspec => 0x6f

/-- **The assumed functions.** -/
def gsupLib : GsupLib where
  toLibosmocore := libosmocore
  msgtRoutingError := 0x4e
  gmmCauseInvMandInfo := 0x60
  isMsgtRequest v := v % 4 == 0
  isMsgtError v := v % 4 == 1
  toMsgtError v := v / 4 * 4 + 1
  toMsgtResult v := v / 4 * 4 + 2
  gsupDecode := gsupDecode
  gsupEncode := gsupEncode

/-- **The message types.** -/
def gsupProtocol : GsupProtocol where
  toGsupLib := gsupLib
  msgt := msgt
  causeNum := causeNum
  msgt_inj p k p' k' := by cases p <;> cases k <;> cases p' <;> cases k' <;> decide
  msgt_ne p k := by cases p <;> cases k <;> decide
  is_msgt p k := by cases p <;> cases k <;> decide
  to_msgt p k := by cases p <;> cases k <;> decide

end Host
end OsmoHlr
