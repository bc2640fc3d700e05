import OsmoHlr.Auc.AucLibHost
import OsmoHlr.Db.DbSelHost
import OsmoHlr.Dgsm.ProxyLibHost
import OsmoHlr.Main.ReadCb
import OsmoHlr.Ussd.UssdLibHost

/-!
# The functions that the HLR as a whole calls

One implementation of the assumed functions, put together from those of its parts, and an HLR
with one subscriber and an SGSN.

* `Host.mainLib` — the implementation.
* `Host.attach` — a run in which the SGSN connects and updates the location of the subscriber.
-/

namespace OsmoHlr
namespace Host

open CString CniPeerId Gsup Db Main

/-- All information elements of a message. -/
def iesOf : Nat → List UInt8 → List (UInt8 × List UInt8)
  | fuel + 1, tag :: len :: rest => (tag, rest.take len.toNat) :: iesOf fuel (rest.drop len.toNat)
  | _, _ => []

/-- The value of the element with a tag. -/
def ieOf (l2 : List UInt8) (tag : UInt8) : Option (List UInt8) :=
  (iesOf l2.length (l2.drop 1)).lookup tag

/-- **The assumed functions.** -/
def mainLib : MainLib Unit :=
  { ssLib, proxyLib, selLib with
    auc := milenage.aucLib
    ies := fun l2 =>
      { numAuthVectors := ((ieOf l2 0x52).bind List.head?).elim 0 UInt8.toNat
        rand := ieOf l2 0x20
        auts := ieOf l2 0x26
        isEutranSgs := ieOf l2 0x2a = some [3]
        imeiEnc := ieOf l2 0x50 }
    imeiNumDigitsNoChk := 14 }

/-- Subscribers are created on demand, with an MSISDN of three digits, and IMEIs are stored. -/
def onDemandConfig : Config mainLib.toLibosmocore where
  subscrCreateOnDemand := true
  subscrCreateOnDemandFlags := dbSubscrFlagNamCs ||| dbSubscrFlagNamPs
  randMsisdnLen := 3
  len_le := by decide
  storeImei := true

/-- Nothing goes wrong, and all random bytes are 0. -/
def onDemandEnv : OnDemandEnv where
  existsByImsi := CodedFaults.none
  gen := ⟨fun _ _ => .ok fun _ => 0, fun _ => CodedFaults.none⟩
  create := Faults.none
  found := 2
  msisdn := Faults.none

/-- Nothing goes wrong, and nobody else is looked for. -/
def rxEnv : RxEnv mainLib where
  config := onDemandConfig
  dgsm := ⟨100, CodedFaults.none, SockaddrStr.zero, 2000, fun _ => true⟩
  sai := ⟨onDemandEnv, (askOne (some (CStr.lit "39fa2f4e3d523d8619a73b4f65c3e14d"))).env,
    Main.zeroVector⟩
  onDemand := onDemandEnv
  lu := ⟨Faults.none, ⟨Faults.none, .ok 951782400, Faults.none⟩, [0],
    LuFsm.hostEnv.gsm48EncodeBcdNumber, LuFsm.hostEnv.osmoApnFromStr⟩
  purge := Faults.none
  checkImei := ⟨onDemandEnv, Faults.none, Faults.none⟩
  ssGet := Faults.none

/-- The name of the HLR of these runs. -/
def hlrName : CStr := CStr.lit "hlr"

/-- The subscriber. -/
def usimImsi : CStr := CStr.lit "262420000000001"

/-- A message about an IMSI without its last digit, and other elements. -/
def msgOf (messageType : UInt8) (last : UInt8) (ies : List UInt8) : List UInt8 :=
  [messageType, 0x01, 0x08, 0x62, 0x42, 0x02, 0, 0, 0, 0, 0xf0 + last] ++ ies

/-- An SGSN connects, updates the location of the subscriber, and has its data inserted. -/
def attach : List (Input mainLib) :=
  [.accept, .ccm 0 (some (CStr.lit "sgsn").bytes), .rx 0 (msgOf 0x04 1 []) rxEnv,
    .rx 0 (msgOf 0x12 1 []) rxEnv]

/-- It purges the subscriber, and updates the location again. -/
def purgeAndReturn : List (Input mainLib) :=
  [.rx 0 (msgOf 0x0c 1 []) rxEnv, .rx 0 (msgOf 0x04 1 []) rxEnv]

/-- The SGSN asks for two vectors, and for one more. -/
def askTwice : List (Input mainLib) :=
  [.accept, .ccm 0 (some (CStr.lit "sgsn").bytes),
    .rx 0 (msgOf 0x08 1 [0x52, 1, 2]) rxEnv, .rx 0 (msgOf 0x08 1 [0x52, 1, 1]) rxEnv]

end Host
end OsmoHlr
