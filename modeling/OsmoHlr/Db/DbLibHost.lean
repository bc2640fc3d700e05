import OsmoHlr.Db.DbHlr
import OsmoHlr.LibosmocoreHost

/-!
# Times and numbers for the database

One implementation of the assumed functions: IMEIs have 14 digits, and times are
calculated by the Gregorian calendar.

* `Host.dbLib` — the implementation.
-/

namespace OsmoHlr
namespace Host

open CString Db Decimal

/-- `osmo_imei_str_valid(imei, false)` -/
def imeiStrValid (imei : CStr) : Bool := imei.bytes.all isDigit ∧ imei.len = 14

/-- Year, month and day of a day since 1970. -/
def civil (day : Int) : Int × Int × Int :=
  -- the days of an era of 400 years that begins in March
  let z := day + 719468
  let era := z / 146097
  let doe := z % 146097
  let yoe := (doe - doe / 1460 + doe / 36524 - doe / 146096) / 365
  let doy := doe - (365 * yoe + yoe / 4 - yoe / 100)
  let mp := (5 * doy + 2) / 153
  let m := if mp < 10 then mp + 3 else mp - 9
  (yoe + era * 400 + (if m ≤ 2 then 1 else 0), m, doy - (153 * mp + 2) / 5 + 1)

/-- A number with leading zeros. -/
def padded (width : Nat) (n : Int) : List UInt8 :=
  let digits := printDec n.toNat
  List.replicate (width - digits.length) 48 ++ digits

/-- `datetime(val, 'unixepoch')`, for the years that have four digits. -/
def datetime (val : Int) : Option CStr :=
  let (year, month, day) := civil (val / 86400)
  let sec := val % 86400
  if year < 0 ∨ 9999 < year then none
  else
    some (CStr.ofBytes (padded 4 year ++ 45 :: padded 2 month ++ 45 :: padded 2 day ++
      32 :: padded 2 (sec / 3600) ++ 58 :: padded 2 (sec / 60 % 60) ++ 58 :: padded 2 (sec % 60)))

example : datetime 951782400 = some (CStr.lit "2000-02-29 00:00:00") := by decide +kernel

/-- **The assumed functions.** -/
def dbLib : DbLib where
  toLibosmocore := libosmocore
  imeiStrValid := imeiStrValid
  milenageIndBitlenMax := 28
  datetime := datetime

/-! ## Subscribers -/

/-- The row of a new subscriber. -/
def subscriberRow (id : Int) (imsi : CStr) : SubscriberRow where
  id := id
  imsi := imsi
  msisdn := none
  imei := none
  vlrNumber := none
  sgsnNumber := none
  sgsnAddress := none
  periodicLuTmr := none
  periodicRauTauTmr := none
  namCs := true
  namPs := true
  lmsi := none
  msPurgedCs := false
  msPurgedPs := false
  lastLuSeen := none
  lastLuSeenPs := none
  vlrViaProxy := none
  sgsnViaProxy := none

/-- A subscriber with a 2G key. -/
def withKey : Tables where
  subscriber := [subscriberRow 1 (CStr.lit "262420000000001")]
  auc2g := [⟨1, AuthAlgo.comp128v1.toInt, CStr.lit "000102030405060708090a0b0c0d0e0f"⟩]
  auc3g := []
  valid := by decide

/-- Another 2G key. -/
def newKey : SubAuthDataStr :=
  { noAud .gsm with
    algo := .comp128v1
    ki := CStr.lit "0f0e0d0c0b0a09080706050403020100" }

/-- A statement is bound, and its execution goes wrong. -/
def stepFault : Faults := ⟨fun _ => false, true⟩

end Host
end OsmoHlr
