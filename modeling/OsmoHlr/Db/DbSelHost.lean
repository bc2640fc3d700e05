import OsmoHlr.Db.DbLibHost
import OsmoHlr.Db.DbSel

/-!
# Times are read

One implementation of what the C library does with the times in the database, where the local
time is UTC.

* `Host.selLib` — the implementation.
-/

namespace OsmoHlr
namespace Host

open CString Db Decimal

/-- A number in decimal digits. -/
def readNumber (digits : List UInt8) : Int := digits.foldl (fun n d => 10 * n + (d.toNat - 48)) 0

/-- `strptime` with `DB_LAST_LU_SEEN_FMT`, for texts that `datetime` writes. -/
def strptime (str : CStr) : Option Tm :=
  let field (start width : Nat) : Int := readNumber ((str.bytes.drop start).take width)
  let form (c : UInt8) : UInt8 := if isDigit c then 48 else c
  if str.bytes.map form = (CStr.lit "0000-00-00 00:00:00").bytes then
    some ⟨field 0 4 - 1900, field 5 2 - 1, field 8 2, field 11 2, field 14 2, field 17 2⟩
  else none

/-- `mktime`, where the local time is UTC. -/
def mktime (tm : Tm) : Int :=
  -- the year begins in March
  let y := tm.year + 1900 - if tm.mon < 2 then 1 else 0
  let mp := if tm.mon < 2 then tm.mon + 10 else tm.mon - 2
  let yoe := y % 400
  let doe := yoe * 365 + yoe / 4 - yoe / 100 + (153 * mp + 2) / 5 + tm.mday - 1
  (y / 400 * 146097 + doe - 719468) * 86400 + tm.hour * 3600 + tm.min * 60 + tm.sec

/-- **What else is assumed, to read.** -/
def selLib : SelLib where
  toDbLib := dbLib
  strptime := strptime
  mktime := mktime

example : parseLastLuSeen selLib (datetime 951782400) = 951782400 := by decide +kernel

end Host
end OsmoHlr
