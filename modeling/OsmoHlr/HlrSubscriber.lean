import OsmoHlr.Lib.CString

/-!
# Subscribers

`struct hlr_subscriber`, as it is read from the database.  The database itself is
outside of what is modelled where it is asked: what `db_subscr_get_by_imsi` finds is
a parameter there.
-/

namespace OsmoHlr

open CString

/-- `struct hlr_subscriber`, as far as it is read. -/
structure HlrSubscriber where
  id : Int
  imsi : CStr
  msisdn : CStr
  vlrNumber : CStr
  namCs : Bool
  namPs : Bool
  deriving DecidableEq

/-- A zeroed `struct hlr_subscriber`. -/
def HlrSubscriber.zero : HlrSubscriber := ⟨0, CStr.empty, CStr.empty, CStr.empty, false, false⟩

/-- `db_subscr_get_by_imsi`: the subscriber, or the negative return code. -/
abbrev DbSubscrGet := CStr → Except Int HlrSubscriber

/-- `-ENOENT` -/
def enoent : Int := -2

/-- `-EIO` -/
def eio : Int := -5

end OsmoHlr
