import OsmoHlr.Db.DbSelHost
import OsmoHlr.Dgsm.DgsmVtyHost
import OsmoHlr.Dgsm.MslookupServer

/-!
# A site, and what is called for it

One implementation of the assumed functions, and a site that is the home of a subscriber.

* `Host.serverLib` — the implementation.
* `Host.homeSite` — the site.
-/

namespace OsmoHlr
namespace Host

open CString Db DgsmVty MslookupServer
open Dgsm (Proxy)

/-- What `osmo_sockaddr_str_from_str` leaves; NULL is taken for an empty text. -/
def sockaddrStrOf (ip : Option CStr) (port : UInt16) : SockaddrStr :=
  let ip := ip.getD CStr.empty
  (sockaddrStrFromStr ip port).getD ⟨0, ip, port⟩

theorem isSet_of_isNonzero (addr : SockaddrStr) (h : sockaddrStrIsNonzero addr = true) :
    sockaddrStrIsSet addr = true := by
  simp only [sockaddrStrIsNonzero, Bool.decide_and, Bool.and_eq_true, decide_eq_true_eq] at h
  obtain ⟨haf, hport, hip, -, -⟩ := h
  have hlen : 0 < addr.ip.len := List.length_pos_iff.2 fun hnil => hip (CStr.ext hnil)
  simpa [sockaddrStrIsSet, hport, hlen, Host.afInet, Host.afInet6] using haf

/-- **The assumed functions of the server.** -/
def serverLib : ServerLib where
  toSelLib := selLib
  toSockaddrLib := sockaddrLib
  sockaddrStrOf := sockaddrStrOf
  of_from_str ip port addr h := by
    have hfrom : sockaddrStrFromStr ip port = some addr := h
    simp [sockaddrStrOf, hfrom]
  is_set_of_nonzero := isSet_of_isNonzero

/-- The home HLR of a subscriber, which serves GSUP at an address. -/
def homeSite (imsi : CStr) : Site where
  tables := ⟨⟨[subscriberRow 1 imsi], [], []⟩, by simp [Contents.Valid, subscriberRow]⟩
  proxy := Proxy.init
  localSiteServices := []
  localAttachMaxAge := 3600
  gsupBindAddr := some (CStr.lit "10.9.8.7")
  gsupBind := ⟨serviceHlrGsup, SockaddrStr.zero, SockaddrStr.zero⟩

/-- Nothing goes wrong. -/
def serverEnv : Env := ⟨CodedFaults.none, 951782400⟩

end Host
end OsmoHlr
