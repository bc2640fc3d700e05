import OsmoHlr.Dgsm.MdnsApply
import OsmoHlr.Dgsm.ProxyLibHost
import OsmoHlr.LibosmocoreHost

/-!
# The addresses of libosmocore, as they are configured

One implementation of the assumed functions: an address is IPv4 in dotted
decimal or IPv6 with all its digits, and is kept as text.

* `Host.sockaddrLib`, `Host.mdnsLib` — the implementation.
-/

namespace OsmoHlr
namespace Host

open CString DgsmVty

/-- `osmo_sockaddr_str_from_str` -/
def sockaddrStrFromStr (ip : CStr) (port : UInt16) : Option SockaddrStr :=
  if (parseIn ip.bytes).isSome then some ⟨Host.afInet, ip, port⟩
  else if (parseIn6 ip.bytes).isSome then some ⟨Host.afInet6, ip, port⟩
  else none

theorem sockaddrStrFromStr_keeps {ip : CStr} {port : UInt16} {addr : SockaddrStr}
    (h : sockaddrStrFromStr ip port = some addr) : addr.ip = ip ∧ addr.port = port := by
  unfold sockaddrStrFromStr at h
  split at h
  next =>
      cases h
      exact ⟨rfl, rfl⟩
  next =>
      split at h
      next =>
          cases h
          exact ⟨rfl, rfl⟩
      next => cases h

/-- **The assumed functions of the configuration.**  Names have nothing that is to be escaped. -/
def sockaddrLib : SockaddrLib where
  sockaddrStrFromStr := sockaddrStrFromStr
  sockaddrStrIsNonzero := sockaddrStrIsNonzero
  sockaddrStrCmp := sockaddrStrCmp
  escapeStr := CStr.ofBytes
  from_str_keeps _ _ _ := sockaddrStrFromStr_keeps
  cmp_self addr := (sockaddrStrCmp_eq_zero_iff addr addr).2 rfl
  nonzero_zero := proxyLib.nonzero_zero
  from_str_default := ⟨⟨2, CStr.lit "239.192.23.42", 4266⟩, by decide +kernel, by decide⟩

/-- **And with sockets that can always be opened.** -/
def mdnsLib : MdnsLib where
  toSockaddrLib := sockaddrLib
  mdnsSockInit _ _ := true

/-- A line in a node. -/
def line (node : Node) (words : List String) : Input := ⟨.vty node (words.map CStr.lit), CStr.empty⟩

/-- `dgsm_start` -/
def starts : Input := ⟨.start, CStr.empty⟩

/-- `dgsm_stop` -/
def stops : Input := ⟨.stop, CStr.empty⟩

end Host
end OsmoHlr
