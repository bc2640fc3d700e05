import OsmoHlr.Gsup.Server

/-!
# Sending to peers

`src/gsup_send.c`: a message is sent to the connection to which its address is
routed.  Addresses end in a NUL; names that do not are completed.
-/

namespace OsmoHlr
namespace Gsup

open CString CniPeerId

/-- `-ENODEV` -/
def enodev : Int := -19

/-- `osmo_ipa_name_set_str` of what is printed: the bytes that fit, and a NUL. -/
def ipaNameSetStr (str : CStr) : IpaName where
  val := str.bytes.take (ipaNameSize - 1) ++ [0]
  len_le := by
    rw [List.length_append, List.length_take, List.length_singleton, ipaNameSize]
    omega

/-- `osmo_gsup_addr_send` -/
def osmoGsupAddrSend (routes : RouteTable) (addr : List UInt8) (msg : List UInt8) :
    Int × List Sent :=
  match gsupRouteFind routes addr with
  | none => (enodev, [])
  | some conn => (0, [⟨conn, msg⟩])

/-- `osmo_gsup_send_to_ipa_name` -/
def osmoGsupSendToIpaName (routes : RouteTable) (ipaName : IpaName) (msg : List UInt8) :
    Int × List Sent :=
  if ipaName.val.getLastD 0 ≠ 0 then
    if ipaNameSize ≤ ipaName.len then (einval, [])
    else osmoGsupAddrSend routes (ipaName.val ++ [0]) msg
  else osmoGsupAddrSend routes ipaName.val msg

/-- There is a route to an address, completed by a NUL if it has none. -/
def IsRouted (routes : RouteTable) (ipaName : IpaName) : Prop :=
  ∃ conn, gsupRouteFind routes
    (if ipaName.val.getLastD 0 ≠ 0 then ipaName.val ++ [0] else ipaName.val) = some conn

/-- What is sent is sent over a route. -/
theorem isRouted_of_sent {routes : RouteTable} {ipaName : IpaName} {msg : List UInt8}
    (h : (osmoGsupSendToIpaName routes ipaName msg).2 ≠ []) : IsRouted routes ipaName := by
  unfold osmoGsupSendToIpaName osmoGsupAddrSend at h
  unfold IsRouted
  split at h
  next hnul =>
      rw [if_pos hnul]
      split at h
      · exact absurd rfl h
      · split at h
        · exact absurd rfl h
        next conn hfind => exact ⟨conn, hfind⟩
  next hnul =>
      rw [if_neg hnul]
      split at h
      · exact absurd rfl h
      next conn hfind => exact ⟨conn, hfind⟩

/-- `osmo_gsup_enc_send_to_ipa_name` -/
def osmoGsupEncSendToIpaName (lib : GsupLib) (routes : RouteTable) (ipaName : IpaName)
    (gsup : GsupMessage) : Int × List Sent :=
  match lib.gsupEncode gsup with
  | none => (einval, [])
  | some msg => osmoGsupSendToIpaName routes ipaName msg

end Gsup
end OsmoHlr
