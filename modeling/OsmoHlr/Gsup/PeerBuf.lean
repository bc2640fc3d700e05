import OsmoHlr.Gsup.Req
import Mathlib.Data.List.DropRight

/-!
# Names of peers in their buffers

`struct osmo_ipa_name` is a buffer of 128 bytes and how many of them are the name.  A name
that is set overwrites the first bytes of the buffer, and what was behind them stays.
Whoever only looks at the name does not see the rest; whoever reads the buffer as a string
does.

* `IpaNameBuf.set`, `GsupReqBuf.new` — `osmo_ipa_name_set` and `osmo_gsup_req_new` with
  the whole buffers.
* `name_set`, `toReq_new` — they do to the names what `ipaNameSet` and `osmoGsupReqNew` do.
* `new_spec` — what is in the buffers of a new request.
-/

namespace OsmoHlr
namespace Gsup

open CString CniPeerId

/-! ## Buffers -/

/-- `struct osmo_ipa_name`, with all the bytes of `val`. -/
@[ext] structure IpaNameBuf where
  len : Nat
  val : List UInt8
  length_val : val.length = ipaNameSize
  len_le : len ≤ ipaNameSize
  deriving DecidableEq

namespace IpaNameBuf

/-- `(struct osmo_ipa_name){}` -/
def zero : IpaNameBuf :=
  ⟨0, List.replicate ipaNameSize 0, List.length_replicate, Nat.zero_le _⟩

/-- The name: the first `len` bytes. -/
def name (buf : IpaNameBuf) : IpaName where
  val := buf.val.take buf.len
  len_le := (List.length_take_le _ _).trans buf.len_le

/-- The bytes `val` are copied to the start of a buffer. -/
def overlay (buf : IpaNameBuf) (val : List UInt8) (h : val.length ≤ ipaNameSize) :
    IpaNameBuf where
  len := val.length
  val := val ++ buf.val.drop val.length
  length_val := by
    rw [List.length_append, List.length_drop, buf.length_val]
    omega
  len_le := h

/-- `osmo_ipa_name_set` -/
def set (buf : IpaNameBuf) (val : List UInt8) : Int × IpaNameBuf :=
  if val.isEmpty then (0, zero)
  else if h : val.length ≤ ipaNameSize then (0, buf.overlay val h)
  else (enospc, buf)

/-- The string at `val`.  `none`: it does not end within the buffer. -/
def str (buf : IpaNameBuf) : Option CStr :=
  if 0 ∈ buf.val then some (CStr.ofBytes buf.val) else none

@[simp] theorem name_zero : zero.name = IpaName.zero := rfl

@[simp] theorem name_overlay (buf : IpaNameBuf) (val : List UInt8) (h : val.length ≤ ipaNameSize) :
    (buf.overlay val h).name = ⟨val, h⟩ := by
  refine IpaName.ext ?_
  exact List.take_left

theorem length_name (buf : IpaNameBuf) : buf.name.len = buf.len := by
  show (buf.val.take buf.len).length = buf.len
  rw [List.length_take, buf.length_val]
  exact Nat.min_eq_left buf.len_le

/-- Setting a buffer sets its name. -/
theorem name_set (buf : IpaNameBuf) (val : List UInt8) :
    ((buf.set val).1, (buf.set val).2.name) = ipaNameSet buf.name val := by
  unfold IpaNameBuf.set ipaNameSet
  split
  · rfl
  · split
    next h => rw [name_overlay]
    next => rfl

end IpaNameBuf

/-- `struct osmo_cni_peer_id` -/
@[ext] structure PeerIdBuf where
  type : PeerIdType
  ipaName : IpaNameBuf
  deriving DecidableEq

namespace PeerIdBuf

/-- `(struct osmo_cni_peer_id){}` -/
def zero : PeerIdBuf := ⟨.empty, IpaNameBuf.zero⟩

/-- The peer id without what is behind its name. -/
def peerId (buf : PeerIdBuf) : PeerId := ⟨buf.type, buf.ipaName.name⟩

@[simp] theorem peerId_zero : zero.peerId = PeerId.zero := rfl

/-- `osmo_cni_peer_id_set` with an IPA name. -/
def setIpaName (buf : PeerIdBuf) (val : List UInt8) : Int × PeerIdBuf :=
  let set := buf.ipaName.set val
  (set.1, ⟨.ipaName, set.2⟩)

theorem peerId_setIpaName (buf : PeerIdBuf) (val : List UInt8) :
    ((buf.setIpaName val).1, (buf.setIpaName val).2.peerId) =
      cniPeerIdSet buf.peerId .ipaName val := by
  have hset := buf.ipaName.name_set val
  simp only [setIpaName, cniPeerIdSet, peerId, ← hset]

end PeerIdBuf

/-! ## Requests -/

/-- `struct osmo_gsup_req` -/
structure GsupReqBuf where
  gsup : GsupMessage
  sourceName : PeerIdBuf
  viaProxy : PeerIdBuf
  sendResponseCb : Bool
  deriving DecidableEq

namespace GsupReqBuf

/-- The request without what is behind its names. -/
def toReq (req : GsupReqBuf) : GsupReq :=
  ⟨req.gsup, req.sourceName.peerId, req.viaProxy.peerId, req.sendResponseCb⟩

/-- The Source Name IE, if there is one, is written over the peer. -/
def setSourceName (req : GsupReqBuf) : Int × GsupReqBuf :=
  if req.gsup.sourceName = [] then (0, req)
  else
    let set := req.sourceName.setIpaName req.gsup.sourceName
    (set.1, { req with sourceName := set.2 })

/-- A peer that is not the source is a proxy for it. -/
def setViaProxy (req : GsupReqBuf) (fromPeer : PeerIdBuf) : GsupReqBuf :=
  if req.gsup.sourceName ≠ [] ∧ cniPeerIdCmp req.sourceName.peerId fromPeer.peerId ≠ 0 then
    { req with viaProxy := fromPeer }
  else req

/-- `osmo_gsup_req_new` of bytes from a peer that is not NULL: the request that it returns. -/
def new (lib : GsupLib) (fromPeer : PeerIdBuf) (l2 : List UInt8) (sendResponseCb : Bool) :
    Option GsupReqBuf :=
  if l2.isEmpty then none
  else
    match lib.gsupDecode l2 with
    | none => none
    | some gsup =>
        let named := setSourceName ⟨gsup, fromPeer, PeerIdBuf.zero, sendResponseCb⟩
        if named.1 ≠ 0 then none
        else
          let req := named.2.setViaProxy fromPeer
          if !lib.imsiStrValid req.gsup.imsi then none else some req

variable {lib : GsupLib} {fromPeer : PeerIdBuf} {l2 : List UInt8} {sendResponseCb : Bool}

theorem toReq_setSourceName (req : GsupReqBuf) :
    (req.setSourceName.1, req.setSourceName.2.toReq) = req.toReq.setSourceName := by
  unfold setSourceName GsupReq.setSourceName
  by_cases hname : req.gsup.sourceName = []
  · rw [if_pos hname, if_pos (show req.toReq.gsup.sourceName = [] from hname)]
  · have hset := req.sourceName.peerId_setIpaName req.gsup.sourceName
    rw [if_neg hname, if_neg (show ¬req.toReq.gsup.sourceName = [] from hname)]
    simp only [toReq, ← hset]

theorem toReq_setViaProxy (req : GsupReqBuf) (fromPeer : PeerIdBuf) :
    (req.setViaProxy fromPeer).toReq = req.toReq.setViaProxy fromPeer.peerId := by
  unfold setViaProxy GsupReq.setViaProxy
  exact apply_ite toReq _ _ _

/-- **A request is made of the buffers as it is made of the names.** -/
theorem toReq_new (lib : GsupLib) (fromPeer : PeerIdBuf) (l2 : List UInt8)
    (sendResponseCb : Bool) :
    (new lib fromPeer l2 sendResponseCb).map toReq =
      (osmoGsupReqNew lib (some fromPeer.peerId) l2 sendResponseCb).1 := by
  unfold new osmoGsupReqNew
  simp only
  cases hl2 : l2.isEmpty with
  | true => rfl
  | false =>
      cases lib.gsupDecode l2 with
      | none => rfl
      | some gsup =>
          have hnamed := toReq_setSourceName ⟨gsup, fromPeer, PeerIdBuf.zero, sendResponseCb⟩
          have hreq : (⟨gsup, fromPeer, PeerIdBuf.zero, sendResponseCb⟩ : GsupReqBuf).toReq =
              ⟨gsup, fromPeer.peerId, PeerId.zero, sendResponseCb⟩ := rfl
          have himsi (req : GsupReqBuf) : req.toReq.gsup.imsi = req.gsup.imsi := rfl
          simp only [← hreq, ← hnamed, ← toReq_setViaProxy, himsi, Bool.false_eq_true, if_false]
          split
          · rfl
          · split <;> rfl

theorem setViaProxy_cases (req : GsupReqBuf) (fromPeer : PeerIdBuf) :
    (req.setViaProxy fromPeer).gsup = req.gsup ∧
      (req.setViaProxy fromPeer).sourceName = req.sourceName ∧
      ((req.setViaProxy fromPeer).viaProxy = req.viaProxy ∨
        (req.setViaProxy fromPeer).viaProxy = fromPeer) := by
  unfold setViaProxy
  split
  · exact ⟨rfl, rfl, Or.inr rfl⟩
  · exact ⟨rfl, rfl, Or.inl rfl⟩

/-- What the Source Name IE leaves in the buffer of the source. -/
theorem setSourceName_spec {req : GsupReqBuf} (h : req.setSourceName.1 = 0) :
    req.setSourceName.2.gsup = req.gsup ∧ req.setSourceName.2.viaProxy = req.viaProxy ∧
      (req.gsup.sourceName = [] ∧ req.setSourceName.2.sourceName = req.sourceName ∨
        ∃ hlen : req.gsup.sourceName.length ≤ ipaNameSize, req.gsup.sourceName ≠ [] ∧
          req.setSourceName.2.sourceName =
            ⟨.ipaName, req.sourceName.ipaName.overlay req.gsup.sourceName hlen⟩) := by
  unfold setSourceName at h ⊢
  by_cases hname : req.gsup.sourceName = []
  · rw [if_pos hname]
    exact ⟨rfl, rfl, Or.inl ⟨hname, rfl⟩⟩
  · have hempty : ¬req.gsup.sourceName.isEmpty = true := by simpa using hname
    rw [if_neg hname] at h ⊢
    refine ⟨rfl, rfl, Or.inr ?_⟩
    simp only [PeerIdBuf.setIpaName, IpaNameBuf.set, if_neg hempty] at h ⊢
    split at h
    next hlen => exact ⟨hlen, hname, by rw [dif_pos hlen]⟩
    next => cases h

/-- **What is in the buffers of a new request**: the Source Name IE lies over the name of the
peer. -/
theorem new_spec {req : GsupReqBuf} (h : new lib fromPeer l2 sendResponseCb = some req) :
    lib.gsupDecode l2 = some req.gsup ∧
      (req.viaProxy = PeerIdBuf.zero ∨ req.viaProxy = fromPeer) ∧
      (req.gsup.sourceName = [] ∧ req.sourceName = fromPeer ∨
        ∃ hlen : req.gsup.sourceName.length ≤ ipaNameSize, req.gsup.sourceName ≠ [] ∧
          req.sourceName = ⟨.ipaName, fromPeer.ipaName.overlay req.gsup.sourceName hlen⟩) := by
  unfold new at h
  simp only at h
  split at h
  · cases h
  · cases hgsup : lib.gsupDecode l2 with
    | none =>
        rw [hgsup] at h
        cases h
    | some gsup =>
        rw [hgsup] at h
        simp only [ne_eq, ite_not] at h
        split at h
        next hrc =>
            obtain ⟨hmsg, hzero, hsource⟩ := setSourceName_spec hrc
            split at h
            next => cases h
            next =>
                obtain rfl := Option.some.inj h
                obtain ⟨hmsg', hsource', hvia⟩ := setViaProxy_cases
                  (setSourceName ⟨gsup, fromPeer, PeerIdBuf.zero, sendResponseCb⟩).2 fromPeer
                rw [hmsg', hmsg, hsource']
                exact ⟨rfl, by simpa only [hzero] using hvia, hsource⟩
        next => cases h

end GsupReqBuf

end Gsup
end OsmoHlr
