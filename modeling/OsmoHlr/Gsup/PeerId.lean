import OsmoHlr.Lib.Memcmp

/-!
# Names of GSUP peers

`src/gsupclient/cni_peer_id.c`: the IPA name of a peer is a blob of at most 128
bytes, which fits the buffer that holds it by construction; a peer id is an IPA
name or nothing at all.
-/

namespace OsmoHlr
namespace CniPeerId

open Memcmp

/-- `-EINVAL` -/
def einval : Int := -22

/-- `-ENOSPC` -/
def enospc : Int := -28

/-- `sizeof(ipa_name->val)` -/
def ipaNameSize : Nat := 128

/-- `struct osmo_ipa_name`: the `len` bytes of `val` that are in use. -/
@[ext] structure IpaName where
  val : List UInt8
  len_le : val.length ≤ ipaNameSize
  deriving DecidableEq

/-- `len` -/
def IpaName.len (ipaName : IpaName) : Nat := ipaName.val.length

/-- `(struct osmo_ipa_name){}` -/
def IpaName.zero : IpaName := ⟨[], by decide⟩

/-- `osmo_ipa_name_is_empty` -/
def ipaNameIsEmpty (ipaName : IpaName) : Bool := ipaName.len == 0

/-- `osmo_ipa_name_set`; a `val` without bytes stands for NULL, too. -/
def ipaNameSet (ipaName : IpaName) (val : List UInt8) : Int × IpaName :=
  if val.isEmpty then (0, IpaName.zero)
  else if h : val.length ≤ ipaNameSize then (0, ⟨val, h⟩)
  else (enospc, ipaName)

/-- `osmo_ipa_name_cmp` of two objects. -/
def ipaNameCmp (a b : IpaName) : Int :=
  if a.len = 0 ∧ b.len = 0 then 0
  else if a.len = 0 then -1
  else if b.len = 0 then 1
  else if a.len = b.len then memcmp a.len a.val b.val
  else if a.len < b.len then
    let cmp := memcmp a.len a.val b.val
    if cmp = 0 then -1 else cmp
  else
    let cmp := memcmp b.len a.val b.val
    if cmp = 0 then 1 else cmp

/-- `enum osmo_cni_peer_id_type` -/
inductive PeerIdType where
  | empty
  | ipaName
  deriving DecidableEq

/-- The number of a type. -/
def PeerIdType.toInt : PeerIdType → Int
  | .empty => 0
  | .ipaName => 1

/-- `struct osmo_cni_peer_id` -/
@[ext] structure PeerId where
  type : PeerIdType
  ipaName : IpaName
  deriving DecidableEq

/-- `(struct osmo_cni_peer_id){}` -/
def PeerId.zero : PeerId := ⟨.empty, IpaName.zero⟩

/-- The peer id of an IPA name. -/
def PeerId.ofIpaName (ipaName : IpaName) : PeerId := ⟨.ipaName, ipaName⟩

/-- `osmo_cni_peer_id_is_empty` -/
def cniPeerIdIsEmpty (cniPeerId : PeerId) : Bool :=
  match cniPeerId.type with
  | .empty => true
  | .ipaName => ipaNameIsEmpty cniPeerId.ipaName

/-- `osmo_cni_peer_id_set` -/
def cniPeerIdSet (cniPeerId : PeerId) (type : PeerIdType) (val : List UInt8) : Int × PeerId :=
  match type with
  | .ipaName =>
      let set := ipaNameSet cniPeerId.ipaName val
      (set.1, ⟨type, set.2⟩)
  | .empty => (einval, { cniPeerId with type := type })

/-- `OSMO_CMP` -/
def osmoCmp (a b : Int) : Int := if a < b then -1 else if b < a then 1 else 0

/-- `osmo_cni_peer_id_cmp` of two objects. -/
def cniPeerIdCmp (a b : PeerId) : Int :=
  if a.type ≠ b.type then osmoCmp a.type.toInt b.type.toInt
  else
    match a.type with
    | .ipaName => ipaNameCmp a.ipaName b.ipaName
    | .empty => einval

/-! ## What they say about the bytes -/

theorem ipaNameIsEmpty_iff {ipaName : IpaName} :
    ipaNameIsEmpty ipaName = true ↔ ipaName.val = [] := by
  simp [ipaNameIsEmpty, IpaName.len]

/-- Names compare equal exactly if they are. -/
theorem ipaNameCmp_eq_zero_iff {a b : IpaName} : ipaNameCmp a b = 0 ↔ a = b := by
  have hlen : a = b → a.len = b.len := fun h => h ▸ rfl
  unfold ipaNameCmp
  split
  next h =>
      have ha : a.val = [] := List.eq_nil_of_length_eq_zero h.1
      have hb : b.val = [] := List.eq_nil_of_length_eq_zero h.2
      exact iff_of_true rfl (IpaName.ext (ha.trans hb.symm))
  next h =>
      split
      next ha => exact iff_of_false (by decide) fun hab => h ⟨ha, hlen hab ▸ ha⟩
      next ha =>
          split
          next hb => exact iff_of_false (by decide) fun hab => h ⟨(hlen hab).trans hb, hb⟩
          next =>
              split
              next heq =>
                  rw [heq, IpaName.len, memcmp_length_eq_zero_iff heq]
                  exact ⟨IpaName.ext, fun hab => hab ▸ rfl⟩
              next hne =>
                  refine iff_of_false ?_ fun hab => hne (hlen hab)
                  simp only
                  split_ifs with hlt hcmp hcmp
                  · decide
                  · exact hcmp
                  · decide
                  · exact hcmp

/-- IPA names of peers compare equal exactly if they are. -/
theorem cniPeerIdCmp_ofIpaName_eq_zero_iff {a b : IpaName} :
    cniPeerIdCmp (.ofIpaName a) (.ofIpaName b) = 0 ↔ a = b := ipaNameCmp_eq_zero_iff

@[simp] theorem cniPeerIdIsEmpty_zero : cniPeerIdIsEmpty PeerId.zero = true := rfl

theorem cniPeerIdIsEmpty_ofIpaName_iff {a : IpaName} :
    cniPeerIdIsEmpty (.ofIpaName a) = true ↔ a.val = [] := ipaNameIsEmpty_iff

/-- A name that is set without an error is the name that was given. -/
theorem ipaNameSet_eq_zero {ipaName : IpaName} {val : List UInt8}
    (h : (ipaNameSet ipaName val).1 = 0) : (ipaNameSet ipaName val).2.val = val := by
  unfold ipaNameSet at h ⊢
  split_ifs at h ⊢ with hempty hlen
  · exact (List.isEmpty_iff.1 hempty).symm
  · rfl
  · cases h

/-- A name is set to what was given, or left alone. -/
theorem ipaNameSet_cases (ipaName : IpaName) (val : List UInt8) :
    (ipaNameSet ipaName val).2.val = val ∨ (ipaNameSet ipaName val).2 = ipaName := by
  unfold ipaNameSet
  split_ifs with hempty hlen
  · exact Or.inl (List.isEmpty_iff.1 hempty).symm
  · exact Or.inl rfl
  · exact Or.inr rfl

end CniPeerId
end OsmoHlr
