import OsmoHlr.Gsup.PeerId
import OsmoHlr.Lib.Compare
import OsmoHlr.Mslookup.Basic

/-!
# Identifiers are ordered

`osmo_ipa_name_cmp`, `osmo_cni_peer_id_cmp` and `osmo_mslookup_id_cmp`, with the pointers that
they are called with.

* `tells_ipaNameCmp` — names are ordered by their bytes, a name in front of its continuations.
* `tells_idCmp` — identifiers are ordered by their type, and then by their digits.
* `tells_cniPeerIdCmp` — so are peer ids, unless both are empty: then what is returned is an
  error code.
* `ordered_iff` — all three are orders but for two empty peer ids in different places.
-/

namespace OsmoHlr
namespace Identifiers

open CString CniPeerId Compare Memcmp

/-! ## IPA names -/

/-- The bytes that both names have, and then which one ends first. -/
theorem tells_memcmp {a b : IpaName} {n : Nat} {r : Int} (hn : n = min a.len b.len)
    (hr : Tells r a.len b.len) :
    Tells (if memcmp n a.val b.val = 0 then r else memcmp n a.val b.val) (byteKey a.val)
      (byteKey b.val) := by
  subst hn
  rw [← ite_not]
  exact Tells.lengths hr

theorem tells_ipaNameCmp (a b : IpaName) :
    Tells (ipaNameCmp a b) (byteKey a.val) (byteKey b.val) := by
  unfold ipaNameCmp
  split_ifs with hboth ha hb heq hlt
  · have hval : a.val = b.val := by
      rw [List.length_eq_zero_iff.1 hboth.1, List.length_eq_zero_iff.1 hboth.2]
    exact .of_eq (congrArg byteKey hval)
  · have hpos : a.len < b.len := by omega
    have h := tells_memcmp (n := 0) (by omega) (.of_lt hpos (Int.negSucc_lt_zero 0))
    rwa [memcmp_zero, if_pos rfl] at h
  · have hpos : b.len < a.len := by omega
    have h := tells_memcmp (n := 0) (by omega) (.of_gt hpos Int.zero_lt_one)
    rwa [memcmp_zero, if_pos rfl] at h
  · have h := tells_memcmp (n := a.len) (by omega) (.of_eq heq)
    rwa [ite_eq_right_iff.2 Eq.symm] at h
  · exact tells_memcmp (by omega) (.of_lt hlt (Int.negSucc_lt_zero 0))
  · exact tells_memcmp (by omega) (.of_gt (by omega) Int.zero_lt_one)

/-- `osmo_ipa_name_cmp`; what the pointers point to is in `names`. -/
def osmoIpaNameCmp (names : Nat → IpaName) : Option Nat → Option Nat → Int :=
  ofPtr ipaNameCmp names

theorem byteKey_val_inj {a b : IpaName} : byteKey a.val = byteKey b.val ↔ a = b :=
  byteKey_inj.trans IpaName.ext_iff.symm

/-! ## mslookup identifiers -/

open Mslookup (Id idCmp strncmp)

variable (lib : Libosmocore)

/-- The size of the member of the union that the type selects. -/
def idBufSize : Id → Nat
  | .none => 0
  | .imsi _ => lib.imsiMaxDigits + 1
  | .msisdn _ => lib.msisdnMaxDigits + 1

/-- `struct osmo_mslookup_id`: the digits are in a buffer, with or without a NUL behind them. -/
structure IdBuf where
  id : Id
  fits : id.digits.len ≤ idBufSize lib id

/-- `osmo_mslookup_id_cmp`; what the pointers point to is in `ids`. -/
def osmoMslookupIdCmp (ids : Nat → IdBuf lib) : Option Nat → Option Nat → Int :=
  ofPtr (fun a b => idCmp lib (some a.id) (some b.id)) ids

theorem tells_osmoCmp (a b : Nat) : Tells (Mslookup.osmoCmp a b) a b := by
  unfold Mslookup.osmoCmp
  split_ifs with hlt hgt
  · exact .of_lt hlt (Int.negSucc_lt_zero 0)
  · exact .of_gt hgt Int.zero_lt_one
  · exact .of_eq (by omega)

/-- Strings in buffers of one size are compared whole. -/
theorem tells_strncmp {n : Nat} {a b : List UInt8} (ha : a.length ≤ n) (hb : b.length ≤ n) :
    Tells (strncmp n a b) (byteKey a) (byteKey b) := by
  induction n generalizing a b with
  | zero =>
      rw [List.length_eq_zero_iff.1 (Nat.le_zero.1 ha),
        List.length_eq_zero_iff.1 (Nat.le_zero.1 hb)]
      exact .of_eq rfl
  | succ n ih =>
      match a, b with
      | [], [] => exact .of_eq rfl
      | [], y :: ys => exact .of_lt (List.nil_lt_cons _ _) (Int.negSucc_lt_zero 0)
      | x :: xs, [] => exact .of_gt (List.nil_lt_cons _ _) Int.zero_lt_one
      | x :: xs, y :: ys =>
          have h := Tells.byte (x := x) (y := y) fun _ =>
            ih (Nat.le_of_succ_le_succ ha) (Nat.le_of_succ_le_succ hb)
          rw [strncmp]
          by_cases hxy : x = y
          · subst hxy
            rw [if_neg (UInt8.lt_irrefl x), if_neg (UInt8.lt_irrefl x)] at h
            rwa [if_pos rfl]
          · rw [if_neg hxy]
            by_cases hlt : x < y
            · rwa [if_pos hlt] at h ⊢
            · have hgt : y < x := UInt8.lt_of_le_of_ne (UInt8.not_lt.1 hlt) (Ne.symm hxy)
              rw [if_neg hlt, if_pos hgt] at h
              rwa [if_neg hlt]

/-- The type, and then the digits. -/
def idKey (id : Id) : ℕ ×ₗ List ℕ := toLex (id.type, byteKey id.digits.bytes)

theorem idKey_inj {a b : Id} : idKey a = idKey b ↔ a = b := by
  rw [idKey, idKey, toLex_inj, Prod.mk.injEq, byteKey_inj]
  cases a <;> cases b <;> simp [Id.type, Id.digits, CStr.ext_iff]

theorem tells_idCmp (a b : IdBuf lib) :
    Tells (idCmp lib (some a.id) (some b.id)) (idKey a.id) (idKey b.id) := by
  obtain ⟨a, ha⟩ := a
  obtain ⟨b, hb⟩ := b
  refine (tells_osmoCmp a.type b.type).andThen fun htype => ?_
  match a, b with
  | .none, .none => exact .of_eq rfl
  | .imsi x, .imsi y => exact tells_strncmp ha hb
  | .msisdn x, .msisdn y => exact tells_strncmp ha hb

/-- Where an object is makes no difference. -/
theorem osmoMslookupIdCmp_eq (ids : Nat → IdBuf lib) (a b : Option Nat) :
    osmoMslookupIdCmp lib ids a b =
      idCmp lib (pointee IdBuf.id ids a) (pointee IdBuf.id ids b) := by
  unfold osmoMslookupIdCmp ofPtr
  split
  next hab =>
      subst hab
      cases a with
      | none => rfl
      | some p => exact ((tells_idCmp lib (ids p) (ids p)).zero_iff.2 rfl).symm
  next hab =>
      match a, b with
      | none, none => exact absurd rfl hab
      | none, some q => rfl
      | some p, none => rfl
      | some p, some q => rfl

/-! ## Peer ids -/

/-- What a peer id stands for: an IPA name, or nothing. -/
def peerValue (peer : PeerId) : Option IpaName :=
  match peer.type with
  | .empty => none
  | .ipaName => some peer.ipaName

/-- The name, nothing in front. -/
def peerKey (peer : PeerId) : WithBot (List ℕ) :=
  match peer.type with
  | .empty => ⊥
  | .ipaName => (byteKey peer.ipaName.val : WithBot (List ℕ))

theorem peerKey_inj {a b : PeerId} : peerKey a = peerKey b ↔ peerValue a = peerValue b := by
  unfold peerKey peerValue
  cases a.type <;> cases b.type
  · exact iff_of_true rfl rfl
  · exact iff_of_false WithBot.bot_ne_coe nofun
  · exact iff_of_false WithBot.coe_ne_bot nofun
  · exact WithBot.coe_inj.trans (byteKey_val_inj.trans Option.some_inj.symm)

/-- Neither of two peer ids has a name. -/
def Nameless (a b : PeerId) : Prop := a.type = .empty ∧ b.type = .empty

instance (a b : PeerId) : Decidable (Nameless a b) :=
  inferInstanceAs (Decidable (a.type = .empty ∧ b.type = .empty))

theorem cniPeerIdCmp_of_nameless {a b : PeerId} (h : Nameless a b) : cniPeerIdCmp a b = einval := by
  rw [cniPeerIdCmp, if_neg (not_not.2 (h.1.trans h.2.symm)), h.1]

theorem tells_cniPeerIdCmp {a b : PeerId} (h : ¬Nameless a b) :
    Tells (cniPeerIdCmp a b) (peerKey a) (peerKey b) := by
  obtain ⟨ta, na⟩ := a
  obtain ⟨tb, nb⟩ := b
  cases ta <;> cases tb
  · exact absurd ⟨rfl, rfl⟩ h
  · exact .of_lt (WithBot.bot_lt_coe _) (Int.negSucc_lt_zero 0)
  · exact .of_gt (WithBot.bot_lt_coe _) Int.zero_lt_one
  · have hname := tells_ipaNameCmp na nb
    exact ⟨hname.neg_iff.trans WithBot.coe_lt_coe.symm, hname.zero_iff.trans WithBot.coe_inj.symm⟩

/-- `osmo_cni_peer_id_cmp`; what the pointers point to is in `peers`. -/
def osmoCniPeerIdCmp (peers : Nat → PeerId) : Option Nat → Option Nat → Int :=
  ofPtr cniPeerIdCmp peers

/-- Two peer ids without a name, in different places. -/
def NamelessApart (peers : Nat → PeerId) (a b : Option Nat) : Prop :=
  a ≠ b ∧ ∃ p q, a = some p ∧ b = some q ∧ Nameless (peers p) (peers q)

variable {peers : Nat → PeerId} {a b c : Option Nat}

theorem tells_osmoCniPeerIdCmp (h : ¬NamelessApart peers a b) :
    Tells (osmoCniPeerIdCmp peers a b) (target peerKey peers a) (target peerKey peers b) :=
  .ofPtr fun hab p q hp hq => tells_cniPeerIdCmp fun hnameless => h ⟨hab, p, q, hp, hq, hnameless⟩

theorem osmoCniPeerIdCmp_of_namelessApart (h : NamelessApart peers a b) :
    osmoCniPeerIdCmp peers a b = einval ∧
      target peerKey peers a = target peerKey peers b := by
  obtain ⟨hab, p, q, rfl, rfl, hnameless⟩ := h
  constructor
  · rw [osmoCniPeerIdCmp, ofPtr, if_neg hab]
    exact cniPeerIdCmp_of_nameless hnameless
  · simp only [target, peerKey, hnameless.1, hnameless.2]

/-- The error code is negative, and none of the others is positive for equal peer ids. -/
theorem osmoCniPeerIdCmp_nonpos_iff :
    osmoCniPeerIdCmp peers a b ≤ 0 ↔ target peerKey peers a ≤ target peerKey peers b := by
  by_cases h : NamelessApart peers a b
  · obtain ⟨hcmp, hkey⟩ := osmoCniPeerIdCmp_of_namelessApart h
    exact iff_of_true (hcmp ▸ (by decide)) hkey.le
  · exact (tells_osmoCniPeerIdCmp h).nonpos_iff

theorem NamelessApart.symm (h : NamelessApart peers a b) : NamelessApart peers b a := by
  obtain ⟨hab, p, q, hp, hq, hnameless⟩ := h
  exact ⟨hab.symm, q, p, hq, hp, hnameless.2, hnameless.1⟩

/-- **Peer ids are ordered**, but for two that have no name. -/
theorem osmoCniPeerIdCmp_ordered_iff :
    OrderedAt (osmoCniPeerIdCmp peers) (pointee peerValue peers) a b c ↔
      ¬NamelessApart peers a b := by
  have hvalue : target peerKey peers a = target peerKey peers b ↔
      pointee peerValue peers a = pointee peerValue peers b := target_eq_iff fun _ _ => peerKey_inj
  constructor
  · intro hordered hapart
    obtain ⟨hcmp, hkey⟩ := osmoCniPeerIdCmp_of_namelessApart hapart
    rw [hordered.zero_iff.2 (hvalue.1 hkey)] at hcmp
    exact absurd hcmp (by decide)
  · intro hapart
    have hab := tells_osmoCniPeerIdCmp hapart
    have hba := tells_osmoCniPeerIdCmp (mt NamelessApart.symm hapart)
    refine ⟨hab.zero_iff.trans hvalue, hab.sign_swap hba, ?_⟩
    simp only [osmoCniPeerIdCmp_nonpos_iff]
    exact le_trans

/-- **The comparisons are orders** of names, of peer ids and of mslookup identifiers, wherever
they are and whether the pointers are null, exactly if not two different peer ids without a name
are compared. -/
theorem ordered_iff (names : Nat → IpaName) (peers : Nat → PeerId) (ids : Nat → IdBuf lib)
    (a b c : Option Nat) :
    (OrderedAt (osmoIpaNameCmp names) (pointee id names) a b c ∧
      OrderedAt (osmoMslookupIdCmp lib ids) (pointee IdBuf.id ids) a b c ∧
      OrderedAt (osmoCniPeerIdCmp peers) (pointee peerValue peers) a b c) ↔
      ¬NamelessApart peers a b := by
  have hnames : OrderedAt (osmoIpaNameCmp names) (pointee id names) a b c :=
    (Follows.ofPtr tells_ipaNameCmp names).orderedAt (target_eq_iff fun _ _ => byteKey_val_inj) c
  have hids : OrderedAt (osmoMslookupIdCmp lib ids) (pointee IdBuf.id ids) a b c :=
    (Follows.ofPtr (tells_idCmp lib) ids).orderedAt (target_eq_iff fun _ _ => idKey_inj) c
  rw [← osmoCniPeerIdCmp_ordered_iff (c := c)]
  exact ⟨fun h => h.2.2, fun h => ⟨hnames, hids, h⟩⟩

/-- Two peer ids that nothing has been set in. -/
theorem empty_peers_differ :
    ¬∀ (peers : Nat → PeerId) (a b c : Option Nat),
      OrderedAt (osmoCniPeerIdCmp peers) (pointee peerValue peers) a b c := by
  intro h
  have hzero := (h (fun _ => PeerId.zero) (some 0) (some 1) none).zero_iff.2 rfl
  exact absurd hzero (by decide)

end Identifiers
end OsmoHlr
