import OsmoHlr.Db.DbSelHost
import OsmoHlr.Gsup.GsupLibHost
import OsmoHlr.Gsup.PeerBuf
import OsmoHlr.Lu.LuFsm

/-!
# Names of VLRs in the database

`lu_start` of `src/lu_fsm.c` stores whom an Update Location Request comes from and via which
proxy.  What it stores is the string in the buffer of the name: it ends at a NUL wherever
there is one, it goes on with what the buffer held before if the name has none, and whoever
reads it back takes it for a format.

* `luStart` — `lu_start` as far as it stores the names, with their buffers; `luStart_goesOn`
  is what `LuFsm.luStart` does then.
* `Storable` — a name that is stored as it is.
* `vlr_names_survive_iff` — names are rebuilt exactly if they are storable.
* `osmoGsupSendToIpaName_congr` — a name that is rebuilt reaches the peer that it was of.
-/

namespace OsmoHlr
namespace VlrNames

open CString CniPeerId Gsup Db LuFsm Format

/-! ## Storing -/

/-- The string that `db_subscr_lu` binds for a proxy. -/
def proxyStr : Option IpaNameBuf → Option (Option CStr)
  | none => some none
  | some viaProxy => if viaProxy.len = 0 then some none else viaProxy.str.map some

/-- `db_subscr_lu` of the buffers.  `none`: a string is read that does not end within its
buffer. -/
def dbSubscrLu (lib : DbLib) (f : LuFaults) (t : Tables) (subscrId : Int) (vlrName : IpaNameBuf)
    (isPs : Bool) (viaProxy : Option IpaNameBuf) : Option (Int × Tables) :=
  if f.number.binds 1 then some (eio, t)
  else
    match vlrName.str with
    | none => none
    | some number =>
        if f.number.binds 2 then some (eio, t)
        else
          (proxyStr viaProxy).map fun proxy => Db.dbSubscrLu lib f t subscrId number isPs proxy

/-- What goes wrong with the database. -/
structure StartFaults where
  get : Faults
  lu : LuFaults

/-- The domain of a request; PS is the default. -/
def isPs (req : GsupReqBuf) : Bool := req.gsup.cnDomain ≠ .cs

/-- The proxy that is handed to `db_subscr_lu`. -/
def viaProxyName (req : GsupReqBuf) : Option IpaNameBuf :=
  if cniPeerIdIsEmpty req.viaProxy.peerId then none else some req.viaProxy.ipaName

/-- The end of `lu_start`. -/
def luStore (lib : SelLib) (f : LuFaults) (t : Tables) (subscrId : Int) (req : GsupReqBuf) :
    Option (Except Failure Tables) :=
  if cniPeerIdIsEmpty req.sourceName.peerId ∨ req.sourceName.type ≠ .ipaName then
    some (.error .unsupportedVlrName)
  else if ¬cniPeerIdIsEmpty req.viaProxy.peerId ∧ req.viaProxy.type ≠ .ipaName then
    some (.error .unsupportedViaProxy)
  else
    (dbSubscrLu lib.toDbLib f t subscrId req.sourceName.ipaName (isPs req)
      (viaProxyName req)).map fun stored =>
        if stored.1 ≠ 0 then .error .cannotUpdate else .ok stored.2

/-- `lu_start`: the failure, or what is in the database when the names are stored. -/
def luStart (lib : SelLib) (f : StartFaults) (t : Tables) (req : GsupReqBuf) :
    Option (Except Failure Tables) :=
  if cniPeerIdIsEmpty req.sourceName.peerId then some (.error .luWithoutVlr)
  else
    match dbSubscrGetByImsi lib f.get t req.gsup.imsi with
    | .error _ => some (.error .subscriberDoesNotExist)
    | .ok subscr =>
        if ¬isPs req ∧ ¬subscr.namCs then some (.error .namCsFalse)
        else if isPs req ∧ ¬subscr.namPs then some (.error .namPsFalse)
        else luStore lib f.lu t subscr.id req

/-! ## The same as without the buffers -/

section Refinement

variable (lib : SelLib) (f : StartFaults) (t : Tables)

/-- The database, as `LuFsm.luStart` sees it. -/
def dbEnv (env : Env) (req : GsupReqBuf) : Env :=
  { env with
    dbSubscrGetByImsi := fun imsi =>
      (dbSubscrGetByImsi lib f.get t imsi).map Subscriber.toHlrSubscriber
    dbSubscrLu := fun subscrId _ isPs _ =>
      ((dbSubscrLu lib.toDbLib f.lu t subscrId req.sourceName.ipaName isPs
        (viaProxyName req)).map Prod.fst).getD 0 }

variable {lib f t} (proto : GsupProtocol) (env : Env) (g : AllLu) {req : GsupReqBuf}

/-- How the LU goes on: the way that `luStart` says. -/
def GoesOn (proto : GsupProtocol) (env : Env) (outcome : Except Failure Tables)
    (res : AllLu × List Out) : Prop :=
  match outcome with
  | .error why => ∃ g' lu cause, res = luFailure proto g' lu cause why
  | .ok _ => ∃ g' lu, res = luStateChg proto env g' lu .waitInsertDataResult

theorem GoesOn.of_eq {proto : GsupProtocol} {env : Env} {outcome : Except Failure Tables}
    {res res' : AllLu × List Out} (h : GoesOn proto env outcome res') (heq : res = res') :
    GoesOn proto env outcome res :=
  heq ▸ h

theorem luStore_goesOn (lu : Lu) {outcome : Except Failure Tables}
    (hname : lu.vlrName = req.sourceName.peerId) (hproxy : lu.viaProxy = req.viaProxy.peerId)
    (hps : lu.isPs = isPs req) (h : luStore lib f.lu t lu.subscr.id req = some outcome) :
    GoesOn proto (dbEnv lib f t env req) outcome
      (LuFsm.luStore proto (dbEnv lib f t env req) g lu) := by
  unfold luStore at h
  unfold LuFsm.luStore
  rw [hname, hproxy, hps]
  split at h
  next hvlr =>
      obtain rfl := Option.some.inj h
      exact ⟨_, _, _, if_pos hvlr⟩
  next hvlr =>
      refine GoesOn.of_eq ?_ (if_neg hvlr)
      split at h
      next hvia =>
          obtain rfl := Option.some.inj h
          exact ⟨_, _, _, if_pos hvia⟩
      next hvia =>
          refine GoesOn.of_eq ?_ (if_neg hvia)
          obtain ⟨stored, hstored, rfl⟩ := Option.map_eq_some_iff.1 h
          have hrc : (dbEnv lib f t env req).dbSubscrLu lu.subscr.id
              req.sourceName.peerId.ipaName (isPs req)
              (if cniPeerIdIsEmpty req.viaProxy.peerId then none
                else some req.viaProxy.peerId.ipaName) = stored.1 := by
            simp [dbEnv, hstored]
          split
          next hfailed => exact ⟨_, _, _, if_pos (hrc ▸ hfailed)⟩
          next hok => exact ⟨_, _, if_neg (hrc ▸ hok)⟩

/-- **The LU fails for the same reason, or goes on if the names are stored.** -/
theorem luStart_goesOn (ref : Nat) {outcome : Except Failure Tables}
    (h : luStart lib f t req = some outcome) :
    GoesOn proto (dbEnv lib f t env req) outcome
      (LuFsm.luStart proto (dbEnv lib f t env req) g ⟨ref, req.toReq⟩) := by
  unfold luStart at h
  unfold LuFsm.luStart
  simp only at h ⊢
  split at h
  next hvlr =>
      obtain rfl := Option.some.inj h
      exact ⟨_, _, _, if_pos hvlr⟩
  next hvlr =>
      rw [if_neg (show ¬cniPeerIdIsEmpty (luAlloc ⟨ref, req.toReq⟩).vlrName = true from hvlr)]
      have hget : (dbEnv lib f t env req).dbSubscrGetByImsi req.toReq.gsup.imsi =
          (dbSubscrGetByImsi lib f.get t req.gsup.imsi).map Subscriber.toHlrSubscriber := rfl
      rw [hget]
      cases hsubscr : dbSubscrGetByImsi lib f.get t req.gsup.imsi with
      | error rc =>
          rw [hsubscr] at h
          obtain rfl := Option.some.inj h
          exact ⟨_, _, _, rfl⟩
      | ok subscr =>
          rw [hsubscr] at h
          simp only at h
          simp only [Except.map]
          split at h
          next hcs =>
              obtain rfl := Option.some.inj h
              exact ⟨_, _, _, if_pos hcs⟩
          next hcs =>
              split at h
              next hps =>
                  obtain rfl := Option.some.inj h
                  exact ⟨_, _, _, (if_neg hcs).trans (if_pos hps)⟩
              next hps =>
                  let lu : Lu :=
                    { luAlloc ⟨ref, req.toReq⟩ with subscr := subscr.toHlrSubscriber }
                  have hstore := luStore_goesOn proto env
                    ((g.add (luAlloc ⟨ref, req.toReq⟩)).set lu) lu rfl rfl rfl h
                  exact hstore.of_eq ((if_neg hcs).trans (if_neg hps))

end Refinement

/-! ## Names as strings -/

/-- A name without one terminating NUL. -/
def withoutNul (name : IpaName) : List UInt8 :=
  if name.val.getLast? = some 0 then name.val.dropLast else name.val

/-- Two names are equal up to one terminating NUL. -/
def SameName (a b : IpaName) : Prop := withoutNul a = withoutNul b

instance (a b : IpaName) : Decidable (SameName a b) :=
  inferInstanceAs (Decidable (withoutNul a = withoutNul b))

theorem withoutNul_of_last {name : IpaName} (h : name.val.getLast? = some 0) :
    withoutNul name ++ [0] = name.val := by
  unfold withoutNul
  rw [if_pos h]
  exact List.dropLast_append_getLast? 0 h

/-- A message is sent to the name that is completed by a NUL. -/
theorem osmoGsupSendToIpaName_eq (routes : RouteTable) (msg : List UInt8) {name : IpaName}
    (hne : name.val ≠ []) (hlen : name.len < ipaNameSize) :
    osmoGsupSendToIpaName routes name msg =
      osmoGsupAddrSend routes (withoutNul name ++ [0]) msg := by
  unfold osmoGsupSendToIpaName
  have hlast : name.val.getLast? = some (name.val.getLastD 0) := by
    rw [List.getLast?_eq_some_getLast hne, List.getLastD_eq_getLast?,
      List.getLast?_eq_some_getLast hne]
    rfl
  split
  next hnul =>
      have hname : withoutNul name = name.val := if_neg (by rw [hlast]; simpa using hnul)
      rw [if_neg (Nat.not_le_of_lt hlen), hname]
  next hnul =>
      rw [withoutNul_of_last (by rw [hlast, not_not.1 hnul])]

/-- **Messages to names that are equal up to one terminating NUL go to the same peer.** -/
theorem osmoGsupSendToIpaName_congr (routes : RouteTable) (msg : List UInt8) {a b : IpaName}
    (h : SameName a b) (ha : a.val ≠ [] ∧ a.len < ipaNameSize)
    (hb : b.val ≠ [] ∧ b.len < ipaNameSize) :
    osmoGsupSendToIpaName routes a msg = osmoGsupSendToIpaName routes b msg := by
  rw [osmoGsupSendToIpaName_eq routes msg ha.1 ha.2, osmoGsupSendToIpaName_eq routes msg hb.1 hb.2,
    show withoutNul a = withoutNul b from h]

/-- The name in a buffer survives if up to `max` characters are stored: it has no NUL, no more
characters than that, a NUL is behind it (or it is as long as may be), and no percent sign is in
it.  There may be percent signs at its end if there are as many again behind the name. -/
def Storable (max : Nat) (buf : IpaNameBuf) : Prop :=
  ∃ a j rest,
    0 ∉ a ∧ percent ∉ a ∧ a.length + 2 * j ≤ max ∧
    withoutNul buf.name = a ++ List.replicate j percent ∧
    buf.val = a ++ List.replicate (2 * j) percent ++ rest ∧
    (rest.head? = some 0 ∨ a.length + 2 * j = max ∧ 0 ∈ rest)

theorem withoutNul_start (name : IpaName) : withoutNul name <+: name.val := by
  unfold withoutNul
  split
  · exact List.dropLast_prefix _
  · exact List.prefix_rfl

/-- What is read out of a buffer ends there. -/
theorem val_of_str {buf : IpaNameBuf} {str : CStr} (h : buf.str = some str) :
    ∃ rest, buf.val = str.bytes ++ 0 :: rest := by
  unfold IpaNameBuf.str at h
  split at h
  next hnul =>
      obtain rfl := Option.some.inj h
      have hsplit := List.takeWhile_append_dropWhile (p := (· != 0)) (l := buf.val)
      cases hdrop : buf.val.dropWhile (· != 0) with
      | nil =>
          have hall := List.dropWhile_eq_nil_iff.1 hdrop 0 hnul
          simp at hall
      | cons c rest =>
          have hc : c = 0 := by
            have hhead := List.head_dropWhile_not (· != 0) (l := buf.val) (by simp [hdrop])
            simpa [hdrop] using hhead
          refine ⟨rest, ?_⟩
          rw [← hc, ← hdrop]
          exact hsplit.symm
  next => cases h

theorem str_of_val {buf : IpaNameBuf} {a rest : List UInt8} (ha : 0 ∉ a)
    (h : buf.val = a ++ 0 :: rest) : buf.str = some ⟨a, ha⟩ := by
  have hmem : 0 ∈ buf.val := by simp [h]
  have hall : ∀ c ∈ a, (c != 0) = true := by
    intro c hc
    simpa using fun h0 : c = 0 => ha (h0 ▸ hc)
  unfold IpaNameBuf.str
  rw [if_pos hmem]
  refine congrArg some (CStr.ext ?_)
  show buf.val.takeWhile (· != 0) = a
  rw [h, List.takeWhile_append_of_pos hall]
  simp

theorem len_str_lt {buf : IpaNameBuf} {str : CStr} (h : buf.str = some str) :
    str.len < ipaNameSize := by
  obtain ⟨rest, hval⟩ := val_of_str h
  have hlen := buf.length_val
  rw [hval, List.length_append, List.length_cons] at hlen
  show str.bytes.length < ipaNameSize
  omega

/-- What is set from a string is that string, if it fits. -/
theorem withoutNul_ipaNameSetStr {str : CStr} (h : str.len < ipaNameSize) :
    withoutNul (ipaNameSetStr str) = str.bytes := by
  have htake : str.bytes.take (ipaNameSize - 1) = str.bytes :=
    List.take_of_length_le (Nat.le_sub_one_of_lt h)
  simp [withoutNul, ipaNameSetStr, htake]

/-- Reading a format back. -/
theorem ipaNameSetFmt_eq {str : CStr} (h : str.len < ipaNameSize) {name : IpaName}
    (hname : ipaNameSetFmt (some str) = some name) :
    printFormat str.bytes = some (withoutNul name) := by
  obtain ⟨out, hout, rfl⟩ := Option.map_eq_some_iff.1 hname
  have hnul : (0 : UInt8) ∉ out := fun h0 => str.noNul (mem_of_mem_printFormat hout 0 h0)
  have hbytes := CStr.ofBytes_bytes_of_noNul hnul
  have hlen : (CStr.ofBytes out).len < ipaNameSize := by
    show (CStr.ofBytes out).bytes.length < ipaNameSize
    rw [hbytes]
    exact Nat.lt_of_le_of_lt (length_le_of_printFormat hout) h
  rw [withoutNul_ipaNameSetStr hlen, hbytes, hout]

/-- A start without a NUL is a start of what is in front of the first NUL. -/
theorem prefix_of_noNul {p a rest : List UInt8} (hp : 0 ∉ p) (h : p <+: a ++ 0 :: rest) :
    p <+: a := by
  have hfirst : a ++ [0] <+: a ++ 0 :: rest := ⟨rest, by simp⟩
  rcases List.prefix_or_prefix_of_prefix h hfirst with hle | hge
  · rcases List.prefix_concat_iff.1 hle with rfl | hle
    · simp at hp
    · exact hle
  · exact absurd (hge.subset (by simp)) hp

/-- **What survives**: the first characters of the string in the buffer, read back as a format, are
the name. -/
theorem survives_iff (buf : IpaNameBuf) {max : Nat} (hmax : max < ipaNameSize) :
    (∃ str name, buf.str = some str ∧ ipaNameSetFmt (some (str.take max)) = some name ∧
        SameName name buf.name) ↔ Storable max buf := by
  have hlt (str : CStr) : (str.take max).len < ipaNameSize :=
    Nat.lt_of_le_of_lt (List.length_take_le _ _) hmax
  constructor
  · rintro ⟨str, name, hstr, hname, hsame⟩
    obtain ⟨rest, hval⟩ := val_of_str hstr
    have hout := ipaNameSetFmt_eq (hlt str) hname
    have hnul : (0 : UInt8) ∉ withoutNul name := by
      intro h0
      exact (str.take max).noNul (mem_of_mem_printFormat hout 0 h0)
    -- the name is at the start of its buffer, and so it is at the start of what is printed
    have hpre : withoutNul name <+: str.bytes ++ 0 :: rest := by
      have htake : buf.name.val <+: buf.val := List.take_prefix _ _
      rw [← hval, show withoutNul name = withoutNul buf.name from hsame]
      exact (withoutNul_start buf.name).trans htake
    have hstart : withoutNul name <+: (str.take max).bytes :=
      List.prefix_take_iff.2 ⟨prefix_of_noNul hnul hpre,
        (length_le_of_printFormat hout).trans (List.length_take_le _ _)⟩
    obtain ⟨a, j, ha, hfmt, hname'⟩ := prefix_of_printFormat hout hstart
    have hbytes : str.bytes.take max = a ++ List.replicate (2 * j) percent := hfmt
    have hlen : a.length + 2 * j ≤ max := by
      have hle := List.length_take_le max str.bytes
      rwa [hbytes, List.length_append, List.length_replicate] at hle
    refine ⟨a, j, str.bytes.drop max ++ 0 :: rest, ?_, ha, hlen, ?_, ?_, ?_⟩
    · exact fun h0 => hnul (hname' ▸ List.mem_append_left _ h0)
    · rw [← hname']
      exact hsame.symm
    · rw [hval, ← hbytes, ← List.append_assoc, List.take_append_drop]
    · by_cases hshort : str.bytes.length ≤ max
      · rw [List.drop_of_length_le hshort]
        exact Or.inl rfl
      · refine Or.inr ⟨?_, by simp⟩
        have htake := List.length_take_of_le (Nat.le_of_not_le hshort)
        rwa [hbytes, List.length_append, List.length_replicate] at htake
  · rintro ⟨a, j, rest, hnul, ha, hlen, hname, hval, hrest⟩
    have hnul' : (0 : UInt8) ∉ a ++ List.replicate (2 * j) percent := by
      simp [hnul, List.mem_replicate, percent]
    have hstr : ∃ str, buf.str = some str ∧
        (str.take max).bytes = a ++ List.replicate (2 * j) percent := by
      rcases hrest with hhead | ⟨hfull, hmem⟩
      · cases rest with
        | nil => cases hhead
        | cons c rest =>
            obtain rfl : c = 0 := by simpa using hhead
            refine ⟨_, str_of_val hnul' hval, List.take_of_length_le ?_⟩
            simpa using hlen
      · obtain ⟨b, rest', rfl, hb⟩ := List.eq_append_cons_of_mem hmem
        have hnul'' : (0 : UInt8) ∉ a ++ List.replicate (2 * j) percent ++ b := by
          rw [List.mem_append, not_or]
          exact ⟨hnul', hb⟩
        rw [← List.append_assoc] at hval
        refine ⟨_, str_of_val hnul'' hval, List.take_left' ?_⟩
        rw [List.length_append, List.length_replicate, hfull]
    obtain ⟨str, hstr, hbytes⟩ := hstr
    have hprint : printFormat (str.take max).bytes = some (a ++ List.replicate j percent) :=
      hbytes ▸ printFormat_append_percent ha j
    have hout : (CStr.ofBytes (a ++ List.replicate j percent)).bytes =
        a ++ List.replicate j percent :=
      CStr.ofBytes_bytes_of_noNul (by simp [hnul, List.mem_replicate, percent])
    refine ⟨str, _, hstr, congrArg (Option.map _) hprint, ?_⟩
    show withoutNul (ipaNameSetStr _) = withoutNul buf.name
    rw [withoutNul_ipaNameSetStr, hout, hname]
    show (CStr.ofBytes _).bytes.length < ipaNameSize
    rw [hout, List.length_append, List.length_replicate]
    omega

/-! ## From the request to the database and back -/

section Survival

variable {lib : SelLib} {f : StartFaults} {t : Tables} {req : GsupReqBuf}

theorem luStore_of_no_error {row : SubscriberRow}
    (h : ∀ why, luStore lib f.lu t (dbSel lib row).id req ≠ some (.error why)) :
    luStore lib f.lu t (dbSel lib row).id req = (req.sourceName.ipaName.str.bind fun number =>
        (proxyStr (viaProxyName req)).map fun proxy =>
          .ok (Db.dbSubscrLu lib.toDbLib f.lu t row.id number (isPs req) proxy).2) ∧
      ∀ number proxy, req.sourceName.ipaName.str = some number →
        proxyStr (viaProxyName req) = some proxy →
        (Db.dbSubscrLu lib.toDbLib f.lu t row.id number (isPs req) proxy).1 = 0 := by
  unfold luStore at h ⊢
  split at h
  next => exact absurd rfl (h _)
  next hvlr =>
      rw [if_neg hvlr]
      split at h
      next => exact absurd rfl (h _)
      next hvia =>
          rw [if_neg hvia]
          unfold dbSubscrLu at h ⊢
          split at h
          next => exact absurd rfl (h _)
          next hbind =>
              rw [if_neg hbind]
              cases hnumber : req.sourceName.ipaName.str with
              | none => exact ⟨rfl, by simp⟩
              | some number =>
                  rw [hnumber] at h
                  simp only at h ⊢
                  split at h
                  next => exact absurd rfl (h _)
                  next hbind' =>
                      rw [if_neg hbind']
                      cases hproxy : proxyStr (viaProxyName req) with
                      | none => exact ⟨rfl, by simp⟩
                      | some proxy =>
                          have hrc : (Db.dbSubscrLu lib.toDbLib f.lu t row.id number (isPs req)
                              proxy).1 = 0 := by
                            by_contra hrc
                            refine h .cannotUpdate ?_
                            rw [hproxy]
                            exact congrArg some (if_pos hrc)
                          refine ⟨congrArg some (if_neg (not_not.2 hrc)), ?_⟩
                          rintro _ _ ⟨⟩ ⟨⟩
                          exact hrc

/-- What `lu_start` leaves if it finds nothing to complain about. -/
theorem luStart_of_no_error (h : ∀ why, luStart lib f t req ≠ some (.error why)) :
    ∃ row, t.subscriberByImsi req.gsup.imsi = some row ∧
      luStart lib f t req = (req.sourceName.ipaName.str.bind fun number =>
        (proxyStr (viaProxyName req)).map fun proxy =>
          .ok (Db.dbSubscrLu lib.toDbLib f.lu t row.id number (isPs req) proxy).2) ∧
      ∀ number proxy, req.sourceName.ipaName.str = some number →
        proxyStr (viaProxyName req) = some proxy →
        (Db.dbSubscrLu lib.toDbLib f.lu t row.id number (isPs req) proxy).1 = 0 := by
  unfold luStart at h ⊢
  split at h
  next => exact absurd rfl (h _)
  next hvlr =>
      rw [if_neg hvlr]
      cases hget : dbSubscrGetByImsi lib f.get t req.gsup.imsi with
      | error rc =>
          rw [hget] at h
          exact absurd rfl (h _)
      | ok subscr =>
          obtain ⟨row, hrow, rfl⟩ := dbSubscrGetByImsi_ok hget
          rw [hget] at h
          refine ⟨row, hrow, ?_⟩
          simp only at h ⊢
          split at h
          next => exact absurd rfl (h _)
          next hcs =>
              rw [if_neg hcs]
              split at h
              next => exact absurd rfl (h _)
              next hps =>
                  rw [if_neg hps]
                  exact luStore_of_no_error h

/-- The names that are read back from the database. -/
def readNames (subscr : Subscriber) (isPs : Bool) : Option (IpaName × IpaName) :=
  (ipaNameSetFmt (some (if isPs then subscr.sgsnNumber else subscr.vlrNumber))).bind fun vlrName =>
    (if isPs then subscr.sgsnViaProxy else subscr.vlrViaProxy).map fun viaProxy =>
      (vlrName, viaProxy)

/-- The names of the VLR and of its proxy, as they are rebuilt when `lu_start` has stored them. -/
def rebuilt (lib : SelLib) (f : StartFaults) (t : Tables) (req : GsupReqBuf) :
    Option (IpaName × IpaName) :=
  match luStart lib f t req with
  | some (.ok t') =>
      match dbSubscrGetByImsi lib Faults.none t' req.gsup.imsi with
      | .ok subscr => readNames subscr (isPs req)
      | .error _ => none
  | _ => none

/-- The name of the proxy that is stored; without a proxy, it is empty. -/
def storedProxy (req : GsupReqBuf) : IpaName :=
  ((viaProxyName req).map IpaNameBuf.name).getD IpaName.zero

/-- The names that are rebuilt are those that were stored, up to one terminating NUL. -/
def NamesSurvive (lib : SelLib) (f : StartFaults) (t : Tables) (req : GsupReqBuf) : Prop :=
  ∃ names, rebuilt lib f t req = some names ∧
    SameName names.1 req.sourceName.ipaName.name ∧ SameName names.2 (storedProxy req)

/-- What is rebuilt of the strings that were stored. -/
theorem rebuilt_eq {row : SubscriberRow} {number : CStr} {proxy : Option CStr}
    (hrow : t.subscriberByImsi req.gsup.imsi = some row)
    (hrc : (Db.dbSubscrLu lib.toDbLib f.lu t row.id number (isPs req) proxy).1 = 0)
    (hstart : luStart lib f t req =
      some (.ok (Db.dbSubscrLu lib.toDbLib f.lu t row.id number (isPs req) proxy).2)) :
    rebuilt lib f t req =
      (ipaNameSetFmt (some (number.take (numberSize - 1)))).bind fun vlrName =>
        (ipaNameSetFmt proxy).map fun viaProxy => (vlrName, viaProxy) := by
  obtain ⟨localtime, -, hmap⟩ := dbSubscrLu_spec hrc
  have hrow' := subscriberByImsi_of_map
    (fun r => SubscriberRow.imsi_located r number (isPs req) proxy (lib.datetime localtime)) hmap hrow
  unfold rebuilt
  rw [hstart]
  simp only
  rw [dbSubscrGetByImsi_of_row lib hrow']
  unfold readNames
  cases hps : isPs req <;> rfl

theorem len_ne_zero_of_viaProxyName {buf : IpaNameBuf} (h : viaProxyName req = some buf) :
    buf.len ≠ 0 := by
  unfold viaProxyName at h
  split at h
  next => cases h
  next hempty =>
      obtain rfl := Option.some.inj h
      intro hlen
      refine hempty ?_
      have hname : req.viaProxy.ipaName.name.len = 0 := (IpaNameBuf.length_name _).trans hlen
      unfold cniPeerIdIsEmpty PeerIdBuf.peerId
      cases req.viaProxy.type with
      | empty => rfl
      | ipaName => simp [ipaNameIsEmpty, hname]

/-- What survives of a proxy. -/
theorem proxy_survives_iff :
    (∃ proxy name, proxyStr (viaProxyName req) = some proxy ∧ ipaNameSetFmt proxy = some name ∧
        SameName name (storedProxy req)) ↔
      ∀ buf, viaProxyName req = some buf → Storable (ipaNameSize - 1) buf := by
  unfold storedProxy
  cases hvia : viaProxyName req with
  | none => exact iff_of_true ⟨none, IpaName.zero, rfl, rfl, rfl⟩ (by simp)
  | some buf =>
      have hlen := len_ne_zero_of_viaProxyName hvia
      have htake {str : CStr} (h : buf.str = some str) : str.take (ipaNameSize - 1) = str :=
        CStr.ext (List.take_of_length_le (Nat.le_sub_one_of_lt (len_str_lt h)))
      have hsurvives := survives_iff buf (show ipaNameSize - 1 < ipaNameSize by decide)
      simp only [Option.some.injEq, forall_eq', ← hsurvives]
      constructor
      · rintro ⟨proxy, name, hproxy, hname, hsame⟩
        rw [proxyStr, if_neg hlen] at hproxy
        obtain ⟨str, hstr, rfl⟩ := Option.map_eq_some_iff.1 hproxy
        exact ⟨str, name, hstr, (htake hstr).symm ▸ hname, hsame⟩
      · rintro ⟨str, name, hstr, hname, hsame⟩
        refine ⟨some str, name, ?_, htake hstr ▸ hname, hsame⟩
        rw [proxyStr, if_neg hlen, hstr]
        rfl

/-- The buffer of the source of a request from a peer: what the peer's buffer holds, with the Source
Name IE written over it. -/
def sourceBuf (peer : IpaNameBuf) (sourceName : List UInt8) : IpaNameBuf :=
  if h : sourceName ≠ [] ∧ sourceName.length ≤ ipaNameSize then peer.overlay sourceName h.2
  else peer

/-- Names survive exactly if those in the buffers of the request are storable. -/
theorem namesSurvive_iff (hstart : ∀ why, luStart lib f t req ≠ some (.error why)) :
    NamesSurvive lib f t req ↔
      Storable (numberSize - 1) req.sourceName.ipaName ∧
        ∀ buf, viaProxyName req = some buf → Storable (ipaNameSize - 1) buf := by
  obtain ⟨row, hrow, hstored, hrc⟩ := luStart_of_no_error hstart
  rw [← survives_iff req.sourceName.ipaName (show numberSize - 1 < ipaNameSize by decide),
    ← proxy_survives_iff]
  constructor
  · rintro ⟨names, hnames, hvlr, hvia⟩
    cases hnumber : req.sourceName.ipaName.str with
    | none =>
        rw [hnumber, Option.bind_none] at hstored
        simp [rebuilt, hstored] at hnames
    | some number =>
        rw [hnumber, Option.bind_some] at hstored
        cases hproxy : proxyStr (viaProxyName req) with
        | none =>
            rw [hproxy, Option.map_none] at hstored
            simp [rebuilt, hstored] at hnames
        | some proxy =>
            rw [hproxy, Option.map_some] at hstored
            rw [rebuilt_eq hrow (hrc number proxy hnumber hproxy) hstored] at hnames
            obtain ⟨vlrName, hvlrName, hmap⟩ := Option.bind_eq_some_iff.1 hnames
            obtain ⟨viaProxy, hviaProxy, rfl⟩ := Option.map_eq_some_iff.1 hmap
            exact ⟨⟨number, vlrName, rfl, hvlrName, hvlr⟩, proxy, viaProxy, rfl, hviaProxy, hvia⟩
  · rintro ⟨⟨number, vlrName, hnumber, hvlrName, hvlr⟩, proxy, viaProxy, hproxy, hviaProxy, hvia⟩
    rw [hnumber, hproxy, Option.bind_some, Option.map_some] at hstored
    refine ⟨(vlrName, viaProxy), ?_, hvlr, hvia⟩
    rw [rebuilt_eq hrow (hrc number proxy hnumber hproxy) hstored, hvlrName, Option.bind_some,
      hviaProxy, Option.map_some]

/-- **Names of VLRs survive exactly if they are storable.**  The name of the source stands in its
buffer as the Source Name IE and what the name of the peer leaves behind it; the name of a proxy is
the peer's own. -/
theorem vlr_names_survive_iff {gsupLib : GsupLib} {fromPeer : PeerIdBuf} {l2 : List UInt8}
    {sendResponseCb : Bool} (hreq : GsupReqBuf.new gsupLib fromPeer l2 sendResponseCb = some req)
    (hstart : ∀ why, luStart lib f t req ≠ some (.error why)) :
    NamesSurvive lib f t req ↔
      Storable 31 (sourceBuf fromPeer.ipaName req.gsup.sourceName) ∧
        (cniPeerIdIsEmpty req.viaProxy.peerId = false → Storable 127 fromPeer.ipaName) := by
  obtain ⟨-, hvia, hsource⟩ := GsupReqBuf.new_spec hreq
  have hbuf : req.sourceName.ipaName = sourceBuf fromPeer.ipaName req.gsup.sourceName := by
    unfold sourceBuf
    rcases hsource with ⟨hnone, hpeer⟩ | ⟨hlen, hname, hpeer⟩
    · rw [dif_neg fun h => h.1 hnone, hpeer]
    · rw [dif_pos ⟨hname, hlen⟩, hpeer]
  have hproxy : (∀ buf, viaProxyName req = some buf → Storable 127 buf) ↔
      (cniPeerIdIsEmpty req.viaProxy.peerId = false → Storable 127 fromPeer.ipaName) := by
    unfold viaProxyName
    cases hempty : cniPeerIdIsEmpty req.viaProxy.peerId with
    | true => simp
    | false =>
        rcases hvia with hzero | hpeer
        · rw [hzero] at hempty
          cases hempty
        · simp [hpeer]
  rw [namesSurvive_iff hstart, hbuf]
  exact and_congr_right fun _ => hproxy

end Survival

/-! ## A name that survives, and one that does not -/

/-- A proxy HLR that has said who it is. -/
def proxyHlr : PeerIdBuf :=
  (PeerIdBuf.zero.setIpaName ((CStr.lit "proxy-hlr").bytes ++ [0])).2

/-- An Update Location Request from a source. -/
def ulrFrom (sourceName : List UInt8) : Option (List UInt8) :=
  Host.gsupEncode { GsupMessage.zero with
    messageType := Host.msgt .updateLocation .request
    imsi := CStr.lit "262420000000001"
    sourceName := sourceName
    cnDomain := .cs }

/-- The request that becomes of it, when it comes via the proxy. -/
def viaProxyHlr (sourceName : List UInt8) : Option GsupReqBuf :=
  (ulrFrom sourceName).bind fun l2 => GsupReqBuf.new Host.gsupLib proxyHlr l2 true

/-- Nothing goes wrong with the database. -/
def noFaults : StartFaults := ⟨Faults.none, ⟨Faults.none, .ok 1700000000, Faults.none⟩⟩

/-- The names that are rebuilt after an Update Location Request via the proxy. -/
def rebuiltVia (sourceName : List UInt8) : Option (IpaName × IpaName) :=
  (viaProxyHlr sourceName).bind (rebuilt Host.selLib noFaults Host.withKey)

/-- **A name is lost**: the VLR `msc`, whose name has no NUL, is stored as `mscxy-hlr`. -/
theorem name_overlaid :
    ∃ l2 req names, ulrFrom (CStr.lit "msc").bytes = some l2 ∧
      GsupReqBuf.new Host.gsupLib proxyHlr l2 true = some req ∧
      req.sourceName.ipaName.name.val = (CStr.lit "msc").bytes ∧
      rebuilt Host.selLib noFaults Host.withKey req = some names ∧
      names.1.val = (CStr.lit "mscxy-hlr").bytes ++ [0] ∧
      ¬NamesSurvive Host.selLib noFaults Host.withKey req := by
  have hrun : (viaProxyHlr (CStr.lit "msc").bytes).map (fun req =>
      (req.sourceName.ipaName.name.val,
        (rebuilt Host.selLib noFaults Host.withKey req).map fun names => names.1.val)) =
      some ((CStr.lit "msc").bytes, some ((CStr.lit "mscxy-hlr").bytes ++ [0])) := by
    decide +kernel
  obtain ⟨req, hreq, hnames⟩ := Option.map_eq_some_iff.1 hrun
  obtain ⟨l2, hl2, hnew⟩ := Option.bind_eq_some_iff.1 hreq
  obtain ⟨hsource, hrebuilt⟩ := Prod.mk.inj hnames
  obtain ⟨names, hnames, hvlr⟩ := Option.map_eq_some_iff.1 hrebuilt
  refine ⟨l2, req, names, hl2, hnew, hsource, hnames, hvlr, ?_⟩
  rintro ⟨names', hnames', hsame, -⟩
  obtain rfl := Option.some.inj (hnames.symm.trans hnames')
  unfold SameName withoutNul at hsame
  rw [hsource, hvlr] at hsame
  exact absurd hsame (by decide)

/-- A name that ends in a NUL is rebuilt. -/
theorem name_rebuilt :
    ∃ req, viaProxyHlr ((CStr.lit "msc").bytes ++ [0]) = some req ∧
      NamesSurvive Host.selLib noFaults Host.withKey req := by
  have hrun : (viaProxyHlr ((CStr.lit "msc").bytes ++ [0])).map (fun req =>
      (req.gsup.sourceName, cniPeerIdIsEmpty req.viaProxy.peerId,
        (rebuilt Host.selLib noFaults Host.withKey req).isSome)) =
      some ((CStr.lit "msc").bytes ++ [0], false, true) := by
    decide +kernel
  obtain ⟨req, hreq, hnames⟩ := Option.map_eq_some_iff.1 hrun
  obtain ⟨l2, hl2, hnew⟩ := Option.bind_eq_some_iff.1 hreq
  obtain ⟨hsource, hrest⟩ := Prod.mk.inj hnames
  obtain ⟨-, hrebuilt⟩ := Prod.mk.inj hrest
  refine ⟨req, hreq, (vlr_names_survive_iff hnew ?_).2 ⟨?_, fun _ => ?_⟩⟩
  · intro why herror
    rw [rebuilt, herror] at hrebuilt
    cases hrebuilt
  · rw [hsource]
    exact ⟨(CStr.lit "msc").bytes, 0, _, by decide, by decide, by decide, by decide, rfl,
      Or.inl (by decide)⟩
  · exact ⟨(CStr.lit "proxy-hlr").bytes, 0, _, by decide, by decide, by decide, by decide, rfl,
      Or.inl (by decide)⟩

end VlrNames
end OsmoHlr
