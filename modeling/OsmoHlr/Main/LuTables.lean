import OsmoHlr.Lu.LuFsm
import OsmoHlr.Main.Records

/-!
# Where subscribers are

`lu_start` of `src/lu_fsm.c` calls `db_subscr_lu` once, or not at all.  What that leaves in the
tables are two changes of one record: where the subscriber is, and when it was seen.

* `luStartCall` — the call; `luStart_congr` says that there is no other.
* `changed_luCall` — what it does to the record of the subscriber.
-/

namespace OsmoHlr
namespace Main

open CString CniPeerId Gsup Db Auc

/-! ## The call -/

/-- A call of `db_subscr_lu`. -/
structure LuCall where
  subscrId : Int
  vlrName : IpaName
  isPs : Bool
  viaProxy : Option IpaName

/-- What the call returns. -/
def LuCall.rc (call : LuCall) (dbSubscrLu : Int → IpaName → Bool → Option IpaName → Int) : Int :=
  dbSubscrLu call.subscrId call.vlrName call.isPs call.viaProxy

/-- The call that `lu_start` makes, if it comes to that. -/
def luStartCall (dbSubscrGetByImsi : DbSubscrGet) (req : GsupReq) : Option LuCall :=
  let isPs : Bool := req.gsup.cnDomain ≠ .cs
  if cniPeerIdIsEmpty req.sourceName then none
  else
    match dbSubscrGetByImsi req.gsup.imsi with
    | .error _ => none
    | .ok subscr =>
        if ¬isPs ∧ ¬subscr.namCs then none
        else if isPs ∧ ¬subscr.namPs then none
        else if cniPeerIdIsEmpty req.sourceName ∨ req.sourceName.type ≠ .ipaName then none
        else if ¬cniPeerIdIsEmpty req.viaProxy ∧ req.viaProxy.type ≠ .ipaName then none
        else
          some ⟨subscr.id, req.sourceName.ipaName, isPs,
            if cniPeerIdIsEmpty req.viaProxy then none else some req.viaProxy.ipaName⟩

/-- **What is called, and for whom**: the subscriber of the request, who may use the domain. -/
theorem luStartCall_spec {dbSubscrGetByImsi : DbSubscrGet} {req : GsupReq} {call : LuCall}
    (h : luStartCall dbSubscrGetByImsi req = some call) :
    ∃ subscr, dbSubscrGetByImsi req.gsup.imsi = .ok subscr ∧ call.subscrId = subscr.id ∧
      call.vlrName = req.sourceName.ipaName ∧ call.isPs = decide (req.gsup.cnDomain ≠ .cs) ∧
      (if call.isPs then subscr.namPs else subscr.namCs) = true := by
  unfold luStartCall at h
  simp only at h
  split at h
  next => cases h
  next =>
      split at h
      next => cases h
      next subscr hsubscr =>
          split at h
          next => cases h
          next hcs =>
              split at h
              next => cases h
              next hps =>
                  have hcall : call = ⟨subscr.id, req.sourceName.ipaName, req.gsup.cnDomain ≠ .cs,
                      call.viaProxy⟩ := by
                    split_ifs at h <;> exact (Option.some.inj h) ▸ rfl
                  refine ⟨subscr, hsubscr, congrArg LuCall.subscrId hcall,
                    congrArg LuCall.vlrName hcall, congrArg LuCall.isPs hcall, ?_⟩
                  rw [congrArg LuCall.isPs hcall]
                  simp only
                  split
                  next hdomain => exact Decidable.not_not.1 fun hnot => hps ⟨hdomain, hnot⟩
                  next hdomain => exact Decidable.not_not.1 fun hnot => hcs ⟨hdomain, hnot⟩

section Congr

variable (lib : GsupProtocol) {env : LuFsm.Env}
  {dbSubscrLu : Int → IpaName → Bool → Option IpaName → Int}

/-- `dbSubscrLu` in the place of the database's. -/
abbrev withLu (env : LuFsm.Env) (dbSubscrLu : Int → IpaName → Bool → Option IpaName → Int) :
    LuFsm.Env := { env with dbSubscrLu := dbSubscrLu }

/-- **There is no other call**: if it returns the same, `lu_start` does the same. -/
theorem luStart_congr (g : LuFsm.AllLu) (ptr : ReqPtr)
    (h : ∀ call ∈ luStartCall env.dbSubscrGetByImsi ptr.req,
      call.rc env.dbSubscrLu = call.rc dbSubscrLu) :
    LuFsm.luStart lib env g ptr = LuFsm.luStart lib (withLu env dbSubscrLu) g ptr := by
  unfold LuFsm.luStart LuFsm.luStore
  unfold luStartCall at h
  simp only [LuFsm.luAlloc] at h ⊢
  refine ite_congr rfl (fun _ => rfl) fun hsource => ?_
  rw [if_neg hsource] at h
  cases hsubscr : env.dbSubscrGetByImsi ptr.req.gsup.imsi with
  | error rc => rfl
  | ok subscr =>
      rw [hsubscr] at h
      simp only at h ⊢
      refine ite_congr rfl (fun _ => rfl) fun hcs => ?_
      rw [if_neg hcs] at h
      refine ite_congr rfl (fun _ => rfl) fun hps => ?_
      rw [if_neg hps] at h
      refine ite_congr rfl (fun _ => rfl) fun hname => ?_
      rw [if_neg hname] at h
      refine ite_congr rfl (fun _ => rfl) fun hproxy => ?_
      rw [if_neg hproxy] at h
      exact ite_congr (congrArg (· ≠ 0) (h _ rfl)) (fun _ => rfl) fun _ => rfl

end Congr

/-! ## What it leaves -/

/-- The string at the `val` of a name, behind which there is something else in its buffer. -/
def nameStr (behind : List UInt8) (name : IpaName) : CStr := CStr.ofBytes (name.val ++ behind)

/-- What `db_subscr_lu` binds for the proxy. -/
def LuCall.proxyStr (call : LuCall) (behind : List UInt8) : Option CStr :=
  call.viaProxy.bind fun viaProxy =>
    if viaProxy.len = 0 then none else some (nameStr behind viaProxy)

/-- The call of `db_subscr_lu`, as it is executed. -/
def LuCall.run (lib : DbLib) (f : LuFaults) (behind : List UInt8) (t : Tables) (call : LuCall) :
    Int × Tables :=
  dbSubscrLu lib f t call.subscrId (nameStr behind call.vlrName) call.isPs (call.proxyStr behind)

/-- What it does to the record of the subscriber. -/
def LuCall.changes (lib : DbLib) (f : LuFaults) (behind : List UInt8) (t : Tables)
    (call : LuCall) : List Change :=
  let number := nameStr behind call.vlrName
  let stored := updateOne f.number 3 t
    (luNumber call.subscrId number call.isPs (call.proxyStr behind))
  if stored.1 ≠ 0 then []
  else
    .located call.isPs number (call.proxyStr behind) ::
      match f.clock with
      | .error _ => []
      | .ok localtime =>
          let datetime := lib.datetime localtime
          if (updateOne f.lastLuSeen 2 stored.2 (luTime datetime call.subscrId call.isPs)).1 = 0 then
            [.seen call.isPs datetime]
          else []

theorem luNumber_eq (id : Int) (number : CStr) (isPs : Bool) (viaProxy : Option CStr) :
    luNumber id number isPs viaProxy =
      updateSubscriber (fun row => row.id = id) (Change.located isPs number viaProxy).onRow := by
  cases isPs <;> rfl

theorem luTime_eq (datetime : Option CStr) (id : Int) (isPs : Bool) :
    luTime datetime id isPs =
      updateSubscriber (fun row => row.id = id) (Change.seen isPs datetime).onRow := by
  cases isPs <;> rfl

variable {imsi : CStr} {t : Tables} {record : Record}

/-- **What a call leaves**, for a subscriber that is there. -/
theorem changed_luCall (lib : DbLib) (f : LuFaults) (behind : List UInt8) {call : LuCall}
    (hrecord : aucByImsi t.toContents imsi = some record) (hid : call.subscrId = record.1.id) :
    Changed imsi t.toContents (call.run lib f behind t).2.toContents
      (call.changes lib f behind t) := by
  unfold LuCall.run LuCall.changes
  rw [dbSubscrLu_eq, hid]
  simp only
  have hnumber := changed_updateById
    (.located call.isPs (nameStr behind call.vlrName) (call.proxyStr behind))
    (fun _ => rfl) f.number 3 hrecord (luNumber_eq _ _ _ _)
  generalize updateOne f.number 3 t (luNumber record.1.id (nameStr behind call.vlrName) call.isPs
    (call.proxyStr behind)) = stored at hnumber ⊢
  by_cases hrc : stored.1 = 0
  · rw [if_pos hrc] at hnumber
    rw [if_neg (not_not.2 hrc), if_neg (not_not.2 hrc)]
    cases f.clock with
    | error errno => exact hnumber
    | ok localtime =>
        have hrecord' := hnumber.record
        rw [hrecord, List.foldl_cons, List.foldl_nil] at hrecord'
        -- the id of the row is the same as before
        have hstmt : luTime (lib.datetime localtime) record.1.id call.isPs = updateSubscriber
            (fun r => r.id = ((Change.located call.isPs (nameStr behind call.vlrName)
              (call.proxyStr behind)).onRow record.1).id)
            (Change.seen call.isPs (lib.datetime localtime)).onRow := by
          rw [Change.id_onRow]
          exact luTime_eq _ _ _
        exact hnumber.trans
          (changed_updateById (.seen call.isPs (lib.datetime localtime)) (fun _ => rfl) f.lastLuSeen 2
            hrecord' hstmt)
  · rw [if_neg hrc] at hnumber
    rw [if_pos hrc, if_pos hrc]
    exact hnumber

end Main
end OsmoHlr
