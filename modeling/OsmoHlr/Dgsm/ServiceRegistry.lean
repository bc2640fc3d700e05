import OsmoHlr.Dgsm.DgsmVtyHost

/-!
# The services of the local site

`mslookup_server_msc_service_set` and `mslookup_server_msc_service_del` of
`src/mslookup_server.c`, called one after the other on any MSCs, against the map that the lists
are for: the addresses of each service of each MSC.

* `entry_set`, `entry_del` — what a call does to each entry.
* `represents_call` — the lists represent the map after each call if they did before it.
* `one_le_del_iff` — what the return value of a deletion counts.
* `refines_iff` — the calls do what they do to the map, and a deletion tells whether it removed
  something, exactly if it does not only take addresses from entries that have another one.
-/

namespace OsmoHlr
namespace DgsmVty

open CString CniPeerId

/-! ## The code -/

/-- `-ENOENT` -/
def enoent : Int := -2

variable (lib : SockaddrLib)

/-- `mslookup_server_msc_service_set`; `none` is a null pointer. -/
def mslookupServerMscServiceSet (hosts : List ServiceHost) (service : Option CStr)
    (addr : Option SockaddrStr) : List ServiceHost × Int :=
  match service, addr with
  | some service, some addr =>
      let set := mscServiceSet lib hosts service addr
      (set.1, if set.2 then 0 else einval)
  | _, _ => (hosts, einval)

/-- What the loop of `mslookup_server_msc_service_del` leaves of an entry.  A null pointer is every
service. -/
def delOne (service : Option CStr) (addr : Option SockaddrStr) (e : ServiceHost) :
    Option ServiceHost :=
  match service with
  | some service => mscServiceDelOne lib service addr e
  | none => mscServiceDelOne lib e.service addr e

/-- `mslookup_server_msc_service_del`, and how many entries it deletes. -/
def mslookupServerMscServiceDel (hosts : List ServiceHost) (service : Option CStr)
    (addr : Option SockaddrStr) : List ServiceHost × Int :=
  (hosts.filterMap (delOne lib service addr),
    (hosts.countP fun e => (delOne lib service addr e).isNone : Nat))

/-- The calls; an MSC is what `mslookup_server_msc_get` returns for its name, or a null pointer. -/
inductive Call where
  | set (msc : Option IpaName) (service : Option CStr) (addr : Option SockaddrStr)
  | del (msc : Option IpaName) (service : Option CStr) (addr : Option SockaddrStr)
  deriving DecidableEq

/-- A call on the services of an MSC, and what it returns. -/
def onMsc (mscs : List MscCfg) (mscName : IpaName)
    (f : List ServiceHost → List ServiceHost × Int) : List MscCfg × Int :=
  let got := mscGet mscs mscName
  let res := f got.1.serviceHosts
  (mscSet got.2 ⟨got.1.name, res.1⟩, res.2)

/-- One call. -/
def call (mscs : List MscCfg) : Call → List MscCfg × Int
  | .set none _ _ => (mscs, einval)
  | .set (some mscName) service addr =>
      onMsc mscs mscName fun hosts => mslookupServerMscServiceSet lib hosts service addr
  | .del none _ _ => (mscs, enoent)
  | .del (some mscName) service addr =>
      onMsc mscs mscName fun hosts => mslookupServerMscServiceDel lib hosts service addr

/-- The lists after some calls. -/
def mscsAfter (calls : List Call) : List MscCfg :=
  calls.foldl (fun mscs c => (call lib mscs c).1) []

/-- The commands of the VTY delete the same, and count it. -/
theorem mscServiceDel_eq (hosts : List ServiceHost) (service : CStr) (addr : Option SockaddrStr) :
    mscServiceDel lib hosts service addr =
      ((mslookupServerMscServiceDel lib hosts (some service) addr).1,
        (mslookupServerMscServiceDel lib hosts (some service) addr).2.toNat) := by
  refine Prod.ext rfl ?_
  change hosts.length - (hosts.filterMap (mscServiceDelOne lib service addr)).length =
    hosts.countP fun e => (mscServiceDelOne lib service addr e).isNone
  induction hosts with
  | nil => rfl
  | cons e hosts ih =>
      have hle : (hosts.filterMap (mscServiceDelOne lib service addr)).length ≤ hosts.length :=
        List.length_filterMap_le ..
      rw [List.countP_cons, ← ih, List.length_cons]
      cases he : mscServiceDelOne lib service addr e with
      | none =>
          rw [List.filterMap_cons_none he, if_pos Option.isNone_none]
          omega
      | some e' =>
          rw [List.filterMap_cons_some he, List.length_cons, if_neg (by simp)]
          omega

/-! ## The map -/

/-- The addresses of a service. -/
@[ext] structure Hosts where
  v4 : Option SockaddrStr
  v6 : Option SockaddrStr
  deriving DecidableEq

/-- No addresses: there is no such service. -/
def Hosts.none : Hosts := ⟨Option.none, Option.none⟩

/-- The address of its family. -/
def Hosts.put (addr : SockaddrStr) (hosts : Hosts) : Hosts :=
  if addr.af = afInet then { hosts with v4 := some addr } else { hosts with v6 := some addr }

/-- Without an address, or without any. -/
def Hosts.without (addr : Option SockaddrStr) (hosts : Hosts) : Hosts :=
  match addr with
  | Option.none => Hosts.none
  | some addr =>
      ⟨hosts.v4.filter fun a => lib.sockaddrStrCmp addr a ≠ 0,
        hosts.v6.filter fun a => lib.sockaddrStrCmp addr a ≠ 0⟩

/-- The addresses of each service of each MSC. -/
abbrev Services := IpaName → CStr → Hosts

/-- What can be set: a service that fits its buffer, to an address. -/
def Settable (service : CStr) (addr : SockaddrStr) : Prop :=
  0 < service.len ∧ service.len ≤ Mslookup.serviceMaxlen ∧ lib.sockaddrStrIsNonzero addr = true

instance (service : CStr) (addr : SockaddrStr) : Decidable (Settable lib service addr) :=
  inferInstanceAs (Decidable (_ ∧ _ ∧ _))

/-- The service is one of those that are to be deleted. -/
def Selected (service : Option CStr) (s : CStr) : Prop := service = Option.none ∨ service = some s

instance (service : Option CStr) (s : CStr) : Decidable (Selected service s) :=
  inferInstanceAs (Decidable (_ ∨ _))

/-- What a call is to do. -/
def Services.call (m : Services) : Call → Services
  | .set (some name) (some service) (some addr) => fun n s =>
      if n = name ∧ s = service ∧ Settable lib service addr then (m n s).put addr else m n s
  | .del (some name) service addr => fun n s =>
      if n = name ∧ Selected service s then (m n s).without lib addr else m n s
  | _ => m

/-- The map after some calls. -/
def servicesAfter (calls : List Call) : Services :=
  calls.foldl (Services.call lib) fun _ _ => Hosts.none

/-- The entries that a call names. -/
def Call.Names : Call → IpaName → CStr → Prop
  | .set msc service _, n, s => msc = some n ∧ service = some s
  | .del msc service _, n, s => msc = some n ∧ Selected service s

/-! ## How the lists represent the map -/

/-- The entry of a service. -/
abbrev entry (hosts : List ServiceHost) (service : CStr) : Option ServiceHost :=
  Keyed.find ServiceHost.service hosts service

/-- The services of an MSC. -/
def hostsOf (mscs : List MscCfg) (mscName : IpaName) : List ServiceHost :=
  ((Keyed.find MscCfg.name mscs mscName).map MscCfg.serviceHosts).getD []

/-- An address, if it is one. -/
def slot (addr : SockaddrStr) : Option SockaddrStr :=
  if lib.sockaddrStrIsNonzero addr then some addr else Option.none

/-- The addresses of an entry. -/
def view : Option ServiceHost → Hosts
  | Option.none => Hosts.none
  | some e => ⟨slot lib e.hostV4, slot lib e.hostV6⟩

/-- A member for the addresses of a family is empty or has one. -/
def SlotOk (af : UInt16) (addr : SockaddrStr) : Prop :=
  addr = SockaddrStr.zero ∨ lib.sockaddrStrIsNonzero addr = true ∧ addr.af = af

/-- An entry has at least one address. -/
structure EntryOk (e : ServiceHost) : Prop where
  v4 : SlotOk lib afInet e.hostV4
  v6 : SlotOk lib afInet6 e.hostV6
  nonzero : lib.sockaddrStrIsNonzero e.hostV4 = true ∨ lib.sockaddrStrIsNonzero e.hostV6 = true

/-- At most one entry for each service. -/
structure HostsOk (hosts : List ServiceHost) : Prop where
  nodup : (hosts.map ServiceHost.service).Nodup
  entries : ∀ e ∈ hosts, EntryOk lib e

/-- **The lists represent the map**: at most one entry for each MSC and each of its services, every
entry with an address, and the addresses those of the map. -/
structure Represents (mscs : List MscCfg) (m : Services) : Prop where
  nodup : (mscs.map MscCfg.name).Nodup
  hosts : ∀ msc ∈ mscs, HostsOk lib msc.serviceHosts
  content : ∀ n s, view lib (entry (hostsOf mscs n) s) = m n s

/-! ## Finding entries -/

variable {lib} {hosts : List ServiceHost} {mscs : List MscCfg}

theorem mscFind_eq (mscs : List MscCfg) (mscName : IpaName) :
    mscFind mscs mscName = Keyed.find MscCfg.name mscs mscName :=
  congrArg (List.find? · mscs) (funext fun _ => decide_eq_decide.2 ipaNameCmp_eq_zero_iff)

theorem hostsOf_of_mem (h : (mscs.map MscCfg.name).Nodup) {msc : MscCfg} (hmsc : msc ∈ mscs) :
    hostsOf mscs msc.name = msc.serviceHosts := by
  rw [hostsOf, (Keyed.find_eq_some_iff h).2 ⟨hmsc, rfl⟩]
  rfl

/-- The MSC that is found or created has the services it had. -/
theorem mscGet_spec (h : (mscs.map MscCfg.name).Nodup) (name : IpaName) :
    (mscGet mscs name).1 ∈ (mscGet mscs name).2 ∧ (mscGet mscs name).1.name = name ∧
      (((mscGet mscs name).2.map MscCfg.name).Nodup) ∧
      (∀ n, hostsOf (mscGet mscs name).2 n = hostsOf mscs n) ∧
      ∀ msc ∈ (mscGet mscs name).2, msc ∈ mscs ∨ msc.serviceHosts = [] := by
  unfold mscGet
  rw [mscFind_eq]
  cases hfind : Keyed.find MscCfg.name mscs name with
  | some msc =>
      obtain ⟨hmem, hname⟩ := (Keyed.find_eq_some_iff h).1 hfind
      exact ⟨hmem, hname, h, fun _ => rfl, fun _ => Or.inl⟩
  | none =>
      refine ⟨by simp, rfl, Keyed.nodup_concat h (Keyed.find_eq_none_iff.1 hfind), ?_, ?_⟩
      · intro n
        rw [hostsOf, hostsOf, Keyed.find_concat hfind]
        split
        next hn =>
            rw [← hn, hfind]
            rfl
        next => rfl
      · intro msc hmsc
        rcases List.mem_append.1 hmsc with hmsc | hmsc
        · exact Or.inl hmsc
        · exact Or.inr (congrArg MscCfg.serviceHosts (List.mem_singleton.1 hmsc))

theorem serviceHosts_mscGet (h : (mscs.map MscCfg.name).Nodup) (name : IpaName) :
    (mscGet mscs name).1.serviceHosts = hostsOf mscs name := by
  obtain ⟨hmem, hname, hnodup, hhosts, -⟩ := mscGet_spec h name
  have hof := hostsOf_of_mem hnodup hmem
  rw [hname, hhosts] at hof
  exact hof.symm

/-- A call on an MSC changes the services of that MSC. -/
theorem hostsOf_onMsc (h : (mscs.map MscCfg.name).Nodup) (name n : IpaName)
    (f : List ServiceHost → List ServiceHost × Int) :
    hostsOf (onMsc mscs name f).1 n =
      if n = name then (f (hostsOf mscs name)).1 else hostsOf mscs n := by
  obtain ⟨hmem, hname, hnodup, hhosts, -⟩ := mscGet_spec h name
  rw [onMsc, mscSet, hostsOf, Keyed.find_set, hname, serviceHosts_mscGet h]
  by_cases hn : n = name
  · subst hn
    have hfound : Keyed.find MscCfg.name (mscGet mscs n).2 n = some (mscGet mscs n).1 :=
      (Keyed.find_eq_some_iff hnodup).2 ⟨hmem, hname⟩
    rw [if_pos rfl, if_pos rfl, hfound]
    rfl
  · rw [if_neg (Ne.symm hn), if_neg hn]
    exact hhosts n

theorem snd_onMsc (h : (mscs.map MscCfg.name).Nodup) (name : IpaName)
    (f : List ServiceHost → List ServiceHost × Int) :
    (onMsc mscs name f).2 = (f (hostsOf mscs name)).2 := by
  rw [onMsc, serviceHosts_mscGet h]

theorem service_of_entry {s : CStr} {e : ServiceHost} (h : entry hosts s = some e) :
    e.service = s := by simpa using List.find?_some h

/-! ## Setting -/

/-- Writing an address to an entry. -/
def writeAddr (addr : SockaddrStr) (e : ServiceHost) : ServiceHost :=
  if addr.af = afInet then { e with hostV4 := addr } else { e with hostV6 := addr }

/-- An entry without addresses. -/
def freshEntry (service : CStr) : ServiceHost := ⟨service, SockaddrStr.zero, SockaddrStr.zero⟩

theorem service_writeAddr (addr : SockaddrStr) (e : ServiceHost) :
    (writeAddr addr e).service = e.service := by
  unfold writeAddr
  split <;> rfl

theorem nodup_mscServiceGet (h : (hosts.map ServiceHost.service).Nodup) (service : CStr) :
    ((mscServiceGet hosts service).map ServiceHost.service).Nodup := by
  unfold mscServiceGet
  cases hfind : Keyed.find ServiceHost.service hosts service with
  | some e => exact h
  | none => exact Keyed.nodup_concat h (Keyed.find_eq_none_iff.1 hfind)

theorem entry_mscServiceGet (hosts : List ServiceHost) (service s : CStr) :
    entry (mscServiceGet hosts service) s =
      if service = s then some ((entry hosts service).getD (freshEntry service))
      else entry hosts s := by
  unfold mscServiceGet entry
  cases hfind : Keyed.find ServiceHost.service hosts service with
  | some e =>
      by_cases hs : service = s
      · rw [if_pos hs, ← hs]
        exact hfind
      · rw [if_neg hs]
  | none => exact Keyed.find_concat (x := freshEntry service) hfind

theorem mem_mscServiceGet {service : CStr} {e : ServiceHost} (h : e ∈ mscServiceGet hosts service) :
    e ∈ hosts ∨ e = freshEntry service := by
  unfold mscServiceGet at h
  split at h
  · exact Or.inl h
  · exact (List.mem_append.1 h).imp id List.mem_singleton.1

/-- The entries after an address is set. -/
def written (hosts : List ServiceHost) (service : CStr) (addr : SockaddrStr) : List ServiceHost :=
  (mscServiceGet hosts service).map fun e => if e.service = service then writeAddr addr e else e

theorem service_written (service : CStr) (addr : SockaddrStr) (e : ServiceHost) :
    (if e.service = service then writeAddr addr e else e).service = e.service := by
  split
  · exact service_writeAddr addr e
  · rfl

theorem entry_written (hosts : List ServiceHost) (service s : CStr) (addr : SockaddrStr) :
    entry (written hosts service addr) s =
      if service = s then some (writeAddr addr ((entry hosts service).getD (freshEntry service)))
      else entry hosts s := by
  rw [entry, written, Keyed.find_view (service_written service addr)]
  change Option.map _ (entry (mscServiceGet hosts service) s) = _
  rw [entry_mscServiceGet]
  by_cases hs : service = s
  · subst hs
    have hservice : ((entry hosts service).getD (freshEntry service)).service = service := by
      cases hfind : entry hosts service with
      | none => rfl
      | some e => exact service_of_entry hfind
    rw [if_pos rfl, if_pos rfl, Option.map_some, if_pos hservice]
  · rw [if_neg hs, if_neg hs]
    cases hfind : entry hosts s with
    | none => rfl
    | some e => rw [Option.map_some, if_neg fun he => hs (he.symm.trans (service_of_entry hfind))]

/-! ## What libosmocore says of addresses -/

/-- What is relied on: an address is IPv4 or IPv6, and what is equal to one is of its family. -/
structure AddrLaws (lib : SockaddrLib) : Prop where
  cmp_equivalence : Equivalence fun a b => lib.sockaddrStrCmp a b = 0
  family : ∀ a, lib.sockaddrStrIsNonzero a = true → a.af = afInet ∨ a.af = afInet6
  same_family : ∀ a b, lib.sockaddrStrIsNonzero a = true → lib.sockaddrStrIsNonzero b = true →
    lib.sockaddrStrCmp a b = 0 → a.af = b.af
  cmp_zero : ∀ a, lib.sockaddrStrIsNonzero a = true → lib.sockaddrStrCmp a SockaddrStr.zero ≠ 0

/-- What is set is written to the entry of the service. -/
theorem mscServiceSet_eq (hlib : AddrLaws lib) {service : CStr} {addr : SockaddrStr}
    (h : Settable lib service addr) :
    mscServiceSet lib hosts service addr = (written hosts service addr, true) := by
  obtain ⟨hpos, hle, haddr⟩ := h
  rw [mscServiceSet, if_neg (by omega), haddr]
  rcases hlib.family addr haddr with haf | haf
  · simp [haf, written, writeAddr]
  · simp [haf, written, writeAddr, afInet, afInet6]

theorem mscServiceSet_of_not {service : CStr} {addr : SockaddrStr}
    (h : ¬Settable lib service addr) : mscServiceSet lib hosts service addr = (hosts, false) := by
  unfold mscServiceSet
  split
  next => rfl
  next hlen =>
      have haddr : lib.sockaddrStrIsNonzero addr = false := by
        rw [Bool.eq_false_iff]
        exact fun haddr => h ⟨by omega, by omega, haddr⟩
      simp [haddr]

@[simp] theorem slot_zero : slot lib SockaddrStr.zero = none := by
  rw [slot, lib.nonzero_zero]
  rfl

theorem slot_of_nonzero {addr : SockaddrStr} (h : lib.sockaddrStrIsNonzero addr = true) :
    slot lib addr = some addr := if_pos h

theorem slot_of_not_nonzero {addr : SockaddrStr} (h : ¬lib.sockaddrStrIsNonzero addr = true) :
    slot lib addr = none := if_neg h

/-- An entry that an address is written to has the address. -/
theorem view_writeAddr {addr : SockaddrStr} (h : lib.sockaddrStrIsNonzero addr = true)
    (service : CStr) (e : Option ServiceHost) :
    view lib (some (writeAddr addr (e.getD (freshEntry service)))) = (view lib e).put addr := by
  have hslot := slot_of_nonzero h
  unfold writeAddr Hosts.put
  split <;> cases e <;> simp [view, freshEntry, Hosts.none, hslot]

theorem entryOk_writeAddr (hlib : AddrLaws lib) {addr : SockaddrStr}
    (h : lib.sockaddrStrIsNonzero addr = true) {e : ServiceHost}
    (hv4 : SlotOk lib afInet e.hostV4) (hv6 : SlotOk lib afInet6 e.hostV6) :
    EntryOk lib (writeAddr addr e) := by
  unfold writeAddr
  rcases hlib.family addr h with haf | haf
  · rw [if_pos haf]
    exact ⟨Or.inr ⟨h, haf⟩, hv6, Or.inl h⟩
  · rw [if_neg (by rw [haf]; decide)]
    exact ⟨hv4, Or.inr ⟨h, haf⟩, Or.inr h⟩

theorem hostsOk_written (hlib : AddrLaws lib) {service : CStr} {addr : SockaddrStr}
    (h : lib.sockaddrStrIsNonzero addr = true) (hok : HostsOk lib hosts) :
    HostsOk lib (written hosts service addr) := by
  refine ⟨?_, ?_⟩
  · rw [written, List.map_map, show ServiceHost.service ∘ _ = ServiceHost.service from
      funext (service_written service addr)]
    exact nodup_mscServiceGet hok.nodup service
  · intro e he
    obtain ⟨e, hgot, rfl⟩ := List.mem_map.1 he
    rcases mem_mscServiceGet hgot with hmem | rfl
    · have heok := hok.entries e hmem
      split
      · exact entryOk_writeAddr hlib h heok.v4 heok.v6
      · exact heok
    · have hwritten := entryOk_writeAddr (e := freshEntry service) hlib h (Or.inl rfl) (Or.inl rfl)
      rwa [if_pos (show (freshEntry service).service = service from rfl)]

/-! ## Deleting -/

theorem delOne_of_selected {service : Option CStr} {e : ServiceHost}
    (h : Selected service e.service) (addr : Option SockaddrStr) :
    delOne lib service addr e = mscServiceDelOne lib e.service addr e := by
  rcases h with rfl | rfl <;> rfl

theorem delOne_of_not_selected {service : Option CStr} {e : ServiceHost}
    (h : ¬Selected service e.service) (addr : Option SockaddrStr) :
    delOne lib service addr e = some e := by
  match service with
  | none => exact absurd (Or.inl rfl) h
  | some s => exact if_pos fun hs => h (Or.inr (congrArg some hs.symm))

theorem slot_without (addr a : SockaddrStr) :
    ((slot lib a).filter fun a => lib.sockaddrStrCmp addr a ≠ 0) =
      if lib.sockaddrStrCmp addr a = 0 then none else slot lib a := by
  unfold slot
  split_ifs with hnonzero hcmp hcmp <;> simp [*]

/-- No address is equal to both addresses of an entry. -/
theorem slot_v6_of_cmp_v4 (hlib : AddrLaws lib) {addr : SockaddrStr} {e : ServiceHost}
    (hok : EntryOk lib e)
    (h : lib.sockaddrStrCmp addr e.hostV4 = 0) :
    (if lib.sockaddrStrCmp addr e.hostV6 = 0 then none else slot lib e.hostV6) =
      slot lib e.hostV6 := by
  refine ite_eq_right_iff.2 fun h6 => ?_
  rcases hok.v6 with hzero | ⟨hv6, haf6⟩
  · rw [hzero, slot_zero]
  · have hsame : lib.sockaddrStrCmp e.hostV6 e.hostV4 = 0 :=
      hlib.cmp_equivalence.trans (hlib.cmp_equivalence.symm h6) h
    rcases hok.v4 with hzero | ⟨hv4, haf4⟩
    · exact absurd (hzero ▸ hsame) (hlib.cmp_zero _ hv6)
    · have haf := hlib.same_family _ _ hv6 hv4 hsame
      rw [haf6, haf4] at haf
      exact absurd haf (by decide)

/-- What is left of an entry has the other addresses. -/
theorem view_delOne (hlib : AddrLaws lib) {service : Option CStr} {e : ServiceHost}
    (hok : EntryOk lib e) (hselected : Selected service e.service) (addr : Option SockaddrStr) :
    view lib (delOne lib service addr e) = (view lib (some e)).without lib addr := by
  rw [delOne_of_selected hselected]
  unfold mscServiceDelOne
  rw [if_neg (not_not.2 rfl)]
  cases addr with
  | none => rfl
  | some addr =>
      have hwithout : (view lib (some e)).without lib (some addr) =
          ⟨if lib.sockaddrStrCmp addr e.hostV4 = 0 then none else slot lib e.hostV4,
            if lib.sockaddrStrCmp addr e.hostV6 = 0 then none else slot lib e.hostV6⟩ :=
        Hosts.ext (slot_without addr e.hostV4) (slot_without addr e.hostV6)
      rw [hwithout]
      dsimp only
      by_cases h4 : lib.sockaddrStrCmp addr e.hostV4 = 0
      · rw [slot_v6_of_cmp_v4 hlib hok h4, if_pos h4, if_pos h4]
        by_cases hv6 : lib.sockaddrStrIsNonzero e.hostV6 = true
        · rw [if_pos hv6, view, slot_zero]
        · rw [if_neg hv6, slot_of_not_nonzero hv6, view, Hosts.none]
      · rw [if_neg h4, if_neg h4]
        by_cases h6 : lib.sockaddrStrCmp addr e.hostV6 = 0
        · rw [if_pos h6, if_pos h6]
          by_cases hv4 : lib.sockaddrStrIsNonzero e.hostV4 = true
          · rw [if_pos hv4, view, slot_zero]
          · rw [if_neg hv4, slot_of_not_nonzero hv4, view, Hosts.none]
        · rw [if_neg h6, if_neg h6, view]

/-- What can be left of an entry. -/
theorem delOne_cases {service : Option CStr} {addr : Option SockaddrStr} {e e' : ServiceHost}
    (h : delOne lib service addr e = some e') :
    e' = e ∨
      e' = { e with hostV4 := SockaddrStr.zero } ∧ lib.sockaddrStrIsNonzero e.hostV6 = true ∨
      e' = { e with hostV6 := SockaddrStr.zero } ∧ lib.sockaddrStrIsNonzero e.hostV4 = true := by
  by_cases hselected : Selected service e.service
  · rw [delOne_of_selected hselected] at h
    unfold mscServiceDelOne at h
    rw [if_neg (not_not.2 rfl)] at h
    cases addr with
    | none => cases h
    | some addr =>
        dsimp only at h
        split_ifs at h with h4 hv6 h6 hv4 <;> cases h
        · exact Or.inr (Or.inl ⟨rfl, hv6⟩)
        · exact Or.inr (Or.inr ⟨rfl, hv4⟩)
        · exact Or.inl rfl
  · rw [delOne_of_not_selected hselected] at h
    cases h
    exact Or.inl rfl

theorem service_delOne {service : Option CStr} {addr : Option SockaddrStr} (e e' : ServiceHost)
    (h : delOne lib service addr e = some e') : e'.service = e.service := by
  rcases delOne_cases h with rfl | ⟨rfl, -⟩ | ⟨rfl, -⟩ <;> rfl

theorem entryOk_delOne {service : Option CStr} {addr : Option SockaddrStr} {e e' : ServiceHost}
    (hok : EntryOk lib e) (h : delOne lib service addr e = some e') : EntryOk lib e' := by
  rcases delOne_cases h with rfl | ⟨rfl, hv6⟩ | ⟨rfl, hv4⟩
  · exact hok
  · exact ⟨Or.inl rfl, hok.v6, Or.inr hv6⟩
  · exact ⟨hok.v4, Or.inl rfl, Or.inl hv4⟩

/-- An entry has an address. -/
theorem view_ne_none {e : ServiceHost} (hok : EntryOk lib e) : view lib (some e) ≠ Hosts.none := by
  intro h
  rw [view, Hosts.none, Hosts.mk.injEq] at h
  rcases hok.nonzero with hnonzero | hnonzero
  · rw [slot_of_nonzero hnonzero] at h
    cases h.1
  · rw [slot_of_nonzero hnonzero] at h
    cases h.2

/-- An entry is deleted exactly if nothing is left of its addresses. -/
theorem delOne_eq_none_iff (hlib : AddrLaws lib) {service : Option CStr} {e : ServiceHost}
    (hok : EntryOk lib e) (addr : Option SockaddrStr) :
    delOne lib service addr e = none ↔
      Selected service e.service ∧ (view lib (some e)).without lib addr = Hosts.none := by
  constructor
  · intro h
    have hselected : Selected service e.service := by
      by_contra hnot
      rw [delOne_of_not_selected hnot] at h
      cases h
    exact ⟨hselected, by rw [← view_delOne hlib hok hselected, h, view]⟩
  · rintro ⟨hselected, hnone⟩
    rw [← view_delOne hlib hok hselected] at hnone
    cases h : delOne lib service addr e with
    | none => rfl
    | some e' =>
        rw [h] at hnone
        exact absurd hnone (view_ne_none (entryOk_delOne hok h))

theorem hostsOk_del (hok : HostsOk lib hosts) (service : Option CStr) (addr : Option SockaddrStr) :
    HostsOk lib (mslookupServerMscServiceDel lib hosts service addr).1 := by
  refine ⟨Keyed.nodup_filterMap hok.nodup service_delOne, ?_⟩
  intro e' he'
  obtain ⟨e, he, hdel⟩ := List.mem_filterMap.1 he'
  exact entryOk_delOne (hok.entries e he) hdel

theorem mem_of_entry (hok : HostsOk lib hosts) {s : CStr} {e : ServiceHost}
    (h : entry hosts s = some e) : e ∈ hosts := ((Keyed.find_eq_some_iff hok.nodup).1 h).1

/-- What a deletion leaves of each entry. -/
theorem entry_del (hok : HostsOk lib hosts) (service : Option CStr) (addr : Option SockaddrStr)
    (s : CStr) :
    entry (mslookupServerMscServiceDel lib hosts service addr).1 s =
      (entry hosts s).bind (delOne lib service addr) :=
  Keyed.find_filterMap hok.nodup service_delOne

theorem Hosts.without_none (addr : Option SockaddrStr) :
    Hosts.none.without lib addr = Hosts.none := by cases addr <;> rfl

theorem view_del (hlib : AddrLaws lib) (hok : HostsOk lib hosts) (service : Option CStr)
    (addr : Option SockaddrStr) (s : CStr) :
    view lib (entry (mslookupServerMscServiceDel lib hosts service addr).1 s) =
      if Selected service s then (view lib (entry hosts s)).without lib addr
      else view lib (entry hosts s) := by
  rw [entry_del hok]
  cases hentry : entry hosts s with
  | none => rw [Option.bind_none, view, Hosts.without_none, ite_self]
  | some e =>
      have hs := service_of_entry hentry
      subst hs
      rw [Option.bind_some]
      split
      next hselected =>
          exact view_delOne hlib (hok.entries e (mem_of_entry hok hentry)) hselected addr
      next hselected => rw [delOne_of_not_selected hselected]

/-- **What the return value counts**: entries that nothing is left of. -/
theorem one_le_del_iff (hlib : AddrLaws lib) (hok : HostsOk lib hosts) (service : Option CStr)
    (addr : Option SockaddrStr) :
    1 ≤ (mslookupServerMscServiceDel lib hosts service addr).2 ↔
      ∃ s, Selected service s ∧ view lib (entry hosts s) ≠ Hosts.none ∧
        (view lib (entry hosts s)).without lib addr = Hosts.none := by
  have hcount : 1 ≤ (mslookupServerMscServiceDel lib hosts service addr).2 ↔
      ∃ e ∈ hosts, delOne lib service addr e = none := by
    simp only [mslookupServerMscServiceDel, Nat.one_le_cast, Nat.one_le_iff_ne_zero,
      ← Nat.pos_iff_ne_zero, List.countP_pos_iff, Option.isNone_iff_eq_none]
  rw [hcount]
  constructor
  · rintro ⟨e, he, hnone⟩
    have hentry : entry hosts e.service = some e := (Keyed.find_eq_some_iff hok.nodup).2 ⟨he, rfl⟩
    have heok := hok.entries e he
    obtain ⟨hselected, hwithout⟩ := (delOne_eq_none_iff hlib heok addr).1 hnone
    exact ⟨e.service, hselected, by rw [hentry]; exact view_ne_none heok, by rwa [hentry]⟩
  · rintro ⟨s, hselected, hne, hwithout⟩
    cases hentry : entry hosts s with
    | none => exact absurd (by rw [hentry, view]) hne
    | some e =>
        have hmem := mem_of_entry hok hentry
        have hs := service_of_entry hentry
        subst hs
        rw [hentry] at hwithout
        exact ⟨e, hmem, (delOne_eq_none_iff hlib (hok.entries e hmem) addr).2 ⟨hselected, hwithout⟩⟩

/-! ## One call -/

/-- What `mslookup_server_msc_service_set` does to the addresses of each service. -/
theorem view_set (hlib : AddrLaws lib) (hosts : List ServiceHost) (service : CStr)
    (addr : SockaddrStr) (s : CStr) :
    view lib (entry (mslookupServerMscServiceSet lib hosts (some service) (some addr)).1 s) =
      if s = service ∧ Settable lib service addr then (view lib (entry hosts s)).put addr
      else view lib (entry hosts s) := by
  rw [mslookupServerMscServiceSet]
  by_cases hset : Settable lib service addr
  · rw [mscServiceSet_eq hlib hset, entry_written]
    by_cases hs : service = s
    · subst hs
      rw [if_pos rfl, if_pos ⟨rfl, hset⟩]
      exact view_writeAddr hset.2.2 service _
    · rw [if_neg hs, if_neg fun h => hs h.1.symm]
  · rw [mscServiceSet_of_not hset, if_neg fun hs : s = service ∧ _ => hset hs.2]

theorem hostsOk_set (hlib : AddrLaws lib) (hok : HostsOk lib hosts) (service : Option CStr)
    (addr : Option SockaddrStr) :
    HostsOk lib (mslookupServerMscServiceSet lib hosts service addr).1 := by
  match service, addr with
  | none, _ => exact hok
  | some _, none => exact hok
  | some service, some addr =>
      rw [mslookupServerMscServiceSet]
      by_cases hset : Settable lib service addr
      · rw [mscServiceSet_eq hlib hset]
        exact hostsOk_written hlib hset.2.2 hok
      · rw [mscServiceSet_of_not hset]
        exact hok

/-- Only the entry of the service is written to. -/
theorem entry_set_of_ne (hlib : AddrLaws lib) {service : Option CStr} {s : CStr}
    (hs : service ≠ some s) (addr : Option SockaddrStr) :
    entry (mslookupServerMscServiceSet lib hosts service addr).1 s = entry hosts s := by
  match service, addr with
  | none, _ => rfl
  | some _, none => rfl
  | some service, some addr =>
      rw [mslookupServerMscServiceSet]
      by_cases hset : Settable lib service addr
      · rw [mscServiceSet_eq hlib hset, entry_written, if_neg fun h => hs (congrArg some h)]
      · rw [mscServiceSet_of_not hset]

/-- Only the entries of the services that are selected are deleted. -/
theorem entry_del_of_not_selected (hok : HostsOk lib hosts) {service : Option CStr} {s : CStr}
    (hs : ¬Selected service s) (addr : Option SockaddrStr) :
    entry (mslookupServerMscServiceDel lib hosts service addr).1 s = entry hosts s := by
  rw [entry_del hok]
  cases hentry : entry hosts s with
  | none => rfl
  | some e =>
      have hservice := service_of_entry hentry
      subst hservice
      exact delOne_of_not_selected hs addr

variable {m : Services}

theorem Represents.hostsOk (h : Represents lib mscs m) (n : IpaName) :
    HostsOk lib (hostsOf mscs n) := by
  unfold hostsOf
  cases hfind : Keyed.find MscCfg.name mscs n with
  | none => exact ⟨List.nodup_nil, nofun⟩
  | some msc => exact h.hosts msc ((Keyed.find_eq_some_iff h.nodup).1 hfind).1

theorem nodup_onMsc (h : (mscs.map MscCfg.name).Nodup) (name : IpaName)
    (f : List ServiceHost → List ServiceHost × Int) :
    ((onMsc mscs name f).1.map MscCfg.name).Nodup := by
  rw [onMsc, mscSet, Keyed.map_key_set]
  exact (mscGet_spec h name).2.2.1

/-- A call on an MSC changes the map as it changes the services of that MSC. -/
theorem Represents.onMsc (h : Represents lib mscs m) (name : IpaName)
    (f : List ServiceHost → List ServiceHost × Int) (g : CStr → Hosts → Hosts)
    (hok : HostsOk lib (f (hostsOf mscs name)).1)
    (hview : ∀ s, view lib (entry (f (hostsOf mscs name)).1 s) =
      g s (view lib (entry (hostsOf mscs name) s))) :
    Represents lib (onMsc mscs name f).1 fun n s => if n = name then g s (m n s) else m n s := by
  have hnodup := nodup_onMsc h.nodup name f
  refine ⟨hnodup, ?_, ?_⟩
  · intro msc hmsc
    rw [← hostsOf_of_mem hnodup hmsc, hostsOf_onMsc h.nodup]
    split
    · exact hok
    · exact h.hostsOk msc.name
  · intro n s
    rw [hostsOf_onMsc h.nodup]
    split
    next hn => rw [hview, ← hn, h.content]
    next => exact h.content n s

/-- **What represents the map before a call represents it afterwards.** -/
theorem Represents.call (hlib : AddrLaws lib) (h : Represents lib mscs m) (c : Call) :
    Represents lib (call lib mscs c).1 (m.call lib c) := by
  match c with
  | .set none _ _ => exact h
  | .del none _ _ => exact h
  | .set (some name) service addr =>
      have hset := h.onMsc name fun hosts => mslookupServerMscServiceSet lib hosts service addr
      have hok := hostsOk_set hlib (h.hostsOk name) service addr
      match service, addr with
      | none, _ =>
          have hrep := hset (fun _ hosts => hosts) hok fun _ => rfl
          simp only [ite_self] at hrep
          exact hrep
      | some _, none =>
          have hrep := hset (fun _ hosts => hosts) hok fun _ => rfl
          simp only [ite_self] at hrep
          exact hrep
      | some service, some addr =>
          have hrep := hset
            (fun s hosts =>
              if s = service ∧ Settable lib service addr then hosts.put addr else hosts)
            hok (view_set hlib _ service addr)
          simp only [← ite_and] at hrep
          exact hrep
  | .del (some name) service addr =>
      have hrep := h.onMsc name (fun hosts => mslookupServerMscServiceDel lib hosts service addr)
        (fun s hosts => if Selected service s then hosts.without lib addr else hosts)
        (hostsOk_del (h.hostsOk name) service addr) (view_del hlib (h.hostsOk name) service addr)
      simp only [← ite_and] at hrep
      exact hrep

/-- A call leaves the entries that it does not name as they are. -/
theorem entry_call_of_not_names (hlib : AddrLaws lib) (h : Represents lib mscs m) {c : Call}
    {n : IpaName} {s : CStr} (hnames : ¬c.Names n s) :
    entry (hostsOf (call lib mscs c).1 n) s = entry (hostsOf mscs n) s := by
  match c with
  | .set none _ _ => rfl
  | .del none _ _ => rfl
  | .set (some name) service addr =>
      rw [call, hostsOf_onMsc h.nodup]
      split
      next hn => 
          subst hn
          exact entry_set_of_ne hlib (fun hs => hnames ⟨rfl, hs⟩) addr
      next => rfl
  | .del (some name) service addr =>
      rw [call, hostsOf_onMsc h.nodup]
      split
      next hn =>
          subst hn
          exact entry_del_of_not_selected (h.hostsOk _) (fun hs => hnames ⟨rfl, hs⟩) addr
      next => rfl

/-! ## Runs of calls -/

/-- A deletion that takes addresses takes all that some service has. -/
def Services.TakesAll (lib : SockaddrLib) (m : Services) : Call → Prop
  | .del (some name) service addr =>
      (∃ s, Selected service s ∧ (m name s).without lib addr ≠ m name s) →
        ∃ s, Selected service s ∧ m name s ≠ Hosts.none ∧ (m name s).without lib addr = Hosts.none
  | _ => True

/-- A call does what it is to do to the map, after the calls before it: the lists represent the map,
only the entries that are named change, and a deletion tells whether it removed something. -/
structure Refines (lib : SockaddrLib) (calls : List Call) (c : Call) : Prop where
  represents : Represents lib (call lib (mscsAfter lib calls) c).1
    ((servicesAfter lib calls).call lib c)
  others : ∀ n s, ¬c.Names n s →
    entry (hostsOf (call lib (mscsAfter lib calls) c).1 n) s =
      entry (hostsOf (mscsAfter lib calls) n) s
  told : ∀ msc service addr, c = .del msc service addr →
    (1 ≤ (call lib (mscsAfter lib calls) c).2 ↔
      (servicesAfter lib calls).call lib c ≠ servicesAfter lib calls)

/-- **The lists represent the map after any calls.** -/
theorem represents_after (hlib : AddrLaws lib) (calls : List Call) :
    Represents lib (mscsAfter lib calls) (servicesAfter lib calls) := by
  have hinit : Represents lib [] fun _ _ => Hosts.none :=
    ⟨List.nodup_nil, nofun, fun _ _ => rfl⟩
  unfold mscsAfter servicesAfter
  generalize ([] : List MscCfg) = mscs at hinit ⊢
  generalize (fun _ _ => Hosts.none : Services) = m at hinit ⊢
  induction calls generalizing mscs m with
  | nil => exact hinit
  | cons c calls ih => exact ih _ _ (hinit.call hlib c)

/-- A deletion changes the map if it takes something from some service. -/
theorem call_del_ne_iff (m : Services) (name : IpaName) (service : Option CStr)
    (addr : Option SockaddrStr) :
    m.call lib (.del (some name) service addr) ≠ m ↔
      ∃ s, Selected service s ∧ (m name s).without lib addr ≠ m name s := by
  constructor
  · intro hne
    by_contra hnone
    refine hne (funext fun n => funext fun s => ?_)
    refine ite_eq_right_iff.2 ?_
    rintro ⟨rfl, hselected⟩
    by_contra hs
    exact hnone ⟨s, hselected, hs⟩
  · rintro ⟨s, hselected, hne⟩ heq
    refine hne (Eq.trans ?_ (congrFun (congrFun heq name) s))
    exact (if_pos (show name = name ∧ _ from ⟨rfl, hselected⟩)).symm

/-- A deletion tells whether it removed something, exactly if it takes all from some service or
nothing from any. -/
theorem told_iff (hlib : AddrLaws lib) (h : Represents lib mscs m) (msc : Option IpaName)
    (service : Option CStr) (addr : Option SockaddrStr) :
    (1 ≤ (call lib mscs (.del msc service addr)).2 ↔ m.call lib (.del msc service addr) ≠ m) ↔
      m.TakesAll lib (.del msc service addr) := by
  cases msc with
  | none => exact iff_of_true (iff_of_false (show ¬1 ≤ enoent by decide) (not_not.2 rfl)) trivial
  | some name =>
      have hcount : 1 ≤ (call lib mscs (.del (some name) service addr)).2 ↔
          ∃ s, Selected service s ∧ m name s ≠ Hosts.none ∧
            (m name s).without lib addr = Hosts.none := by
        simp only [← h.content]
        rw [← one_le_del_iff hlib (h.hostsOk name) service addr, call, snd_onMsc h.nodup]
      rw [hcount, call_del_ne_iff]
      refine ⟨fun htold => htold.2, fun htakes => ⟨?_, htakes⟩⟩
      rintro ⟨s, hselected, hne, hnone⟩
      exact ⟨s, hselected, fun heq => hne (heq.symm.trans hnone)⟩

/-- The address that is given to `no service`, if it is one. -/
def noServiceAddr (lib : SockaddrLib) : Option (CStr × CStr) → Option (Option SockaddrStr)
  | none => some none
  | some (ip, port) => (serviceAddr lib ip port).map some

/-- **The VTY goes by the return value**, here for the services without an MSC. -/
theorem cfgMscNoService_server (s : MslookupCfg) (service : CStr)
    {words : Option (CStr × CStr)} {addr : Option SockaddrStr}
    (h : noServiceAddr lib words = some addr) :
    (cfgMscNoService lib s .server service words).mslookup.server.localSiteServices =
        (call lib s.server.localSiteServices (.del (some mscWildcard) (some service) addr)).1 ∧
      ((cfgMscNoService lib s .server service words).rc = .success ↔
        1 ≤ (call lib s.server.localSiteServices
          (.del (some mscWildcard) (some service) addr)).2) := by
  have hran : cfgMscNoService lib s .server service words =
      let got := mscGet s.server.localSiteServices mscWildcard
      let deleted := mscServiceDel lib got.1.serviceHosts service addr
      let s' := setServices s (mscSet got.2 ⟨got.1.name, deleted.1⟩)
      if deleted.2 < 1 then .warning s' else .ok s' [] := by
    match words with
    | none =>
        cases h
        rfl
    | some (ip, port) =>
        obtain ⟨a, ha, rfl⟩ := Option.map_eq_some_iff.1 h
        simp only [cfgMscNoService, mscFromNode, ha]
  rw [hran, call, onMsc]
  simp only [mscServiceDel_eq]
  split_ifs with hlt
  · exact ⟨rfl, iff_of_false (fun h => by cases h) (by omega)⟩
  · exact ⟨rfl, iff_of_true rfl (by omega)⟩

/-- **The registry refines the map**: along any calls, each of them does what it is to do exactly if
no deletion takes addresses only from services that keep another one. -/
theorem refines_iff (hlib : AddrLaws lib) (calls : List Call) :
    (∀ before c, before ++ [c] <+: calls → Refines lib before c) ↔
      ∀ before c, before ++ [c] <+: calls → (servicesAfter lib before).TakesAll lib c := by
  refine forall_congr' fun before => forall_congr' fun c => imp_congr_right fun _ => ?_
  have hrep := represents_after hlib before
  constructor
  · intro hrefines
    match c with
    | .set _ _ _ => trivial
    | .del msc service addr =>
        exact (told_iff hlib hrep msc service addr).1 (hrefines.told msc service addr rfl)
  · intro htakes
    refine ⟨hrep.call hlib c, fun n s => entry_call_of_not_names hlib hrep, ?_⟩
    rintro msc service addr rfl
    exact (told_iff hlib hrep msc service addr).2 htakes

/-- A deletion without an address takes all addresses of what it takes any from. -/
theorem takesAll_no_addr (m : Services) (msc : Option IpaName) (service : Option CStr) :
    m.TakesAll lib (.del msc service none) := by
  cases msc with
  | none => trivial
  | some name =>
      rintro ⟨s, hselected, hne⟩
      exact ⟨s, hselected, fun hnone => hne hnone.symm, rfl⟩

theorem addrLaws_host : AddrLaws Host.sockaddrLib where
  cmp_equivalence := by
    have hcmp : (fun a b => Host.sockaddrLib.sockaddrStrCmp a b = 0) = Eq :=
      funext fun a => funext fun b => propext (Host.sockaddrStrCmp_eq_zero_iff a b)
    rw [hcmp]
    exact eq_equivalence
  family a h := (of_decide_eq_true h).1
  same_family a b _ _ h := congrArg SockaddrStr.af ((Host.sockaddrStrCmp_eq_zero_iff a b).1 h)
  cmp_zero a h hcmp := by
    have hzero := (Host.sockaddrStrCmp_eq_zero_iff a _).1 hcmp
    subst hzero
    exact absurd h (by decide)

/-- The MSC of these runs. -/
def msc1 : IpaName := ⟨(CStr.lit "MSC-1").bytes, by decide +kernel⟩

/-- A service at an IPv4 address and at an IPv6 address. -/
def twoAddresses : List Call :=
  [.set (some msc1) (some (CStr.lit "baz.bar")) (some ⟨afInet, CStr.lit "12.11.10.98", 7654⟩),
    .set (some msc1) (some (CStr.lit "baz.bar")) (some ⟨afInet6, CStr.lit "dd:cc:bb::a", 3210⟩)]

/-- And then not at all. -/
theorem refines_one_service :
    (∀ before c,
      before ++ [c] <+: twoAddresses ++ [.del (some msc1) (some (CStr.lit "baz.bar")) none] →
      Refines Host.sockaddrLib before c) ∧
    mscsAfter Host.sockaddrLib
      (twoAddresses ++ [.del (some msc1) (some (CStr.lit "baz.bar")) none]) = [⟨msc1, []⟩] := by
  refine ⟨(refines_iff addrLaws_host _).2 ?_, by decide +kernel⟩
  intro before c h
  have hc : c ∈ before ++ [c] := by simp
  rcases List.mem_cons.1 (h.subset hc) with rfl | hc
  · trivial
  · rcases List.mem_cons.1 hc with rfl | hc
    · trivial
    · rw [List.mem_singleton.1 hc]
      exact takesAll_no_addr _ _ _

/-- One of two addresses is removed, but the return value is 0: the VTY says that it cannot be
removed. -/
theorem removed_not_told : ¬∀ before c, Refines Host.sockaddrLib before c := by
  intro h
  have htold := (h twoAddresses (.del (some msc1) (some (CStr.lit "baz.bar"))
    (some ⟨afInet6, CStr.lit "dd:cc:bb::a", 3210⟩))).told _ _ _ rfl
  refine absurd (htold.2 fun hsame => ?_) (by decide +kernel)
  exact absurd (congrFun (congrFun hsame msc1) (CStr.lit "baz.bar")) (by decide +kernel)

end DgsmVty
end OsmoHlr
