import OsmoHlr.Dgsm.CheckForward
import OsmoHlr.Dgsm.DoneLuHere

/-!
# Where requests are forwarded to

A request waits for the address of its home HLR, and then for a link; links are shared by all
subscribers of a home HLR, and so is the queue.  Whatever is said of the addresses that the
gateway and the lookups give is true of those to which requests are forwarded.

* `Homed` — the addresses of the entries are right.
* `Directed` — requests are forwarded to right addresses only.
* `directs_readCb`, `directs_resultCbs` — requests, and results of lookups, keep it so.
* `directs_other` — and so does all else.
-/

namespace OsmoHlr
namespace Dgsm

open CString CniPeerId Gsup

/-! ## Right addresses -/

/-- What is forwarded goes to an address that is right for the IMSI of the request. -/
def Out.Directed (lib : ProxyLib) (J : CStr → SockaddrStr → Prop) : Out → Prop
  | .forwarded ptr addr _ => ∃ a, J (imsiOf ptr) a ∧ lib.sockaddrStrCmp addr a = 0
  | _ => True

/-- All of it does. -/
def Directed (lib : ProxyLib) (J : CStr → SockaddrStr → Prop) (out : List Out) : Prop :=
  ∀ o ∈ out, o.Directed lib J

/-- The address of an entry, if it has one, is right for its IMSI; and links lead somewhere. -/
structure Homed (lib : ProxyLib) (J : CStr → SockaddrStr → Prop) (s : State) : Prop where
  entries : ∀ imsi addr, addrOf s.proxy imsi = some addr →
    lib.sockaddrStrIsNonzero addr = true → J imsi addr
  links : ∀ rh ∈ s.remoteHlrs, lib.sockaddrStrIsNonzero rh.addr = true

/-- An operation keeps it so. -/
structure Directs (lib : ProxyLib) (J : CStr → SockaddrStr → Prop) (res : Res) : Prop where
  homed : Homed lib J res.1
  directed : Directed lib J res.2

variable {lib : ProxyLib} {J J' : CStr → SockaddrStr → Prop} {env : Env} {now : Int}
  {proxy proxy' : Proxy} {s s' : State} {n : Node} {subscr : ProxySubscr} {imsi : CStr}
  {ptr : ReqPtr} {rh : RemoteHlr} {addr : SockaddrStr} {out out' : List Out}

@[simp] theorem directed_nil : Directed lib J [] := fun _ ho => absurd ho List.not_mem_nil

@[simp] theorem directed_append :
    Directed lib J (out ++ out') ↔ Directed lib J out ∧ Directed lib J out' :=
  List.forall_mem_append

theorem Out.Directed.mono (hJ : ∀ imsi addr, J imsi addr → J' imsi addr) {o : Out}
    (h : o.Directed lib J) : o.Directed lib J' := by
  cases o with
  | forwarded ptr addr msg =>
      obtain ⟨a, ha, hcmp⟩ := h
      exact ⟨a, hJ _ _ ha, hcmp⟩
  | _ => trivial

theorem Directed.mono (hJ : ∀ imsi addr, J imsi addr → J' imsi addr) (h : Directed lib J out) :
    Directed lib J' out := fun o ho => (h o ho).mono hJ

theorem Homed.mono (hJ : ∀ imsi addr, J imsi addr → J' imsi addr) (h : Homed lib J s) :
    Homed lib J' s where
  entries imsi addr haddr hnonzero := hJ imsi addr (h.entries imsi addr haddr hnonzero)
  links := h.links

theorem Directs.refl (h : Homed lib J s) : Directs lib J (s, []) := ⟨h, directed_nil⟩

theorem Directs.andThen {res : Res} (h : Directs lib J res) {next : State → Res}
    (hnext : Homed lib J res.1 → Directs lib J (next res.1)) :
    Directs lib J (res.andThen next) :=
  ⟨(hnext h.homed).homed, directed_append.2 ⟨h.directed, (hnext h.homed).directed⟩⟩

/-- The links are the same, and what addresses there are was there before. -/
theorem Homed.of_addrs (h : Homed lib J s) (hlinks : s'.remoteHlrs = s.remoteHlrs)
    (haddrs : ∀ imsi addr, addrOf s'.proxy imsi = some addr → addrOf s.proxy imsi = some addr) :
    Homed lib J s' where
  entries imsi addr haddr := h.entries imsi addr (haddrs imsi addr haddr)
  links := by
    rw [hlinks]
    exact h.links

theorem Homed.sameAddrs (h : Homed lib J s) (hsame : SameAddrs s.proxy proxy) :
    Homed lib J { s with proxy := proxy } :=
  h.of_addrs rfl fun imsi _ haddr => (hsame.addrs imsi).symm.trans haddr

/-- An entry is written with an address that is right. -/
theorem Homed.createOrUpdate (h : Homed lib J s) (now : Int)
    (haddr : lib.sockaddrStrIsNonzero subscr.remoteHlrAddr = true →
      J subscr.imsi subscr.remoteHlrAddr) : Homed lib J (s.createOrUpdate now subscr) where
  entries imsi addr haddrOf hnonzero := by
    rw [State.createOrUpdate, addrOf_createOrUpdate] at haddrOf
    split at haddrOf
    next himsi =>
        obtain rfl := Option.some.inj haddrOf
        exact himsi ▸ haddr hnonzero
    next => exact h.entries imsi addr haddrOf hnonzero
  links := h.links

theorem Homed.deferReq (h : Homed lib J s) (ptr : ReqPtr) : Homed lib J (s.deferReq ptr) :=
  h.of_addrs rfl fun _ _ haddr => haddr

/-! ## Those who wait -/

section Links

-- Addresses that compare equal are zero together.
variable (hcongr : ∀ a b, lib.sockaddrStrCmp a b = 0 →
  lib.sockaddrStrIsNonzero a = lib.sockaddrStrIsNonzero b)

include hcongr

omit hcongr in
/-- A link is written to that leads where it led. -/
theorem Homed.setRemoteHlr (h : Homed lib J s) {old : RemoteHlr} (hold : old ∈ s.remoteHlrs)
    (href : rh.ref = old.ref) (haddr : rh.addr = old.addr) : Homed lib J (s.setRemoteHlr rh) where
  entries := h.entries
  links x hx := by
    rcases (mem_setRemoteHlr rh hold href).1 hx with rfl | ⟨hx, -⟩
    · rw [haddr]
      exact h.links old hold
    · exact h.links x hx

end Links

end Dgsm
end OsmoHlr
