import Mathlib.Data.Finset.Card
import OsmoHlr.Db.DbSel
import OsmoHlr.Gsup.Send
import OsmoHlr.Lu.LuAnswers
import OsmoHlr.Mslookup.Basic

/-!
# Peers are told of changes

`osmo_hlr_subscriber_update_notify` of `src/hlr.c`: when a subscriber is changed, the peers that
serve it are sent Insert Subscriber Data.  Who serves which domain is read off two flags of a
connection, which `rx_upd_loc_req` sets.

* `osmoHlrSubscriberUpdateNotify` — what is sent, for each of the clients.
* `machine`, `recorded_run` — the flags tell who has updated locations, in any run.
* `Serves`, `Told` — who serves a subscriber, and what it takes that it is told.
* `notified_iff` — the peers that serve a subscriber are notified, and no others, exactly if each
  domain is `Told`.
-/

namespace OsmoHlr
namespace UpdateNotify

open CString CniPeerId Gsup LuFsm Db
open Mslookup (strncmp)

/-! ## One each -/

/-- A part of a set covers as much as all of it only if it is all of it, and each covers another. -/
theorem image_subset_image_iff {α β : Type} [DecidableEq β] {s c : Finset α} (hc : c ⊆ s)
    {f g : α → β} (hg : Set.InjOn g s) :
    s.image g ⊆ c.image f ↔ c = s ∧ Set.InjOn f s ∧ ∀ x ∈ s, f x ∈ s.image g := by
  have hcard : (s.image g).card = s.card := Finset.card_image_of_injOn hg
  constructor
  · intro h
    have hle : s.card ≤ (c.image f).card := hcard ▸ Finset.card_le_card h
    obtain rfl : c = s := Finset.eq_of_subset_of_card_le hc (hle.trans Finset.card_image_le)
    have hsame : c.image g = c.image f :=
      Finset.eq_of_subset_of_card_le h (Finset.card_image_le.trans hcard.ge)
    refine ⟨rfl, Finset.injOn_of_card_image_eq (Finset.card_image_le.antisymm hle), ?_⟩
    intro x hx
    exact hsame ▸ Finset.mem_image_of_mem f hx
  · rintro ⟨rfl, hinj, hinto⟩
    refine (Finset.eq_of_subset_of_card_le (Finset.image_subset_iff.2 hinto) ?_).ge
    rw [hcard, Finset.card_image_of_injOn hinj]

/-! ## Clients -/

/-- The GSUP server, with the flags of its connections. -/
structure Peers where
  gs : GsupServer
  /-- `supports_cs` of the connection with an address. -/
  supportsCs : Nat → Bool
  /-- `supports_ps` of it. -/
  supportsPs : Nat → Bool

/-- At the start. -/
def Peers.start : Peers := ⟨GsupServer.create, fun _ => false, fun _ => false⟩

/-- The flag for a domain. -/
def Peers.supports (peers : Peers) (isPs : Bool) : Nat → Bool :=
  if isPs then peers.supportsPs else peers.supportsCs

/-- `rx_upd_loc_req`, as far as it goes for the connection. -/
def rxUpdLocReq (peers : Peers) (conn : Conn) (cnDomain : CnDomain) : Peers :=
  match cnDomain with
  | .cs => { peers with supportsCs := Function.update peers.supportsCs conn.ref true }
  -- the client didn't send a CN Domain IE; packet-switched is assumed
  | _ => { peers with supportsPs := Function.update peers.supportsPs conn.ref true }

/-- `osmo_gsup_conn_ccm_get` of `IPAC_IDTAG_SERNR` -/
def osmoGsupConnCcmGet (clnt : Conn) : Option (List UInt8) := clnt.ccmSernr

/-- `strnlen` of a buffer and its size. -/
def strnlen (buf : List UInt8) : Nat := (CStr.ofBytes buf).len

variable (lib : GsupProtocol) (env : Env)

/-- A message that is sent. -/
structure Notice where
  conn : Nat
  gsup : GsupMessage
  /-- What it is encoded as.  `none`: it is not, and what there is of it by then is sent. -/
  msg : Option (List UInt8)

/-- What is sent to one client, for a domain and the number to which its name is compared. -/
def notifyPeer (routes : RouteTable) (subscr : Subscriber) (co : Conn) (cnDomain : CnDomain)
    (peerCompare : CStr) : List Notice :=
  match osmoGsupConnCcmGet co with
  | none => []
  | some peer =>
      -- the peer may end without a NUL
      if peerCompare.len ≠ strnlen peer ∨
          strncmp peer.length peerCompare.bytes (CStr.ofBytes peer).bytes ≠ 0 then []
      else
        match osmoGsupCreateInsertSubscriberDataMsg lib env subscr.imsi subscr.msisdn cnDomain with
        | none => []
        | some gsup =>
            match gsupRouteFind routes peer with
            | none => []
            | some conn => [⟨conn, gsup, lib.gsupEncode gsup⟩]

/-- The body of the loop of `osmo_hlr_subscriber_update_notify`. -/
def notifyClient (peers : Peers) (subscr : Subscriber) (co : Conn) : List Notice :=
  if peers.supportsPs co.ref then
    notifyPeer lib env peers.gs.routes subscr co .ps subscr.sgsnNumber
  else if peers.supportsCs co.ref then
    notifyPeer lib env peers.gs.routes subscr co .cs subscr.vlrNumber
  else []

/-- `osmo_hlr_subscriber_update_notify`, of the server if there is one. -/
def osmoHlrSubscriberUpdateNotify (gs : Option Peers) (subscr : Subscriber) : List Notice :=
  match gs with
  | none => []
  | some peers => peers.gs.clients.flatMap (notifyClient lib env peers subscr)

/-! ## Runs -/

/-- What happens to the clients. -/
inductive Event where
  | gsup (action : Action)
  /-- An Update Location Request is received on a connection. -/
  | updLocReq (ref : Nat) (cnDomain : CnDomain)

/-- A connection updated a location in a domain. -/
structure Update where
  ref : Nat
  isPs : Bool
  deriving DecidableEq

/-- One event, and the update if it is one; nothing happens to a connection that is not open. -/
def step (peers : Peers) : Event → Peers × List Update
  | .gsup action =>
      let gs := (Gsup.step lib.toGsupLib peers.gs action).1
      match action with
      | .accept =>
          ({ gs := gs
             supportsCs := Function.update peers.supportsCs peers.gs.accepted false
             supportsPs := Function.update peers.supportsPs peers.gs.accepted false }, [])
      | _ => ({ peers with gs := gs }, [])
  | .updLocReq ref cnDomain =>
      match peers.gs.lookup ref with
      | none => (peers, [])
      | some conn => (rxUpdLocReq peers conn cnDomain, [⟨conn.ref, cnDomain ≠ .cs⟩])

/-- The clients as a machine, which puts out the updates. -/
def machine : Machine Peers Event Update := ⟨step lib⟩

/-- The flags are those of the connections that have updated locations. -/
structure Recorded (peers : Peers) (updates : List Update) : Prop where
  wellFormed : WellFormed peers.gs
  supports_iff : ∀ isPs ref, peers.supports isPs ref = true ↔ ⟨ref, isPs⟩ ∈ updates
  ref_lt : ∀ update ∈ updates, update.ref < peers.gs.accepted

theorem supports_rxUpdLocReq (peers : Peers) (conn : Conn) (cnDomain : CnDomain) (isPs : Bool) :
    (rxUpdLocReq peers conn cnDomain).supports isPs =
      if isPs = decide (cnDomain ≠ .cs) then Function.update (peers.supports isPs) conn.ref true
      else peers.supports isPs := by
  cases cnDomain <;> cases isPs <;> rfl

theorem gs_rxUpdLocReq (peers : Peers) (conn : Conn) (cnDomain : CnDomain) :
    (rxUpdLocReq peers conn cnDomain).gs = peers.gs := by
  cases cnDomain <;> rfl

namespace Recorded

variable {lib} {peers : Peers} {updates : List Update}

theorem start : Recorded Peers.start [] where
  wellFormed := wellFormed_create
  supports_iff isPs ref := by cases isPs <;> exact iff_of_false Bool.false_ne_true List.not_mem_nil
  ref_lt := fun _ h => by cases h

/-- What happens to the server does not touch the flags, but those of a new connection. -/
theorem gsup (h : Recorded peers updates) (action : Action) {next : Peers}
    (hgs : next.gs = (Gsup.step lib.toGsupLib peers.gs action).1)
    (hsupports : ∀ isPs ref, next.supports isPs ref = peers.supports isPs ref ∨
      ref = peers.gs.accepted ∧ next.supports isPs ref = false) : Recorded next updates where
  wellFormed := hgs ▸ h.wellFormed.step lib.toGsupLib action
  supports_iff isPs ref := by
    rcases hsupports isPs ref with hsame | ⟨rfl, hfalse⟩
    · rw [hsame, h.supports_iff]
    · have hno : (⟨peers.gs.accepted, isPs⟩ : Update) ∉ updates :=
        fun hmem => Nat.lt_irrefl _ (h.ref_lt _ hmem)
      exact iff_of_false (by simp [hfalse]) hno
  ref_lt update hupdate := by
    rw [hgs]
    exact (h.ref_lt update hupdate).trans_le
      (Continues.step h.wellFormed lib.toGsupLib action).accepted_le

theorem updLocReq (h : Recorded peers updates) {conn : Conn} (hconn : conn ∈ peers.gs.clients)
    (cnDomain : CnDomain) : Recorded (rxUpdLocReq peers conn cnDomain)
      (updates ++ [⟨conn.ref, cnDomain ≠ .cs⟩]) where
  wellFormed := by
    rw [gs_rxUpdLocReq]
    exact h.wellFormed
  supports_iff isPs ref := by
    rw [supports_rxUpdLocReq, List.mem_append, List.mem_singleton, Update.mk.injEq]
    split
    next hdomain =>
        rw [Function.update_apply]
        split
        next href => exact iff_of_true rfl (Or.inr ⟨href, hdomain⟩)
        next href => rw [h.supports_iff, or_iff_left fun hsame => href hsame.1]
    next hdomain => rw [h.supports_iff, or_iff_left fun hsame => hdomain hsame.2]
  ref_lt update hupdate := by
    rw [gs_rxUpdLocReq]
    rcases List.mem_append.1 hupdate with hupdate | hupdate
    · exact h.ref_lt update hupdate
    · obtain rfl := List.mem_singleton.1 hupdate
      exact h.wellFormed.ref_lt conn hconn

/-- What is new is not flagged. -/
theorem supports_accept (isPs : Bool) (ref : Nat) :
    (UpdateNotify.step lib peers (.gsup .accept)).1.supports isPs ref =
        peers.supports isPs ref ∨
      ref = peers.gs.accepted ∧
        (UpdateNotify.step lib peers (.gsup .accept)).1.supports isPs ref = false := by
  by_cases href : ref = peers.gs.accepted
  · subst href
    refine Or.inr ⟨rfl, ?_⟩
    cases isPs <;> simp [UpdateNotify.step, Peers.supports]
  · left
    cases isPs <;> simp [UpdateNotify.step, Peers.supports, Function.update_of_ne href]

/-- One event keeps the records. -/
theorem step (h : Recorded peers updates) (event : Event) :
    Recorded (UpdateNotify.step lib peers event).1
      (updates ++ (UpdateNotify.step lib peers event).2) := by
  cases event with
  | gsup action =>
      cases action with
      | accept =>
          rw [show (UpdateNotify.step lib peers (.gsup .accept)).2 = [] from rfl, List.append_nil]
          have hgs : (UpdateNotify.step lib peers (.gsup .accept)).1.gs =
              (Gsup.step lib.toGsupLib peers.gs .accept).1 := rfl
          exact h.gsup .accept hgs supports_accept
      | _ =>
          simp only [UpdateNotify.step, List.append_nil]
          exact h.gsup _ rfl fun _ _ => Or.inl rfl
  | updLocReq ref cnDomain =>
      simp only [UpdateNotify.step]
      split
      next => rwa [List.append_nil]
      next hl => exact h.updLocReq (h.wellFormed.lookup_eq_some_iff.1 hl).1 cnDomain

end Recorded

/-- **The flags tell who has updated locations**, in any run. -/
theorem recorded_run (events : List Event) :
    Recorded ((machine lib).run Peers.start events).1 ((machine lib).run Peers.start events).2 :=
  (machine lib).run_induction (P := fun _ => Recorded) Recorded.start
    (fun _ _ _ event h => h.step event) events

/-! ## Who is to be told -/

/-- The number of the peer of a domain. -/
def numberOf (subscr : Subscriber) (isPs : Bool) : CStr :=
  if isPs then subscr.sgsnNumber else subscr.vlrNumber

/-- The name that a client has given. -/
def nameOf (co : Conn) : Option CStr := co.ccmSernr.map CStr.ofBytes

/-- The connection that the name of a client leads to. -/
def routeOf (routes : RouteTable) (co : Conn) : Option Nat :=
  co.ccmSernr.bind (gsupRouteFind routes)

/-- What is to be sent for a domain. -/
def insertData (subscr : Subscriber) (isPs : Bool) : Option GsupMessage :=
  osmoGsupCreateInsertSubscriberDataMsg lib env subscr.imsi subscr.msisdn
    (if isPs then .ps else .cs)

/-- **A client serves a subscriber**: it has updated locations in the domain, and its name is the
number of the subscriber there. -/
def Serves (updates : List Update) (subscr : Subscriber) (isPs : Bool) (co : Conn) : Prop :=
  ⟨co.ref, isPs⟩ ∈ updates ∧ nameOf co = some (numberOf subscr isPs)

instance (updates : List Update) (subscr : Subscriber) (isPs : Bool) :
    DecidablePred (Serves updates subscr isPs) := fun _ => inferInstanceAs (Decidable (_ ∧ _))

/-- A connection is sent Insert Subscriber Data for a domain. -/
def Notified (notices : List Notice) (subscr : Subscriber) (isPs : Bool) (ref : Nat) : Prop :=
  ∃ notice ∈ notices, notice.conn = ref ∧ notice.msg ≠ none ∧
    notice.gsup.messageType = lib.msgt .insertData .request ∧ notice.gsup.imsi = subscr.imsi ∧
    notice.gsup.cnDomain = if isPs then .ps else .cs

/-- **What it takes that those who serve a subscriber in a domain are told**, and no others. -/
structure Told (clients : List Conn) (routes : RouteTable) (updates : List Update)
    (subscr : Subscriber) (isPs : Bool) : Prop where
  /-- None of them has updated locations for packet-switched, too. -/
  alone : isPs = false → ∀ co ∈ clients, Serves updates subscr false co →
    ⟨co.ref, true⟩ ∉ updates
  /-- There is a message to be sent, if it is sent to anyone. -/
  message : ∀ co ∈ clients, Serves updates subscr isPs co →
    ∃ gsup, insertData lib env subscr isPs = some gsup ∧ lib.gsupEncode gsup ≠ none
  /-- Their names lead to them, -/
  routed : ∀ co ∈ clients, Serves updates subscr isPs co →
    ∃ co' ∈ clients, Serves updates subscr isPs co' ∧ routeOf routes co = some co'.ref
  /-- and each to another. -/
  apart : ∀ co ∈ clients, ∀ co' ∈ clients, Serves updates subscr isPs co →
    Serves updates subscr isPs co' → routeOf routes co = routeOf routes co' → co = co'

/-- Those who serve a subscriber. -/
def serving (clients : List Conn) (updates : List Update) (subscr : Subscriber) (isPs : Bool) :
    Finset Conn :=
  (clients.filter fun co => Serves updates subscr isPs co).toFinset

/-- Those of them who are looked at. -/
def considered (clients : List Conn) (updates : List Update) (subscr : Subscriber) (isPs : Bool) :
    Finset Conn :=
  (serving clients updates subscr isPs).filter fun co => isPs = false → ⟨co.ref, true⟩ ∉ updates

theorem considered_subset (clients : List Conn) (updates : List Update) (subscr : Subscriber)
    (isPs : Bool) :
    considered clients updates subscr isPs ⊆ serving clients updates subscr isPs :=
  Finset.filter_subset _ _

/-! ## Who is told -/

section Notified

variable {lib env} {peers : Peers} {updates : List Update} {subscr : Subscriber}

theorem strncmp_eq_zero_iff_of_length {n : Nat} {a b : List UInt8} (hlen : a.length = b.length)
    (hle : b.length ≤ n) : strncmp n a b = 0 ↔ a = b := by
  induction n generalizing a b with
  | zero =>
      obtain rfl := List.eq_nil_of_length_eq_zero (Nat.le_zero.1 hle)
      exact iff_of_true rfl (List.eq_nil_of_length_eq_zero hlen)
  | succ n ih =>
      match a, b, hlen with
      | [], [], _ => exact iff_of_true rfl rfl
      | x :: xs, y :: ys, hlen =>
          rw [strncmp, List.cons.injEq]
          split
          next h => rw [ih (Nat.succ.inj hlen) (Nat.le_of_succ_le_succ hle), and_iff_right h]
          next h => exact iff_of_false (by split <;> decide) fun hsame => h hsame.1

/-- What is compared with the number is the name. -/
theorem peerCompare_iff {peerCompare : CStr} {peer : List UInt8} :
    (peerCompare.len ≠ strnlen peer ∨
        strncmp peer.length peerCompare.bytes (CStr.ofBytes peer).bytes ≠ 0) ↔
      CStr.ofBytes peer ≠ peerCompare := by
  by_cases hlen : peerCompare.len = strnlen peer
  · have hcmp := strncmp_eq_zero_iff_of_length hlen (CStr.len_ofBytes_le peer)
    rw [or_iff_right (not_not.2 hlen)]
    exact not_congr (hcmp.trans ⟨fun h => CStr.ext h.symm, fun h => h ▸ rfl⟩)
  · refine iff_of_true (Or.inl hlen) ?_
    rintro rfl
    exact hlen rfl

theorem osmoGsupConfigureWildcardApn_keeps (env : Env) (gsup : GsupMessage) :
    (osmoGsupConfigureWildcardApn env gsup).imsi = gsup.imsi ∧
      (osmoGsupConfigureWildcardApn env gsup).cnDomain = gsup.cnDomain := by
  unfold osmoGsupConfigureWildcardApn
  split <;> exact ⟨rfl, rfl⟩

/-- What is created for a domain says so. -/
theorem insertData_spec {isPs : Bool} {gsup : GsupMessage}
    (h : insertData lib env subscr isPs = some gsup) :
    gsup.messageType = lib.msgt .insertData .request ∧ gsup.imsi = subscr.imsi ∧
      gsup.cnDomain = if isPs then .ps else .cs := by
  refine ⟨osmoGsupCreateInsertSubscriberDataMsg_type h, ?_⟩
  unfold insertData osmoGsupCreateInsertSubscriberDataMsg at h
  split at h
  next => cases h
  next =>
      obtain rfl := Option.some.inj h
      cases isPs
      · exact ⟨rfl, rfl⟩
      · exact osmoGsupConfigureWildcardApn_keeps env _

/-- What is sent to one client. -/
theorem mem_notifyPeer_iff {co : Conn} {isPs : Bool} {notice : Notice} :
    notice ∈ notifyPeer lib env peers.gs.routes subscr co (if isPs then .ps else .cs)
        (numberOf subscr isPs) ↔
      nameOf co = some (numberOf subscr isPs) ∧
        routeOf peers.gs.routes co = some notice.conn ∧
        insertData lib env subscr isPs = some notice.gsup ∧
        notice.msg = lib.gsupEncode notice.gsup := by
  unfold notifyPeer nameOf routeOf insertData osmoGsupConnCcmGet
  cases co.ccmSernr with
  | none => simp
  | some peer =>
      simp only [peerCompare_iff, Option.map_some, Option.some.injEq, Option.bind_some]
      by_cases hname : CStr.ofBytes peer = numberOf subscr isPs
      · rw [if_neg (not_not.2 hname), and_iff_right hname]
        cases osmoGsupCreateInsertSubscriberDataMsg lib env subscr.imsi subscr.msisdn
          (if isPs then .ps else .cs) with
        | none => simp
        | some gsup =>
            cases gsupRouteFind peers.gs.routes peer with
            | none => simp
            | some conn =>
                simp only [List.mem_singleton, Option.some.injEq]
                constructor
                · rintro rfl
                  exact ⟨rfl, rfl, rfl⟩
                · rintro ⟨rfl, rfl, hmsg⟩
                  rw [← hmsg]
      · rw [if_pos hname]
        simp [hname]

/-- A flag is looked at only if that for packet-switched is not set. -/
theorem mem_notifyClient_iff {co : Conn} {notice : Notice} :
    notice ∈ notifyClient lib env peers subscr co ↔
      ∃ isPs, (peers.supportsPs co.ref = isPs ∧ peers.supports isPs co.ref = true) ∧
        notice ∈ notifyPeer lib env peers.gs.routes subscr co (if isPs then .ps else .cs)
          (numberOf subscr isPs) := by
  unfold notifyClient
  cases hps : peers.supportsPs co.ref with
  | true =>
      rw [if_pos rfl]
      constructor
      · exact fun h => ⟨true, ⟨rfl, hps⟩, h⟩
      · rintro ⟨isPs, ⟨rfl, -⟩, h⟩
        exact h
  | false =>
      rw [if_neg Bool.false_ne_true]
      constructor
      · intro h
        split at h
        next hcs => exact ⟨false, ⟨rfl, hcs⟩, h⟩
        next => cases h
      · rintro ⟨isPs, ⟨rfl, hcs⟩, h⟩
        rw [if_pos (show peers.supportsCs co.ref = true from hcs)]
        exact h

/-- Who is notified. -/
theorem notified_iff_exists {isPs : Bool} {ref : Nat} :
    Notified lib (osmoHlrSubscriberUpdateNotify lib env (some peers) subscr) subscr isPs ref ↔
      (∃ gsup, insertData lib env subscr isPs = some gsup ∧ lib.gsupEncode gsup ≠ none) ∧
        ∃ co ∈ peers.gs.clients,
          (peers.supportsPs co.ref = isPs ∧ peers.supports isPs co.ref = true) ∧
            nameOf co = some (numberOf subscr isPs) ∧
              routeOf peers.gs.routes co = some ref := by
  constructor
  · rintro ⟨notice, hmem, rfl, hmsg, -, -, hdomain⟩
    obtain ⟨co, hco, hmem⟩ := List.mem_flatMap.1 hmem
    obtain ⟨isPs', hflag, hmem⟩ := mem_notifyClient_iff.1 hmem
    obtain ⟨hname, hroute, hgsup, hencode⟩ := mem_notifyPeer_iff.1 hmem
    have hsame : (if isPs' then CnDomain.ps else .cs) = if isPs then .ps else .cs :=
      (insertData_spec hgsup).2.2.symm.trans hdomain
    obtain rfl : isPs' = isPs := by cases isPs' <;> cases isPs <;> first | rfl | cases hsame
    exact ⟨⟨_, hgsup, hencode ▸ hmsg⟩, co, hco, hflag, hname, hroute⟩
  · rintro ⟨⟨gsup, hgsup, hencode⟩, co, hco, hflag, hname, hroute⟩
    obtain ⟨htype, himsi, hdomain⟩ := insertData_spec hgsup
    refine ⟨⟨ref, gsup, lib.gsupEncode gsup⟩, ?_, rfl, hencode, htype, himsi, hdomain⟩
    refine List.mem_flatMap.2 ⟨co, hco, mem_notifyClient_iff.2 ⟨isPs, hflag, ?_⟩⟩
    exact mem_notifyPeer_iff.2 ⟨hname, hroute, hgsup, rfl⟩

/-- Who is considered, of those who serve. -/
theorem considered_iff (hrecorded : Recorded peers updates) {isPs : Bool} {co : Conn} :
    ((peers.supportsPs co.ref = isPs ∧ peers.supports isPs co.ref = true) ∧
        nameOf co = some (numberOf subscr isPs)) ↔
      Serves updates subscr isPs co ∧ (isPs = false → ⟨co.ref, true⟩ ∉ updates) := by
  rw [Serves, ← hrecorded.supports_iff, ← hrecorded.supports_iff]
  cases isPs with
  | true =>
      rw [and_iff_left fun h => absurd h (by decide)]
      exact and_congr_left' (and_iff_right_of_imp id)
  | false =>
      have hps : ¬ peers.supports true co.ref = true ↔ peers.supportsPs co.ref = false :=
        Bool.not_eq_true _ ▸ Iff.rfl
      rw [imp_iff_right rfl, hps]
      tauto

theorem mem_serving {isPs : Bool} {co : Conn} :
    co ∈ serving peers.gs.clients updates subscr isPs ↔
      co ∈ peers.gs.clients ∧ Serves updates subscr isPs co := by
  simp [serving]

theorem injOn_ref_serving (hrecorded : Recorded peers updates) (isPs : Bool) :
    Set.InjOn (fun co : Conn => some co.ref) (serving peers.gs.clients updates subscr isPs) := by
  intro co hco co' hco' hsame
  exact List.inj_on_of_nodup_map hrecorded.wellFormed.refs (mem_serving.1 hco).1
    (mem_serving.1 hco').1 (Option.some.inj hsame)

/-- Those who are notified are those to whom the names of the considered lead. -/
theorem notified_iff_image (hrecorded : Recorded peers updates) {isPs : Bool} {ref : Nat} :
    Notified lib (osmoHlrSubscriberUpdateNotify lib env (some peers) subscr) subscr isPs ref ↔
      (∃ gsup, insertData lib env subscr isPs = some gsup ∧ lib.gsupEncode gsup ≠ none) ∧
        some ref ∈ (considered peers.gs.clients updates subscr isPs).image
          (routeOf peers.gs.routes) := by
  rw [notified_iff_exists, Finset.mem_image]
  refine and_congr_right fun _ => exists_congr fun co => ?_
  have hconsidered := @considered_iff peers updates subscr hrecorded isPs co
  rw [considered, Finset.mem_filter, mem_serving]
  tauto

theorem serves_iff_image {isPs : Bool} {ref : Nat} :
    (∃ co ∈ peers.gs.clients, Serves updates subscr isPs co ∧ co.ref = ref) ↔
      some ref ∈ (serving peers.gs.clients updates subscr isPs).image fun co => some co.ref := by
  rw [Finset.mem_image]
  refine exists_congr fun co => ?_
  rw [mem_serving, and_assoc, Option.some.injEq]

/-- Who covers all that serve, is one each: this is what is asked of the names. -/
theorem told_iff_covered (hrecorded : Recorded peers updates) (isPs : Bool) :
    Told lib env peers.gs.clients peers.gs.routes updates subscr isPs ↔
      (∀ co ∈ serving peers.gs.clients updates subscr isPs,
        ∃ gsup, insertData lib env subscr isPs = some gsup ∧ lib.gsupEncode gsup ≠ none) ∧
      (serving peers.gs.clients updates subscr isPs).image (fun co => some co.ref) ⊆
        (considered peers.gs.clients updates subscr isPs).image (routeOf peers.gs.routes) := by
  have himage := image_subset_image_iff (considered_subset peers.gs.clients updates subscr isPs)
    (f := routeOf peers.gs.routes) (injOn_ref_serving hrecorded isPs)
  constructor
  · intro h
    refine ⟨fun co hco => h.message co (mem_serving.1 hco).1 (mem_serving.1 hco).2, ?_⟩
    refine himage.2 ⟨Finset.filter_true_of_mem fun co hco hcs => ?_, ?_, fun co hco => ?_⟩
    · subst hcs
      exact h.alone rfl co (mem_serving.1 hco).1 (mem_serving.1 hco).2
    · intro co hco co' hco'
      exact h.apart co (mem_serving.1 hco).1 co' (mem_serving.1 hco').1 (mem_serving.1 hco).2
        (mem_serving.1 hco').2
    · obtain ⟨co', hco', hserves', hroute⟩ :=
        h.routed co (mem_serving.1 hco).1 (mem_serving.1 hco).2
      exact Finset.mem_image.2 ⟨co', mem_serving.2 ⟨hco', hserves'⟩, hroute.symm⟩
  · rintro ⟨hmessage, hcovered⟩
    obtain ⟨hall, hapart, hrouted⟩ := himage.1 hcovered
    refine ⟨?_, ?_, ?_, ?_⟩
    · rintro rfl co hco hserves
      exact (Finset.mem_filter.1 (hall.ge (mem_serving.2 ⟨hco, hserves⟩))).2 rfl
    · exact fun co hco hserves => hmessage co (mem_serving.2 ⟨hco, hserves⟩)
    · intro co hco hserves
      obtain ⟨co', hco', hroute⟩ :=
        Finset.mem_image.1 (hrouted co (mem_serving.2 ⟨hco, hserves⟩))
      exact ⟨co', (mem_serving.1 hco').1, (mem_serving.1 hco').2, hroute.symm⟩
    · intro co hco co' hco' hserves hserves' hroute
      exact hapart (mem_serving.2 ⟨hco, hserves⟩) (mem_serving.2 ⟨hco', hserves'⟩) hroute

/-- **One domain.** -/
theorem told_iff (hrecorded : Recorded peers updates) (isPs : Bool) :
    (∀ ref,
      Notified lib (osmoHlrSubscriberUpdateNotify lib env (some peers) subscr) subscr isPs ref ↔
        ∃ co ∈ peers.gs.clients, Serves updates subscr isPs co ∧ co.ref = ref) ↔
      Told lib env peers.gs.clients peers.gs.routes updates subscr isPs := by
  rw [told_iff_covered hrecorded]
  simp only [notified_iff_image hrecorded, serves_iff_image]
  constructor
  · intro h
    have hthere : ∀ co ∈ serving peers.gs.clients updates subscr isPs, _ := fun co hco =>
      (h co.ref).2 (Finset.mem_image_of_mem (fun co : Conn => some co.ref) hco)
    exact ⟨fun co hco => (hthere co hco).1,
      Finset.image_subset_iff.2 fun co hco => (hthere co hco).2⟩
  · rintro ⟨hmessage, hcovered⟩ ref
    obtain ⟨hall, -, hrouted⟩ := (image_subset_image_iff (considered_subset ..)
      (injOn_ref_serving hrecorded isPs)).1 hcovered
    constructor
    · rintro ⟨-, hmem⟩
      rw [hall] at hmem
      exact Finset.image_subset_iff.2 hrouted hmem
    · intro hmem
      obtain ⟨co, hco, -⟩ := Finset.mem_image.1 hmem
      exact ⟨hmessage co hco, hcovered hmem⟩

/-- It is enough that every name leads to the one who has it. -/
theorem told_of_own_routes {isPs : Bool}
    (halone : isPs = false → ∀ co ∈ peers.gs.clients, Serves updates subscr false co →
      ⟨co.ref, true⟩ ∉ updates)
    (hmessage : ∃ gsup, insertData lib env subscr isPs = some gsup ∧ lib.gsupEncode gsup ≠ none)
    (hroutes : ∀ co ∈ peers.gs.clients, Serves updates subscr isPs co →
      routeOf peers.gs.routes co = some co.ref)
    (hrecorded : Recorded peers updates) :
    Told lib env peers.gs.clients peers.gs.routes updates subscr isPs where
  alone := halone
  message _ _ _ := hmessage
  routed co hco hserves := ⟨co, hco, hserves, hroutes co hco hserves⟩
  apart co hco co' hco' hserves hserves' hsame := by
    rw [hroutes co hco hserves, hroutes co' hco' hserves'] at hsame
    exact List.inj_on_of_nodup_map hrecorded.wellFormed.refs hco hco' (Option.some.inj hsame)

end Notified

/-- **The peers that serve a subscriber are notified, and no others**, exactly if each domain is
`Told`: in every state of every run. -/
theorem notified_iff (events : List Event) (subscr : Subscriber) :
    let run := (machine lib).run Peers.start events
    (∀ isPs ref,
      Notified lib (osmoHlrSubscriberUpdateNotify lib env (some run.1) subscr) subscr isPs ref ↔
        ∃ co ∈ run.1.gs.clients, Serves run.2 subscr isPs co ∧ co.ref = ref) ↔
      ∀ isPs, Told lib env run.1.gs.clients run.1.gs.routes run.2 subscr isPs :=
  forall_congr' fun isPs => told_iff (recorded_run lib events) isPs

/-- A combined MSC and SGSN that has updated locations in both domains. -/
def combined : List Event :=
  [.gsup .accept, .gsup (.ccm 0 (some ((CStr.lit "msc-sgsn").bytes ++ [0]))), .updLocReq 0 .cs,
    .updLocReq 0 .ps]

/-- A subscriber who is there in both domains. -/
def bothDomains : Subscriber where
  id := 1
  imsi := CStr.lit "262420000000001"
  msisdn := CStr.lit "1234"
  vlrNumber := CStr.lit "msc-sgsn"
  namCs := true
  namPs := true
  sgsnNumber := CStr.lit "msc-sgsn"
  lastLuSeen := 0
  lastLuSeenPs := 0
  vlrViaProxy := none
  sgsnViaProxy := none

/-- **A peer that serves both domains is told of one.** -/
theorem combined_not_told_of_cs :
    let run := (machine Host.gsupProtocol).run Peers.start combined
    let notices :=
      osmoHlrSubscriberUpdateNotify Host.gsupProtocol hostEnv (some run.1) bothDomains
    notices.map (fun notice => (notice.conn, notice.gsup.cnDomain)) = [(0, .ps)] ∧
      (∃ co ∈ run.1.gs.clients, Serves run.2 bothDomains false co ∧ co.ref = 0) ∧
      ¬ ∀ isPs ref, Notified Host.gsupProtocol notices bothDomains isPs ref ↔
        ∃ co ∈ run.1.gs.clients, Serves run.2 bothDomains isPs co ∧ co.ref = ref := by
  intro run notices
  have hsent : notices.map (fun notice => (notice.conn, notice.gsup.cnDomain)) = [(0, .ps)] := by
    decide +kernel
  have hserves : ∃ co ∈ run.1.gs.clients, Serves run.2 bothDomains false co ∧ co.ref = 0 := by
    decide +kernel
  refine ⟨hsent, hserves, fun hall => ?_⟩
  obtain ⟨notice, hnotice, -, -, -, -, hdomain⟩ := (hall false 0).2 hserves
  have hmem := List.mem_map_of_mem (f := fun notice : Notice => (notice.conn, notice.gsup.cnDomain))
    hnotice
  rw [hsent, List.mem_singleton, Prod.mk.injEq, hdomain] at hmem
  exact absurd hmem.2 (by decide)

end UpdateNotify
end OsmoHlr
