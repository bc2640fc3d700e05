import OsmoHlr.Dgsm.DomainStates
import OsmoHlr.Dgsm.ProxyLibHost

/-!
# Messages that are forwarded, and the room for them

`osmo_gsup_msgb_alloc` leaves room for 1024 bytes, and `msgb_put` aborts the process if there
is not enough.  `read_cb_forward` copies what has been received, of which there may be more;
the proxy encodes messages again, to a remote HLR with a Source Name IE.

* `readCbDestination`, `remoteHlrForward`, `vlrForward` — the functions that forward, with the
  room that they have.
* `forwarding_fits_iff` — which messages fit.
-/

namespace OsmoHlr
namespace Dgsm

open CString CniPeerId Gsup

/-! ## Messages as a whole -/

/-- `struct osmo_gsup_message`, with the information elements that nothing here looks at. -/
structure FullMessage extends GsupMessage where
  others : List (UInt8 × List UInt8)
  deriving DecidableEq

/-- A message with a Source Name IE, or without. -/
def FullMessage.withSourceName (gsup : FullMessage) (name : List UInt8) : FullMessage :=
  { gsup with sourceName := name }

/-- A tag, a length and the name, if there is one. -/
def sourceNameLen (name : List UInt8) : Nat := if name = [] then 0 else 2 + name.length

/-- The coding of libosmogsm, for messages as a whole. -/
structure CodingLib extends ProxyLib where
  /-- `osmo_gsup_decode` -/
  decodeFull : List UInt8 → Option FullMessage
  /-- `osmo_gsup_encode`: all that is put, or `none` for a return code other than 0, for which a
  message lacks its type or its IMSI. -/
  encodeFull : FullMessage → Option (List UInt8)
  /-- The decoder is the same. -/
  decode_eq : ∀ l2, gsupDecode l2 = (decodeFull l2).map FullMessage.toGsupMessage
  /-- The Source Name IE is as long as the name, its tag and its length. -/
  encode_sourceName : ∀ (gsup : FullMessage) (name : List UInt8), name.length ≤ ipaNameSize →
    (encodeFull (gsup.withSourceName name)).map List.length =
      (encodeFull (gsup.withSourceName [])).map fun b => b.length + sourceNameLen name

/-! ## Room -/

/-- The process ends. -/
inductive Abort where
  /-- `msgb_put` found no room and aborted. -/
  | msgbPut
  deriving DecidableEq

/-- The tail room of `osmo_gsup_msgb_alloc`. -/
def gsupTailroom : Nat := 1024

/-- All that is put into a new message, one piece after the other. -/
def msgbPut (b : List UInt8) : Except Abort (List UInt8) :=
  if b.length ≤ gsupTailroom then .ok b else .error .msgbPut

theorem msgbPut_bind_eq_error_iff {β : Type} (b : List UInt8) {f : List UInt8 → Except Abort β}
    (h : ∀ b, f b ≠ .error .msgbPut) :
    msgbPut b >>= f = .error .msgbPut ↔ gsupTailroom < b.length := by
  unfold msgbPut
  split
  next hle => simp [h, hle]
  next hlt => simpa using hlt

/-! ## Between peers -/

/-- `routing_error` of `read_cb_forward` -/
def routingError (lib : GsupLib) (req : GsupReq) : Int × List Sent × List ReqCall :=
  (-1, [], (osmoGsupReqRespond lib req { GsupMessage.zero with
    messageType := lib.msgtRoutingError
    sourceName := req.gsup.destinationName } true true).2)

/-- `read_cb_forward`: its return code, what is sent, and what happens to the request. -/
def readCbForward (lib : GsupLib) (routes : RouteTable) (req : GsupReq) (l2 : List UInt8) :
    Except Abort (Int × List Sent × List ReqCall) :=
  if req.gsup.sourceName = [] ∨ req.gsup.destinationName = [] then .ok (routingError lib req)
  else
    let destinationName := ipaNameSet IpaName.zero req.gsup.destinationName
    if destinationName.1 ≠ 0 then .ok (routingError lib req)
    else do
      let forwardMsg ← msgbPut l2
      let sent := osmoGsupSendToIpaName routes destinationName.2 forwardMsg
      if sent.1 ≠ 0 then .ok (routingError lib req) else .ok (0, sent.2, [.free req])

/-- The part of `read_cb` that looks at the Destination Name IE; `none` if the message is for this
HLR, whose name is given. -/
def readCbDestination (lib : GsupLib) (myName : IpaName) (routes : RouteTable) (req : GsupReq)
    (l2 : List UInt8) : Except Abort (Option (Int × List Sent × List ReqCall)) :=
  let destinationName := ipaNameSet IpaName.zero req.gsup.destinationName
  if req.gsup.destinationName ≠ [] ∧ destinationName.1 = 0 ∧
      ipaNameCmp destinationName.2 myName ≠ 0 then do
    let forwarded ← readCbForward lib routes req l2
    .ok (some forwarded)
  else .ok none

/-- A message has a source, and is for another peer. -/
def ForOther (myName : IpaName) (gsup : GsupMessage) : Prop :=
  gsup.sourceName ≠ [] ∧ gsup.destinationName ≠ [] ∧
    gsup.destinationName.length ≤ ipaNameSize ∧ gsup.destinationName ≠ myName.val

instance (myName : IpaName) (gsup : GsupMessage) : Decidable (ForOther myName gsup) :=
  inferInstanceAs (Decidable (_ ∧ _ ∧ _ ∧ _))

theorem ipaNameSet_eq_zero_iff (ipaName : IpaName) (name : List UInt8) :
    (ipaNameSet ipaName name).1 = 0 ↔ name.length ≤ ipaNameSize := by
  unfold ipaNameSet
  split
  next h => simp [List.isEmpty_iff.1 h]
  next =>
      split
      next h => simp [h]
      next h => simp [h, enospc]

/-- **What is copied fits if no more than 1024 bytes have been received.** -/
theorem readCbDestination_fits_iff (lib : GsupLib) (myName : IpaName) (routes : RouteTable)
    (req : GsupReq) (l2 : List UInt8) :
    readCbDestination lib myName routes req l2 ≠ .error .msgbPut ↔
      (ForOther myName req.gsup → l2.length ≤ gsupTailroom) := by
  unfold readCbDestination
  simp only
  split
  next hother =>
      obtain ⟨hne, hset, hcmp⟩ := hother
      have hlen := (ipaNameSet_eq_zero_iff IpaName.zero _).1 hset
      have hval := ipaNameSet_eq_zero hset
      have hname : req.gsup.destinationName ≠ myName.val := by
        intro heq
        exact hcmp (ipaNameCmp_eq_zero_iff.2 (IpaName.ext (hval.trans heq)))
      unfold readCbForward
      by_cases hsource : req.gsup.sourceName = []
      · have hnot : ¬ForOther myName req.gsup := fun h => h.1 hsource
        rw [if_pos (Or.inl hsource)]
        simp [hnot]
      · have hforwards : ForOther myName req.gsup := ⟨hsource, hne, hlen, hname⟩
        rw [if_neg (not_or.2 ⟨hsource, hne⟩)]
        simp only [hset, ne_eq, not_true_eq_false, if_false, hforwards, true_implies, bind_assoc]
        rw [msgbPut_bind_eq_error_iff, Nat.not_lt]
        intro b
        split <;> exact nofun
  next hlocal =>
      have hnot : ¬ForOther myName req.gsup := by
        rintro ⟨-, hne, hlen, hname⟩
        have hset := (ipaNameSet_eq_zero_iff IpaName.zero _).2 hlen
        refine hlocal ⟨hne, hset, fun hcmp => hname ?_⟩
        exact (ipaNameSet_eq_zero hset).symm.trans
          (congrArg IpaName.val (ipaNameCmp_eq_zero_iff.1 hcmp))
      simp [hnot]

/-! ## To a remote HLR -/

/-- `remote_hlr_gsup_forward_to_remote_hlr`; `gsup` is the message of the request as a whole. -/
def remoteHlrForward (lib : CodingLib) (remoteHlr : RemoteHlr) (ptr : ReqPtr) (gsup : FullMessage)
    (modifiedGsup : Option FullMessage) : Except Abort (List Out) :=
  let forward := modifiedGsup.getD gsup
  if ptr.req.sourceName.type ≠ .ipaName then .ok (refuse lib.toProxyLib ptr .gmmNetFail)
  else
    match lib.encodeFull (forward.withSourceName ptr.req.sourceName.ipaName.val) with
    | none => .ok (refuse lib.toProxyLib ptr .gmmNetFail)
    | some coded => do
        let msg ← msgbPut coded
        .ok (remoteHlrMsgbSend remoteHlr ptr msg ++ reqOut ptr [.free ptr.req])

/-- **What is sent to a remote HLR fits if the message and the name of its source do.** -/
theorem remoteHlrForward_fits_iff (lib : CodingLib) (remoteHlr : RemoteHlr) (ptr : ReqPtr)
    (gsup : FullMessage) (modifiedGsup : Option FullMessage) :
    remoteHlrForward lib remoteHlr ptr gsup modifiedGsup ≠ .error .msgbPut ↔
      (ptr.req.sourceName.type = .ipaName →
        ∀ coded ∈ lib.encodeFull ((modifiedGsup.getD gsup).withSourceName []),
          coded.length + sourceNameLen ptr.req.sourceName.ipaName.val ≤ gsupTailroom) := by
  have hlen := lib.encode_sourceName (modifiedGsup.getD gsup) ptr.req.sourceName.ipaName.val
    ptr.req.sourceName.ipaName.len_le
  unfold remoteHlrForward
  simp only
  split
  next htype => simp [htype]
  next htype =>
      have htype' := not_not.1 htype
      cases hbare : lib.encodeFull ((modifiedGsup.getD gsup).withSourceName []) with
      | none =>
          rw [hbare, Option.map_none, Option.map_eq_none_iff] at hlen
          simp [hlen]
      | some bare =>
          rw [hbare, Option.map_some] at hlen
          obtain ⟨coded, hcoded, hcount⟩ := Option.map_eq_some_iff.1 hlen
          simp only [hcoded]
          rw [ne_eq, msgbPut_bind_eq_error_iff coded fun _ => by exact nofun, Nat.not_lt, hcount]
          simp [htype']

/-! ## To a VLR -/

/-- `proxy_subscr_forward_to_vlr`; the return code is the first component. -/
def vlrForward (lib : CodingLib) (env : Env) (s : State) (proxySubscr : ProxySubscr)
    (gsup : FullMessage) : Except Abort (Int × Res) :=
  let destination := ipaNameSet IpaName.zero gsup.destinationName
  if destination.1 ≠ 0 then .ok ((lib.causeNum .gmmInvMandInfo).toNat, s, [])
  else
    match gsupRouteFindByIpaName env.routes destination.2 with
    | none => .ok ((lib.causeNum .gmmMscTempNotreach).toNat, s, [])
    | some conn =>
        let ack := proxyAcknowledgeGsupFromRemoteHlr lib.toProxyLib env.now s.proxy proxySubscr
          gsup.toGsupMessage destination.2 (env.peerName conn)
        let s := { s with proxy := ack.2 }
        if ack.1 ≠ 0 then .ok ((lib.causeNum .gmmProtoErrUnspec).toNat, s, [])
        else
          match lib.encodeFull gsup with
          | none => .ok ((lib.causeNum .gmmInvMandInfo).toNat, s, [])
          | some coded => do
              let msg ← msgbPut coded
              .ok (0, s, [.toVlr ⟨conn, msg⟩])

/-- A message is for a VLR that is connected, which has asked for what it is answered. -/
def ForVlr (lib : CodingLib) (env : Env) (proxySubscr : ProxySubscr) (gsup : GsupMessage) : Prop :=
  gsup.destinationName.length ≤ ipaNameSize ∧
    (gsupRouteFindByIpaName env.routes (destinationOf gsup)).isSome = true ∧
    (gsup.messageType = lib.msgt .updateLocation .result →
      ∃ d, (proxySubscr.state d).vlrNamePreliminary = destinationOf gsup)

theorem acknowledgeFrom_eq_zero_iff_of_result (lib : ProxyLib) (now : Int) (proxy : Proxy)
    (subscr : ProxySubscr) (gsup : GsupMessage) (destination viaPeer : IpaName) :
    (proxyAcknowledgeGsupFromRemoteHlr lib now proxy subscr gsup destination viaPeer).1 = 0 ↔
      (gsup.messageType = lib.msgt .updateLocation .result →
        ∃ d, (subscr.state d).vlrNamePreliminary = destination) := by
  by_cases htype : gsup.messageType = lib.msgt .updateLocation .result
  · rw [acknowledgeFrom_eq_zero_iff lib now proxy subscr htype]
    simp [htype]
  · unfold proxyAcknowledgeGsupFromRemoteHlr
    simp only [htype, if_false, false_implies, iff_true]
    split <;> rfl

/-- **What is sent to a VLR fits if the message does.** -/
theorem vlrForward_fits_iff (lib : CodingLib) (env : Env) (s : State) (proxySubscr : ProxySubscr)
    (gsup : FullMessage) :
    vlrForward lib env s proxySubscr gsup ≠ .error .msgbPut ↔
      (ForVlr lib env proxySubscr gsup.toGsupMessage →
        ∀ coded ∈ lib.encodeFull gsup, coded.length ≤ gsupTailroom) := by
  unfold vlrForward ForVlr
  have hset := ipaNameSet_eq_zero_iff IpaName.zero gsup.destinationName
  simp only
  split
  next hne =>
      have hnot : ¬gsup.destinationName.length ≤ ipaNameSize := fun h => hne (hset.2 h)
      simp [hnot]
  next hzero =>
      have hlen := hset.1 (not_not.1 hzero)
      rw [show (ipaNameSet IpaName.zero gsup.destinationName).2 = destinationOf gsup.toGsupMessage
        from rfl]
      cases hroute : gsupRouteFindByIpaName env.routes (destinationOf gsup.toGsupMessage) with
      | none => simp
      | some conn =>
          have hack := acknowledgeFrom_eq_zero_iff_of_result lib.toProxyLib env.now s.proxy
            proxySubscr gsup.toGsupMessage (destinationOf gsup.toGsupMessage) (env.peerName conn)
          simp only
          split
          next hrefused =>
              have hnot := mt hack.2 hrefused
              simp [hnot]
          next hallowed =>
              have hasked := hack.1 (not_not.1 hallowed)
              cases hcoded : lib.encodeFull gsup with
              | none => simp
              | some coded =>
                  simp only
                  rw [ne_eq, msgbPut_bind_eq_error_iff coded fun _ => by rintro ⟨⟩, Nat.not_lt]
                  rw [imp_iff_right ⟨hlen, rfl, hasked⟩]
                  simp

/-- **What fits into a message that is forwarded**: as much as there is room for, in each of the
functions that forward. -/
theorem forwarding_fits_iff (lib : CodingLib) :
    (∀ (myName : IpaName) (routes : RouteTable) (req : GsupReq) (l2 : List UInt8),
      readCbDestination lib.toGsupLib myName routes req l2 ≠ .error .msgbPut ↔
        (ForOther myName req.gsup → l2.length ≤ gsupTailroom)) ∧
    (∀ (remoteHlr : RemoteHlr) (ptr : ReqPtr) (gsup : FullMessage)
        (modifiedGsup : Option FullMessage),
      remoteHlrForward lib remoteHlr ptr gsup modifiedGsup ≠ .error .msgbPut ↔
        (ptr.req.sourceName.type = .ipaName →
          ∀ coded ∈ lib.encodeFull ((modifiedGsup.getD gsup).withSourceName []),
            coded.length + sourceNameLen ptr.req.sourceName.ipaName.val ≤ gsupTailroom)) ∧
    ∀ (env : Env) (s : State) (proxySubscr : ProxySubscr) (gsup : FullMessage),
      vlrForward lib env s proxySubscr gsup ≠ .error .msgbPut ↔
        (ForVlr lib env proxySubscr gsup.toGsupMessage →
          ∀ coded ∈ lib.encodeFull gsup, coded.length ≤ gsupTailroom) :=
  ⟨readCbDestination_fits_iff lib.toGsupLib, remoteHlrForward_fits_iff lib, vlrForward_fits_iff lib⟩

end Dgsm

namespace Host

open CString CniPeerId Gsup Dgsm

/-- The information elements whose tags are none of `ieis`. -/
def othersOf : Nat → List UInt8 → List (UInt8 × List UInt8)
  | fuel + 1, tag :: len :: rest =>
      (if tag = Iei.imsi.tag ∨ ieis.any (fun iei => iei.tag = tag) then []
        else [(tag, rest.take len.toNat)]) ++ othersOf fuel (rest.drop len.toNat)
  | _, _ => []

/-- `osmo_gsup_decode` -/
def decodeFull (l2 : List UInt8) : Option FullMessage :=
  (gsupDecode l2).map fun gsup => ⟨gsup, othersOf l2.length (l2.drop 1)⟩

/-- The other information elements as they are coded. -/
def othersBytes (others : List (UInt8 × List UInt8)) : List UInt8 :=
  others.flatMap fun ie => ie.1 :: UInt8.ofNat ie.2.length :: ie.2

/-- `osmo_gsup_encode` -/
def encodeFull (gsup : FullMessage) : Option (List UInt8) :=
  (gsupEncode gsup.toGsupMessage).map (· ++ othersBytes gsup.others)

theorem length_iesBytes (gsup : GsupMessage) (l : List Iei) :
    ((l.filter fun iei => ieVal gsup iei ≠ []).flatMap fun iei => ie iei (ieVal gsup iei)).length =
      (l.map fun iei => sourceNameLen (ieVal gsup iei)).sum := by
  induction l with
  | nil => rfl
  | cons iei l ih =>
      rw [List.map_cons, List.sum_cons, ← ih]
      by_cases h : ieVal gsup iei = []
      · simp [h, sourceNameLen]
      · simp [h, sourceNameLen, ie]
        omega

theorem encodeFull_sourceName (gsup : FullMessage) (name : List UInt8)
    (hname : name.length ≤ ipaNameSize) :
    (encodeFull (gsup.withSourceName name)).map List.length =
      (encodeFull (gsup.withSourceName [])).map fun b => b.length + sourceNameLen name := by
  have hfits : ¬255 < name.length := by
    unfold ipaNameSize at hname
    omega
  unfold encodeFull gsupEncode FullMessage.withSourceName
  by_cases hfails : gsup.imsi.bytes = [] ∨ 255 < gsup.destinationName.length
  · rcases hfails with hfails | hfails
    · simp [hfails]
    · simp [hfails]
  · obtain ⟨himsi, hdest⟩ := not_or.1 hfails
    rw [if_neg (by simp [himsi, hdest, hfits]), if_neg (by simp [himsi, hdest])]
    simp only [Option.map_some, List.length_append, List.length_cons, length_iesBytes,
      Option.some.injEq]
    simp only [ieis, List.map_cons, List.map_nil, List.sum_cons, List.sum_nil, ieVal]
    simp only [sourceNameLen]
    simp only [if_true]
    omega

/-- **The assumed functions.** -/
def codingLib : CodingLib where
  toProxyLib := proxyLib
  decodeFull := decodeFull
  encodeFull := encodeFull
  decode_eq l2 := by
    simp only [decodeFull, Option.map_map]
    exact Option.map_id'.symm
  encode_sourceName := encodeFull_sourceName

/-- Information elements with as much as fits into each. -/
def longIes (count : Nat) : List (UInt8 × List UInt8) :=
  List.replicate count (0x2b, List.replicate 255 0)

/-- A message from an MSC to an SGSN, by way of the HLR. -/
def toSgsn (count : Nat) : FullMessage where
  messageType := msgt .procSs .request
  imsi := roamer
  cause := 0
  messageClass := 0
  sourceName := (ipaNameSetStr (CStr.lit "msc")).val
  destinationName := (ipaNameSetStr (CStr.lit "sgsn")).val
  smRpMr := none
  sessionId := 0
  sessionState := .stateNone
  cnDomain := .absent
  msisdnEnc := []
  pdpInfos := []
  ssInfo := []
  others := longIes count

/-- A message that leaves a little room. -/
def nearlyFull : FullMessage :=
  { toSgsn 3 with others := (0x2b, List.replicate 180 0) :: longIes 3 }

/-- A request with a message of which a part is looked at. -/
def reqOf (gsup : FullMessage) (peer : String) : GsupReq where
  gsup := gsup.toGsupMessage
  sourceName := .ofIpaName (ipaNameSetStr (CStr.lit peer))
  viaProxy := .zero
  sendResponseCb := true

/-- The name of a VLR, of a hundred characters. -/
def longName : String :=
  "msc-of-a-site-with-a-name-that-is-long-enough-to-fill-most-of-the-room-that-an-ipa-name-has-for-it-01"

end Host

namespace Dgsm

open CString CniPeerId Gsup

/-- A message of more than 1024 bytes is accepted, and cannot be copied; and one with room for its
own name is encoded with that of its source, and does not fit any more. -/
theorem forwarding_aborts :
    (∃ l2, l2.length ≤ 1200 ∧
      osmoGsupReqNew Host.gsupLib (some (.ofIpaName (ipaNameSetStr (CStr.lit "msc")))) l2 true =
        (some (Host.reqOf (Host.toSgsn 4) "msc"), []) ∧
      readCbDestination Host.gsupLib (ipaNameSetStr (CStr.lit "hlr")) Host.dgsmEnv.routes
        (Host.reqOf (Host.toSgsn 4) "msc") l2 = .error .msgbPut) ∧
    (∃ coded ∈ Host.encodeFull Host.nearlyFull, coded.length ≤ gsupTailroom) ∧
      remoteHlrForward Host.codingLib ⟨1, Host.hlrAddr, true, 0⟩
        ⟨0, Host.reqOf Host.nearlyFull Host.longName⟩ Host.nearlyFull none = .error .msgbPut := by
  refine ⟨⟨(Host.encodeFull (Host.toSgsn 4)).getD [], ?_, ?_, ?_⟩, ?_, ?_⟩
  · decide +kernel
  · decide +kernel
  · by_contra hfits
    have hle := (readCbDestination_fits_iff Host.gsupLib _ _ _ _).1 hfits (by decide +kernel)
    revert hle
    decide +kernel
  · exact ⟨_, rfl, by decide +kernel⟩
  · by_contra hfits
    have hle := (remoteHlrForward_fits_iff Host.codingLib _ _ _ _).1 hfits (by decide +kernel)
    revert hle
    decide +kernel

end Dgsm
end OsmoHlr
