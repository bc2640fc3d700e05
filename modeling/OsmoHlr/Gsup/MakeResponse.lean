import OsmoHlr.Gsup.GsupLibHost

/-!
# Completing a response

What the documentation of `osmo_gsup_make_response` says, field by field, and what
the function does.  Its return code covers four of the seven fields that it fills
in, and the session state of the response does not always follow the documentation.

* `fillResponse_idem` — a completed response is not changed any more.
* `makeResponse_ok_iff` — what the return code is about.
* `asDocumented_iff` — when the function does what is documented.
* `osmoGsupReqRespond_sends_iff` — which responses are handed to `send_response_cb`.
-/

namespace OsmoHlr
namespace Gsup

open CString

/-- The fields that `osmo_gsup_make_response` sets if they are unset. -/
inductive ReplyField where
  | messageType
  | imsi
  | messageClass
  | destinationName
  | smRpMr
  | sessionId
  | sessionState
  deriving DecidableEq

/-- A field is unset. -/
def ReplyField.IsUnset (m : GsupMessage) : ReplyField → Prop
  | .messageType => m.messageType = 0
  | .imsi => m.imsi.bytes = []
  | .messageClass => m.messageClass = 0
  | .destinationName => m.destinationName = []
  | .smRpMr => m.smRpMr = none
  | .sessionId => m.sessionId = 0
  | .sessionState => m.sessionState = .stateNone

/-- Two messages have the same in a field. -/
def ReplyField.Agrees (a b : GsupMessage) : ReplyField → Prop
  | .messageType => a.messageType = b.messageType
  | .imsi => a.imsi = b.imsi
  | .messageClass => a.messageClass = b.messageClass
  | .destinationName => a.destinationName = b.destinationName
  | .smRpMr => a.smRpMr = b.smRpMr
  | .sessionId => a.sessionId = b.sessionId
  | .sessionState => a.sessionState = b.sessionState

instance (m : GsupMessage) (f : ReplyField) : Decidable (f.IsUnset m) := by
  cases f <;> exact inferInstanceAs (Decidable (_ = _))

instance (a b : GsupMessage) (f : ReplyField) : Decidable (f.Agrees a b) := by
  cases f <;> exact inferInstanceAs (Decidable (_ = _))

variable (lib : GsupLib)

/-- The values that are documented for the unset fields, as a message. -/
def documentedReply (rx : GsupMessage) (error finalResponse : Bool) : GsupMessage :=
  { GsupMessage.zero with
    messageType := if error then lib.toMsgtError rx.messageType else lib.toMsgtResult rx.messageType
    imsi := rx.imsi
    messageClass := rx.messageClass
    destinationName := rx.sourceName
    smRpMr := rx.smRpMr
    sessionId := rx.sessionId
    sessionState :=
      if rx.sessionState = .stateNone then .stateNone
      else if finalResponse then .stateEnd else .stateContinue }

/-- A field was set to something else than what is documented for it. -/
def ReplyField.Mismatch (reply documented : GsupMessage) (f : ReplyField) : Prop :=
  ¬f.IsUnset reply ∧ ¬f.Agrees reply documented

/-- The fields that the return code is about. -/
def ReplyField.Checked (rx : GsupMessage) : ReplyField → Prop
  | .imsi => True
  | .messageClass => True
  | .smRpMr => rx.smRpMr ≠ none
  | .sessionId => True
  | _ => False

/-- The message, with these fields from another one. -/
def GsupMessage.withReplyFields (m fields : GsupMessage) : GsupMessage :=
  { m with
    messageType := fields.messageType
    imsi := fields.imsi
    messageClass := fields.messageClass
    destinationName := fields.destinationName
    smRpMr := fields.smRpMr
    sessionId := fields.sessionId
    sessionState := fields.sessionState }

/-- What is documented for `osmo_gsup_make_response`. -/
structure AsDocumented (reply rx : GsupMessage) (error finalResponse : Bool) : Prop where
  /-- What is set keeps its value. -/
  keeps : ∀ f : ReplyField, ¬f.IsUnset reply →
    f.Agrees (osmoGsupMakeResponse lib reply rx error finalResponse).2 reply
  /-- What is unset takes the documented value. -/
  fills : ∀ f : ReplyField, f.IsUnset reply →
    f.Agrees (osmoGsupMakeResponse lib reply rx error finalResponse).2
      (documentedReply lib rx error finalResponse)
  /-- Nothing but these fields changes. -/
  frame : (osmoGsupMakeResponse lib reply rx error finalResponse).2.withReplyFields reply = reply
  /-- A second call changes nothing. -/
  twice : (osmoGsupMakeResponse lib (osmoGsupMakeResponse lib reply rx error finalResponse).2 rx
    error finalResponse).2 = (osmoGsupMakeResponse lib reply rx error finalResponse).2
  /-- The return code tells whether what was set has the documented value. -/
  rc : (osmoGsupMakeResponse lib reply rx error finalResponse).1 = 0 ↔
    ∀ f : ReplyField, ¬f.IsUnset reply → f.Agrees reply (documentedReply lib rx error finalResponse)

/-! ## Fields -/

section Fields

variable {a b c : GsupMessage} {f : ReplyField}

theorem ReplyField.Agrees.symm (h : f.Agrees a b) : f.Agrees b a := by
  cases f <;> exact Eq.symm h

theorem ReplyField.Agrees.trans (hab : f.Agrees a b) (hbc : f.Agrees b c) : f.Agrees a c := by
  cases f <;> exact Eq.trans hab hbc

/-- Messages that have the same in a field have it both set or both unset. -/
theorem ReplyField.Agrees.isUnset_iff (h : f.Agrees a b) : f.IsUnset a ↔ f.IsUnset b := by
  cases f <;> simp only [ReplyField.Agrees] at h <;> simp only [ReplyField.IsUnset, h]

/-- A message is made up of these fields and the rest. -/
theorem eq_of_agrees (hfields : ∀ f : ReplyField, f.Agrees a b)
    (hframe : a.withReplyFields b = b) : a = b := by
  have htype : a.messageType = b.messageType := hfields .messageType
  have himsi : a.imsi = b.imsi := hfields .imsi
  have hclass : a.messageClass = b.messageClass := hfields .messageClass
  have hdestination : a.destinationName = b.destinationName := hfields .destinationName
  have hmr : a.smRpMr = b.smRpMr := hfields .smRpMr
  have hid : a.sessionId = b.sessionId := hfields .sessionId
  have hstate : a.sessionState = b.sessionState := hfields .sessionState
  rw [← hframe, GsupMessage.withReplyFields, ← htype, ← himsi, ← hclass, ← hdestination, ← hmr,
    ← hid, ← hstate]

end Fields

/-! ## The fields of a completed response -/

section Fill

variable {lib} {reply rx : GsupMessage} {error finalResponse : Bool} {f : ReplyField}

/-- What is set keeps its value. -/
theorem fillResponse_keeps (h : ¬f.IsUnset reply) :
    f.Agrees (fillResponse lib reply rx error finalResponse) reply := by
  cases f with
  | sessionState =>
      simp only [ReplyField.IsUnset] at h
      simp only [ReplyField.Agrees, fillResponse]
      rw [if_neg (fun hboth => h hboth.2)]
  | _ =>
      simp only [ReplyField.IsUnset] at h
      simp only [ReplyField.Agrees, fillResponse]
      rw [if_neg h]

/-- What is unset takes the value that it takes in an empty reply. -/
theorem fillResponse_unset (h : f.IsUnset reply) :
    f.Agrees (fillResponse lib reply rx error finalResponse)
      (fillResponse lib GsupMessage.zero rx error finalResponse) := by
  cases f <;> simp only [ReplyField.IsUnset] at h <;>
    simp only [ReplyField.Agrees, fillResponse, GsupMessage.zero, CStr.empty, h, ↓reduceIte]

/-- The value that a field takes in an empty reply is the documented one, except that the end of
a session is answered by its end. -/
theorem fillResponse_zero_iff :
    f.Agrees (fillResponse lib GsupMessage.zero rx error finalResponse)
        (documentedReply lib rx error finalResponse) ↔
      (f = .sessionState → rx.sessionState = .stateEnd → finalResponse = true) := by
  cases f with
  | sessionState =>
      simp only [ReplyField.Agrees, fillResponse, documentedReply, responseSessionState,
        GsupMessage.zero]
      cases hrx : rx.sessionState <;> cases finalResponse <;> simp
  | _ =>
      simp only [ReplyField.Agrees, fillResponse, documentedReply, GsupMessage.zero, CStr.empty,
        ↓reduceIte, reduceCtorEq, false_implies]

/-- Nothing but the listed fields changes. -/
theorem fillResponse_frame :
    (fillResponse lib reply rx error finalResponse).withReplyFields reply = reply := rfl

/-- **A completed response is complete**: filling in changes nothing any more. -/
theorem fillResponse_idem :
    fillResponse lib (fillResponse lib reply rx error finalResponse) rx error finalResponse =
      fillResponse lib reply rx error finalResponse := by
  refine eq_of_agrees (fun f => ?_) fillResponse_frame
  by_cases hfilled : f.IsUnset (fillResponse lib reply rx error finalResponse)
  · -- what is filled in is unset itself
    have hreply : f.IsUnset reply := by
      by_contra hset
      exact hset ((fillResponse_keeps hset).isUnset_iff.mp hfilled)
    exact (fillResponse_unset hfilled).trans (fillResponse_unset hreply).symm
  · exact fillResponse_keeps hfilled

/-- Where the documentation is followed, a field ends up with something else exactly if it was set
to something else. -/
theorem fillResponse_agrees_iff (hstate : f ≠ .sessionState) :
    f.Agrees (fillResponse lib reply rx error finalResponse)
        (documentedReply lib rx error finalResponse) ↔
      ¬f.Mismatch reply (documentedReply lib rx error finalResponse) := by
  unfold ReplyField.Mismatch
  by_cases hunset : f.IsUnset reply
  · have hfills : f.Agrees (fillResponse lib reply rx error finalResponse)
        (documentedReply lib rx error finalResponse) :=
      (fillResponse_unset hunset).trans (fillResponse_zero_iff.mpr fun h => absurd h hstate)
    exact ⟨fun _ h => h.1 hunset, fun _ => hfills⟩
  · have hkeeps : f.Agrees (fillResponse lib reply rx error finalResponse) reply :=
      fillResponse_keeps hunset
    constructor
    · exact fun h hmismatch => hmismatch.2 (hkeeps.symm.trans h)
    · intro h
      by_contra hdiffers
      exact h ⟨hunset, fun hsame => hdiffers (hkeeps.trans hsame)⟩

/-! ## The return code -/

/-- **What the return code is about**: IMSI, message class, session id, and the SM-RP-MR if there
was one. -/
theorem makeResponse_ok_iff :
    (osmoGsupMakeResponse lib reply rx error finalResponse).1 = 0 ↔
      ∀ f : ReplyField, f.Checked rx →
        ¬f.Mismatch reply (documentedReply lib rx error finalResponse) := by
  have hchecked : (osmoGsupMakeResponse lib reply rx error finalResponse).1 = 0 ↔
      ∀ f : ReplyField, f.Checked rx →
        f.Agrees (fillResponse lib reply rx error finalResponse)
          (documentedReply lib rx error finalResponse) := by
    unfold osmoGsupMakeResponse
    simp only [Nat.or_eq_zero_iff, ite_eq_right_iff, Nat.reduceShiftLeft, OfNat.ofNat_ne_zero,
      one_ne_zero, imp_false, not_not, ne_eq, not_and]
    constructor
    · rintro ⟨⟨⟨himsi, hclass⟩, hmr⟩, hid⟩ f hf
      cases f with
      | imsi => exact himsi
      | messageClass => exact hclass
      | smRpMr => exact hmr hf
      | sessionId => exact hid
      | _ => exact hf.elim
    · intro h
      exact ⟨⟨⟨h .imsi trivial, h .messageClass trivial⟩, h .smRpMr⟩, h .sessionId trivial⟩
  rw [hchecked]
  refine forall_congr' fun f => imp_congr_right fun hf => fillResponse_agrees_iff ?_
  rintro rfl
  exact hf

/-! ## The documentation -/

/-- When the function does what is documented: not where the end of a session is answered by a
message that is not final and has no session state yet, and as for the return code, only if one
of the fields that it is about was set to something else, or none of the others. -/
def FollowsDocumentation (lib : GsupLib) (reply rx : GsupMessage) (error finalResponse : Bool) :
    Prop :=
  (reply.sessionState = .stateNone → rx.sessionState = .stateEnd → finalResponse = true) ∧
    ((∃ f : ReplyField, f.Checked rx ∧
        f.Mismatch reply (documentedReply lib rx error finalResponse)) ∨
      ∀ f : ReplyField, ¬f.Checked rx →
        ¬f.Mismatch reply (documentedReply lib rx error finalResponse))

/-- A return code tells about all fields exactly if it tells of one of them, or there is nothing
to tell about the others. -/
theorem rc_documented_iff :
    ((osmoGsupMakeResponse lib reply rx error finalResponse).1 = 0 ↔
        ∀ f : ReplyField, ¬f.IsUnset reply →
          f.Agrees reply (documentedReply lib rx error finalResponse)) ↔
      ((∃ f : ReplyField, f.Checked rx ∧
          f.Mismatch reply (documentedReply lib rx error finalResponse)) ∨
        ∀ f : ReplyField, ¬f.Checked rx →
          ¬f.Mismatch reply (documentedReply lib rx error finalResponse)) := by
  have hall : (∀ f : ReplyField, ¬f.IsUnset reply →
      f.Agrees reply (documentedReply lib rx error finalResponse)) ↔
        ∀ f : ReplyField, ¬f.Mismatch reply (documentedReply lib rx error finalResponse) := by
    simp only [ReplyField.Mismatch, not_and, not_not]
  rw [hall, makeResponse_ok_iff]
  constructor
  · intro h
    by_cases hchecked : ∃ f : ReplyField, f.Checked rx ∧
        f.Mismatch reply (documentedReply lib rx error finalResponse)
    · exact .inl hchecked
    · exact .inr fun f _ => h.mp (fun g hg hmismatch => hchecked ⟨g, hg, hmismatch⟩) f
  · rintro (⟨f, hf, hmismatch⟩ | hothers)
    · exact ⟨fun h => absurd hmismatch (h f hf), fun h => absurd hmismatch (h f)⟩
    · constructor
      · intro h f
        by_cases hf : f.Checked rx
        · exact h f hf
        · exact hothers f hf
      · exact fun h f _ => h f

/-- **When `osmo_gsup_make_response` does what is documented**, for any message, any reply and
both flags. -/
theorem asDocumented_iff (lib : GsupLib) (reply rx : GsupMessage) (error finalResponse : Bool) :
    AsDocumented lib reply rx error finalResponse ↔
      FollowsDocumentation lib reply rx error finalResponse := by
  constructor
  · intro h
    refine ⟨fun hunset hend => ?_, rc_documented_iff.mp h.rc⟩
    have hzero := (fillResponse_unset (f := .sessionState) hunset).symm.trans
      (h.fills .sessionState hunset)
    exact fillResponse_zero_iff.mp hzero rfl hend
  · rintro ⟨hstate, hrc⟩
    refine ⟨fun f => fillResponse_keeps, fun f hunset => ?_, fillResponse_frame,
      fillResponse_idem, rc_documented_iff.mpr hrc⟩
    refine (fillResponse_unset hunset).trans (fillResponse_zero_iff.mpr ?_)
    rintro rfl hend
    exact hstate hunset hend

/-- A response with everything but the destination name as it would be filled in: it is routed to
somebody else, and the return code is 0. -/
theorem asDocumented_not_always :
    ¬∀ (lib : GsupLib) (reply rx : GsupMessage) (error finalResponse : Bool),
      AsDocumented lib reply rx error finalResponse := by
  intro h
  have hrc := (h Host.gsupLib { GsupMessage.zero with destinationName := [0x78, 0] }
    { GsupMessage.zero with sourceName := [0x79, 0] } false true).rc.mp (by decide)
    .destinationName
  revert hrc
  decide

/-! ## Responding -/

/-- **Which responses are sent**: those to a request that can be responded to, if the return code
finds nothing, and such a response is completed. -/
theorem osmoGsupReqRespond_sends_iff {req : GsupReq} {response sent : GsupMessage} :
    ReqCall.sendResponseCb req sent ∈
        (osmoGsupReqRespond lib req response error finalResponse).2 ↔
      req.sendResponseCb = true ∧
        sent = fillResponse lib response req.gsup error finalResponse ∧
        ∀ f : ReplyField, f.Checked req.gsup →
          ¬f.Mismatch response (documentedReply lib req.gsup error finalResponse) := by
  rw [← makeResponse_ok_iff]
  unfold osmoGsupReqRespond
  by_cases hrc : (osmoGsupMakeResponse lib response req.gsup error finalResponse).1 = 0
  · have hreply : (osmoGsupMakeResponse lib response req.gsup error finalResponse).2 =
        fillResponse lib response req.gsup error finalResponse := rfl
    cases req.sendResponseCb <;> cases finalResponse <;> simp [hrc, hreply]
  · cases finalResponse <;> simp [hrc]

end Fill

end Gsup
end OsmoHlr
