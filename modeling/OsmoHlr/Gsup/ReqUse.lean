import OsmoHlr.Gsup.MakeResponse
import OsmoHlr.Gsup.Protocol
import OsmoHlr.Lib.Ownership

/-!
# What is done with a request

A request is looked at, responded to and freed.  Whoever is handed one either leaves
it to the caller or frees it, and frees it last.

* `released_respond` — a final response frees the request, whether it is sent or not.
* `released_respondErr` — and so does an error response, also to what is no request.
-/

namespace OsmoHlr
namespace Gsup

open CString Ownership

/-- What is done with a request. -/
inductive ReqUse where
  /-- Its fields are read. -/
  | access
  /-- `req->send_response_cb(req, response)` -/
  | respond (response : GsupMessage)
  /-- `osmo_gsup_req_free(req)` -/
  | free
  deriving DecidableEq

/-- Whether a request is freed. -/
def ReqUse.isFree : ReqUse → Bool
  | .free => true
  | _ => false

/-- What happens to a request, as a use of it. -/
def ReqUse.ofCall : ReqCall → ReqUse
  | .sendResponseCb _ response => .respond response
  | .free _ => .free

/-- What a function of `gsup_req.c` does with a request: it looks at it, before anything happens to
it. -/
def callUses (calls : List ReqCall) : List ReqUse := .access :: calls.map ReqUse.ofCall

@[simp] theorem isFree_access : ReqUse.isFree .access = false := rfl

@[simp] theorem isFree_respond (response : GsupMessage) : ReqUse.isFree (.respond response) = false :=
  rfl

@[simp] theorem isFree_free : ReqUse.isFree .free = true := rfl

theorem mem_callUses_respond {calls : List ReqCall} {response : GsupMessage} :
    .respond response ∈ callUses calls ↔ ∃ req, .sendResponseCb req response ∈ calls := by
  unfold callUses
  rw [List.mem_cons, List.mem_map]
  constructor
  · rintro (h | ⟨call, hcall, huse⟩)
    · cases h
    · cases call with
      | sendResponseCb req sent =>
          cases huse
          exact ⟨req, hcall⟩
      | free req => cases huse
  · rintro ⟨req, h⟩
    exact Or.inr ⟨_, h, rfl⟩

section Release

variable (lib : GsupLib) (req : GsupReq) (response : GsupMessage)

/-- **A final response frees the request**, whether it is sent or not. -/
theorem released_respond (error : Bool) :
    Released ReqUse.isFree (callUses (osmoGsupReqRespond lib req response error true).2) := by
  unfold callUses
  rw [released_cons isFree_access, osmoGsupReqRespond]
  simp only [↓reduceIte, List.map_append, List.map_cons, List.map_nil, ReqUse.ofCall]
  refine (Kept.released (kept_iff.2 ?_)).2 ((released_cons_free isFree_free).2 rfl)
  intro use huse
  split at huse
  · cases huse
  · split at huse
    · cases huse
    · obtain rfl := List.mem_singleton.1 huse
      rfl

/-- **An error response frees the request**, also if it is none and not answered. -/
theorem released_respondErr (cause : UInt8) :
    Released ReqUse.isFree (callUses (osmoGsupReqRespondErr lib req cause)) := by
  unfold osmoGsupReqRespondErr
  split
  · unfold callUses
    rw [released_cons isFree_access]
    exact (released_cons_free isFree_free).2 rfl
  · exact released_respond lib req _ true

end Release

end Gsup
end OsmoHlr
