import Mailroom.Failure.ApiError

/-!
# What a refusal keeps of its answer

The kind of a refusal is told by the status of the answer alone. Whatever the kind, the status, the
message and the body are those of the answer, so that none of them contradicts another.
-/

namespace Mailroom

/-- The kinds that stand for one status, for the statuses of a failing server and for all others. -/
inductive FailureKind.OfStatus : Nat → FailureKind → Prop where
  | authentication : OfStatus 401 .authentication
  | validation : OfStatus 400 .validation
  | notFound : OfStatus 404 .notFound
  | rateLimit : OfStatus 429 .rateLimit
  | server {status : Nat} (low : 500 ≤ status) (high : status ≤ 599) : OfStatus status .server
  | http {status : Nat} (single : status ∉ [400, 401, 404, 429])
      (outside : status < 500 ∨ 599 < status) : OfStatus status .http

/-- A status has one kind. -/
theorem FailureKind.OfStatus.unique {status : Nat} {k l : FailureKind} (hk : OfStatus status k)
    (hl : OfStatus status l) : k = l := by
  cases hk with
  | authentication | validation | notFound | rateLimit =>
    cases hl with
    | server low _ => omega
    | http single _ => exact absurd (by decide) single
    | _ => rfl
  | server low high =>
    cases hl with
    | server => rfl
    | http _ outside => omega
    | _ => omega
  | http single outside =>
    cases hl with
    | server low high => omega
    | http => rfl
    | _ => exact absurd (by decide) single

namespace Refusal

/-- A refusal says of an answer what the answer says of itself. -/
structure Keeps (r : Refusal) (status : Nat) (message : String) (payload : Option Json) :
    Prop where
  status_eq : r.status = status
  message_eq : r.message = message
  payload_eq : r.payload = payload
  kind : FailureKind.OfStatus status r.kind

/-- The refusal with a status keeps what it is made of. -/
theorem keeps_ofStatus (status : Nat) (message : String) (payload : Option Json) :
    (ofStatus status message payload).Keeps status message payload := by
  unfold ofStatus
  split
  · next h => exact ⟨h.symm, rfl, rfl, h ▸ .validation⟩
  split
  · next h => exact ⟨h.symm, rfl, rfl, h ▸ .authentication⟩
  split
  · next h => exact ⟨h.symm, rfl, rfl, h ▸ .notFound⟩
  split
  · next h => exact ⟨h.symm, rfl, rfl, h ▸ .rateLimit⟩
  split
  · next h => exact ⟨rfl, rfl, rfl, .server h.1 h.2⟩
  · next h400 h401 h404 h429 h =>
    refine ⟨rfl, rfl, rfl, .http ?_ ?_⟩
    · simp [h400, h401, h404, h429]
    · omega

/-- The refusal of an answer keeps what the answer says. -/
theorem keeps_ofResponse (response : ResponseInfo) (reason : Option String)
    (payload : Option Json) : (ofResponse response reason payload).Keeps response.status
      (response.message reason) payload :=
  keeps_ofStatus _ _ _

end Refusal

end Mailroom
