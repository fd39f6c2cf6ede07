import Mailroom.Proofs.Call.Building
import Mailroom.Proofs.Failure.Status

/-!
# Refusals as failures and as data

An answer that is not a success is a failure of a call, or is given back as data by the calls that
keep refusals. Both ways say the same: a refusal turned into a failure is the failure itself, with
the same kind, status, message, complaints and payload. Either way the status of the answer alone
decides, and the body is kept as it came. Reading a payload only ever fails on a success.
-/

namespace Mailroom

/-- Whether a failure of a kind is an answer that refuses the request. -/
def FailureKind.isRefusal (k : FailureKind) : Bool :=
  match k with
  | .authentication | .validation | .notFound | .rateLimit | .server | .http => true
  | _ => false

theorem Refusal.isRefusal_kind (r : Refusal) : r.kind.isRefusal = true := by
  cases r <;> rfl

/-- The message of a refusal without a reason is not blank. -/
theorem ResponseInfo.isBlank_defaultMessage (r : ResponseInfo) :
    Text.isBlank r.defaultMessage = false := by
  have hhead : ∀ s : String, Text.isBlank ("HTTP " ++ s) = false := by
    intro s
    rw [Text.isBlank, String.toList_append, List.all_append]
    rfl
  rw [defaultMessage]
  simpa only [toString, String.append_assoc] using hhead _

/-! ## One answer -/

namespace Exchange

theorem isSuccess_iff (x : Exchange) :
    x.isSuccess = true ↔ 200 ≤ x.response.status ∧ x.response.status ≤ 299 := by
  simp only [isSuccess, Http.isSuccess, Bool.and_eq_true, decide_eq_true_eq]
  omega

/-- The failure of an answer has its status and its body. -/
theorem answer_failure (x : Exchange) :
    x.failure.status? = some x.response.status ∧ x.failure.payload? = some x.response.body := by
  have hkept := Refusal.keeps_ofResponse x.response.info (Failure.bodyMessage? x.response.body)
    (some x.response.body)
  exact ⟨congrArg some hkept.status_eq, hkept.payload_eq⟩

/-- The failure that a refusal amounts to is the failure of the answer. -/
theorem toError_rejection (x : Exchange) : x.rejection.toError = x.failure := by
  rw [Rejection.toError, failure, rejection, Refusal.ofResponse, Refusal.ofResponse]
  congr 2
  cases Failure.bodyMessage? x.response.body with
  | some reason => rfl
  | none =>
    simp only [RawResponse.info, ResponseInfo.message, Option.getD_none, Option.filter_some,
      Option.filter_none, ResponseInfo.isBlank_defaultMessage, Bool.not_false, if_true,
      Option.getD_some]

/-- Turning refusals into failures makes one way of taking an answer of the other. -/
theorem toResult_attempt (x : Exchange) : x.attempt.toResult = x.envelope := by
  unfold attempt envelope
  split
  · rfl
  · rw [Attempt.toResult, toError_rejection]

/-- An answer is given back as a refusal exactly if it is no success. -/
theorem attempt_eq_rejected_iff {x : Exchange} {r : Rejection} :
    x.attempt = .rejected r ↔ x.isSuccess = false ∧ r = x.rejection := by
  cases hs : x.isSuccess <;> simp [attempt, hs, eq_comm]

/-- An answer is a failure exactly if it is no success. -/
theorem envelope_eq_error_iff {x : Exchange} {e : ApiError} :
    x.envelope = .error e ↔ x.isSuccess = false ∧ e = x.failure := by
  cases hs : x.isSuccess <;> simp [envelope, hs, eq_comm]

theorem isRefusal_kind_failure (x : Exchange) : x.failure.kind.isRefusal = true :=
  Refusal.isRefusal_kind _

end Exchange

/-! ## One endpoint -/

namespace Endpoint

/-- A success is read the same way whether or not refusals are kept. -/
theorem read_of_isSuccess (e : Endpoint) {x : Exchange} (h : x.isSuccess = true) :
    e.read x = (x.unwrapped.decode Model.decode).map .found := by
  unfold read
  split
  · simp only [Exchange.attempted, Exchange.attempt, h, if_true, Attempt.decode]
  · simp only [Exchange.result, Exchange.envelope, h, if_true, Except.bind]

/-- An answer that is no success is data where refusals are kept, and a failure elsewhere. -/
theorem read_of_isSuccess_eq_false (e : Endpoint) {x : Exchange} (h : x.isSuccess = false) :
    e.read x = if e.keepsRefusals then .ok (.rejected x.rejection) else .error x.failure := by
  unfold read
  split
  · simp only [Exchange.attempted, Exchange.attempt, h, Bool.false_eq_true, if_false,
      Attempt.decode]
  · simp only [Exchange.result, Exchange.envelope, h, Bool.false_eq_true, if_false, Except.bind,
      Except.map]

end Endpoint

/-- A payload that does not fit fails the operation, and nothing else does. -/
theorem Envelope.decode_eq_error_iff {α : Type} {item : Decoder α} {e : Envelope Json}
    {failure : ApiError} :
    e.decode item = .error failure ↔
      ∃ m, item e.data = .error m ∧ failure = .decode e.request.operation (.mismatch m) := by
  unfold decode
  cases item e.data with
  | ok data => simp
  | error m => simp [eq_comm]

namespace Endpoint

/-- Reading fails on a success exactly if the payload does not fit. -/
theorem read_eq_error_iff_of_isSuccess (e : Endpoint) {x : Exchange} (h : x.isSuccess = true)
    {failure : ApiError} :
    e.read x = .error failure ↔ ∃ m, Model.decode (α := e.Payload) x.unwrapped.data = .error m ∧
      failure = .decode x.request.operation (.mismatch m) := by
  rw [read_of_isSuccess e h, Outcome.map_eq_error_iff]
  exact Envelope.decode_eq_error_iff

/-- A complaint about a payload is only made of a success. -/
theorem read_eq_error_decode_iff (e : Endpoint) {x : Exchange} {operation : String}
    {cause : JsonError} :
    e.read x = .error (.decode operation cause) ↔ x.isSuccess = true ∧
      operation = x.request.operation ∧
      ∃ m, Model.decode (α := e.Payload) x.unwrapped.data = .error m ∧ cause = .mismatch m := by
  cases hs : x.isSuccess with
  | true =>
    rw [read_eq_error_iff_of_isSuccess e hs]
    simp only [ApiError.decode.injEq, true_and]
    grind
  | false =>
    rw [read_of_isSuccess_eq_false e hs]
    split <;> simp [Exchange.failure]

/-- Where refusals are kept, no answer is a failure for its status. -/
theorem isRefusal_eq_false_of_read (e : Endpoint) (hkeeps : e.keepsRefusals = true)
    {x : Exchange} {failure : ApiError} (h : e.read x = .error failure) :
    failure.kind.isRefusal = false := by
  cases hs : x.isSuccess with
  | true =>
    obtain ⟨m, -, rfl⟩ := (read_eq_error_iff_of_isSuccess e hs).mp h
    rfl
  | false =>
    rw [read_of_isSuccess_eq_false e hs, if_pos hkeeps] at h
    cases h

end Endpoint

/-! ## Sessions -/

namespace Session

variable {c : Channel}

/-- Whether a session gives a raw answer to a request. -/
def Answers (s : Session c) (request : Request) (raw : RawResponse) : Prop :=
  (s.exchange request).1 = .ok ⟨request.info, raw⟩

/-- Builds the request of an operation and sends it. -/
def dispatch (s : Session c) (base : Url) (baseOptions : CallOptions) (op : Operation)
    (options : CallOptions) : Except ApiError Exchange :=
  (Request.prepare base baseOptions op options).bind fun request => (s.exchange request).1

/-- The result of an operation whose refusals are failures. -/
def enveloped (s : Session c) (base : Url) (baseOptions : CallOptions) (op : Operation)
    (options : CallOptions) : Except ApiError (Envelope Json) :=
  (s.dispatch base baseOptions op options).bind Exchange.envelope

/-- The result of an operation whose refusals are data. -/
def attempted (s : Session c) (base : Url) (baseOptions : CallOptions) (op : Operation)
    (options : CallOptions) : Except ApiError (Attempt Json) :=
  (s.dispatch base baseOptions op options).map Exchange.attempt

/-- A call prepares its request, sends it and reads the answer. -/
theorem perform_eq (s : Session c) (client : Client) (call : Call) :
    (client.perform s call).1 = (client.request call).bind fun request =>
      (s.exchange request).1.bind call.endpoint.read := by
  unfold Client.perform
  cases client.request call <;> rfl

/-- Folding refusals into the failures makes the one result of the other. -/
theorem toResult_attempted (s : Session c) (base : Url) (baseOptions : CallOptions)
    (op : Operation) (options : CallOptions) :
    (s.attempted base baseOptions op options).bind Attempt.toResult =
      s.enveloped base baseOptions op options := by
  unfold attempted enveloped
  cases s.dispatch base baseOptions op options with
  | error e => rfl
  | ok x => exact x.toResult_attempt

variable {s : Session c} {base : Url} {baseOptions : CallOptions} {op : Operation}
  {options : CallOptions} {request : Request} {raw : RawResponse}

/-- An operation whose request is built and answered comes to an exchange. -/
theorem dispatch_eq_ok (hr : Request.prepare base baseOptions op options = .ok request)
    (ha : s.Answers request raw) :
    s.dispatch base baseOptions op options = .ok ⟨request.info, raw⟩ :=
  Outcome.bind_eq_ok_iff.mpr ⟨request, hr, ha⟩

/-- Where refusals are data, an answer outside the successes is one, with its status and body. -/
theorem attempted_eq_rejected_iff (hr : Request.prepare base baseOptions op options = .ok request)
    (ha : s.Answers request raw) {r : Rejection} :
    s.attempted base baseOptions op options = .ok (.rejected r) ↔
      ¬(200 ≤ raw.status ∧ raw.status ≤ 299) ∧ r = Exchange.rejection ⟨request.info, raw⟩ := by
  rw [attempted, dispatch_eq_ok hr ha]
  change Except.ok (Exchange.attempt ⟨request.info, raw⟩) = _ ↔ _
  rw [Except.ok.injEq, Exchange.attempt_eq_rejected_iff, ← Bool.not_eq_true,
    Exchange.isSuccess_iff]

/-- Where refusals are failures, an answer outside the successes is one. -/
theorem enveloped_eq_error_iff (hr : Request.prepare base baseOptions op options = .ok request)
    (ha : s.Answers request raw) {e : ApiError} :
    s.enveloped base baseOptions op options = .error e ↔
      ¬(200 ≤ raw.status ∧ raw.status ≤ 299) ∧ e = Exchange.failure ⟨request.info, raw⟩ := by
  rw [enveloped, dispatch_eq_ok hr ha]
  change Exchange.envelope ⟨request.info, raw⟩ = _ ↔ _
  rw [Exchange.envelope_eq_error_iff, ← Bool.not_eq_true, Exchange.isSuccess_iff]

/-- A call fails for its payload exactly if its request is answered by a success that does not fit.
-/
theorem perform_eq_error_decode_iff {client : Client} {call : Call}
    (ha : ∀ request, client.request call = .ok request → s.Answers request raw)
    {operation : String} {cause : JsonError} :
    (client.perform s call).1 = .error (.decode operation cause) ↔
      ∃ request, client.request call = .ok request ∧ (200 ≤ raw.status ∧ raw.status ≤ 299) ∧
        operation = request.operation ∧
        ∃ m, Model.decode (α := call.endpoint.Payload)
          (Exchange.unwrapped ⟨request.info, raw⟩).data = .error m ∧ cause = .mismatch m := by
  rw [perform_eq, Outcome.bind_eq_error_iff]
  have hread : ∀ request, s.Answers request raw →
      ((s.exchange request).1.bind call.endpoint.read = .error (.decode operation cause) ↔
        (200 ≤ raw.status ∧ raw.status ≤ 299) ∧ operation = request.operation ∧
        ∃ m, Model.decode (α := call.endpoint.Payload)
          (Exchange.unwrapped ⟨request.info, raw⟩).data = .error m ∧ cause = .mismatch m) := by
    intro request hanswer
    rw [Answers] at hanswer
    rw [hanswer, Except.bind, Endpoint.read_eq_error_decode_iff, Exchange.isSuccess_iff]
    rfl
  constructor
  · rintro (h | ⟨request, hrequest, h⟩)
    · exact absurd (Client.request_eq_error h) (by simp [ApiError.kind])
    · exact ⟨request, hrequest, (hread request (ha request hrequest)).mp h⟩
  · rintro ⟨request, hrequest, h⟩
    exact Or.inr ⟨request, hrequest, (hread request (ha request hrequest)).mpr h⟩

/-- An answer that is no success is what a call comes to, as data where refusals are kept and as a
failure elsewhere. -/
theorem perform_of_refused {client : Client} {call : Call}
    (hr : client.request call = .ok request) (ha : s.Answers request raw)
    (hrefused : ¬(200 ≤ raw.status ∧ raw.status ≤ 299)) :
    (client.perform s call).1 = if call.endpoint.keepsRefusals then
      .ok (.rejected (Exchange.rejection ⟨request.info, raw⟩))
    else .error (Exchange.failure ⟨request.info, raw⟩) := by
  have hsuccess : Exchange.isSuccess ⟨request.info, raw⟩ = false := by
    rwa [← Bool.not_eq_true, Exchange.isSuccess_iff]
  rw [Answers] at ha
  rw [perform_eq, hr, Except.bind, ha, Except.bind, Endpoint.read_of_isSuccess_eq_false _ hsuccess]

/-- With refusals folded into the failures, every call fails with the failure of such an answer. -/
theorem toResult_perform_of_refused {client : Client} {call : Call}
    (hr : client.request call = .ok request) (ha : s.Answers request raw)
    (hrefused : ¬(200 ≤ raw.status ∧ raw.status ≤ 299)) :
    (client.perform s call).1.bind Attempt.toResult =
      .error (Exchange.failure ⟨request.info, raw⟩) := by
  rw [perform_of_refused hr ha hrefused]
  split
  · exact congrArg Except.error (Exchange.toError_rejection _)
  · rfl

/-- A call that keeps refusals never fails for the status of the answer. -/
theorem isRefusal_eq_false_of_perform {client : Client} {call : Call}
    (ha : ∀ request, client.request call = .ok request → s.Answers request raw)
    (hkeeps : call.endpoint.keepsRefusals = true) {e : ApiError}
    (h : (client.perform s call).1 = .error e) : e.kind.isRefusal = false := by
  rw [perform_eq] at h
  rcases Outcome.bind_eq_error_iff.mp h with h | ⟨request, hrequest, h⟩
  · rw [Client.request_eq_error h]
    rfl
  · have hanswer := ha request hrequest
    rw [Answers] at hanswer
    rw [hanswer] at h
    exact Endpoint.isRefusal_eq_false_of_read _ hkeeps h

/--
The two ways of taking an answer agree. Folding refusals into the failures makes one result of the
other. For an answer of any status and body, a refusal is given back as data, or as a failure of the
answer's own kind, exactly if the status is no success, and keeps status and body as they came. A
call complains about its payload exactly if a success does not fit its model, and the calls that
keep refusals never fail for a status.
-/
theorem refusals_agree (s : Session c) :
    (∀ base baseOptions op options,
      (s.attempted base baseOptions op options).bind Attempt.toResult =
        s.enveloped base baseOptions op options) ∧
    (∀ base baseOptions op options request raw,
      Request.prepare base baseOptions op options = .ok request → s.Answers request raw →
      ((∃ r, s.attempted base baseOptions op options = .ok (.rejected r)) ↔
        ¬(200 ≤ raw.status ∧ raw.status ≤ 299)) ∧
      (∀ r, s.attempted base baseOptions op options = .ok (.rejected r) →
        r.status = raw.status ∧ r.error = raw.body) ∧
      ((∃ e, s.enveloped base baseOptions op options = .error e ∧ e.kind.isRefusal = true) ↔
        ¬(200 ≤ raw.status ∧ raw.status ≤ 299)) ∧
      (∀ e, s.enveloped base baseOptions op options = .error e → e.kind.isRefusal = true →
        e.status? = some raw.status ∧ e.payload? = some raw.body)) ∧
    (∀ (client : Client) call raw,
      (∀ request, client.request call = .ok request → s.Answers request raw) →
      (∀ operation cause, (client.perform s call).1 = .error (.decode operation cause) ↔
        ∃ request, client.request call = .ok request ∧ (200 ≤ raw.status ∧ raw.status ≤ 299) ∧
          operation = request.operation ∧
          ∃ m, Model.decode (α := call.endpoint.Payload)
            (Exchange.unwrapped ⟨request.info, raw⟩).data = .error m ∧ cause = .mismatch m) ∧
      (call.endpoint.keepsRefusals = true → ∀ e, (client.perform s call).1 = .error e →
        e.kind.isRefusal = false)) := by
  refine ⟨toResult_attempted s, ?_, ?_⟩
  · intro base baseOptions op options request raw hr ha
    refine ⟨⟨?_, ?_⟩, ?_, ⟨?_, ?_⟩, ?_⟩
    · rintro ⟨r, h⟩
      exact ((attempted_eq_rejected_iff hr ha).mp h).1
    · intro h
      exact ⟨_, (attempted_eq_rejected_iff hr ha).mpr ⟨h, rfl⟩⟩
    · intro r h
      rw [((attempted_eq_rejected_iff hr ha).mp h).2]
      exact ⟨rfl, rfl⟩
    · rintro ⟨e, h, -⟩
      exact ((enveloped_eq_error_iff hr ha).mp h).1
    · intro h
      exact ⟨_, (enveloped_eq_error_iff hr ha).mpr ⟨h, rfl⟩, Exchange.isRefusal_kind_failure _⟩
    · intro e h _
      rw [((enveloped_eq_error_iff hr ha).mp h).2]
      exact Exchange.answer_failure _
  · intro client call raw ha
    exact ⟨fun _ _ => perform_eq_error_decode_iff ha,
      fun hkeeps _ h => isRefusal_eq_false_of_perform ha hkeeps h⟩

/-- A session with a server that lacks everything and gives a blank reason. -/
def blankAbsence : Session .memory :=
  start [(404, .obj [("message", .str " ")])]

/-- The request for all lists from a server on this computer. -/
def listing : Request :=
  ⟨"getLists", .get, ⟨"http", some ⟨"", none, "localhost", some 9000⟩, "/lists", none, none⟩, [],
    none⟩

/-- A refusal with a blank reason is given back as data and amounts to the failure. -/
theorem refusals_agree_on_blankAbsence :
    ∃ r, blankAbsence.attempted { listing.url with path := "/" } .empty ⟨"getLists", .get, "/lists"⟩
        .empty = .ok (.rejected r) ∧ r.status = 404 ∧ r.error = .obj [("message", .str " ")] ∧
      blankAbsence.enveloped { listing.url with path := "/" } .empty ⟨"getLists", .get, "/lists"⟩
        .empty = .error r.toError := by
  obtain ⟨hfold, hanswers, -⟩ := refusals_agree blankAbsence
  have hprepare : Request.prepare { listing.url with path := "/" } .empty
      ⟨"getLists", .get, "/lists"⟩ .empty = .ok listing := by rfl
  have hanswered : blankAbsence.Answers listing (.ofStatus 404 (.obj [("message", .str " ")])) := by
    rfl
  obtain ⟨hrejected, hkept, -, -⟩ := hanswers _ _ _ _ _ _ hprepare hanswered
  obtain ⟨r, hr⟩ := hrejected.mpr (by decide)
  obtain ⟨hstatus, herror⟩ := hkept r hr
  refine ⟨r, hr, hstatus, herror, ?_⟩
  rw [← hfold, hr]
  rfl

end Session

end Mailroom
