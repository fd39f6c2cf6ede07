import Mailroom.Command.Run
import Mailroom.Proofs.Call.Refusal
import Mailroom.Proofs.Call.Table
import Mailroom.Proofs.Call.Writing
import Mailroom.Proofs.Client.Construction
import Mailroom.Proofs.Client.Conversation

/-!
# What is exchanged in a run

A call is asked of the server in one of three ways: it is not sent, for a local reason; it is sent
and the answer is a failure that is not local; or it is sent and the answer is a success with a
payload that fits. `Asked` says so for the call that comes after some messages, `Shown` for a step
and `Carried` for a whole plan, and whatever a client does over the wire is one of these
(`asked_of_ask`, `shown_of_carryOutStep`, `carried_of_carryOut`). So what a run sends and shows is
found by cases, without opening a client again.
-/

namespace Mailroom

open Terminal (Output)

namespace Report

/-- A failure for which no server is needed: it is not a failed call, or one whose configuration or
request is wrong. -/
def IsLocal (r : Report) : Prop :=
  ∀ e, r.apiError? = some e → e.kind = .config ∨ e.kind = .contract

theorem isLocal_ofApi_iff {e : ApiError} :
    (ofApi e).IsLocal ↔ e.kind = .config ∨ e.kind = .contract := by
  constructor
  · intro h
    exact h e rfl
  · intro h e' he
    obtain rfl := Option.some.inj he
    exact h

/-- A failure that is local is no refusal, with or without a note on it. -/
theorem IsLocal.isRefusal_eq_false {r : Report} (h : r.IsLocal) {e : ApiError}
    (hr : r.apiError? = some e) : e.kind.isRefusal = false := by
  rcases h e hr with hkind | hkind <;> rw [hkind] <;> rfl

end Report

/-- A run has sent what it is said to have sent, with any result. -/
theorem Outcome.sent_of (w : Terminal.Writer) (result : Except Report Output)
    (sent : List Wire.Message) : (Outcome.of w result sent).sent = sent := by
  cases result <;> rfl

/-! ## Clients -/

namespace Client

/-- A client is only made of a configuration that is valid and whose headers can be sent, and has
the operations of the catalog. -/
theorem build_eq_ok {config : Config} {client : Client}
    (h : build (.standard config) = .ok client) :
    (∃ base, config.validate = .ok base) ∧ Header.firstIllegal? config.requestHeaders = none ∧
      client.baseOptions = CallOptions.empty ∧
      ∀ e : Endpoint, Catalog.table.get? e.operationName = some (client.bound e) := by
  unfold build at h
  split at h
  · cases h
  · next base hbase =>
    split at h
    · cases h
    · next hlegal =>
      obtain ⟨bound, hbound, rfl⟩ := Outcome.map_eq_ok_iff.mp h
      exact ⟨⟨base, hbase⟩, hlegal, rfl, bind_eq_ok hbound⟩

/-- The method of an endpoint is that of its operation in the catalog. -/
theorem method_bound {config : Config} {client : Client} (h : build (.standard config) = .ok client)
    {e : Endpoint} {method : Method}
    (hm : (Catalog.table.get? e.operationName).map Operation.method = some method) :
    (client.bound e).method = method := by
  obtain ⟨-, -, -, hbound⟩ := build_eq_ok h
  rw [hbound e] at hm
  exact Option.some.inj hm

end Client

/-! ## Messages -/

namespace Wire

/-- A message was made for the request of a call. -/
structure Sent (config : Config) (client : Client) (call : Call) (request : Request)
    (m : Message) : Prop where
  built : client.request call = .ok request
  written : encode config request = .ok m

theorem method_of_prepare {base : Url} {baseOptions : CallOptions} {op : Operation}
    {options : CallOptions} {request : Request}
    (h : Request.prepare base baseOptions op options = .ok request) :
    request.method = op.method ∧ request.body = (baseOptions.layered options).body := by
  obtain ⟨url, -, rfl⟩ := Outcome.map_eq_ok_iff.mp h
  exact ⟨rfl, rfl⟩

/-- The method of a message is that of the endpoint it is for. -/
theorem Sent.method {config : Config} {client : Client} {call : Call} {request : Request}
    {m : Message} (h : Sent config client call request m) :
    m.method = (client.bound call.endpoint).method := by
  obtain ⟨options, -, hprepare⟩ := Outcome.bind_eq_ok_iff.mp h.built
  exact (encode_eq_ok h.written).1.trans (method_of_prepare hprepare).1

/-- A request has the name of the operation of its endpoint. -/
theorem Sent.operation_eq {config : Config} {client : Client}
    (hbuild : Client.build (.standard config) = .ok client) {call : Call} {request : Request}
    {m : Message} (h : Sent config client call request m) :
    request.operation = call.endpoint.operationName := by
  obtain ⟨-, -, -, hbound⟩ := Client.build_eq_ok hbuild
  obtain ⟨options, -, hprepare⟩ := Outcome.bind_eq_ok_iff.mp h.built
  obtain ⟨url, -, rfl⟩ := Outcome.map_eq_ok_iff.mp hprepare
  exact (OperationTable.mem_of_get?_ofOperations (hbound call.endpoint)).2

end Wire

/-! ## Answers -/

namespace Endpoint

variable {e : Endpoint} {note : Option String} {x : Exchange}

/-- What comes of an answer to an endpoint, with a note where it keeps refusals. -/
def outcome (e : Endpoint) (note : Option String) (x : Exchange) :
    Except Report (Envelope e.Payload) :=
  ((e.read x).mapError Report.ofApi).bind (Attempt.accepted note)

/-- A success comes to its payload, if that fits. -/
theorem outcome_of_isSuccess (h : x.isSuccess = true) :
    e.outcome note x = (x.unwrapped.decode Model.decode).mapError Report.ofApi := by
  rw [outcome, read_of_isSuccess e h]
  cases x.unwrapped.decode (Model.decode (α := e.Payload)) <;> rfl

/-- A refusal that is not kept is the failure. -/
theorem outcome_of_failing (h : x.isSuccess = false) (hkeeps : e.keepsRefusals = false) :
    e.outcome note x = .error (.ofApi x.failure) := by
  rw [outcome, read_of_isSuccess_eq_false e h, if_neg (by simp [hkeeps])]
  rfl

/-- A refusal that is kept is the same failure, with the note on it if there is one. -/
theorem outcome_of_kept (h : x.isSuccess = false) (hkeeps : e.keepsRefusals = true) :
    e.outcome note x = .error (note.elim (.ofApi x.failure) (Report.ofApi x.failure).within) := by
  rw [outcome, read_of_isSuccess_eq_false e h, if_pos hkeeps, ← x.toError_rejection]
  cases note <;> rfl

/-- A payload only comes of a success that it fits. -/
theorem outcome_eq_ok {v : Envelope e.Payload} (h : e.outcome note x = .ok v) :
    x.isSuccess = true ∧ x.unwrapped.decode Model.decode = .ok v := by
  cases hs : x.isSuccess with
  | true =>
    rw [outcome_of_isSuccess hs] at h
    exact ⟨rfl, Outcome.mapError_eq_ok_iff.mp h⟩
  | false =>
    cases hkeeps : e.keepsRefusals with
    | true =>
      rw [outcome_of_kept hs hkeeps] at h
      cases h
    | false =>
      rw [outcome_of_failing hs hkeeps] at h
      cases h

/-- What fails of an answer is a refusal or a payload that does not fit. -/
theorem not_isLocal_of_outcome {r : Report} (h : e.outcome note x = .error r) : ¬r.IsLocal := by
  cases hs : x.isSuccess with
  | true =>
    rw [outcome_of_isSuccess hs] at h
    obtain ⟨failure, hfailure, rfl⟩ := Outcome.mapError_eq_error_iff.mp h
    obtain ⟨m, -, rfl⟩ := Envelope.decode_eq_error_iff.mp hfailure
    rw [Report.isLocal_ofApi_iff]
    simp [ApiError.kind]
  | false =>
    have hfailure : r.apiError? = some x.failure := by
      cases hkeeps : e.keepsRefusals with
      | true =>
        rw [outcome_of_kept hs hkeeps] at h
        obtain rfl := Except.error.inj h
        cases note <;> rfl
      | false =>
        rw [outcome_of_failing hs hkeeps] at h
        obtain rfl := Except.error.inj h
        rfl
    intro hlocal
    cases x.isRefusal_kind_failure.symm.trans (hlocal.isRefusal_eq_false hfailure)

end Endpoint

/-! ## Asking -/

/-- How a call comes out that is made after some messages. -/
inductive Asked (config : Config) (client : Client) (script : List Wire.Answer)
    (before : List Wire.Message) (call : Call) :
    Except Report (Envelope call.endpoint.Payload) → List Wire.Message → Prop where
  | unsent {r : Report} (isLocal : r.IsLocal) :
      Asked config client script before call (.error r) before
  | refused {r : Report} {request : Request} {m : Wire.Message}
      (sent : Wire.Sent config client call request m) (notLocal : ¬r.IsLocal) :
      Asked config client script before call (.error r) (before ++ [m])
  | answered {request : Request} {m : Wire.Message} {raw : RawResponse}
      {e : Envelope call.endpoint.Payload} (sent : Wire.Sent config client call request m)
      (answer : Wire.decode (Wire.answerAt script before.length) = .ok raw)
      (success : Http.isSuccess raw.status = true)
      (fits : (Exchange.unwrapped ⟨request.info, raw⟩).decode Model.decode = .ok e) :
      Asked config client script before call (.ok e) (before ++ [m])

/-- How a step comes out that is carried out after some messages. -/
inductive Shown (config : Config) (client : Client) (script : List Wire.Answer)
    (before : List Wire.Message) (step : Step) :
    Except Report Output → List Wire.Message → Prop where
  | failed {r : Report} {sent : List Wire.Message}
      (asked : Asked config client script before step.call (.error r) sent) :
      Shown config client script before step (.error r) sent
  | displayed {e : Envelope step.call.endpoint.Payload} {sent : List Wire.Message}
      (asked : Asked config client script before step.call (.ok e) sent) :
      Shown config client script before step (step.display e) sent

/-- How a plan comes out. -/
inductive Carried (config : Config) (client : Client) (script : List Wire.Answer) :
    Plan → Except Report Output → List Wire.Message → Prop where
  | once {step : Step} {result : Except Report Output} {sent : List Wire.Message}
      (shown : Shown config client script [] step result sent) :
      Carried config client script (.once step) result sent
  | unread {call : Call} {note : Option String}
      {next : Envelope call.endpoint.Payload → Except Report Step} {r : Report}
      {sent : List Wire.Message} (asked : Asked config client script [] call (.error r) sent) :
      Carried config client script (.afterReading call note next) (.error r) sent
  | stopped {call : Call} {note : Option String}
      {next : Envelope call.endpoint.Payload → Except Report Step}
      {e : Envelope call.endpoint.Payload} {r : Report} {sent : List Wire.Message}
      (asked : Asked config client script [] call (.ok e) sent) (stop : next e = .error r) :
      Carried config client script (.afterReading call note next) (.error r) sent
  | continued {call : Call} {note : Option String}
      {next : Envelope call.endpoint.Payload → Except Report Step}
      {e : Envelope call.endpoint.Payload} {step : Step} {result : Except Report Output}
      {sent after : List Wire.Message} (asked : Asked config client script [] call (.ok e) sent)
      (go : next e = .ok step) (shown : Shown config client script sent step result after) :
      Carried config client script (.afterReading call note next) result after

namespace Session

variable {c : Channel} {s : Session c} {script : List c.Answer}

/-- A session holds what its script has left after the messages sent. -/
def Follows (s : Session c) (script : List c.Answer) : Prop :=
  s.script = script.drop s.sent.length

theorem Follows.advance (h : s.Follows script) (m : c.Message) : (s.advance m).Follows script := by
  rw [Follows] at h ⊢
  simp [Session.advance, h]

theorem Follows.nextAnswer_eq (h : s.Follows script) :
    s.nextAnswer = (script.drop s.sent.length).headD c.standing := by
  rw [nextAnswer, h]

end Session

namespace Client

variable {config : Config} {client : Client} {s : Session (Wire.channel config)}
  {script : List Wire.Answer}

/-- Asking is making a call and taking its answer. -/
theorem ask_eq_perform {c : Channel} (client : Client) (s : Session c) (call : Call)
    (note : Option String) :
    client.ask s call note =
      (((client.perform s call).1.mapError Report.ofApi).bind (Attempt.accepted note),
        (client.perform s call).2) := by
  unfold ask
  generalize client.perform s call = p
  obtain ⟨_ | _, _⟩ := p <;> rfl

/-- Carrying out a step is asking and showing the answer. -/
theorem carryOutStep_eq_ask {c : Channel} (client : Client) (s : Session c) (step : Step) :
    client.carryOutStep s step =
      ((client.ask s step.call step.refusalNote).1.bind step.display,
        (client.ask s step.call step.refusalNote).2) := by
  unfold carryOutStep
  generalize client.ask s step.call step.refusalNote = p
  obtain ⟨_ | _, _⟩ := p <;> rfl

/-- A plan that reads first goes on with what it makes of the answer. -/
theorem carryOut_afterReading {c : Channel} (client : Client) (s : Session c) (call : Call)
    (note : Option String) (next : Envelope call.endpoint.Payload → Except Report Step) :
    client.carryOut s (.afterReading call note next) =
      match (client.ask s call note).1.bind next with
      | .error r => (.error r, (client.ask s call note).2)
      | .ok step => client.carryOutStep (client.ask s call note).2 step := by
  simp only [carryOut]
  generalize client.ask s call note = p
  obtain ⟨result, after⟩ := p
  cases result with
  | error r => rfl
  | ok e =>
    cases hnext : next e with
    | error r => simp only [Except.bind, hnext]
    | ok step => simp only [Except.bind, hnext]

/-- A call that is not built is not made. -/
theorem ask_of_request_eq_error {c : Channel} (s : Session c) {call : Call} (note : Option String)
    {e : ApiError} (h : client.request call = .error e) :
    client.ask s call note = (.error (.ofApi e), s) := by
  unfold ask perform
  rw [h]

/-- A request that cannot be written is not sent. -/
theorem ask_of_encode_eq_error {c : Channel} (s : Session c) {call : Call} (note : Option String)
    {request : Request} {e : ApiError} (h : client.request call = .ok request)
    (hencode : c.encode request = .error e) :
    client.ask s call note = (.error (.ofApi e), s) := by
  unfold ask perform Session.exchange
  rw [h]
  simp only [hencode]
  rfl

/-- A call whose answer means nothing fails for that. -/
theorem ask_of_decode_eq_error {c : Channel} (s : Session c) {call : Call} (note : Option String)
    {request : Request} {m : c.Message} {e : ApiError} (h : client.request call = .ok request)
    (hencode : c.encode request = .ok m) (hdecode : c.decode s.nextAnswer = .error e) :
    client.ask s call note = (.error (.ofApi e), s.advance m) := by
  rw [ask_eq_perform, perform_of_encode_eq_ok h hencode, hdecode]
  rfl

/-- A call that is answered comes to what comes of the answer. -/
theorem ask_of_decode_eq_ok {c : Channel} (s : Session c) {call : Call} (note : Option String)
    {request : Request} {m : c.Message} {raw : RawResponse} (h : client.request call = .ok request)
    (hencode : c.encode request = .ok m) (hdecode : c.decode s.nextAnswer = .ok raw) :
    client.ask s call note = (call.endpoint.outcome note ⟨request.info, raw⟩, s.advance m) := by
  rw [ask_eq_perform, perform_of_encode_eq_ok h hencode, hdecode]
  rfl

/-- A call whose message is written has sent it, whatever the answer is. -/
theorem sent_ask_of_encode_eq_ok {c : Channel} (s : Session c) {call : Call} (note : Option String)
    {request : Request} {m : c.Message} (h : client.request call = .ok request)
    (hencode : c.encode request = .ok m) : (client.ask s call note).2 = s.advance m := by
  rw [ask_eq_perform, perform_of_encode_eq_ok h hencode]

/-- Asking a server over the wire comes out in one of the three ways. -/
theorem asked_of_ask (hf : s.Follows script) {call : Call} {note : Option String}
    {result : Except Report (Envelope call.endpoint.Payload)}
    {next : Session (Wire.channel config)} (h : client.ask s call note = (result, next)) :
    Asked config client script s.sent call result next.sent ∧ next.Follows script := by
  cases hrequest : client.request call with
  | error e =>
    obtain ⟨rfl, rfl⟩ := Prod.mk.inj (h.symm.trans (ask_of_request_eq_error s note hrequest))
    exact ⟨.unsent (Report.isLocal_ofApi_iff.mpr (Or.inr (request_eq_error hrequest))), hf⟩
  | ok request =>
    cases hencode : Wire.encode config request with
    | error e =>
      obtain ⟨rfl, rfl⟩ :=
        Prod.mk.inj (h.symm.trans (ask_of_encode_eq_error s note hrequest hencode))
      exact ⟨.unsent (Report.isLocal_ofApi_iff.mpr (Wire.encode_eq_error hencode)), hf⟩
    | ok m =>
      have hsent : Wire.Sent config client call request m := ⟨hrequest, hencode⟩
      have hanswer : s.nextAnswer = Wire.answerAt script s.sent.length := hf.nextAnswer_eq
      cases hdecode : Wire.decode (Wire.answerAt script s.sent.length) with
      | error e =>
        have hask := ask_of_decode_eq_error s note hrequest hencode (hanswer ▸ hdecode)
        obtain ⟨rfl, rfl⟩ := Prod.mk.inj (h.symm.trans hask)
        refine ⟨.refused hsent ?_, hf.advance m⟩
        rw [Wire.decode_eq_error hdecode, Report.isLocal_ofApi_iff]
        simp [ApiError.kind]
      | ok raw =>
        have hask := ask_of_decode_eq_ok s note hrequest hencode (hanswer ▸ hdecode)
        obtain ⟨rfl, rfl⟩ := Prod.mk.inj (h.symm.trans hask)
        cases houtcome : call.endpoint.outcome note ⟨request.info, raw⟩ with
        | error r =>
          exact ⟨.refused hsent (Endpoint.not_isLocal_of_outcome houtcome), hf.advance m⟩
        | ok v =>
          obtain ⟨hsuccess, hfits⟩ := Endpoint.outcome_eq_ok houtcome
          exact ⟨.answered hsent hdecode hsuccess hfits, hf.advance m⟩

theorem shown_of_carryOutStep (hf : s.Follows script) {step : Step} {result : Except Report Output}
    {next : Session (Wire.channel config)} (h : client.carryOutStep s step = (result, next)) :
    Shown config client script s.sent step result next.sent := by
  unfold carryOutStep at h
  split at h
  · next hask =>
    obtain ⟨rfl, rfl⟩ := Prod.mk.inj h
    exact .failed (asked_of_ask hf hask).1
  · next hask =>
    obtain ⟨rfl, rfl⟩ := Prod.mk.inj h
    exact .displayed (asked_of_ask hf hask).1

/-- Carrying out a plan from the start comes out in one of the ways that a plan can. -/
theorem carried_of_carryOut {plan : Plan} {result : Except Report Output}
    {next : Session (Wire.channel config)}
    (h : client.carryOut (Session.start script) plan = (result, next)) :
    Carried config client script plan result next.sent := by
  have hstart : (Session.start script : Session (Wire.channel config)).Follows script := rfl
  cases plan with
  | once step => exact .once (shown_of_carryOutStep hstart h)
  | afterReading call note go =>
    simp only [carryOut] at h
    split at h
    · next hask =>
      obtain ⟨rfl, rfl⟩ := Prod.mk.inj h
      exact .unread (asked_of_ask hstart hask).1
    · next hask =>
      obtain ⟨hasked, hfollows⟩ := asked_of_ask hstart hask
      split at h
      · next hstop =>
        obtain ⟨rfl, rfl⟩ := Prod.mk.inj h
        exact .stopped hasked hstop
      · next hgo => exact .continued hasked hgo (shown_of_carryOutStep hfollows h)

end Client

end Mailroom
