import Mailroom.Command.Log
import Mailroom.Proofs.Command.Locality
import Mailroom.Proofs.Command.Plans
import Mailroom.Proofs.Command.Requests

/-!
# What a run logs

Where the filter is not set, the log of a run is empty or a single warning. There is a warning
exactly if the run ends because the server refused a request whose refusals are failures; the
refusals that are kept as data end a run too, but with a note and without a warning. `Warned` says
so of the messages, the failure and the log of a run together, and it is followed from a call by way
of a step and a plan to the whole run (`warned_of_run`).
-/

namespace Mailroom

open Log (Event)
open Report (FailsLocally)
open Terminal (Output Writer)

theorem Report.ofResult?_eq_some_iff {α : Type} {x : Except Report α} {r : Report} :
    ofResult? x = some r ↔ x = .error r := by
  cases x <;> simp [ofResult?]

/-- What is shown of a run without a filter, beside its messages and its failure: nothing, if the
failure is no bare refusal, or else the refusal of the last message. -/
inductive Warned (found : Except Report Config) (script : List Wire.Answer) :
    List Wire.Message → Option Report → List Event → Prop where
  | nothing {sent : List Wire.Message} {failure : Option Report}
      (unrefused : ∀ e, failure = some (.ofApi e) → e.kind.isRefusal = false) :
      Warned found script sent failure []
  | refusal {config : Config} {before : List Wire.Message} {m : Wire.Message} {request : Request}
      {raw : RawResponse} {endpoint : Endpoint} (resolved : found = .ok config)
      (written : Wire.encode config request = .ok m)
      (operation : request.operation = endpoint.operationName)
      (failing : endpoint.keepsRefusals = false)
      (answer : Wire.decode (Wire.answerAt script before.length) = .ok raw)
      (refused : Http.isSuccess raw.status = false) :
      Warned found script (before ++ [m])
        (some (.ofApi (Exchange.failure ⟨request.info, raw⟩)))
        [.refused request.operation raw.status]

namespace Warned

variable {found : Except Report Config} {script : List Wire.Answer} {sent : List Wire.Message}
  {shown : List Event}

/-- A failure for a local reason goes without a warning. -/
theorem of_isLocal {r : Report} (h : r.IsLocal) : Warned found script sent (some r) [] := by
  refine .nothing fun e he => ?_
  obtain rfl := Option.some.inj he
  exact h.isRefusal_eq_false rfl

theorem of_none : Warned found script sent none [] :=
  .nothing fun _ => nofun

/-- Without a failure there is no warning. -/
theorem eq_nil (h : Warned found script sent none shown) : shown = [] := by
  cases h
  rfl

/-- The failure of a run is that of its result. -/
theorem of_result {result : Except Report Output}
    (h : Warned found script sent (Report.ofResult? result) shown) (w : Writer) :
    Warned found script (Outcome.of w result sent).sent (Outcome.of w result sent).failure
      shown := by
  cases result <;> exact h

end Warned

/-! ## Calls -/

/-- An answer that means something stands in the end. -/
theorem Wire.reply?_of_decode {answer : Wire.Answer} {raw : RawResponse}
    (h : Wire.decode answer = .ok raw) : ∃ body, answer.reply? = some (raw.status, body) := by
  unfold decode at h
  split at h
  · next status body hreply =>
    obtain rfl := Except.ok.inj h
    exact ⟨body, hreply⟩
  · cases h

/-- An answer without a meaning is not there in the end. -/
theorem Wire.reply?_of_decode_eq_error {answer : Wire.Answer} {e : ApiError}
    (h : Wire.decode answer = .error e) : answer.reply? = none := by
  unfold decode at h
  split at h
  · cases h
  · assumption

/-- The warnings of an answer. -/
theorem Endpoint.filter_answerEvents (e : Endpoint) (operation : String) {answer : Wire.Answer}
    {x : Exchange} (h : Wire.decode answer = .ok x.response) :
    (e.answerEvents operation answer).filter Event.isWarning =
      if x.isSuccess = false ∧ e.keepsRefusals = false then
        [.refused operation x.response.status] else [] := by
  obtain ⟨body, hreply⟩ := Wire.reply?_of_decode h
  unfold answerEvents Exchange.isSuccess
  rw [hreply]
  cases hsuccess : Http.isSuccess x.response.status <;> cases e.keepsRefusals <;>
    simp [hsuccess, Event.isWarning, Event.level]

/-- A success ends in no refusal. -/
theorem Endpoint.unrefused_of_isSuccess {e : Endpoint} {note : Option String} {x : Exchange}
    (h : x.isSuccess = true) {failure : ApiError}
    (hfailure : e.outcome note x = .error (.ofApi failure)) : failure.kind.isRefusal = false := by
  rw [outcome_of_isSuccess h] at hfailure
  obtain ⟨cause, hcause, heq⟩ := Outcome.mapError_eq_error_iff.mp hfailure
  obtain rfl : cause = failure := Option.some.inj (congrArg Report.apiError? heq)
  obtain ⟨m, -, rfl⟩ := Envelope.decode_eq_error_iff.mp hcause
  rfl

namespace Client

variable {config : Config} {client : Client} {s : Session (Wire.channel config)}
  {script : List Wire.Answer} {found : Except Report Config}

/-- The events of a call that is not built. -/
theorem events_of_request_eq_error {call : Call} {e : ApiError}
    (h : client.request call = .error e) : client.events s call = [] := by
  unfold events
  rw [h]

theorem events_of_encode_eq_error {call : Call} {request : Request} {e : ApiError}
    (h : client.request call = .ok request) (hencode : Wire.encode config request = .error e) :
    client.events s call = [.sending request.info] := by
  unfold events
  rw [h]
  simp only [hencode]

theorem events_of_encode_eq_ok {call : Call} {request : Request} {m : Wire.Message}
    (h : client.request call = .ok request) (hencode : Wire.encode config request = .ok m) :
    client.events s call = .sending request.info ::
      call.endpoint.answerEvents request.operation s.nextAnswer := by
  unfold events
  rw [h]
  simp only [hencode]

/-- A call is warned about if it is refused and does not keep refusals, for then it has no note. -/
theorem warned_of_ask (hbuild : build (.standard config) = .ok client) (hfound : found = .ok config)
    (hf : s.Follows script) {call : Call} {note : Option String}
    (hnote : note.isSome = call.endpoint.keepsRefusals) :
    Warned found script (client.ask s call note).2.sent
      (Report.ofResult? (client.ask s call note).1)
      ((client.events s call).filter Event.isWarning) := by
  cases hrequest : client.request call with
  | error e =>
    rw [ask_of_request_eq_error s note hrequest, events_of_request_eq_error hrequest]
    exact .of_isLocal (Report.isLocal_ofApi_iff.mpr (Or.inr (request_eq_error hrequest)))
  | ok request =>
  cases hencode : Wire.encode config request with
  | error e =>
    rw [ask_of_encode_eq_error s note hrequest hencode,
      events_of_encode_eq_error hrequest hencode]
    exact .of_isLocal (Report.isLocal_ofApi_iff.mpr (Wire.encode_eq_error hencode))
  | ok m =>
  have hanswer : s.nextAnswer = Wire.answerAt script s.sent.length := hf.nextAnswer_eq
  rw [events_of_encode_eq_ok hrequest hencode]
  cases hdecode : Wire.decode (Wire.answerAt script s.sent.length) with
  | error e =>
    rw [ask_of_decode_eq_error s note hrequest hencode (hanswer ▸ hdecode), hanswer,
      Endpoint.answerEvents, Wire.reply?_of_decode_eq_error hdecode]
    refine .nothing fun e' he => ?_
    obtain rfl : e = e' := Option.some.inj (congrArg (·.bind Report.apiError?) he)
    rw [Wire.decode_eq_error hdecode]
    rfl
  | ok raw =>
    rw [ask_of_decode_eq_ok s note hrequest hencode (hanswer ▸ hdecode)]
    change Warned found script (s.advance m).sent _
      ((call.endpoint.answerEvents request.operation s.nextAnswer).filter Event.isWarning)
    rw [hanswer, Endpoint.filter_answerEvents (x := ⟨request.info, raw⟩) _ _ hdecode]
    cases hsuccess : Exchange.isSuccess ⟨request.info, raw⟩ with
    | true =>
      refine .nothing fun failure hfailure => ?_
      exact Endpoint.unrefused_of_isSuccess hsuccess (Report.ofResult?_eq_some_iff.mp hfailure)
    | false =>
    cases hkeeps : call.endpoint.keepsRefusals with
    | true =>
      obtain ⟨text, htext⟩ := Option.isSome_iff_exists.mp (hnote.trans hkeeps)
      rw [Endpoint.outcome_of_kept hsuccess hkeeps, htext]
      exact .nothing fun _ => nofun
    | false =>
      rw [Endpoint.outcome_of_failing hsuccess hkeeps]
      exact .refusal hfound hencode (Wire.Sent.operation_eq hbuild ⟨hrequest, hencode⟩) hkeeps
        hdecode hsuccess

/-- A step is warned about like its call, for what it shows of an answer fails locally. -/
theorem warned_of_carryOutStep (hbuild : build (.standard config) = .ok client)
    (hfound : found = .ok config) (hf : s.Follows script) {step : Step}
    (hnote : step.refusalNote.isSome = step.call.endpoint.keepsRefusals)
    (hdisplay : ∀ e, FailsLocally (step.display e)) :
    Warned found script (client.carryOutStep s step).2.sent
      (Report.ofResult? (client.carryOutStep s step).1)
      ((client.events s step.call).filter Event.isWarning) := by
  have hwarned := warned_of_ask hbuild hfound hf hnote
  rw [carryOutStep_eq_ask]
  cases hask : (client.ask s step.call step.refusalNote).1 with
  | error r =>
    rw [hask] at hwarned
    exact hwarned
  | ok e =>
    rw [hask] at hwarned
    rw [hwarned.eq_nil]
    cases hshown : step.display e with
    | error r =>
      change Warned _ _ _ (Report.ofResult? (step.display e)) _
      rw [hshown]
      exact .of_isLocal (hdisplay e r hshown)
    | ok output =>
      change Warned _ _ _ (Report.ofResult? (step.display e)) _
      rw [hshown]
      exact .of_none

/-- A reading is followed by a step that may be warned about, or is warned about itself. -/
theorem warned_of_afterReading (hbuild : build (.standard config) = .ok client)
    (hfound : found = .ok config) (hf : s.Follows script) {call : Call} {note : Option String}
    {next : Envelope call.endpoint.Payload → Except Report Step}
    (hnote : note.isSome = call.endpoint.keepsRefusals) (hnext : ∀ e, FailsLocally (next e))
    (hstep : ∀ e step, next e = .ok step →
      step.refusalNote.isSome = step.call.endpoint.keepsRefusals ∧
        ∀ answer, FailsLocally (step.display answer)) :
    Warned found script (client.carryOut s (.afterReading call note next)).2.sent
      (Report.ofResult? (client.carryOut s (.afterReading call note next)).1)
      ((client.carryOutEvents s (.afterReading call note next)).filter Event.isWarning) := by
  have hwarned := warned_of_ask hbuild hfound hf hnote
  simp only [carryOut, carryOutEvents]
  cases hask : client.ask s call note with
  | mk result after =>
  obtain ⟨-, hfollows⟩ := asked_of_ask hf hask
  rw [hask] at hwarned
  cases result with
  | error r =>
    rw [List.append_nil]
    exact hwarned
  | ok e =>
  have hquiet := hwarned.eq_nil
  cases hgo : next e with
  | error r =>
    simp only [hgo, List.append_nil, hquiet]
    exact .of_isLocal (hnext e r hgo)
  | ok step =>
    obtain ⟨hnoted, hdisplay⟩ := hstep e step hgo
    have hnotices : step.call.notices.filter Event.isWarning = [] := by
      unfold Call.notices
      split <;> rfl
    simp only [hgo, List.filter_append, hquiet, hnotices, List.nil_append]
    exact warned_of_carryOutStep hbuild hfound hfollows hnoted hdisplay

end Client

/-! ## Runs -/

namespace ServerCommand

variable {c : ServerCommand} {w : Writer} {inputs : Inputs}

/-- The plan of a command is warned about as its calls are. -/
theorem warned_of_carryOut {config : Config} {client : Client} {script : List Wire.Answer}
    {found : Except Report Config} (hbuild : Client.build (.standard config) = .ok client)
    (hfound : found = .ok config) {plan : Plan} (hplan : c.plan w inputs = .ok plan) :
    let s : Session (Wire.channel config) := .start script
    Warned found script (client.carryOut s plan).2.sent
      (Report.ofResult? (client.carryOut s plan).1)
      ((client.carryOutEvents s plan).filter Event.isWarning) := by
  intro s
  have hstart : s.Follows script := rfl
  cases planned_of_plan hplan with
  | showing _ noted _ _ =>
    exact Client.warned_of_carryOutStep hbuild hfound hstart noted fun e => .ok _
  | setting key _ =>
    exact Client.warned_of_carryOutStep hbuild hfound hstart rfl
      (failsLocally_displaySettings key w)
  | checking _ =>
    exact Client.warned_of_carryOutStep hbuild hfound hstart rfl (failsLocally_displayHealth w)
  | rendering _ _ noted =>
    refine Client.warned_of_afterReading hbuild hfound hstart noted (fun e => .ok _) ?_
    intro e step hstep
    obtain rfl := Except.ok.inj hstep
    exact ⟨rfl, fun answer => .ok _⟩
  | @updating body _ =>
    refine Client.warned_of_afterReading hbuild hfound hstart rfl
      (fun current => (body.failsLocally_settings inputs current.data).map _) ?_
    intro current step hstep
    obtain ⟨settings, -, rfl⟩ := Outcome.map_eq_ok_iff.mp hstep
    exact ⟨rfl, fun answer => .ok _⟩

theorem filter_connectionEvents (o : CommonOptions) (env : Environment) :
    (o.connectionEvents env).filter Event.isWarning = [] := by
  unfold CommonOptions.connectionEvents
  split
  · rfl
  · split
    · rfl
    · split <;> rfl

/-- Nothing is warned about before a plan is carried out. -/
theorem filter_preparedEvents (c : ServerCommand) (o : CommonOptions) (s : Surroundings) :
    (c.preparedEvents o s).filter Event.isWarning = [] := by
  have hnotices : c.notices.filter Event.isWarning = [] := by
    cases c <;> rfl
  have hconnecting : (c.connectingEvents o s.environment).filter Event.isWarning = [] := by
    unfold connectingEvents
    rw [List.filter_append, filter_connectionEvents, List.nil_append]
    split
    · rfl
    · exact hnotices
  unfold preparedEvents
  split
  · split
    · rfl
    · exact hconnecting
  · exact hconnecting

section

variable {o : CommonOptions} {s : Surroundings} {x : Connection} {plan : Plan}

/-- A run that is prepared carries out its plan. -/
theorem run_of_prepared (h : c.prepared o s = .ok (x, plan)) (script : List Wire.Answer) :
    let start : Session (Wire.channel x.config) := .start script
    c.run o s script = .of (o.writer s.color) (x.client.carryOut start plan).1
      (x.client.carryOut start plan).2.sent := by
  unfold run
  rw [h]

theorem events_of_prepared (h : c.prepared o s = .ok (x, plan)) (script : List Wire.Answer) :
    c.events o s script = c.preparedEvents o s ++
      x.client.carryOutEvents (.start script : Session (Wire.channel x.config)) plan := by
  unfold events
  rw [h]

theorem events_of_prepared_eq_error {r : Report} (h : c.prepared o s = .error r)
    (script : List Wire.Answer) : c.events o s script = c.preparedEvents o s := by
  unfold events
  rw [h, List.append_nil]

end

/-- What is shown of a run without a filter goes with its messages and its failure. -/
theorem warned_of_run (c : ServerCommand) (o : CommonOptions) (s : Surroundings)
    (script : List Wire.Answer) :
    Warned (o.config s.environment) script (c.run o s script).sent (c.run o s script).failure
      ((c.events o s script).filter Event.isWarning) := by
  cases hprepared : c.prepared o s with
  | error r =>
    rw [events_of_prepared_eq_error hprepared, filter_preparedEvents, run, hprepared]
    exact .of_isLocal (c.failsLocally_prepared o s r hprepared)
  | ok pair =>
    obtain ⟨x, plan⟩ := pair
    obtain ⟨hconnection, hplan⟩ := prepared_eq_ok hprepared
    obtain ⟨-, hconfig, hbuild⟩ := CommonOptions.connection_eq_ok hconnection
    rw [events_of_prepared hprepared, run_of_prepared hprepared, List.filter_append,
      filter_preparedEvents, List.nil_append]
    exact (warned_of_carryOut hbuild hconfig hplan).of_result _

end ServerCommand

end Mailroom
