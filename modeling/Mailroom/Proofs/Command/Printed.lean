import Mailroom.Proofs.Command.Logged

/-!
# What a run prints

Where results are JSON, standard output is all or nothing. A run that fails leaves it empty and says
why on standard error; a run that does not prints one value, the payload of its last answer or the
whole of it, and ends the line. Renderings and the logs of the server are printed as the texts that
they are. Remarks on what was achieved never get there, and neither does the log of the run itself:
that stands on standard error, before why the run failed. Without a filter it is no more than a
warning where a refused request ends the run.
-/

namespace Mailroom

open Terminal (Output Writer)

/-! ## Exit codes -/

/-- No failure has the exit code of success. -/
theorem Report.exitCode_ne_success (r : Report) : r.exitCode ≠ ExitCode.success := by
  rw [exitCode, ErrorChain.exitCode]
  split
  · next e _ => cases e.kind <;> decide
  · decide

/-- A run ends well exactly if it has no failure. -/
theorem Outcome.exitCode_eq_zero_iff (o : Outcome) : o.exitCode = 0 ↔ o.failure = none := by
  unfold exitCode
  cases o.failure with
  | none => exact iff_of_true rfl rfl
  | some r => exact iff_of_false r.exitCode_ne_success nofun

/-! ## The last answer -/

/-- A plan ends with a step. -/
def Plan.Ends (plan : Plan) (step : Step) : Prop :=
  match plan with
  | .once last => last = step
  | .afterReading _ _ next => ∃ e, next e = .ok step

/-- A step that has a result has shown it of the answer to its call. -/
theorem Shown.exists_answer {config : Config} {client : Client} {script : List Wire.Answer}
    {before sent : List Wire.Message} {step : Step} {result : Except Report Output}
    {output : Output} (h : Shown config client script before step result sent)
    (hresult : result = .ok output) :
    ∃ e, Asked config client script before step.call (.ok e) sent ∧
      step.display e = .ok output := by
  cases h with
  | failed _ => cases hresult
  | displayed hasked => exact ⟨_, hasked, hresult⟩

/-- What a plan comes to is shown by the step it ends with. -/
theorem Carried.exists_step {config : Config} {client : Client} {script : List Wire.Answer}
    {plan : Plan} {output : Output} {sent : List Wire.Message}
    (h : Carried config client script plan (.ok output) sent) :
    ∃ step before e, plan.Ends step ∧ Asked config client script before step.call (.ok e) sent ∧
      step.display e = .ok output := by
  cases h with
  | once hstep =>
    obtain ⟨e, hasked, hdisplay⟩ := hstep.exists_answer rfl
    exact ⟨_, _, e, rfl, hasked, hdisplay⟩
  | continued _ hgo hstep =>
    obtain ⟨e, hasked, hdisplay⟩ := hstep.exists_answer rfl
    exact ⟨_, _, e, ⟨_, hgo⟩, hasked, hdisplay⟩

namespace ServerCommand

/-- What is shown comes from the last answer of a run: a success, whose payload fits the endpoint
that was asked. -/
structure ShowsLast (c : ServerCommand) (config : Config) (script : List Wire.Answer)
    (sent : List Wire.Message) (x : Exchange) (shown : Json) : Prop where
  asked : ∃ before m request, sent = before ++ [m] ∧ Wire.encode config request = .ok m ∧
    x.request = request.info ∧ Wire.decode (Wire.answerAt script before.length) = .ok x.response
  success : x.isSuccess = true
  shown : ∃ (e : Endpoint) (payload : e.Payload), x.request.operation = e.operationName ∧
    Model.decode x.unwrapped.data = .ok payload ∧ c.shown? (Model.encode payload) = some shown

variable {c : ServerCommand} {w : Writer} {inputs : Inputs}

theorem prints_of_displaySettings {key : Option String} {e : Envelope Json} {output : Output}
    (h : displaySettings key w e = .ok output) : (getSettings key).Prints w e.encoded output := by
  unfold displaySettings at h
  split at h
  · obtain rfl := Except.ok.inj h
    exact prints_of_stdout rfl rfl (Writer.stdout_value w e)
  · split at h
    · next v hv =>
      obtain rfl := Except.ok.inj h
      exact ⟨v, hv, Writer.stdout_value w (e.withData v)⟩
    · cases h

/-- Whatever step the plan of a command ends with, it prints what the command shows. -/
theorem prints_of_ends {plan : Plan} (hplan : Planned c w inputs plan) (hw : w.format = .json)
    {step : Step} (hends : plan.Ends step) {e : Envelope step.call.endpoint.Payload}
    {output : Output} (h : step.display e = .ok output) : c.Prints w e.encoded output := by
  cases hplan with
  | showing _ _ prints _ =>
    obtain rfl := hends
    obtain rfl := Except.ok.inj h
    exact prints hw e
  | setting key hc =>
    obtain rfl := hends
    subst hc
    exact prints_of_displaySettings h
  | checking hc =>
    obtain rfl := hends
    subst hc
    change displayHealth w e = .ok output at h
    unfold displayHealth at h
    split at h
    · obtain rfl := Except.ok.inj h
      exact prints_of_stdout rfl rfl (Writer.stdout_done hw e _)
    · cases h
  | rendering hc _ _ =>
    obtain ⟨stored, hstep⟩ := hends
    obtain rfl := Except.ok.inj hstep
    subst hc
    obtain rfl := Except.ok.inj h
    exact prints_of_stdout_verbatim rfl rfl (Writer.stdout_text w e)
  | updating hc =>
    obtain ⟨current, hstep⟩ := hends
    obtain ⟨settings, -, rfl⟩ := Outcome.map_eq_ok_iff.mp hstep
    subst hc
    obtain rfl := Except.ok.inj h
    refine prints_of_stdout rfl rfl ?_
    rw [Writer.warning, Output.stdout_andThen_remark]
    exact Writer.stdout_done hw e _

/-- A plan that is carried out prints what the command shows of the last answer. -/
theorem printed_of_carried {x : Connection} {script : List Wire.Answer} {plan : Plan}
    {output : Output} {sent : List Wire.Message}
    (hbuild : Client.build (.standard x.config) = .ok x.client)
    (hplan : c.plan w inputs = .ok plan) (hw : w.format = .json)
    (h : Carried x.config x.client script plan (.ok output) sent) :
    ∃ last shown, c.ShowsLast x.config script sent last shown ∧
      output.stdout = w.answerText c.isVerbatim (last.unwrapped.withData shown) ++ "\n" := by
  obtain ⟨step, before, e, hends, hasked, hdisplay⟩ := h.exists_step
  obtain ⟨shown, hshown, hstdout⟩ := prints_of_ends (planned_of_plan hplan) hw hends hdisplay
  cases hasked with
  | @answered request m raw _ hsent hanswer hsuccess hfits =>
    obtain ⟨payload, hpayload, rfl⟩ := Envelope.decode_eq_ok hfits
    exact ⟨⟨request.info, raw⟩, shown,
      ⟨⟨before, m, request, rfl, hsent.written, rfl, hanswer⟩, hsuccess,
        ⟨step.call.endpoint, payload, hsent.operation_eq hbuild, hpayload, hshown⟩⟩, hstdout⟩

/-- A run that fails writes why, and nothing else. -/
theorem output_of_failure {o : CommonOptions} {s : Surroundings} {script : List Wire.Answer}
    {r : Report} (h : (c.run o s script).failure = some r) :
    (c.run o s script).output = (o.writer s.color).error r.line := by
  rcases c.run_cases o s script with ⟨r', hrun⟩ | ⟨x, plan, result, sent, -, -, hrun⟩
  · rw [hrun] at h ⊢
    obtain rfl := Option.some.inj h
    rfl
  · rw [hrun] at h ⊢
    cases result with
    | error r' =>
      obtain rfl := Option.some.inj h
      rfl
    | ok output => cases h

/-- A run that does not fail carries out its plan and writes what comes of it. -/
theorem carried_of_run {o : CommonOptions} {s : Surroundings} {script : List Wire.Answer}
    (h : (c.run o s script).failure = none) :
    ∃ x plan, c.prepared o s = .ok (x, plan) ∧
      Carried x.config x.client script plan (.ok (c.run o s script).output)
        (c.run o s script).sent := by
  rcases c.run_cases o s script with ⟨r, hrun⟩ | ⟨x, plan, result, sent, hprepared, hcarried, hrun⟩
  · rw [hrun] at h
    cases h
  · rw [hrun] at h ⊢
    cases result with
    | error r => cases h
    | ok output => exact ⟨x, plan, hprepared, hcarried⟩

end ServerCommand

namespace Invocation

/-- Where results are JSON, a run that fails prints nothing on standard output, and on standard
error its log and then why it failed; a run that does not fail prints exactly one value and the end
of its line: what the command shows of the last answer, as text or in JSON, or the whole answer. The
log has nothing but warnings where the filter is not set, and then one at most: of the request whose
refusal is the failure. -/
theorem output_of_run {i : Invocation} {c : ServerCommand} (hc : i.command = .server c)
    (hjson : i.common.table = false) (s : Surroundings) (script : List Wire.Answer) (l : Logging) :
    ((i.run s script).exitCode ≠ 0 → (i.run s script).output.stdout = "" ∧
      ∃ r, (i.run s script).failure = some r ∧ i.standardError l s script =
        l.lines s.environment (i.events s script) ++
          (Terminal.paint s.color [.red, .bold] "error:" ++ " " ++ r.line ++ "\n")) ∧
    ((i.run s script).exitCode = 0 → ∃ config last shown,
      i.common.config s.environment = .ok config ∧
      c.ShowsLast config script (i.run s script).sent last shown ∧
      (i.run s script).output.stdout =
        (i.common.writer s.color).answerText c.isVerbatim (last.unwrapped.withData shown) ++
          "\n") ∧
    ((Dict.find? s.environment Logging.filterName).bind l.filter? = none →
      Warned (i.common.config s.environment) script (i.run s script).sent (i.run s script).failure
        ((i.events s script).filter (l.shows s.environment))) := by
  have hrun : i.run s script = c.run i.common s script := by
    rw [run, hc]
  have hevents : i.events s script = c.events i.common s script := by
    rw [events, hc]
  rw [Ne, Outcome.exitCode_eq_zero_iff, standardError, hrun, hevents]
  refine ⟨fun hfailed => ?_, fun hended => ?_, fun hunset => ?_⟩
  · obtain ⟨r, hr⟩ := Option.ne_none_iff_exists'.mp hfailed
    have houtput := ServerCommand.output_of_failure hr
    rw [houtput]
    exact ⟨rfl, r, hr, rfl⟩
  · have hw : (i.common.writer s.color).format = .json := by
      rw [CommonOptions.writer, hjson]
      rfl
    obtain ⟨x, plan, hprepared, hcarried⟩ := ServerCommand.carried_of_run hended
    obtain ⟨hconnection, hplan⟩ := ServerCommand.prepared_eq_ok hprepared
    obtain ⟨-, hconfig, hbuild⟩ := CommonOptions.connection_eq_ok hconnection
    obtain ⟨last, shown, hlast, hstdout⟩ :=
      ServerCommand.printed_of_carried hbuild hplan hw hcarried
    exact ⟨x.config, last, shown, hconfig, hlast, hstdout⟩
  · have hshows : l.shows s.environment = Log.Event.isWarning := by
      funext e
      rw [Logging.shows, hunset]
    rw [hshows]
    exact c.warned_of_run i.common s script

/-- The command for the last line of the server's log, with a token and nothing else given. -/
def lastLogLine : Invocation :=
  ⟨⟨none, none, some "t", none, [], false, false⟩, .server (.serverLogs (some 1))⟩

/-- The answer of a server whose log has two lines. -/
def twoLogLines : Wire.Answer :=
  .reply 200 (Text.utf8 "\x7b\"data\":[\"a\",\"b\"]\x7d".toList)

/-- A log without colours whose lines are all of one moment, under a filter that is not set. -/
def plainLogging : Logging where
  filter? _ := none
  line _ e := "2026-01-12T09:00:00.000000Z  WARN " ++ e.message ++
    match e with
    | .refused operation status => s!" operation=\"{operation}\" status={Text.ofNat status}"
    | _ => ""

/-- The last line of a log is printed as it is, and the run logs nothing. -/
theorem output_of_lastLogLine :
    (lastLogLine.run nowhere [twoLogLines]).output.stdout = "b\n" ∧
    (∃ config last shown, lastLogLine.common.config nowhere.environment = .ok config ∧
      (ServerCommand.serverLogs (some 1)).ShowsLast config [twoLogLines]
        (lastLogLine.run nowhere [twoLogLines]).sent last shown ∧
      "b\n" = (lastLogLine.common.writer nowhere.color).answerText true
        (last.unwrapped.withData shown) ++ "\n") ∧
    (lastLogLine.events nowhere [twoLogLines]).filter (plainLogging.shows nowhere.environment) =
      [] := by
  have hrun : (lastLogLine.run nowhere [twoLogLines]).exitCode = 0 ∧
      (lastLogLine.run nowhere [twoLogLines]).output.stdout = "b\n" := by
    decide +kernel
  obtain ⟨-, hprinted, hwarned⟩ := output_of_run (i := lastLogLine) (c := .serverLogs (some 1)) rfl
    rfl nowhere [twoLogLines] plainLogging
  obtain ⟨config, last, shown, hconfig, hlast, hstdout⟩ := hprinted hrun.1
  rw [hrun.2] at hstdout
  have hquiet := hwarned rfl
  rw [(Outcome.exitCode_eq_zero_iff _).mp hrun.1] at hquiet
  exact ⟨hrun.2, ⟨config, last, shown, hconfig, hlast, hstdout⟩, hquiet.eq_nil⟩

/-- The command for all lists, with a token and nothing else given. -/
def everyList : Invocation :=
  ⟨⟨none, none, some "t", none, [], false, false⟩,
    .server (.records .list (.list ⟨none, none, []⟩))⟩

/-- The answer of a server that has no lists. -/
def goneAnswer : Wire.Answer :=
  .reply 404 (Text.utf8 "\x7b\"message\":\"gone\"\x7d".toList)

/-- A refusal of the lists is not only reported on standard error but warned about before. -/
theorem not_only_reported_of_refusal :
    ¬∀ (l : Logging) (i : Invocation) (c : ServerCommand) (s : Surroundings)
      (script : List Wire.Answer), i.command = .server c → i.common.table = false →
      (i.run s script).exitCode ≠ 0 → ∃ r, (i.run s script).failure = some r ∧
        i.standardError l s script =
          Terminal.paint s.color [.red, .bold] "error:" ++ " " ++ r.line ++ "\n" := by
  intro hclaim
  have hrun : (everyList.run nowhere [goneAnswer]).exitCode ≠ 0 ∧
      everyList.standardError plainLogging nowhere [goneAnswer] =
        "2026-01-12T09:00:00.000000Z  WARN request failed operation=\"getLists\" status=404\n" ++
          "error: gone\n" := by
    decide +kernel
  obtain ⟨r, -, hstderr⟩ := hclaim plainLogging everyList _ nowhere [goneAnswer] rfl rfl hrun.1
  -- Already the first characters differ, whatever the report is.
  have hfirst := congrArg (fun text => text.toList.head?) (hrun.2.symm.trans hstderr)
  simp [Terminal.paint, nowhere] at hfirst

end Invocation

end Mailroom
