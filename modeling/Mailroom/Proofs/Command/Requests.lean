import Mailroom.Proofs.Command.Exchanges
import Mailroom.Proofs.Command.Plans

/-!
# The requests of a run

A run sends nothing, one request, or a request that only reads followed by one that changes
something. `Discipline` lists the ways in which messages and failure of a run can go together;
`discipline_of_run` shows that there are no others. So whatever could change something is sent last,
once, and only when everything that can be checked without the server has been accepted and what had
to be read first is there.

A request here is one exchange of the transport, whose answer is the one that stands in the end.
Where the transport follows redirections by itself, more messages leave than requests are made; then
what changes something may leave more than once, but it is still that last request and no other.
-/

namespace Mailroom

open Terminal (Output Writer)

/-! ## Files -/

/-- The file of a call is the file of its request. -/
theorem Call.exists_options_of_file {call : Call} {file : FilePart} (h : call.file? = some file) :
    ∃ options fields, call.options = .ok options ∧
      options.body = some (.multipart ⟨fields, file⟩) := by
  cases call with
  | uploadMedia f =>
    obtain rfl := Option.some.inj h
    exact ⟨_, _, rfl, rfl⟩
  | startImport params f =>
    obtain rfl := Option.some.inj h
    exact ⟨_, _, rfl, rfl⟩
  | _ => cases h

/-- A file is sent only if the kind given for it is a media type. -/
theorem Wire.Sent.isValid_mime {config : Config} {client : Client} {call : Call}
    {request : Request} {m : Wire.Message} (h : Wire.Sent config client call request m)
    (hbase : client.baseOptions = .empty) {file : FilePart} (hfile : call.file? = some file)
    {mime : String} (hmime : file.mime = some mime) : MediaType.isValid mime = true := by
  obtain ⟨options, fields, hoptions, hform⟩ := Call.exists_options_of_file hfile
  obtain ⟨options', hoptions', hprepare⟩ := Outcome.bind_eq_ok_iff.mp h.built
  obtain rfl := Except.ok.inj (hoptions.symm.trans hoptions')
  have hbody : request.body = some (.multipart ⟨fields, file⟩) := by
    rw [(Wire.method_of_prepare hprepare).2, hbase, CallOptions.layered, hform]
    rfl
  have hlegal := (Wire.encode_eq_ok h.written).2
  rw [hbody] at hlegal
  simp only [Wire.illegalBody?, hmime] at hlegal
  split at hlegal
  · assumption
  · cases hlegal

/-! ## Preparation -/

/-- The configuration of a run is what its options and the environment make of it, and it is valid
and can be sent. -/
structure CommonOptions.Configured (o : CommonOptions) (env : Environment) : Prop where
  headers : ∀ field ∈ o.headers, Field.WellFormed field
  config : ∃ config base, o.config env = .ok config ∧ config.validate = .ok base ∧
    Header.firstIllegal? config.requestHeaders = none

theorem CommonOptions.connection_eq_ok {o : CommonOptions} {env : Environment} {x : Connection}
    (h : o.connection env = .ok x) :
    o.Configured env ∧ o.config env = .ok x.config ∧
      Client.build (.standard x.config) = .ok x.client := by
  unfold connection at h
  split at h
  · cases h
  · next config hconfig =>
    split at h
    · cases h
    · next client hbuild =>
      obtain rfl := Except.ok.inj h
      obtain ⟨⟨base, hvalid⟩, hlegal, -, -⟩ := Client.build_eq_ok hbuild
      refine ⟨⟨?_, config, base, hconfig, hvalid, hlegal⟩, hconfig, hbuild⟩
      unfold CommonOptions.config at hconfig
      split at hconfig
      · cases hconfig
      · next overrides hoverrides =>
        obtain ⟨headers, hheaders, -⟩ := Outcome.map_eq_ok_iff.mp hoverrides
        refine Field.wellFormed_of_readAll (fun field e he => ?_) hheaders
        exact ⟨e, Outcome.mapError_eq_ok_iff.mp he⟩

namespace ServerCommand

theorem prepared_eq_ok {c : ServerCommand} {o : CommonOptions} {s : Surroundings} {x : Connection}
    {plan : Plan} (h : c.prepared o s = .ok (x, plan)) :
    o.connection s.environment = .ok x ∧ c.plan (o.writer s.color) s.inputs = .ok plan := by
  unfold prepared at h
  split at h
  · obtain ⟨p, hp, hpair⟩ := Outcome.bind_eq_ok_iff.mp h
    obtain ⟨y, hy, heq⟩ := Outcome.map_eq_ok_iff.mp hpair
    obtain ⟨rfl, rfl⟩ := Prod.mk.inj heq
    exact ⟨hy, hp⟩
  · obtain ⟨y, hy, hpair⟩ := Outcome.bind_eq_ok_iff.mp h
    obtain ⟨p, hp, heq⟩ := Outcome.map_eq_ok_iff.mp hpair
    obtain ⟨rfl, rfl⟩ := Prod.mk.inj heq
    exact ⟨hy, hp⟩

/-- Nothing is sent before a run is prepared, and then its plan is carried out. -/
theorem run_cases (c : ServerCommand) (o : CommonOptions) (s : Surroundings)
    (script : List Wire.Answer) :
    (∃ r, c.run o s script = .failed (o.writer s.color) r []) ∨
    ∃ x plan result sent, c.prepared o s = .ok (x, plan) ∧
      Carried x.config x.client script plan result sent ∧
      c.run o s script = .of (o.writer s.color) result sent := by
  unfold run
  cases hprepared : c.prepared o s with
  | error r => exact Or.inl ⟨r, rfl⟩
  | ok pair =>
    obtain ⟨x, plan⟩ := pair
    exact Or.inr ⟨x, plan, _, _, rfl, Client.carried_of_carryOut rfl, rfl⟩

end ServerCommand

/-! ## The ways of a run -/

/-- The failure of a result. -/
def Report.ofResult? {α : Type} (result : Except Report α) : Option Report :=
  match result with
  | .error r => some r
  | .ok _ => none

/-- The answer is a success with a payload that fits an endpoint. -/
def Endpoint.Answered (e : Endpoint) (answer : Wire.Answer) : Prop :=
  ∃ x : Exchange, Wire.decode answer = .ok x.response ∧ x.isSuccess = true ∧
    ∃ payload : e.Payload, Model.decode x.unwrapped.data = .ok payload

namespace ServerCommand

/-- What a command reads first, if it does: the campaign that is rendered, or the settings. -/
def firstEndpoint (c : ServerCommand) : Endpoint :=
  match c with
  | previewCampaign _ _ _ => .common .campaign .getById
  | _ => .getSettings

theorem firstEndpoint_mem (c : ServerCommand) :
    c.firstEndpoint ∈ [Endpoint.getSettings, .health, .common .campaign .getById] := by
  unfold firstEndpoint
  split <;> decide

/-- A command that reads first uploads nothing. -/
theorem upload?_eq_none_of_readsFirst {c : ServerCommand} (h : c.readsFirst = true) :
    c.upload? = none := by
  cases c with
  | uploadMedia _ _ => cases h
  | startImport _ _ => cases h
  | _ => rfl

/-- The configuration of a run and the arguments and inputs of its command can be used. -/
structure Ready (c : ServerCommand) (o : CommonOptions) (s : Surroundings) : Prop where
  configured : o.Configured s.environment
  accepted : c.Accepted s.inputs
  mime : ∀ path mime, c.upload? = some (path, some mime) → MediaType.isValid mime = true

/-- How the messages and the failure of a run go together. -/
inductive Discipline (c : ServerCommand) (o : CommonOptions) (s : Surroundings)
    (script : List Wire.Answer) : List Wire.Message → Option Report → Prop where
  | silent (failure : Option Report) : Discipline c o s script [] failure
  | reading {g : Wire.Message} (get : g.method = .get) (failure : Option Report) :
      Discipline c o s script [g] failure
  | single {m : Wire.Message} {failure : Option Report} (reads : c.readsFirst = false)
      (ready : c.Ready o s) (notLocal : ∀ r, failure = some r → ¬r.IsLocal) :
      Discipline c o s script [m] failure
  | changing {g m : Wire.Message} {failure : Option Report} (reads : c.readsFirst = true)
      (ready : c.Ready o s) (get : g.method = .get) (change : m.method ≠ .get)
      (first : c.firstEndpoint.Answered (Wire.answerAt script 0))
      (notLocal : ∀ r, failure = some r → ¬r.IsLocal) : Discipline c o s script [g, m] failure

end ServerCommand

/-- The methods of the endpoints that a run may use besides those of commands with a single call. -/
theorem Endpoint.method_of_reading :
    (∀ e ∈ [Endpoint.getSettings, .health, .common .campaign .getById],
      (Catalog.table.get? e.operationName).map Operation.method = some .get) ∧
    (Catalog.table.get? Endpoint.renderCampaignText.operationName).map Operation.method =
      some .post ∧
    (Catalog.table.get? Endpoint.replaceSettings.operationName).map Operation.method =
      some .put := by
  decide +kernel

section

variable {config : Config} {client : Client} {script : List Wire.Answer}
  (hbuild : Client.build (.standard config) = .ok client)
include hbuild

/-- A message for settings, the state of the server or a stored campaign only reads. -/
theorem Wire.Sent.method_eq_get {call : Call} {request : Request} {m : Wire.Message}
    (h : Wire.Sent config client call request m)
    (hcall : call.endpoint ∈ [Endpoint.getSettings, .health, .common .campaign .getById]) :
    m.method = .get := by
  rw [h.method]
  exact Client.method_bound hbuild (Endpoint.method_of_reading.1 _ hcall)

/-- A message for the rendering of given content or for new settings does not only read. -/
theorem Wire.Sent.method_ne_get {call : Call} {request : Request} {m : Wire.Message}
    (h : Wire.Sent config client call request m)
    (hcall : call.endpoint = .renderCampaignText ∨ call.endpoint = .replaceSettings) :
    m.method ≠ .get := by
  rw [h.method]
  rcases hcall with hcall | hcall
  · rw [hcall, Client.method_bound hbuild Endpoint.method_of_reading.2.1]
    decide
  · rw [hcall, Client.method_bound hbuild Endpoint.method_of_reading.2.2]
    decide

end

/-- What is read of a payload that fits. -/
theorem Envelope.decode_eq_ok {α : Type} {item : Decoder α} {e : Envelope Json} {v : Envelope α}
    (h : e.decode item = .ok v) :
    ∃ payload, item e.data = .ok payload ∧ v = e.withData payload := by
  unfold decode at h
  split at h
  · next payload hpayload => exact ⟨payload, hpayload, (Except.ok.inj h).symm⟩
  · cases h

/-- A call that was answered has sent a message, and its endpoint is answered. -/
theorem Asked.answered_of_ok {config : Config} {client : Client} {script : List Wire.Answer}
    {before sent : List Wire.Message} {call : Call} {e : Envelope call.endpoint.Payload}
    (h : Asked config client script before call (.ok e) sent) :
    ∃ request m, sent = before ++ [m] ∧ Wire.Sent config client call request m ∧
      call.endpoint.Answered (Wire.answerAt script before.length) := by
  cases h with
  | @answered request m raw _ hsent hanswer hsuccess hfits =>
    obtain ⟨payload, hpayload, -⟩ := Envelope.decode_eq_ok hfits
    exact ⟨request, m, rfl, hsent, ⟨request.info, raw⟩, hanswer, hsuccess, payload, hpayload⟩

namespace ServerCommand

section

variable {c : ServerCommand} {o : CommonOptions} {s : Surroundings} {script : List Wire.Answer}
  {x : Connection} {w : Writer} (hconnection : o.connection s.environment = .ok x)
include hconnection

/-- A step that comes first sends its message only if the command was ready. -/
theorem Discipline.of_asked {call : Call} (reads : c.readsFirst = false)
    (accepted : c.Accepted s.inputs)
    (uploads : ∀ path mime, c.upload? = some (path, mime) →
      ∃ file, call.file? = some file ∧ file.mime = mime)
    {result : Except Report (Envelope call.endpoint.Payload)} {sent : List Wire.Message}
    (h : Asked x.config x.client script [] call result sent) :
    Discipline c o s script sent (Report.ofResult? result) := by
  obtain ⟨hconfigured, -, hbuild⟩ := CommonOptions.connection_eq_ok hconnection
  obtain ⟨-, -, hbase, -⟩ := Client.build_eq_ok hbuild
  have hready : ∀ {request m}, Wire.Sent x.config x.client call request m → c.Ready o s := by
    intro request m hsent
    refine ⟨hconfigured, accepted, fun path mime hupload => ?_⟩
    obtain ⟨file, hfile, hmime⟩ := uploads path (some mime) hupload
    exact hsent.isValid_mime hbase hfile hmime
  cases h with
  | unsent _ => exact .silent _
  | refused hsent hlocal =>
    exact .single reads (hready hsent) fun r hr => Option.some.inj hr ▸ hlocal
  | answered hsent _ _ _ => exact .single reads (hready hsent) fun _ => nofun

theorem Discipline.of_asked_first {call : Call} (hcall : call.endpoint = c.firstEndpoint)
    {result : Except Report (Envelope call.endpoint.Payload)} {sent : List Wire.Message}
    (h : Asked x.config x.client script [] call result sent) (failure : Option Report) :
    Discipline c o s script sent failure := by
  obtain ⟨-, -, hbuild⟩ := CommonOptions.connection_eq_ok hconnection
  have hreading := hcall ▸ c.firstEndpoint_mem
  cases h with
  | unsent _ => exact .silent _
  | refused hsent _ => exact .reading (hsent.method_eq_get hbuild hreading) _
  | answered hsent _ _ _ => exact .reading (hsent.method_eq_get hbuild hreading) _

/-- A step that follows a reading changes something only if the command was ready. -/
theorem Discipline.of_afterReading {call : Call} {note : Option String}
    {next : Envelope call.endpoint.Payload → Except Report Step} (reads : c.readsFirst = true)
    (hcall : call.endpoint = c.firstEndpoint)
    (hnext : ∀ e step, next e = .ok step → c.Accepted s.inputs ∧
      (step.call.endpoint = .renderCampaignText ∨ step.call.endpoint = .replaceSettings) ∧
      ∀ answer, ∃ output, step.display answer = .ok output)
    {result : Except Report Output} {sent : List Wire.Message}
    (h : Carried x.config x.client script (.afterReading call note next) result sent) :
    Discipline c o s script sent (Report.ofResult? result) := by
  obtain ⟨hconfigured, -, hbuild⟩ := CommonOptions.connection_eq_ok hconnection
  cases h with
  | unread hasked => exact .of_asked_first hconnection hcall hasked _
  | stopped hasked _ => exact .of_asked_first hconnection hcall hasked _
  | continued hasked hgo hshown =>
    obtain ⟨haccepted, hendpoint, hdisplay⟩ := hnext _ _ hgo
    obtain ⟨request, g, rfl, hsent, hfirst⟩ := hasked.answered_of_ok
    have hget := hsent.method_eq_get hbuild (hcall ▸ c.firstEndpoint_mem)
    have hready : c.Ready o s := by
      refine ⟨hconfigured, haccepted, fun path mime hupload => ?_⟩
      rw [upload?_eq_none_of_readsFirst reads] at hupload
      cases hupload
    rw [hcall] at hfirst
    cases hshown with
    | failed hasked =>
      cases hasked with
      | unsent _ => exact .reading hget _
      | refused hsent hlocal =>
        exact .changing reads hready hget (hsent.method_ne_get hbuild hendpoint) hfirst
          fun r hr => Option.some.inj hr ▸ hlocal
    | displayed hasked =>
      obtain ⟨request', m, rfl, hsent, -⟩ := hasked.answered_of_ok
      obtain ⟨output, houtput⟩ := hdisplay _
      rw [houtput]
      exact .changing reads hready hget (hsent.method_ne_get hbuild hendpoint) hfirst
        fun _ => nofun

/-- A command with a single call that only reads and that has no arguments. -/
theorem Discipline.of_reading {step : Step} (reads : c.readsFirst = false)
    (accepted : c.Accepted s.inputs) (uploads : c.upload? = none)
    (hcall : step.call.endpoint ∈ [Endpoint.getSettings, .health, .common .campaign .getById])
    {result : Except Report Output} {sent : List Wire.Message}
    (h : Carried x.config x.client script (.once step) result sent) :
    Discipline c o s script sent (Report.ofResult? result) := by
  obtain ⟨-, -, hbuild⟩ := CommonOptions.connection_eq_ok hconnection
  cases h with
  | once hshown =>
    cases hshown with
    | failed hasked =>
      refine .of_asked hconnection reads accepted (fun path mime hupload => ?_) hasked
      rw [uploads] at hupload
      cases hupload
    | displayed hasked =>
      obtain ⟨request, m, rfl, hsent, -⟩ := hasked.answered_of_ok
      exact .reading (hsent.method_eq_get hbuild hcall) _

/-- Carrying out the plan of a command is disciplined. -/
theorem Discipline.of_carried {plan : Plan} (hplan : c.plan w s.inputs = .ok plan)
    {result : Except Report Output} {sent : List Wire.Message}
    (h : Carried x.config x.client script plan result sent) :
    Discipline c o s script sent (Report.ofResult? result) := by
  cases planned_of_plan hplan with
  | showing reads _ _ uploads =>
    have haccepted : c.Accepted s.inputs := by
      refine accepted_of_plan hplan fun b hb => ?_
      rw [hb] at reads
      cases reads
    cases h with
    | once hshown =>
      cases hshown with
      | failed hasked => exact .of_asked hconnection reads haccepted uploads hasked
      | displayed hasked => exact .of_asked hconnection reads haccepted uploads hasked
  -- Here showing the answer can fail for a local reason, but nothing was changed.
  | setting key hc =>
    subst hc
    exact .of_reading hconnection rfl (.of_none rfl rfl rfl) rfl (by simp [Call.endpoint]) h
  | checking hc =>
    subst hc
    exact .of_reading hconnection rfl (.of_none rfl rfl rfl) rfl (by simp [Call.endpoint]) h
  | rendering hc reads _ =>
    subst hc
    refine .of_afterReading hconnection reads rfl (fun e step hstep => ?_) h
    obtain rfl := Except.ok.inj hstep
    exact ⟨accepted_of_plan hplan (fun _ => nofun), Or.inl rfl, fun answer => ⟨_, rfl⟩⟩
  | updating hc =>
    subst hc
    refine .of_afterReading hconnection rfl rfl (fun e step hstep => ?_) h
    obtain ⟨settings, hsettings, rfl⟩ := Outcome.map_eq_ok_iff.mp hstep
    exact ⟨accepted_of_settings hsettings, Or.inr rfl, fun answer => ⟨_, rfl⟩⟩

end

namespace Discipline

variable {c : ServerCommand} {o : CommonOptions} {s : Surroundings} {script : List Wire.Answer}
  {sent : List Wire.Message} {failure : Option Report}

/-- There are at most two requests, and two only where something is read before a change. -/
theorem shape (h : Discipline c o s script sent failure) :
    sent = [] ∨ (∃ m, sent = [m]) ∨
      ∃ g m, sent = [g, m] ∧ g.method = .get ∧ m.method ≠ .get ∧ c.readsFirst = true := by
  cases h with
  | silent _ => exact Or.inl rfl
  | reading _ _ => exact Or.inr (Or.inl ⟨_, rfl⟩)
  | single _ _ _ => exact Or.inr (Or.inl ⟨_, rfl⟩)
  | changing reads _ get change _ _ => exact Or.inr (Or.inr ⟨_, _, rfl, get, change, reads⟩)

/-- A request that does not only read comes last, after what had to be read was there, and from a
command that was ready. -/
theorem last (h : Discipline c o s script sent failure) {before after : List Wire.Message}
    {m : Wire.Message} (hsent : sent = before ++ m :: after) (hm : m.method ≠ .get) :
    after = [] ∧ (∀ g ∈ before, g.method = .get) ∧ c.Ready o s ∧
      (c.readsFirst = true →
        before.length = 1 ∧ c.firstEndpoint.Answered (Wire.answerAt script 0)) := by
  cases h with
  | silent _ => simp at hsent
  | reading get _ =>
    obtain ⟨rfl, hsplit⟩ | ⟨-, hsplit⟩ := List.singleton_eq_append_iff.mp hsent
    · obtain ⟨rfl, rfl⟩ := List.cons.inj hsplit
      exact absurd get hm
    · cases hsplit
  | single reads ready _ =>
    obtain ⟨rfl, hsplit⟩ | ⟨-, hsplit⟩ := List.singleton_eq_append_iff.mp hsent
    · obtain ⟨rfl, rfl⟩ := List.cons.inj hsplit
      refine ⟨rfl, by simp, ready, fun hreads => ?_⟩
      rw [reads] at hreads
      cases hreads
    · cases hsplit
  | changing _ ready get _ first _ =>
    -- The message is not the first one, for that one reads.
    cases before with
    | nil =>
      obtain ⟨rfl, -⟩ := List.cons.inj hsent
      exact absurd get hm
    | cons g others =>
      obtain ⟨rfl, hrest⟩ := List.cons.inj hsent
      obtain ⟨rfl, hsplit⟩ | ⟨-, hsplit⟩ := List.singleton_eq_append_iff.mp hrest
      · obtain ⟨rfl, rfl⟩ := List.cons.inj hsplit
        exact ⟨rfl, by simpa using get, ready, fun _ => ⟨rfl, first⟩⟩
      · cases hsplit

/-- A run that fails for a local reason has only read. -/
theorem get_of_isLocal (h : Discipline c o s script sent failure) {r : Report}
    (hr : failure = some r) (hlocal : r.IsLocal) : ∀ m ∈ sent, m.method = .get := by
  cases h with
  | silent _ => simp
  | reading get _ => simpa using get
  | single _ _ notLocal => exact absurd hlocal (notLocal r hr)
  | changing _ _ _ _ _ notLocal => exact absurd hlocal (notLocal r hr)

/-- A run whose first reading does not succeed has only read. -/
theorem get_of_not_answered (h : Discipline c o s script sent failure)
    (hreads : c.readsFirst = true)
    (hfirst : ¬c.firstEndpoint.Answered (Wire.answerAt script 0)) :
    ∀ m ∈ sent, m.method = .get := by
  cases h with
  | silent _ => simp
  | reading get _ => simpa using get
  | single reads _ _ =>
    rw [hreads] at reads
    cases reads
  | changing _ _ _ _ first _ => exact absurd first hfirst

end Discipline

/-- Every run of a command is disciplined. -/
theorem discipline_of_run (c : ServerCommand) (o : CommonOptions) (s : Surroundings)
    (script : List Wire.Answer) :
    Discipline c o s script (c.run o s script).sent (c.run o s script).failure := by
  rcases c.run_cases o s script with ⟨r, hrun⟩ | ⟨x, plan, result, sent, hprepared, hcarried, hrun⟩
  · rw [hrun]
    exact .silent _
  · obtain ⟨hconnection, hplan⟩ := prepared_eq_ok hprepared
    have hdiscipline := Discipline.of_carried hconnection hplan hcarried
    rw [hrun]
    cases result with
    | error r => exact hdiscipline
    | ok output => exact hdiscipline

end ServerCommand

namespace Invocation

/-- Only a command that talks to the server sends anything, and it is disciplined. -/
theorem discipline_of_run (i : Invocation) (s : Surroundings) (script : List Wire.Answer) :
    (i.run s script).sent = [] ∨ ∃ c, i.command = .server c ∧
      ServerCommand.Discipline c i.common s script (i.run s script).sent
        (i.run s script).failure := by
  unfold run
  cases i.command with
  | server c => exact Or.inr ⟨c, rfl, c.discipline_of_run i.common s script⟩
  | completion shell => exact Or.inl rfl
  | version => exact Or.inl rfl

section

variable {i : Invocation} {s : Surroundings} {script : List Wire.Answer}

/-- The discipline of a run of a command that talks to the server. -/
theorem discipline_of_command {c : ServerCommand} (hc : i.command = .server c) :
    c.Discipline i.common s script (i.run s script).sent (i.run s script).failure := by
  rw [run, hc]
  exact c.discipline_of_run i.common s script

theorem last_of_run {before after : List Wire.Message} {m : Wire.Message}
    (hsent : (i.run s script).sent = before ++ m :: after) (hm : m.method ≠ .get) :
    after = [] ∧ (∀ g ∈ before, g.method = .get) ∧
      ∃ c, i.command = .server c ∧ c.Ready i.common s ∧
        (c.readsFirst = true →
          before.length = 1 ∧ c.firstEndpoint.Answered (Wire.answerAt script 0)) := by
  rcases i.discipline_of_run s script with hnone | ⟨c, hc, h⟩
  · rw [hnone] at hsent
    exact absurd hsent.symm (by simp)
  · obtain ⟨hafter, hbefore, hready, hfirst⟩ := h.last hsent hm
    exact ⟨hafter, hbefore, c, hc, hready, hfirst⟩

theorem get_of_isLocal {r : Report} (hr : (i.run s script).failure = some r) (hlocal : r.IsLocal) :
    ∀ m ∈ (i.run s script).sent, m.method = .get := by
  rcases i.discipline_of_run s script with hnone | ⟨c, -, h⟩
  · rw [hnone]
    exact List.forall_mem_nil _
  · exact h.get_of_isLocal hr hlocal

end

/-- A run sends nothing, one request, or a request that reads followed by one that does not, the
latter only for commands that read first. A request that does not only read is the last and the only
one of its kind. It is sent only if the configuration, the arguments and the inputs were accepted,
and what the command reads first, if it does, was answered by a success that fits. So neither a
failure for a local reason nor one of a first reading leaves anything but readings behind. The
transport adds nothing where it follows no redirection; otherwise what leaves either only reads or
has the method and the body of that last request. -/
theorem requests_of_run (i : Invocation) (s : Surroundings) (script : List Wire.Answer) :
    ((i.run s script).sent = [] ∨ (∃ m, (i.run s script).sent = [m]) ∨
      ∃ g m, (i.run s script).sent = [g, m] ∧ g.method = .get ∧ m.method ≠ .get ∧
        ∃ c, i.command = .server c ∧ c.readsFirst = true) ∧
    (∀ before m after, (i.run s script).sent = before ++ m :: after → m.method ≠ .get →
      after = [] ∧ (∀ g ∈ before, g.method = .get) ∧
      ∃ c, i.command = .server c ∧ c.Ready i.common s ∧
        (c.readsFirst = true →
          before.length = 1 ∧ c.firstEndpoint.Answered (Wire.answerAt script 0))) ∧
    (∀ r, (i.run s script).failure = some r → r.IsLocal →
      ∀ m ∈ (i.run s script).sent, m.method = .get) ∧
    (∀ c, i.command = .server c → c.readsFirst = true →
      ¬c.firstEndpoint.Answered (Wire.answerAt script 0) →
      ∀ m ∈ (i.run s script).sent, m.method = .get) ∧
    ∀ r : Wire.Redirection, let traffic := r.traffic script (i.run s script).sent
      ((∀ answer ∈ script, ¬answer.IsRedirected) → traffic = (i.run s script).sent) ∧
      (∀ n ∈ traffic, n.method ≠ .get → ∃ before m, (i.run s script).sent = before ++ [m] ∧
        m.method = n.method ∧ m.body = n.body) ∧
      (∀ r, (i.run s script).failure = some r → r.IsLocal → ∀ n ∈ traffic, n.method = .get) ∧
      ∀ c, i.command = .server c → c.readsFirst = true →
        ¬c.firstEndpoint.Answered (Wire.answerAt script 0) → ∀ n ∈ traffic, n.method = .get := by
  have hunread : ∀ c, i.command = .server c → c.readsFirst = true →
      ¬c.firstEndpoint.Answered (Wire.answerAt script 0) →
      ∀ m ∈ (i.run s script).sent, m.method = .get :=
    fun c hc hreads hfirst => (discipline_of_command hc).get_of_not_answered hreads hfirst
  refine ⟨?_, fun before m after hsent hm => last_of_run hsent hm,
    fun r hr hlocal => get_of_isLocal hr hlocal, hunread, fun r => ⟨?_, fun n hn hchange => ?_,
      fun failure hr hlocal n hn => ?_, fun c hc hreads hfirst n hn => ?_⟩⟩
  · rcases i.discipline_of_run s script with hnone | ⟨c, hc, h⟩
    · exact Or.inl hnone
    rcases h.shape with hsent | hsent | ⟨g, m, hsent, hget, hchange, hreads⟩
    · exact Or.inl hsent
    · exact Or.inr (Or.inl hsent)
    · exact Or.inr (Or.inr ⟨g, m, hsent, hget, hchange, c, hc, hreads⟩)
  · exact Wire.Redirection.traffic_of_not_isRedirected
  · obtain ⟨before, m, after, hsent, hmethod, hbody⟩ :=
      Wire.Redirection.exists_repeated_of_mem_traffic hn hchange
    obtain ⟨rfl, -⟩ := last_of_run hsent (hmethod ▸ hchange)
    exact ⟨before, m, hsent, hmethod, hbody⟩
  · exact Wire.Redirection.get_of_mem_traffic (get_of_isLocal hr hlocal) hn
  · exact Wire.Redirection.get_of_mem_traffic (hunread c hc hreads hfirst) hn

/-- A place without any variables and files. -/
def nowhere : Surroundings :=
  ⟨[], ⟨fun _ => .error .notFound, []⟩, false⟩

/-- A change of settings reads what they are and replaces them. -/
example :
    ((Invocation.mk ⟨none, none, some "t", none, [], false, false⟩
      (.server (.updateSettings ⟨["app.lang=de"], [], none⟩))).run nowhere
        [.reply 200 (Text.utf8 "\x7b\"data\":\x7b\"app.lang\":\"en\"\x7d\x7d".toList)]).sent.map
      (·.method) = [.get, .put] := by
  decide +kernel

/-- The command that deletes a list, with a token and nothing else given. -/
def listDeletion : Invocation :=
  ⟨⟨none, none, some "t", none, [], false, false⟩, .server (.records .list (.delete 1))⟩

/-- The answer of a server that sends on to another list and deletes that. -/
def movedAnswer : Wire.Answer :=
  .redirected 307 "http://localhost:9000/api/lists/2"
    (.reply 200 (Text.utf8 "\x7b\"data\":true\x7d".toList))

/-- A transport that follows redirections to places written out in full, on one host: it sends the
message again where the status asks for that, and else reads. -/
def usualRedirection : Wire.Redirection where
  follow m status location :=
    let headers := Wire.addHeader (m.headers.filter fun e => e.1 ≠ "referer") "referer" m.url
    if status = 307 ∨ status = 308 then ⟨m.method, location, headers, m.body⟩
    else ⟨.get, location, headers.filter fun e => e.1 ≠ "content-type", none⟩
  again_or_get m status location := by
    by_cases h : status = 307 ∨ status = 308
    · simp [h]
    · simp [h]

/-- The deletion makes one request. -/
theorem exists_sent_listDeletion :
    ∃ m, (listDeletion.run nowhere [movedAnswer]).sent = [m] ∧ m.method = .delete := by
  have hmethods : (listDeletion.run nowhere [movedAnswer]).sent.map (·.method) = [.delete] := by
    decide +kernel
  exact List.map_eq_singleton_iff.mp hmethods

/-- What leaves for a deletion that is redirected has the method and the body of the deletion. -/
theorem requests_of_run_moved : ∃ m, (listDeletion.run nowhere [movedAnswer]).sent = [m] ∧
    ∀ n ∈ usualRedirection.traffic [movedAnswer] (listDeletion.run nowhere [movedAnswer]).sent,
      n.method ≠ .get → m.method = n.method ∧ m.body = n.body := by
  obtain ⟨-, -, -, -, htraffic⟩ := requests_of_run listDeletion nowhere [movedAnswer]
  obtain ⟨m, hsent, -⟩ := exists_sent_listDeletion
  refine ⟨m, hsent, fun n hn hchange => ?_⟩
  obtain ⟨before, m', hlast, hsame⟩ := (htraffic usualRedirection).2.1 n hn hchange
  rw [hsent] at hlast
  obtain ⟨-, hm⟩ | ⟨-, hnil⟩ := List.singleton_eq_append_iff.mp hlast
  · obtain rfl := (List.cons.inj hm).1
    exact hsame
  · cases hnil

/-- A deletion that is redirected leaves twice. -/
theorem not_single_of_redirection :
    ¬∀ (r : Wire.Redirection) (i : Invocation) (s : Surroundings) (script : List Wire.Answer),
      ((r.traffic script (i.run s script).sent).filter fun n => n.method ≠ .get).length ≤ 1 := by
  intro hclaim
  have hsingle := hclaim usualRedirection listDeletion nowhere [movedAnswer]
  obtain ⟨m, hsent, hm⟩ := exists_sent_listDeletion
  rw [hsent] at hsingle
  have hagain : (usualRedirection.follow m 307 "http://localhost:9000/api/lists/2").method =
      .delete := hm
  have htraffic : usualRedirection.traffic [movedAnswer] [m] =
      [m, usualRedirection.follow m 307 "http://localhost:9000/api/lists/2"] := rfl
  rw [htraffic] at hsingle
  simp [hm, hagain] at hsingle

end Invocation

end Mailroom
