import Mailroom.Command.Log
import Mailroom.Proofs.Client.Readiness
import Mailroom.Proofs.Client.Secrecy
import Mailroom.Proofs.Command.Exchanges
import Mailroom.Proofs.CommandLine.Secrecy
import Mailroom.Proofs.Config.Layers

/-!
# Runs that differ in their token

A run gets its token from an option or from the environment. Where two runs differ in that alone,
they come to configurations that differ in the token alone, so to the same client, and the same is
asked of the server, answered, shown, logged and reported (`agree_of_usableTokens`).
-/

namespace Mailroom

open Terminal (Output Writer)
open Outcome (Agree)

/-! ## Configurations -/

/-- Two environments set the same variables to the same values, one variable aside. -/
def Environment.SameBut (name : String) (env env' : Environment) : Prop :=
  ∀ other, other ≠ name → Dict.find? env other = Dict.find? env' other

namespace Environment

variable {name : String} {env env' : Environment}

theorem SameBut.get?_eq (h : SameBut name env env') (other : String) (hother : other ≠ name) :
    env.get? other = env'.get? other := by
  rw [get?, get?, h other hother]

theorem SameBut.number?_eq (h : SameBut name env env') (other : String) (hother : other ≠ name)
    (bound : Nat) : env.number? other bound = env'.number? other bound := by
  rw [number?, number?, h.get?_eq other hother]

theorem SameBut.headers_eq (h : SameBut name env env') (hname : headersName ≠ name) :
    env.headers = env'.headers := by
  rw [headers, headers, h.get?_eq headersName hname]

end Environment

/-- What a caller gives, with another token. -/
def Overrides.withToken (o : Overrides) (token : Option String) : Overrides :=
  { o with token := token }

namespace Config

variable {given given' : Option String} {env env' : Environment} {token token' : String}

/-- Two configurations have these tokens and are the same otherwise. -/
def Twins (token token' : String) (c c' : Config) : Prop :=
  ∃ base : Config, c = base.withToken token ∧ c' = base.withToken token'

/-- Resolutions that differ in the token alone fail in the same way or come to configurations that
differ in the token alone. -/
theorem agree_resolve (overrides : Overrides)
    (henv : Environment.SameBut Environment.tokenName env env')
    (ht : FirstGiven "" [given, Dict.find? env Environment.tokenName] token)
    (ht' : FirstGiven "" [given', Dict.find? env' Environment.tokenName] token') :
    Agree (Twins token token') (resolve (overrides.withToken given) env)
      (resolve (overrides.withToken given') env') := by
  have htoken := (firstGiven_of_variable given env Environment.tokenName "").unique ht
  have htoken' := (firstGiven_of_variable given' env' Environment.tokenName "").unique ht'
  unfold resolve
  rw [henv.number?_eq Environment.timeoutName (by decide),
    henv.number?_eq Environment.retriesName (by decide), henv.headers_eq (by decide)]
  split
  · exact .error _
  split
  · exact .error _
  split
  · exact .error _
  · dsimp only
    rw [henv.get?_eq Environment.baseUrlName (by decide),
      henv.get?_eq Environment.usernameName (by decide),
      show (firstGiven? [(overrides.withToken given).token, _]).getD builtin.token = token
        from htoken,
      show (firstGiven? [(overrides.withToken given').token, _]).getD builtin.token = token'
        from htoken']
    exact .ok ⟨⟨_, _, "", _, _, _⟩, rfl, rfl⟩

end Config

/-! ## Connections -/

/-- Two connections have the same client, and configurations that differ in the token alone. -/
structure Connection.Twins (token token' : String) (x x' : Connection) : Prop where
  config : Config.Twins token token' x.config x'.config
  client : x.client = x'.client

section Connections

variable {given given' : Option String} {env env' : Environment} {token token' : String}

theorem CommonOptions.overrides_withToken (o : CommonOptions) (given : Option String) :
    (o.withToken given).overrides = o.overrides.map (Overrides.withToken · given) := by
  unfold overrides
  change (Field.readAll header o.headers).map _ = _
  cases Field.readAll header o.headers <;> rfl

variable (henv : Environment.SameBut Environment.tokenName env env')
  (ht : Config.FirstGiven "" [given, Dict.find? env Environment.tokenName] token)
  (ht' : Config.FirstGiven "" [given', Dict.find? env' Environment.tokenName] token')
include henv ht ht'

theorem CommonOptions.agree_config (o : CommonOptions) :
    Agree (Config.Twins token token') ((o.withToken given).config env)
      ((o.withToken given').config env') := by
  unfold config
  rw [overrides_withToken, overrides_withToken]
  cases o.overrides with
  | error e => exact .error e
  | ok overrides => exact (Config.agree_resolve overrides henv ht ht').mapError _

variable (hu : Config.UsableToken token) (hu' : Config.UsableToken token')
include hu hu'

/-- Runs that differ in the token alone have no connection for the same reason, or the same client.
-/
theorem CommonOptions.agree_connection (o : CommonOptions) :
    Agree (Connection.Twins token token') ((o.withToken given).connection env)
      ((o.withToken given').connection env') := by
  have hconfig := o.agree_config henv ht ht'
  unfold connection
  generalize (o.withToken given).config env = x at hconfig
  generalize (o.withToken given').config env' = x' at hconfig
  cases hconfig with
  | error e => exact .error e
  | ok htwins =>
    obtain ⟨base, rfl, rfl⟩ := htwins
    have hbuild := Client.build_withToken hu hu' (.standard base)
    rw [ClientSetup.withToken_standard, ClientSetup.withToken_standard] at hbuild
    simp only [hbuild]
    cases Client.build (.standard (base.withToken token')) with
    | error e => exact .error (Report.ofApi e)
    | ok client => exact .ok ⟨⟨base, rfl, rfl⟩, rfl⟩

theorem ServerCommand.agree_prepared (c : ServerCommand) (o : CommonOptions) (inputs : Inputs)
    (color : Bool) :
    Agree (fun p p' => Connection.Twins token token' p.1 p'.1 ∧ p.2 = p'.2)
      (c.prepared (o.withToken given) ⟨env, inputs, color⟩)
      (c.prepared (o.withToken given') ⟨env', inputs, color⟩) := by
  have hconnection := o.agree_connection henv ht ht' hu hu'
  have hplan : Agree (· = ·) (c.plan ((o.withToken given).writer color) inputs)
      (c.plan ((o.withToken given').writer color) inputs) := .of_eq rfl
  unfold prepared
  split
  · exact hplan.bind fun p p' hp => hconnection.map fun x x' hx => ⟨hx, hp⟩
  · exact hconnection.bind fun x x' hx => hplan.map fun p p' hp => ⟨hx, hp⟩

/-- Connections that differ in the token alone are logged alike. -/
theorem CommonOptions.connectionEvents_eq (o : CommonOptions) :
    (o.withToken given).connectionEvents env = (o.withToken given').connectionEvents env' := by
  have hconfig := o.agree_config henv ht ht'
  unfold connectionEvents
  generalize (o.withToken given).config env = x at hconfig
  generalize (o.withToken given').config env' = x' at hconfig
  cases hconfig with
  | error e => rfl
  | ok htwins =>
    obtain ⟨base, rfl, rfl⟩ := htwins
    have hlegal : Client.illegalHeader? (.standard (base.withToken token)) =
        Client.illegalHeader? (.standard (base.withToken token')) :=
      Config.firstIllegal?_withToken hu hu' base
    simp only [Config.validate_withToken hu hu' base, hlegal]
    rfl

theorem ServerCommand.preparedEvents_eq (c : ServerCommand) (o : CommonOptions) (inputs : Inputs)
    (color : Bool) :
    c.preparedEvents (o.withToken given) ⟨env, inputs, color⟩ =
      c.preparedEvents (o.withToken given') ⟨env', inputs, color⟩ := by
  have hconnecting : c.connectingEvents (o.withToken given) env =
      c.connectingEvents (o.withToken given') env' := by
    have hconnection := o.agree_connection henv ht ht' hu hu'
    unfold connectingEvents
    rw [o.connectionEvents_eq henv ht ht' hu hu']
    generalize (o.withToken given).connection env = x at hconnection
    generalize (o.withToken given').connection env' = x' at hconnection
    cases hconnection <;> rfl
  unfold preparedEvents
  rw [hconnecting]
  rfl

end Connections

/-! ## Plans -/

namespace Client


variable {config config' : Config} {s : Session (Wire.channel config)}
  {s' : Session (Wire.channel config')}

theorem alike_ask (hwrites : Wire.WritesAlike config config') (h : s.Alike s') (client : Client)
    (call : Call) (note : Option String) :
    (client.ask s call note).1 = (client.ask s' call note).1 ∧
      (client.ask s call note).2.Alike (client.ask s' call note).2 := by
  obtain ⟨hresult, hnext⟩ := alike_perform hwrites h client call
  rw [ask_eq_perform, ask_eq_perform, hresult]
  exact ⟨rfl, hnext⟩

theorem alike_carryOutStep (hwrites : Wire.WritesAlike config config') (h : s.Alike s')
    (client : Client) (step : Step) :
    (client.carryOutStep s step).1 = (client.carryOutStep s' step).1 ∧
      (client.carryOutStep s step).2.Alike (client.carryOutStep s' step).2 := by
  obtain ⟨hresult, hnext⟩ := alike_ask hwrites h client step.call step.refusalNote
  rw [carryOutStep_eq_ask, carryOutStep_eq_ask, hresult]
  exact ⟨rfl, hnext⟩

/-- A plan that is carried out over sessions that are alike comes out the same. -/
theorem alike_carryOut (hwrites : Wire.WritesAlike config config') (h : s.Alike s')
    (client : Client) (plan : Plan) :
    (client.carryOut s plan).1 = (client.carryOut s' plan).1 ∧
      (client.carryOut s plan).2.Alike (client.carryOut s' plan).2 := by
  cases plan with
  | once step => exact alike_carryOutStep hwrites h client step
  | afterReading call note next =>
    obtain ⟨hresult, hafter⟩ := alike_ask hwrites h client call note
    rw [carryOut_afterReading, carryOut_afterReading, hresult]
    cases (client.ask s' call note).1.bind next with
    | error r => exact ⟨rfl, hafter⟩
    | ok step => exact alike_carryOutStep hwrites hafter client step

theorem events_eq_of_alike (hwrites : Wire.WritesAlike config config') (h : s.Alike s')
    (client : Client) (call : Call) : client.events s call = client.events s' call := by
  unfold events
  cases client.request call with
  | error e => rfl
  | ok request =>
    rcases Outcome.map_eq_map_iff.mp (hwrites request) with
      ⟨e, hrefused, hrefused'⟩ | ⟨m, m', hwritten, hwritten', -⟩
    · simp only [show Wire.encode config request = _ from hrefused,
        show Wire.encode config' request = _ from hrefused']
    · simp only [show Wire.encode config request = _ from hwritten,
        show Wire.encode config' request = _ from hwritten']
      exact congrArg _ (congrArg _ h.nextAnswer_eq)

/-- The log of a plan is the same over sessions that are alike. -/
theorem carryOutEvents_eq_of_alike (hwrites : Wire.WritesAlike config config') (h : s.Alike s')
    (client : Client) (plan : Plan) :
    client.carryOutEvents s plan = client.carryOutEvents s' plan := by
  cases plan with
  | once step => exact events_eq_of_alike hwrites h client step.call
  | afterReading call note next =>
    obtain ⟨hresult, hafter⟩ := alike_ask hwrites h client call note
    simp only [carryOutEvents]
    rw [events_eq_of_alike hwrites h]
    generalize client.ask s call note = p at hresult hafter
    generalize client.ask s' call note = p' at hresult hafter
    obtain ⟨result, after⟩ := p
    obtain ⟨result', after'⟩ := p'
    obtain rfl : result = result' := hresult
    cases result with
    | error r => rfl
    | ok e =>
      cases hnext : next e with
      | error r => simp only [hnext]
      | ok step => simp only [hnext, events_eq_of_alike hwrites hafter]

end Client

/-! ## Runs -/

/-- What came of a run, its messages without their credentials. -/
structure Outcome.Alike (o o' : Outcome) : Prop where
  output : o.output = o'.output
  failure : o.failure = o'.failure
  sent : o.sent.map Wire.Message.masked = o'.sent.map Wire.Message.masked

theorem Outcome.Alike.exitCode {o o' : Outcome} (h : o.Alike o') : o.exitCode = o'.exitCode := by
  rw [Outcome.exitCode, Outcome.exitCode, h.failure]

theorem Outcome.alike_of (w : Writer) (result : Except Report Output)
    {sent sent' : List Wire.Message}
    (h : sent.map Wire.Message.masked = sent'.map Wire.Message.masked) :
    (Outcome.of w result sent).Alike (Outcome.of w result sent') := by
  cases result with
  | error r => exact ⟨rfl, rfl, h⟩
  | ok output => exact ⟨rfl, rfl, h⟩

section Runs

variable {given given' : Option String} {env env' : Environment} {token token' : String}

/-- The lines of a log depend on nothing of the environment but the setting of the filter. -/
theorem Logging.lines_congr (l : Logging)
    (h : Dict.find? env filterName = Dict.find? env' filterName) (events : List Log.Event) :
    l.lines env events = l.lines env' events := by
  have hshows : l.shows env = l.shows env' := by
    funext e
    rw [shows, shows, h]
  rw [lines, lines, hshows]

/-- A command of the server comes out the same in runs that differ in the token alone. -/
theorem ServerCommand.alike_run (henv : Environment.SameBut Environment.tokenName env env')
    (ht : Config.FirstGiven "" [given, Dict.find? env Environment.tokenName] token)
    (ht' : Config.FirstGiven "" [given', Dict.find? env' Environment.tokenName] token')
    (hu : Config.UsableToken token) (hu' : Config.UsableToken token') (c : ServerCommand)
    (o : CommonOptions) (inputs : Inputs) (color : Bool) (script : List Wire.Answer) :
    (c.run (o.withToken given) ⟨env, inputs, color⟩ script).Alike
      (c.run (o.withToken given') ⟨env', inputs, color⟩ script) := by
  have hprepared := c.agree_prepared henv ht ht' hu hu' o inputs color
  unfold run
  generalize c.prepared (o.withToken given) ⟨env, inputs, color⟩ = x at hprepared
  generalize c.prepared (o.withToken given') ⟨env', inputs, color⟩ = x' at hprepared
  cases hprepared with
  | error r => exact ⟨rfl, rfl, rfl⟩
  | @ok p p' hrelated =>
    obtain ⟨⟨config, client⟩, plan⟩ := p
    obtain ⟨⟨config', client'⟩, plan'⟩ := p'
    obtain ⟨⟨⟨base, hconfig, hconfig'⟩, hclient⟩, hplan⟩ := hrelated
    obtain rfl : config = base.withToken token := hconfig
    obtain rfl : config' = base.withToken token' := hconfig'
    obtain rfl : client = client' := hclient
    obtain rfl : plan = plan' := hplan
    obtain ⟨hresult, hlast⟩ := Client.alike_carryOut
      (Wire.writesAlike_withToken base token token') (Session.Alike.start script) client plan
    simp only [hresult]
    exact Outcome.alike_of _ _ hlast.sent

/-- A command of the server is logged alike in runs that differ in the token alone. -/
theorem ServerCommand.events_eq (henv : Environment.SameBut Environment.tokenName env env')
    (ht : Config.FirstGiven "" [given, Dict.find? env Environment.tokenName] token)
    (ht' : Config.FirstGiven "" [given', Dict.find? env' Environment.tokenName] token')
    (hu : Config.UsableToken token) (hu' : Config.UsableToken token') (c : ServerCommand)
    (o : CommonOptions) (inputs : Inputs) (color : Bool) (script : List Wire.Answer) :
    c.events (o.withToken given) ⟨env, inputs, color⟩ script =
      c.events (o.withToken given') ⟨env', inputs, color⟩ script := by
  have hprepared := c.agree_prepared henv ht ht' hu hu' o inputs color
  unfold events
  rw [c.preparedEvents_eq henv ht ht' hu hu']
  generalize c.prepared (o.withToken given) ⟨env, inputs, color⟩ = x at hprepared
  generalize c.prepared (o.withToken given') ⟨env', inputs, color⟩ = x' at hprepared
  cases hprepared with
  | error r => rfl
  | @ok p p' hrelated =>
    obtain ⟨⟨config, client⟩, plan⟩ := p
    obtain ⟨⟨config', client'⟩, plan'⟩ := p'
    obtain ⟨⟨⟨base, hconfig, hconfig'⟩, hclient⟩, hplan⟩ := hrelated
    obtain rfl : config = base.withToken token := hconfig
    obtain rfl : config' = base.withToken token' := hconfig'
    obtain rfl : client = client' := hclient
    obtain rfl : plan = plan' := hplan
    exact congrArg _ (Client.carryOutEvents_eq_of_alike
      (Wire.writesAlike_withToken base token token') (Session.Alike.start script) client plan)

/-- Runs that differ in the token alone come out the same and are logged alike. -/
theorem Invocation.alike_run (henv : Environment.SameBut Environment.tokenName env env')
    {i i' : Invocation} (h : i.SameButToken i')
    (ht : Config.FirstGiven "" [i.common.token, Dict.find? env Environment.tokenName] token)
    (ht' : Config.FirstGiven "" [i'.common.token, Dict.find? env' Environment.tokenName] token')
    (hu : Config.UsableToken token) (hu' : Config.UsableToken token') (inputs : Inputs)
    (color : Bool) (script : List Wire.Answer) :
    (i.run ⟨env, inputs, color⟩ script).Alike (i'.run ⟨env', inputs, color⟩ script) ∧
      i.events ⟨env, inputs, color⟩ script = i'.events ⟨env', inputs, color⟩ script := by
  obtain ⟨common, command⟩ := i
  obtain ⟨common', command'⟩ := i'
  obtain ⟨hcommon, hcommand⟩ := h
  obtain rfl : command = command' := hcommand
  have hcommon' : common' = common.withToken common'.token :=
    (congrArg (CommonOptions.withToken · common'.token) hcommon).symm
  cases command with
  | server c =>
    have halike := c.alike_run henv ht ht' hu hu' common inputs color script
    have hevents := c.events_eq henv ht ht' hu hu' common inputs color script
    rw [← hcommon'] at halike hevents
    exact ⟨halike, hevents⟩
  | completion shell => exact ⟨⟨rfl, rfl, rfl⟩, rfl⟩
  | version => exact ⟨⟨rfl, rfl, rfl⟩, rfl⟩

/--
Nothing but the credentials of messages depends on the token, as long as it is not blank and can be
sent. For setups that differ in the token alone the same client is made, or none for the same
reason; over any one channel their calls come out the same and send the same; and over the wire,
where the channel knows the token, they come out the same and send the same but for the credentials.
Command lines that differ in values of the token alone end in the same error, or stand for
invocations that differ in the token alone. Such invocations write the same, log the same, end with
the same exit code for the same reason, and send the same but for the credentials, whether they get
their tokens from an option or the environment.
-/
theorem agree_of_usableTokens (hu : Config.UsableToken token) (hu' : Config.UsableToken token') :
    (∀ setup : ClientSetup,
      Client.build (setup.withToken token) = Client.build (setup.withToken token') ∧
      ∀ calls,
        (∀ (c : Channel) script,
          Client.converse (setup.withToken token) c script calls =
            Client.converse (setup.withToken token') c script calls) ∧
        ∀ script,
          (Client.correspond (setup.withToken token) script calls).1 =
            (Client.correspond (setup.withToken token') script calls).1 ∧
          (Client.correspond (setup.withToken token) script calls).2.map Wire.Message.masked =
            (Client.correspond (setup.withToken token') script calls).2.map Wire.Message.masked) ∧
    (∀ words words' : List String, CommandLine.SameButToken words words' →
      Agree Invocation.SameButToken (Invocation.ofWords words) (Invocation.ofWords words')) ∧
    ∀ (i i' : Invocation) (env env' : Environment), i.SameButToken i' →
      Environment.SameBut Environment.tokenName env env' →
      Config.FirstGiven "" [i.common.token, Dict.find? env Environment.tokenName] token →
      Config.FirstGiven "" [i'.common.token, Dict.find? env' Environment.tokenName] token' →
      ∀ (inputs : Inputs) (color : Bool) (script : List Wire.Answer),
        let o := i.run ⟨env, inputs, color⟩ script
        let o' := i'.run ⟨env', inputs, color⟩ script
        o.output = o'.output ∧ o.exitCode = o'.exitCode ∧ o.failure = o'.failure ∧
          o.sent.map Wire.Message.masked = o'.sent.map Wire.Message.masked ∧
          i.events ⟨env, inputs, color⟩ script = i'.events ⟨env', inputs, color⟩ script ∧
          ∀ l : Logging, i.standardError l ⟨env, inputs, color⟩ script =
            i'.standardError l ⟨env', inputs, color⟩ script := by
  refine ⟨?_, fun words words' hwords => Invocation.agree_ofWords hwords, ?_⟩
  · intro setup
    refine ⟨Client.build_withToken hu hu' setup, fun calls => ⟨?_, fun script => ?_⟩⟩
    · exact fun c script => Client.converse_withToken hu hu' setup c script calls
    · exact Client.correspond_withToken hu hu' setup script calls
  · intro i i' env env' hsame henv ht ht' inputs color script o o'
    obtain ⟨halike, hevents⟩ := Invocation.alike_run henv hsame ht ht' hu hu' inputs color script
    refine ⟨halike.output, halike.exitCode, halike.failure, halike.sent, hevents, fun l => ?_⟩
    rw [Invocation.standardError, Invocation.standardError, hevents, halike.output,
      l.lines_congr (henv Logging.filterName (by decide))]

end Runs

/-- A token that was renewed makes the same client, and command lines with the old token and the new
one stand for invocations that write the same. -/
theorem agree_of_usableTokens_renewed :
    (∃ client, Client.build (.standard Client.tenantConfig) = .ok client ∧
      Client.build ((ClientSetup.standard Client.tenantConfig).withToken "renewed") =
        .ok client) ∧
    ∃ i i', Invocation.ofWords ["--token=t", "system", "health"] = .ok i ∧
      Invocation.ofWords ["--token=renewed", "system", "health"] = .ok i' ∧
      ∀ (env : Environment) (inputs : Inputs) (script : List Wire.Answer),
        (i.run ⟨env, inputs, false⟩ script).output =
          (i'.run ⟨env, inputs, false⟩ script).output := by
  have hu : Config.UsableToken "t" := ⟨by decide, by decide⟩
  have hu' : Config.UsableToken "renewed" := ⟨by decide, by decide⟩
  obtain ⟨hlibrary, hwords, hruns⟩ := agree_of_usableTokens hu hu'
  constructor
  · obtain ⟨client, hclient⟩ := Client.exists_build_tenantConfig
    have hsame : Client.tenantConfig.withToken "t" = Client.tenantConfig := rfl
    obtain ⟨hbuild, -⟩ := hlibrary (.standard Client.tenantConfig)
    rw [ClientSetup.withToken_standard, hsame] at hbuild
    exact ⟨client, hclient, hbuild.symm.trans hclient⟩
  · have hold : Invocation.ofWords ["--token=t", "system", "health"] =
        .ok ⟨⟨none, none, some "t", none, [], false, false⟩, .server .health⟩ := by rfl
    have hnew : Invocation.ofWords ["--token=renewed", "system", "health"] =
        .ok ⟨⟨none, none, some "renewed", none, [], false, false⟩, .server .health⟩ := by rfl
    refine ⟨_, _, hold, hnew, fun env inputs script => ?_⟩
    have hlines := hwords _ _ (.joined "t" "renewed" (.same ["system", "health"]))
    change Agree _ (Invocation.ofWords ["--token=t", _, _])
      (Invocation.ofWords ["--token=renewed", _, _]) at hlines
    rw [hold, hnew] at hlines
    cases hlines with
    | ok hsame =>
      exact (hruns _ _ env env hsame (fun _ _ => rfl) (.here hu.given) (.here hu'.given) inputs
        false script).1

end Mailroom
