import Mailroom.Call.Wire
import Mailroom.Client.Basic
import Mailroom.Command.Plan

/-!
# Running commands

A command that talks to the server runs in this order: the configuration is put together and a
client is made, the command is planned, and the plan is carried out call by call. Only a message is
planned before there is a client. A failure at any point ends the run; it is shown in one line on
standard error and decides the exit code, and nothing is written to standard output.
-/

namespace Mailroom

open Terminal (Output Writer)

/-- Where a command runs. -/
structure Surroundings where
  environment : Environment
  inputs : Inputs
  color : Bool

/-- What came of a run. -/
structure Outcome where
  output : Output
  failure : Option Report
  sent : List Wire.Message

/-- The exit code of a run. -/
def Outcome.exitCode (o : Outcome) : Nat :=
  match o.failure with
  | none => ExitCode.success
  | some r => r.exitCode

namespace CommonOptions

/-- Reads a header given on the command line. -/
def header (text : String) : Except Report (String × String) :=
  (Field.split text).mapError (Report.within s!"Invalid --header '{text}'")

/-- The settings that the options give. -/
def overrides (o : CommonOptions) : Except Report Overrides :=
  (Field.readAll header o.headers).map fun headers =>
    ⟨o.url, o.username, o.token, o.timeout.map UInt64.toNat, none, Dict.ofList headers⟩

/-- The configuration of a run. -/
def config (o : CommonOptions) (env : Environment) : Except Report Config :=
  match o.overrides with
  | .error e => .error e
  | .ok overrides => (Config.resolve overrides env).mapError fun e => .ofApi (.config e)

/-- How a run writes. -/
def writer (o : CommonOptions) (color : Bool) : Writer :=
  ⟨if o.table then .table else .json, color, o.wholeAnswer⟩

end CommonOptions

/-- A client together with its configuration. -/
structure Connection where
  config : Config
  client : Client

/-- The connection of a run. -/
def CommonOptions.connection (o : CommonOptions) (env : Environment) :
    Except Report Connection :=
  match o.config env with
  | .error e => .error e
  | .ok config =>
    match Client.build (.standard config) with
    | .error e => .error (.ofApi e)
    | .ok client => .ok ⟨config, client⟩

/-- Whether a command is planned before there is a client. -/
def ServerCommand.isPlannedFirst (c : ServerCommand) : Bool :=
  match c with
  | sendMessage _ => true
  | _ => false

/-- The connection and the plan of a command; where both fail, the one that is made first decides.
-/
def ServerCommand.prepared (c : ServerCommand) (o : CommonOptions) (s : Surroundings) :
    Except Report (Connection × Plan) :=
  let connection := o.connection s.environment
  let plan := c.plan (o.writer s.color) s.inputs
  if c.isPlannedFirst then plan.bind fun p => connection.map fun x => (x, p)
  else connection.bind fun x => plan.map fun p => (x, p)

/-- The answer of a call that was not refused. -/
def Attempt.accepted {α : Type} (note : Option String) (a : Attempt α) :
    Except Report (Envelope α) :=
  match a with
  | .found e => .ok e
  | .rejected r =>
    let report := Report.ofApi r.toError
    .error (match note with
      | some note => report.within note
      | none => report)

namespace Client

variable {c : Channel}

/-- Makes a call and takes its answer. -/
def ask (client : Client) (s : Session c) (call : Call) (note : Option String) :
    Except Report (Envelope call.endpoint.Payload) × Session c :=
  match client.perform s call with
  | (.error e, next) => (.error (.ofApi e), next)
  | (.ok a, next) => (a.accepted note, next)

/-- Carries out a step. -/
def carryOutStep (client : Client) (s : Session c) (step : Step) :
    Except Report Output × Session c :=
  match client.ask s step.call step.refusalNote with
  | (.error e, next) => (.error e, next)
  | (.ok e, next) => (step.display e, next)

/-- Carries out a plan. -/
def carryOut (client : Client) (s : Session c) (plan : Plan) : Except Report Output × Session c :=
  match plan with
  | .once step => client.carryOutStep s step
  | .afterReading call note next =>
    match client.ask s call note with
    | (.error e, after) => (.error e, after)
    | (.ok e, after) =>
      match next e with
      | .error e => (.error e, after)
      | .ok step => client.carryOutStep after step

end Client

namespace Outcome

/-- A run that failed. -/
def failed (w : Writer) (r : Report) (sent : List Wire.Message) : Outcome :=
  ⟨w.error r.line, some r, sent⟩

/-- A run that ended with a result. -/
def of (w : Writer) (result : Except Report Output) (sent : List Wire.Message) : Outcome :=
  match result with
  | .ok output => ⟨output, none, sent⟩
  | .error r => failed w r sent

/-- A run that sent nothing. -/
def quiet (output : Output) : Outcome :=
  ⟨output, none, []⟩

end Outcome

/-- Runs a command that talks to the server, which gives the answers of a script. -/
def ServerCommand.run (c : ServerCommand) (o : CommonOptions) (s : Surroundings)
    (script : List Wire.Answer) : Outcome :=
  let w := o.writer s.color
  match c.prepared o s with
  | .error e => .failed w e []
  | .ok (x, plan) =>
    let (result, session) :=
      x.client.carryOut (Session.start script : Session (Wire.channel x.config)) plan
    .of w result session.sent

/-- The line that names the program and its version. -/
def versionLine : String :=
  s!"{appName} version {version}"

/-- Runs a command; the completion of command lines is left to the shell. -/
def Invocation.run (i : Invocation) (s : Surroundings) (script : List Wire.Answer) : Outcome :=
  match i.command with
  | .server command => command.run i.common s script
  | .completion _ => .quiet .nothing
  | .version => .quiet (.result [versionLine])

end Mailroom
