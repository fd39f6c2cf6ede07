import Mailroom.Command.Run

/-!
# The log of a run

A run tells what it does while it goes on: the configuration that it found, the client that it
makes, the command on records, every request and its answer, and the settings that it writes back.
Each of these is an event, which has a level. The log is written to standard error, one line for
each event that a filter lets through, and all of it stands before what the run itself has to say
there, for that is said in the end.

The settings of the filter and the layout of a line belong to the process (`Logging`). Only warnings
are shown where the filter is not set, or not to anything that it can be. Lines that the libraries
below a run have of their own are left out.
-/

namespace Mailroom

namespace Log

/-- How much an event matters, the most important first. -/
inductive Level where
  | warn
  | debug
  | trace
deriving DecidableEq

/-- What is told of a run. -/
inductive Event where
  | resolved (baseUrl username : String)
  | building (base : Url) (operations : Nat)
  | running (resource : Resource) (command : RecordCommand)
  | sending (request : RequestInfo)
  /-- An answer, with the size of its text in bytes. -/
  | received (status bytes : Nat)
  /-- A refusal that is a failure of the call. -/
  | refused (operation : String) (status : Nat)
  /-- A refusal that is kept as data. -/
  | rejected (operation : String) (status : Nat)
  /-- New settings, with the number of their keys where they are an object. -/
  | writing (keys : Option Nat)

namespace Event

/-- The level of an event. -/
def level (e : Event) : Level :=
  match e with
  | refused _ _ => .warn
  | received _ _ => .trace
  | _ => .debug

/-- The text of an event, before its particulars. -/
def message (e : Event) : String :=
  match e with
  | resolved _ _ => "resolved configuration"
  | building _ _ => "building listmonk client"
  | running _ _ => "running generic command"
  | sending _ => "sending request"
  | received _ _ => "received response"
  | refused _ _ => "request failed"
  | rejected _ _ => "request rejected"
  | writing _ => "writing settings"

/-- Whether an event is shown where the filter is not set. -/
def isWarning (e : Event) : Bool :=
  e.level = .warn

end Event

end Log

open Log (Event)

/-! ## Calls -/

/-- The events of an answer to an endpoint. -/
def Endpoint.answerEvents (e : Endpoint) (operation : String) (answer : Wire.Answer) :
    List Event :=
  match answer.reply? with
  | none => []
  | some (status, body) =>
    .received status (Wire.receivedText body).utf8ByteSize ::
      if Http.isSuccess status then []
      else if e.keepsRefusals then [.rejected operation status]
      else [.refused operation status]

/-- The events before a call that follows a reading. -/
def Call.notices (call : Call) : List Event :=
  match call with
  | .replaceSettings settings => [.writing (settings.fields?.map List.length)]
  | _ => []

namespace Client

variable {config : Config}

/-- The events of a call over the wire. -/
def events (client : Client) (s : Session (Wire.channel config)) (call : Call) : List Event :=
  match client.request call with
  | .error _ => []
  | .ok request =>
    .sending request.info ::
      match Wire.encode config request with
      | .error _ => []
      | .ok _ => call.endpoint.answerEvents request.operation s.nextAnswer

/-- The events of carrying out a plan over the wire. -/
def carryOutEvents (client : Client) (s : Session (Wire.channel config)) (plan : Plan) :
    List Event :=
  match plan with
  | .once step => client.events s step.call
  | .afterReading call note next =>
    client.events s call ++
      match client.ask s call note with
      | (.error _, _) => []
      | (.ok e, after) =>
        match next e with
        | .error _ => []
        | .ok step => step.call.notices ++ client.events after step.call

end Client

/-! ## Runs -/

/-- The events of making a connection. -/
def CommonOptions.connectionEvents (o : CommonOptions) (env : Environment) : List Event :=
  match o.config env with
  | .error _ => []
  | .ok config =>
    .resolved config.baseUrl config.username ::
      match config.validate with
      | .error _ => []
      | .ok base =>
        match Client.illegalHeader? (.standard config) with
        | some _ => []
        | none => [.building base Catalog.table.length]

namespace ServerCommand

/-- The events before a command on records is planned. -/
def notices (c : ServerCommand) : List Event :=
  match c with
  | records r command => [.running r command]
  | _ => []

/-- The events of making the connection of a command. -/
def connectingEvents (c : ServerCommand) (o : CommonOptions) (env : Environment) : List Event :=
  o.connectionEvents env ++
    match o.connection env with
    | .error _ => []
    | .ok _ => c.notices

/-- The events before a plan is carried out. -/
def preparedEvents (c : ServerCommand) (o : CommonOptions) (s : Surroundings) : List Event :=
  if c.isPlannedFirst then
    match c.plan (o.writer s.color) s.inputs with
    | .error _ => []
    | .ok _ => c.connectingEvents o s.environment
  else c.connectingEvents o s.environment

/-- The events of a command that talks to the server. -/
def events (c : ServerCommand) (o : CommonOptions) (s : Surroundings)
    (script : List Wire.Answer) : List Event :=
  c.preparedEvents o s ++
    match c.prepared o s with
    | .error _ => []
    | .ok (x, plan) =>
      x.client.carryOutEvents (Session.start script : Session (Wire.channel x.config)) plan

end ServerCommand

/-- The events of a run. -/
def Invocation.events (i : Invocation) (s : Surroundings) (script : List Wire.Answer) :
    List Event :=
  match i.command with
  | .server command => command.events i.common s script
  | _ => []

/-! ## Lines -/

/-- How a process writes its log. -/
structure Logging where
  /-- Which events are shown under a setting of the filter, where it is one. -/
  filter? : String → Option (Event → Bool)
  /-- The line of an event after some number of others, with the time and whatever else stands in
  it. -/
  line : Nat → Event → String

namespace Logging

/-- The variable with the setting of the filter. -/
def filterName : String := "LMK_DEBUG"

/-- Whether an event is shown. -/
def shows (l : Logging) (env : Environment) (e : Event) : Bool :=
  match (Dict.find? env filterName).bind l.filter? with
  | some shown => shown e
  | none => e.isWarning

/-- The lines of some events. -/
def lines (l : Logging) (env : Environment) (events : List Event) : String :=
  "".intercalate ((events.filter (l.shows env)).zipIdx.map fun e => l.line e.2 e.1 ++ "\n")

end Logging

/-- What stands on standard error after a run: the log, and what the run says in the end. -/
def Invocation.standardError (i : Invocation) (l : Logging) (s : Surroundings)
    (script : List Wire.Answer) : String :=
  l.lines s.environment (i.events s script) ++ (i.run s script).output.stderr

end Mailroom
