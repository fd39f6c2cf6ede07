import Mailroom.Call.Channel
import Mailroom.Client.Call
import Mailroom.Config.Basic

/-!
# Clients

A client has looked up the operation of every endpoint, so that no call of it can miss one. Making a
client sends nothing: it checks the configuration, then the headers if they go over the wire, and
then looks up the endpoints one after the other, the first that is missing being the failure. A call
sends at most one request.
-/

namespace Mailroom

/-- What a client is made of. -/
structure ClientSetup where
  config : Config
  table : OperationTable
  baseOptions : CallOptions
  /-- Whether requests leave as messages on the wire, for which the configured headers must be
  legal. -/
  wired : Bool

/-- The setup of a client for a configuration, on the wire and with nothing else chosen. -/
def ClientSetup.standard (config : Config) : ClientSetup :=
  ⟨config, Catalog.table, CallOptions.empty, true⟩

/-- A client of a server. -/
structure Client where
  base : Url
  baseOptions : CallOptions
  /-- The operation of each endpoint. -/
  bound : Endpoint → Operation

namespace Client

/-- Whether a table lacks the operation of an endpoint. -/
def isMissing (table : OperationTable) (e : Endpoint) : Bool :=
  (table.get? e.operationName).isNone

/-- A table in which no endpoint is found missing has the operation of each. -/
theorem isSome_get?_of_find? {table : OperationTable}
    (h : Endpoint.all.find? (isMissing table) = none) (e : Endpoint) :
    (table.get? e.operationName).isSome = true := by
  have missing := List.find?_eq_none.mp h e e.mem_all
  cases found : table.get? e.operationName with
  | none => simp [isMissing, found] at missing
  | some op => rfl

/-- The operation of every endpoint in a table. -/
def bind (table : OperationTable) : Except ApiError (Endpoint → Operation) :=
  match h : Endpoint.all.find? (isMissing table) with
  | some e => .error (.missingOperation e.operationName)
  | none => .ok fun e => (table.get? e.operationName).get (isSome_get?_of_find? h e)

/-- What makes the configured headers impossible to send over the wire. -/
def illegalHeader? (setup : ClientSetup) : Option ConfigError :=
  if setup.wired then Header.firstIllegal? setup.config.requestHeaders else none

/-- The client of a setup. -/
def build (setup : ClientSetup) : Except ApiError Client :=
  match setup.config.validate with
  | .error e => .error (.config e)
  | .ok base =>
    match illegalHeader? setup with
    | some e => .error (.config e)
    | none => (bind setup.table).map fun bound => ⟨base, setup.baseOptions, bound⟩

/-- The request of an endpoint with some options. -/
def prepare (client : Client) (e : Endpoint) (options : CallOptions) : Except ApiError Request :=
  Request.prepare client.base client.baseOptions (client.bound e) options

/-- The request of a call. -/
def request (client : Client) (call : Call) : Except ApiError Request :=
  call.options.bind (client.prepare call.endpoint)

end Client

/-- What the answer of an endpoint means. -/
def Endpoint.read (e : Endpoint) (x : Exchange) : Except ApiError (Attempt e.Payload) :=
  if e.keepsRefusals then x.attempted Model.decode else (x.result Model.decode).map .found

namespace Client

variable {c : Channel}

/-- Makes a call over a session. -/
def perform (client : Client) (s : Session c) (call : Call) :
    Except ApiError (Attempt call.endpoint.Payload) × Session c :=
  match client.request call with
  | .error e => (.error e, s)
  | .ok request =>
    match s.exchange request with
    | (answer, next) => (answer.bind call.endpoint.read, next)

end Client

end Mailroom
