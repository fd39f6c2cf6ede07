import Mailroom.Config.Error
import Mailroom.Failure.Body
import Mailroom.Json.Decode
import Mailroom.Json.Parser
import Mailroom.Text.Basic

/-!
# Failures of a call

A call fails because the server refused it, because the server was not reached, because the answer
does not fit the model, because the configuration is wrong, or because the request cannot be built.
The status of a refusal decides what kind of refusal it is, and a kind that stands for one status
only does not keep it; the whole body is kept in any case.
-/

namespace Mailroom

/-- The kinds of failures. -/
inductive FailureKind where
  | authentication
  | validation
  | notFound
  | rateLimit
  | server
  | http
  | network
  | decode
  | config
  | contract
deriving DecidableEq

/-- The name of a kind. -/
def FailureKind.text (k : FailureKind) : String :=
  match k with
  | authentication => "authentication"
  | validation => "validation"
  | notFound => "not found"
  | rateLimit => "rate limit"
  | server => "server"
  | http => "http"
  | network => "network"
  | decode => "decode"
  | config => "configuration"
  | contract => "contract"

/-- The status line of an answer. -/
structure ResponseInfo where
  status : Nat
  statusText : String
deriving DecidableEq

/-- The message of a refusal that gives no reason. -/
def ResponseInfo.defaultMessage (r : ResponseInfo) : String :=
  s!"HTTP {Text.ofNat r.status}: {r.statusText}"

/-- The message of a failure: the reason given for it, unless that is blank. -/
def ResponseInfo.message (r : ResponseInfo) (reason : Option String) : String :=
  (reason.filter fun m => !Text.isBlank m).getD r.defaultMessage

/-- A request that the server answered with a failure. A refused validation has the complaints by
field that the body lists; the last two kinds stand for several statuses. -/
inductive Refusal where
  | authentication (message : String) (payload : Option Json)
  | validation (message : String) (fields : Option (Dict (List String))) (payload : Option Json)
  | notFound (message : String) (payload : Option Json)
  | rateLimit (message : String) (payload : Option Json)
  | server (status : Nat) (message : String) (payload : Option Json)
  | http (status : Nat) (message : String) (payload : Option Json)

namespace Refusal

/-- The refusal with a status. -/
def ofStatus (status : Nat) (message : String) (payload : Option Json) : Refusal :=
  if status = 400 then .validation message (payload.bind Failure.bodyFields?) payload
  else if status = 401 then .authentication message payload
  else if status = 404 then .notFound message payload
  else if status = 429 then .rateLimit message payload
  else if 500 ≤ status ∧ status ≤ 599 then .server status message payload
  else .http status message payload

/-- The refusal of an answer. A blank reason counts as none. -/
def ofResponse (response : ResponseInfo) (reason : Option String) (payload : Option Json) :
    Refusal :=
  .ofStatus response.status (response.message reason) payload

/-- The kind of a refusal. -/
def kind (r : Refusal) : FailureKind :=
  match r with
  | authentication _ _ => .authentication
  | validation _ _ _ => .validation
  | notFound _ _ => .notFound
  | rateLimit _ _ => .rateLimit
  | server _ _ _ => .server
  | http _ _ _ => .http

/-- The status of the answer. -/
def status (r : Refusal) : Nat :=
  match r with
  | authentication _ _ => 401
  | validation _ _ _ => 400
  | notFound _ _ => 404
  | rateLimit _ _ => 429
  | server status _ _ => status
  | http status _ _ => status

/-- The description of a refusal. -/
def message (r : Refusal) : String :=
  match r with
  | authentication message _ => message
  | validation message _ _ => message
  | notFound message _ => message
  | rateLimit message _ => message
  | server _ message _ => message
  | http _ message _ => message

/-- The body of the answer, where it is kept. -/
def payload (r : Refusal) : Option Json :=
  match r with
  | authentication _ payload => payload
  | validation _ _ payload => payload
  | notFound _ payload => payload
  | rateLimit _ payload => payload
  | server _ _ payload => payload
  | http _ _ payload => payload

/-- The complaints by field of a refused validation. -/
def fields (r : Refusal) : Option (Dict (List String)) :=
  match r with
  | validation _ fields _ => fields
  | _ => none

end Refusal

/-- Why a document could not be used: it is no JSON, or not the JSON that was expected. -/
inductive JsonError where
  | malformed (e : Json.SyntaxError)
  | mismatch (e : Mismatch)

/-- The description of an unusable document. -/
def JsonError.message (e : JsonError) : String :=
  match e with
  | malformed e => e.message
  | mismatch e => e.message

/-- A failed call. -/
inductive ApiError where
  | refused (refusal : Refusal)
  | network
  | decode (operation : String) (cause : JsonError)
  | config (cause : ConfigError)
  | missingOperation (operation : String)
  | missingPathParam (operation param : String)
  | invalidRequest (reason : String)

namespace ApiError

/-- The kind of a failure. -/
def kind (e : ApiError) : FailureKind :=
  match e with
  | refused r => r.kind
  | network => .network
  | decode _ _ => .decode
  | config _ => .config
  | missingOperation _ => .contract
  | missingPathParam _ _ => .contract
  | invalidRequest _ => .contract

/-- The description of a failure. -/
def message (e : ApiError) : String :=
  match e with
  | refused r => r.message
  | network => "Network error: the server cannot be reached"
  | decode operation cause =>
    s!"Could not decode the response of {operation}: {cause.message}"
  | config cause => s!"Invalid configuration: {cause.message}"
  | missingOperation operation =>
    s!"Operation '{operation}' is missing from the operation table"
  | missingPathParam operation param =>
    s!"Operation '{operation}' requires path parameter '{param}'"
  | invalidRequest reason => s!"Invalid request: {reason}"

/-- The descriptions of the failures behind a failure. -/
def causes (e : ApiError) : List String :=
  match e with
  | decode _ cause => [cause.message]
  | config cause => [cause.message]
  | _ => []

/-- The status of the answer, where there was one. -/
def status? (e : ApiError) : Option Nat :=
  match e with
  | refused r => some r.status
  | _ => none

/-- The body of the answer, where there was one. -/
def payload? (e : ApiError) : Option Json :=
  match e with
  | refused r => r.payload
  | _ => none

end ApiError

end Mailroom
