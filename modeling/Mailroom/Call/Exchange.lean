import Mailroom.Envelope.Basic
import Mailroom.Envelope.Flatten
import Mailroom.Http.Status

/-!
# Exchanges

A request that was answered. There are two ways to take the answer. `envelope` makes a failure of
every status that is not a success. `attempt` gives such a refusal back as data, so that a caller
can tell a record that does not exist from a call that failed; `Attempt.toResult` turns it into the
same failure.
-/

namespace Mailroom

/-- What came back for a request, whatever its status. -/
structure RawResponse where
  status : Nat
  statusText : String
  body : Json

/-- An answer with the standard phrase for its status. -/
def RawResponse.ofStatus (status : Nat) (body : Json) : RawResponse :=
  ⟨status, Http.reason status, body⟩

/-- The status line of an answer. -/
def RawResponse.info (r : RawResponse) : ResponseInfo :=
  ⟨r.status, r.statusText⟩

/-- A request and its answer. -/
structure Exchange where
  request : RequestInfo
  response : RawResponse

/-- A refusal given back as data. -/
structure Rejection where
  status : Nat
  message : String
  error : Json
  request : RequestInfo
  response : ResponseInfo

namespace Rejection

/-- Whether the record does not exist. -/
def isNotFound (r : Rejection) : Bool :=
  r.status = 404

/-- The failure that a refusal amounts to. -/
def toError (r : Rejection) : ApiError :=
  .refused (.ofResponse r.response (some r.message) (some r.error))

/-- A refusal as JSON. -/
def encode (r : Rejection) : Json :=
  .obj [("status", .ofNat r.status), ("message", .str r.message), ("error", r.error),
    ("request", r.request.encode), ("response", r.response.encode)]

end Rejection

/-- The result of fetching or updating a single record. -/
inductive Attempt (α : Type) where
  | found (envelope : Envelope α)
  | rejected (rejection : Rejection)

namespace Attempt

variable {α : Type}

/-- The result with a refusal as a failure. -/
def toResult (a : Attempt α) : Except ApiError (Envelope α) :=
  match a with
  | .found e => .ok e
  | .rejected r => .error r.toError

/-- The result with the payload read. -/
def decode (item : Decoder α) (a : Attempt Json) : Except ApiError (Attempt α) :=
  match a with
  | .found e => (e.decode item).map .found
  | .rejected r => .ok (.rejected r)

end Attempt

namespace Exchange

/-- Whether the server did what was asked. -/
def isSuccess (x : Exchange) : Bool :=
  Http.isSuccess x.response.status

/-- The body of an answer as an envelope, whatever its status. -/
def unwrapped (x : Exchange) : Envelope Json :=
  let fields := ((Envelope.flatten (.obj [("data", x.response.body)])).fields?).getD []
  ⟨(Dict.find? fields "data").getD .null, Dict.erase fields "data", x.request, x.response.info⟩

/-- The failure of an answer that is not a success. -/
def failure (x : Exchange) : ApiError :=
  .refused <|
    .ofResponse x.response.info (Failure.bodyMessage? x.response.body) (some x.response.body)

/-- The refusal of an answer that is not a success. -/
def rejection (x : Exchange) : Rejection where
  status := x.response.status
  message := (Failure.bodyMessage? x.response.body).getD x.response.info.defaultMessage
  error := x.response.body
  request := x.request
  response := x.response.info

/-- The answer where refusals are failures. -/
def envelope (x : Exchange) : Except ApiError (Envelope Json) :=
  if x.isSuccess then .ok x.unwrapped else .error x.failure

/-- The answer where refusals are data. -/
def attempt (x : Exchange) : Attempt Json :=
  if x.isSuccess then .found x.unwrapped else .rejected x.rejection

/-- The answer with its payload read, where refusals are failures. -/
def result {α : Type} (item : Decoder α) (x : Exchange) : Except ApiError (Envelope α) :=
  x.envelope.bind (·.decode item)

/-- The answer with its payload read, where refusals are data. -/
def attempted {α : Type} (item : Decoder α) (x : Exchange) : Except ApiError (Attempt α) :=
  x.attempt.decode item

end Exchange

end Mailroom
