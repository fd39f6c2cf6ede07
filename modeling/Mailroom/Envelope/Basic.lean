import Mailroom.Call.Request
import Mailroom.Record.Model

/-!
# Envelopes

The result of a call: the payload, the fields that stood beside it in the answer, and what was asked
and answered for diagnosis.
-/

namespace Mailroom

/-- What was asked. -/
structure RequestInfo where
  operation : String
  method : String
  url : String

/-- What a request says about itself. -/
def Request.info (r : Request) : RequestInfo :=
  ⟨r.operation, r.method.text, r.url.text⟩

/-- The description of a request as JSON. -/
def RequestInfo.encode (r : RequestInfo) : Json :=
  .obj [("operation", .str r.operation), ("method", .str r.method), ("url", .str r.url)]

/-- The status line as JSON. -/
def ResponseInfo.encode (r : ResponseInfo) : Json :=
  .obj [("status", .ofNat r.status), ("status_text", .str r.statusText)]

/-- A payload with the fields beside it and what was asked and answered. -/
structure Envelope (α : Type) where
  data : α
  siblings : Dict Json
  request : RequestInfo
  response : ResponseInfo

namespace Envelope

variable {α β : Type}

/-- The same answer with another payload. -/
def withData (e : Envelope α) (data : β) : Envelope β :=
  ⟨data, e.siblings, e.request, e.response⟩

/-- The message beside the payload. -/
def message? (e : Envelope α) : Option String :=
  (Dict.find? e.siblings "message").bind Json.string?

/-- An answer with its payload read; a payload that does not fit is a failure of the operation. -/
def decode (item : Decoder α) (e : Envelope Json) : Except ApiError (Envelope α) :=
  match item e.data with
  | .ok data => .ok (e.withData data)
  | .error m => .error (.decode e.request.operation (.mismatch m))

/-- The entries of an answer as JSON; fields beside the payload are named only if there are any. -/
def entries (item : α → Json) (e : Envelope α) : List (String × Json) :=
  ("data", item e.data) :: (if e.siblings.isEmpty then [] else [("meta", .obj e.siblings)]) ++
    [("request", e.request.encode), ("response", e.response.encode)]

/-- An answer as JSON. -/
def encode (item : α → Json) (e : Envelope α) : Json :=
  .obj (e.entries item)

end Envelope

end Mailroom
