import Mailroom.Http.Header
import Mailroom.Json.Basic
import Mailroom.Text.Utf8

/-!
# Options of a call

What a caller says about one request: values for the placeholders of its path, query parameters, a
body and headers. `layered` puts a caller's options over base options: entry by entry for path,
query and headers, and field by field where both bodies are JSON objects; any other body replaces
the base's.
-/

namespace Mailroom

/-- A file sent in a form. -/
structure FilePart where
  field : String
  fileName : String
  mime : Option String
  contents : List UInt8

/-- A form of texts and one file. -/
structure Multipart where
  fields : Dict String
  file : FilePart

/-- The body of a request. -/
inductive Body where
  | json (value : Json)
  | multipart (form : Multipart)

/-- What a caller says about one request. -/
structure CallOptions where
  path : Dict Json
  query : Dict Json
  body : Option Body
  headers : HeaderMap

namespace CallOptions

/-- Options that say nothing. -/
def empty : CallOptions :=
  ⟨[], [], none, []⟩

/-- Sets the value of a placeholder. -/
def withPath (o : CallOptions) (name : String) (value : Json) : CallOptions :=
  { o with path := Dict.insert o.path name value }

/-- Sets the value of the placeholder for a record's number. -/
def withId (o : CallOptions) (id : UInt64) : CallOptions :=
  o.withPath "id" (.ofWord id)

/-- Sets a query parameter. -/
def withQuery (o : CallOptions) (name : String) (value : Json) : CallOptions :=
  { o with query := Dict.insert o.query name value }

/-- Sets a body of JSON. -/
def withJson (o : CallOptions) (value : Json) : CallOptions :=
  { o with body := some (.json value) }

/-- Sets a form as the body. -/
def withMultipart (o : CallOptions) (form : Multipart) : CallOptions :=
  { o with body := some (.multipart form) }

/-- Sets a header. -/
def withHeader (o : CallOptions) (name value : String) : CallOptions :=
  { o with headers := Header.put o.headers name value }

/-- The body of a request for which a base and a caller may each give one. -/
def layeredBody (base caller : Option Body) : Option Body :=
  match base, caller with
  | some (.json (.obj below)), some (.json (.obj above)) =>
    some (.json (.obj (Dict.insertAll below above)))
  | below, none => below
  | _, above => above

/-- A caller's options over base options. -/
def layered (base caller : CallOptions) : CallOptions where
  path := Dict.insertAll base.path caller.path
  query := Dict.insertAll base.query caller.query
  body := layeredBody base.body caller.body
  headers := Header.merge base.headers caller.headers

end CallOptions

end Mailroom
