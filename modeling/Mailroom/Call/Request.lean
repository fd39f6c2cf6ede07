import Mailroom.Call.Operation
import Mailroom.Call.Options
import Mailroom.Url.Basic
import Mailroom.Url.Form

/-!
# Requests

`prepare` makes the request of an operation: the caller's options are laid over the base options,
the parts of the path template follow the path of the base URL one segment each, and the query
parameters follow the query that the base URL has. A placeholder needs a text, a number or a truth
value; in the query such values count too, arrays give one pair for each of them, and everything
else is left out.
-/

namespace Mailroom

/-- A request ready to be sent. -/
structure Request where
  operation : String
  method : Method
  url : Url
  headers : HeaderMap
  body : Option Body

namespace Request

/-- The text of a value that fits into a path or a query. -/
def scalar? (v : Json) : Option String :=
  match v with
  | .str s => some s
  | .num n => some n.text
  | .bool b => some (if b then "true" else "false")
  | _ => none

/-- The segment that a part of the template stands for. -/
def segment (operation : String) (values : Dict Json) (part : TemplatePart) :
    Except ApiError String :=
  match part with
  | .fixed text => .ok text
  | .placeholder name =>
    match (Dict.find? values name).bind scalar? with
    | some text => .ok text
    | none => .error (.missingPathParam operation name)

/-- The segments that the parts of a template stand for; the first missing value decides. -/
def segments (operation : String) (values : Dict Json) (parts : List TemplatePart) :
    Except ApiError (List String) :=
  match parts with
  | [] => .ok []
  | part :: rest =>
    match segment operation values part with
    | .error e => .error e
    | .ok text => (segments operation values rest).map (text :: ·)

/-- The path of a URL with segments appended to it. -/
def extendPath (base : Url) (texts : List String) : String :=
  let rules := Url.rulesOf base.scheme
  String.ofList
    (texts.foldl (fun path text => Url.pushSegment rules path text.toList)
      (Url.popTrailingSlash base.path.toList))

/-- The texts of a query parameter. -/
def parameterTexts (v : Json) : List String :=
  match v with
  | .arr items => items.filterMap scalar?
  | other => (scalar? other).toList

/-- The pairs of all query parameters in the order of their names. -/
def queryPairs (query : Dict Json) : List (String × String) :=
  query.flatMap fun e => (parameterTexts e.2).map fun text => (e.1, text)

/-- The query of a URL with pairs appended to it. -/
def extendQuery (query : Option String) (pairs : List (String × String)) : Option String :=
  if pairs.isEmpty then query
  else some (String.ofList (Url.Form.append (query.getD "").toList pairs))

/-- The URL of an operation. -/
def buildUrl (base : Url) (op : Operation) (options : CallOptions) : Except ApiError Url :=
  if !base.carriesPath then
    .error (.invalidRequest s!"base URL '{base.text}' cannot carry a path")
  else
    (segments op.name options.path op.template).map fun texts =>
      { base with
        path := extendPath base texts
        query := extendQuery base.query (queryPairs options.query) }

/-- The request of an operation with a caller's options over base options. -/
def prepare (base : Url) (baseOptions : CallOptions) (op : Operation) (options : CallOptions) :
    Except ApiError Request :=
  let merged := baseOptions.layered options
  (buildUrl base op merged).map fun url =>
    ⟨op.name, op.method, url, merged.headers, merged.body⟩

end Request

end Mailroom
