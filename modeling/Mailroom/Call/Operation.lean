import Mailroom.Failure.ApiError
import Mailroom.Text.Basic

/-!
# Operations

An operation is a method and a path template under a name. A segment of a template in braces is a
placeholder. Operations are kept in a table by name, where a later one takes the place of an earlier
one of its name.
-/

namespace Mailroom

/-- The methods of requests. -/
inductive Method where
  | get
  | post
  | put
  | delete
deriving DecidableEq

/-- The name of a method. -/
def Method.text (m : Method) : String :=
  match m with
  | get => "GET"
  | post => "POST"
  | put => "PUT"
  | delete => "DELETE"

/-- A method and a path template under a name. -/
structure Operation where
  name : String
  method : Method
  path : String
deriving DecidableEq

/-- A part of a path template. -/
inductive TemplatePart where
  | fixed (text : String)
  | placeholder (name : String)
deriving DecidableEq

namespace Operation

/-- A segment of a template: a placeholder if it stands in braces. -/
def partOf (segment : List Char) : TemplatePart :=
  match segment with
  | '\x7b' :: rest =>
    if rest.getLast? = some '\x7d' then .placeholder (String.ofList rest.dropLast)
    else .fixed (String.ofList segment)
  | _ => .fixed (String.ofList segment)

/-- The parts of the path template, slashes in front of it aside. -/
def template (op : Operation) : List TemplatePart :=
  (Text.parts '/' (op.path.toList.dropWhile (· = '/'))).map partOf

/-- The name of a placeholder. -/
def placeholder? (part : TemplatePart) : Option String :=
  match part with
  | .placeholder name => some name
  | .fixed _ => none

/-- The names of the placeholders in the order of the path, read with the slashes at its start. -/
def pathParams (op : Operation) : List String :=
  (Text.parts '/' op.path.toList).filterMap fun segment => placeholder? (partOf segment)

end Operation

/-- Operations by name. -/
abbrev OperationTable := Dict Operation

namespace OperationTable

/-- A table of some operations, the last of equal names counting. -/
def ofOperations (ops : List Operation) : OperationTable :=
  Dict.ofList (ops.map fun op => (op.name, op))

/-- A table without a name. -/
def without (t : OperationTable) (name : String) : OperationTable :=
  Dict.erase t name

/-- A table with an operation added or replaced. -/
def adding (t : OperationTable) (op : Operation) : OperationTable :=
  Dict.insert t op.name op

/-- The operation of a name. -/
def get? (t : OperationTable) (name : String) : Option Operation :=
  Dict.find? t name

/-- The operation of a name, whose absence is a failure. -/
def resolve (t : OperationTable) (name : String) : Except ApiError Operation :=
  match get? t name with
  | some op => .ok op
  | none => .error (.missingOperation name)

end OperationTable

end Mailroom
