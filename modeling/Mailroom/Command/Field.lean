import Mailroom.Failure.Report
import Mailroom.Json.Parser
import Mailroom.Number.Spelled
import Mailroom.Text.Basic
import Mailroom.Text.Decimal

/-!
# Fields given as `key=value`

A field is split at its first equals sign; the key, without blanks around it, must not be empty. The
value of a typed field is read as a truth value, null, a number, an array or an object where it is
spelled as one, and is a text otherwise. The dots of a key lead into objects: `setAt` stores a value
at a path and puts an object in the place of anything else on the way.
-/

namespace Mailroom.Field

/-- A field that is no pair of a key and a value. -/
def malformed (field : String) : Report :=
  .plain s!"Invalid field format: {field}. Expected key=value"

/-- The key and the value of a field. -/
def split (field : String) : Except Report (String × String) :=
  let cs := field.toList
  let key := Text.trimChars (cs.takeWhile (· ≠ '='))
  match cs.dropWhile (· ≠ '=') with
  | [] => .error (malformed field)
  | _ :: value =>
    if key.isEmpty then .error (malformed field)
    else .ok (String.ofList key, String.ofList value)

/-- The array or object that a text spells, or the text. -/
def documentValue (text : String) : Json :=
  match text.toList with
  | c :: _ =>
    if c = '[' || c = '\x7b' then
      match Json.parse text with
      | .ok v => v
      | .error _ => .str text
    else .str text
  | [] => .str text

/-- The value that the text of a typed field stands for. -/
def typedValue (text : String) : Json :=
  if text = "true" then .bool true
  else if text = "false" then .bool false
  else if text = "null" then .null
  else
    match Text.readSigned? (bitBound 63) text with
    | some n => .num (.int n)
    | none =>
      match Binary64.ofSpelled? text with
      | some x => .num (.float x)
      | none => documentValue text

/-- The key and the value of a typed field. -/
def typed (field : String) : Except Report (String × Json) :=
  (split field).map fun e => (e.1, typedValue e.2)

/-- The key and the value of a field whose value is a text. -/
def plain (field : String) : Except Report (String × Json) :=
  (split field).map fun e => (e.1, .str e.2)

/-- Reads fields one after the other; the first malformed one decides. -/
def readAll {α : Type} (read : String → Except Report α) (fields : List String) :
    Except Report (List α) :=
  match fields with
  | [] => .ok []
  | field :: rest =>
    match read field with
    | .error e => .error e
    | .ok a => (readAll read rest).map (a :: ·)

/-- The path of a key. -/
def path (key : String) : List String :=
  (Text.parts '.' key.toList).map String.ofList

/-- The object that stands under a key, or an empty one. -/
def inner (fields : Dict Json) (key : String) : Dict Json :=
  ((Dict.find? fields key).bind Json.fields?).getD []

/-- Stores a value at a path. -/
def setAt (fields : Dict Json) (path : List String) (value : Json) : Dict Json :=
  match path with
  | [] => fields
  | [key] => Dict.insert fields key value
  | key :: rest => Dict.insert fields key (.obj (setAt (inner fields key) rest value))

/-- Stores a value under a key with dots. -/
def put (fields : Dict Json) (key : String) (value : Json) : Dict Json :=
  setAt fields (path key) value

/-- Stores entries one after the other. -/
def putAll (fields : Dict Json) (entries : List (String × Json)) : Dict Json :=
  entries.foldl (fun acc e => put acc e.1 e.2) fields

/-- The entries of typed fields followed by those of plain ones. -/
def entries (typedFields plainFields : List String) : Except Report (List (String × Json)) :=
  match readAll typed typedFields with
  | .error e => .error e
  | .ok first => (readAll plain plainFields).map (first ++ ·)

end Mailroom.Field
