import Mailroom.Json.Decode
import Mailroom.Terminal.Style

/-!
# Models

What the server sends is read into models. A model declares the fields it uses; all other fields of
the object are kept beside them and written after them, so nothing that a server adds is lost. A
model that is shown has the cells of one row of a table, or the lines of a view of its own.
-/

namespace Mailroom

/-- Values that are read out of JSON and written as JSON. -/
class Model (α : Type) where
  decode : Decoder α
  encode : α → Json

/-- Values that are the rows of a table. -/
class Tabular (α : Type) where
  titles : List String
  cells : (color : Bool) → α → List String

/-- Values with a view of their own. -/
class Detailed (α : Type) where
  lines : (color : Bool) → α → List String

instance : Model Json where
  decode := Decode.value
  encode v := v

instance : Model Bool where
  decode := Decode.bool
  encode := .bool

instance : Model String where
  decode := Decode.text
  encode := .str

instance {α : Type} [Model α] : Model (List α) where
  decode := Decode.list Model.decode
  encode vs := .arr (vs.map Model.encode)

namespace View

/-- A title and the line under it. -/
def title (color : Bool) (text : String) : List String :=
  [Terminal.paint color [.bold] text, String.ofList (List.replicate text.length '-')]

/-- The line of a field. -/
def field (color : Bool) (key value : String) : String :=
  Terminal.paint color [.dim] key ++ ": " ++ value

/-- The line of a field that may be absent. -/
def optionalField (color : Bool) (key : String) (value : Option String) : List String :=
  match value with
  | some text => [field color key text]
  | none => []

end View

end Mailroom
