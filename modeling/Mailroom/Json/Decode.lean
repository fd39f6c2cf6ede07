import Mailroom.Json.Printer
import Mailroom.Text.Decimal
import Mailroom.Text.Shown

/-!
# Reading values out of JSON

A decoder takes a JSON value to a value of the domain or says how it does not fit: of another kind
than expected, outside a range, an unknown name or a list too long. The fields of a record are read
in ascending order of their keys, so the first key that does not fit decides the complaint.
-/

namespace Mailroom

/-- How a value does not fit what was expected of it. -/
inductive Mismatch where
  | invalidType (found : Json) (expected : String)
  | invalidValue (found : String) (expected : String)
  | unknownVariant (name : String) (variants : List String)
  | invalidLength (length : Nat) (expected : String)

/-- The kind of a value, with the value itself where it is short. -/
def Json.describe (v : Json) : String :=
  match v with
  | .null => "null"
  | .bool b => "boolean `" ++ (if b then "true" else "false") ++ "`"
  | .num (.int n) => "integer `" ++ Text.ofInt n ++ "`"
  | .num (.float x) => "floating point `" ++ x.text ++ "`"
  | .str s => "string " ++ Text.shown s
  | .arr _ => "sequence"
  | .obj _ => "map"

/-- The complaint about a value. -/
def Mismatch.message (m : Mismatch) : String :=
  match m with
  | .invalidType found expected => "invalid type: " ++ found.describe ++ ", expected " ++ expected
  | .invalidValue found expected => "invalid value: " ++ found ++ ", expected " ++ expected
  | .unknownVariant name variants =>
    "unknown variant `" ++ name ++ "`, expected one of " ++
      ", ".intercalate (variants.map fun v => "`" ++ v ++ "`")
  | .invalidLength length expected =>
    "invalid length " ++ Text.ofNat length ++ ", expected " ++ expected

/-- A reading of JSON values. -/
abbrev Decoder (α : Type) := Json → Except Mismatch α

namespace Decode

/-- Any value as it is. -/
def value : Decoder Json := .ok

/-- A text. -/
def text : Decoder String
  | .str s => .ok s
  | v => .error (.invalidType v "a string")

/-- A truth value. -/
def bool : Decoder Bool
  | .bool b => .ok b
  | v => .error (.invalidType v "a boolean")

/-- A whole number of 64 bits that is not negative. -/
def word : Decoder UInt64
  | .num (.int n) =>
    if 0 ≤ n ∧ n < bitBound 64 then .ok n.toNat.toUInt64
    else .error (.invalidValue (Json.num (.int n)).describe "u64")
  | v => .error (.invalidType v "u64")

/-- The fields of an object, whatever they are. -/
def dict : Decoder (Dict Json)
  | .obj fields => .ok fields
  | v => .error (.invalidType v "a map")

/-- The items of an array, each read by the same decoder; the first that does not fit decides. -/
def items {α : Type} (item : Decoder α) (vs : List Json) : Except Mismatch (List α) :=
  match vs with
  | [] => .ok []
  | v :: rest =>
    match item v with
    | .error e => .error e
    | .ok a => (items item rest).map (a :: ·)

/-- An array. -/
def list {α : Type} (item : Decoder α) : Decoder (List α)
  | .arr vs => items item vs
  | v => .error (.invalidType v "a sequence")

/-- A value that may be null. -/
def optional {α : Type} (item : Decoder α) : Decoder (Option α)
  | .null => .ok none
  | v => (item v).map some

/-- A value for which null stands for an empty one. -/
def nullable {α : Type} (empty : α) (item : Decoder α) : Decoder α
  | .null => .ok empty
  | v => item v

/-- A field of a record, which has a value of its own where it is absent. -/
def field {α : Type} (fields : Dict Json) (key : String) (absent : α) (item : Decoder α) :
    Except Mismatch α :=
  match Dict.find? fields key with
  | none => .ok absent
  | some v => item v

/-- The fields of a record of some name. -/
def record (name : String) : Decoder (Dict Json)
  | .obj fields => .ok fields
  | v => .error (.invalidType v ("struct " ++ name))

/-- The fields whose keys are not among the declared ones. -/
def undeclared (declared : List String) (fields : Dict Json) : Dict Json :=
  fields.filter fun e => !declared.contains e.1

end Decode

end Mailroom
