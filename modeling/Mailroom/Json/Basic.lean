import Mailroom.Dict
import Mailroom.Number.Binary64

/-!
# JSON values

A JSON value is plain data: numbers are whole or binary floating point, and the fields of an object
are a list of entries. Every reader and every editing operation keeps objects in ascending order of
their keys; `object` makes such an object of any entries. Values that are written for display may
list their fields in another order, which `sorted` brings back to the ascending one.
-/

namespace Mailroom

/-- A number of a document. -/
inductive Number where
  | int (value : Int)
  | float (value : Binary64)
deriving DecidableEq

/-- A JSON value. -/
inductive Json where
  | null
  | bool (value : Bool)
  | num (value : Number)
  | str (text : String)
  | arr (items : List Json)
  | obj (fields : List (String × Json))

namespace Json

instance : Inhabited Json := ⟨.null⟩

/-- The object of some entries, the last of equal keys counting. -/
def object (entries : List (String × Json)) : Json :=
  .obj (Dict.ofList entries)

/-- A whole number. -/
def ofNat (n : Nat) : Json :=
  .num (.int n)

/-- A number of 64 bits. -/
def ofWord (n : UInt64) : Json :=
  ofNat n.toNat

/-- An array of texts. -/
def ofStrings (texts : List String) : Json :=
  .arr (texts.map .str)

/-- An array of numbers of 64 bits. -/
def ofWords (ns : List UInt64) : Json :=
  .arr (ns.map ofWord)

/-- A value, or null for none. -/
def ofOption {α : Type} (f : α → Json) (x : Option α) : Json :=
  match x with
  | some a => f a
  | none => .null

/-- The text of a string. -/
def string? (v : Json) : Option String :=
  match v with
  | .str s => some s
  | _ => none

/-- The fields of an object. -/
def fields? (v : Json) : Option (Dict Json) :=
  match v with
  | .obj fields => some fields
  | _ => none

/-- The value of a field, if the value is an object that has it. -/
def field? (v : Json) (key : String) : Option Json :=
  v.fields?.bind fun fields => Dict.find? fields key

/-- Whether a value is null. -/
def isNull (v : Json) : Bool :=
  match v with
  | .null => true
  | _ => false

mutual

/-- Whether two values are the same. -/
def beq (a b : Json) : Bool :=
  match a, b with
  | .null, .null => true
  | .bool x, .bool y => x == y
  | .num x, .num y => x == y
  | .str x, .str y => x == y
  | .arr xs, .arr ys => beqItems xs ys
  | .obj xs, .obj ys => beqFields xs ys
  | _, _ => false

/-- Whether two lists of values are the same. -/
def beqItems (xs ys : List Json) : Bool :=
  match xs, ys with
  | [], [] => true
  | x :: xs, y :: ys => beq x y && beqItems xs ys
  | _, _ => false

/-- Whether two lists of entries are the same. -/
def beqFields (xs ys : List (String × Json)) : Bool :=
  match xs, ys with
  | [], [] => true
  | (k, x) :: xs, (l, y) :: ys => k == l && beq x y && beqFields xs ys
  | _, _ => false

end

instance : BEq Json := ⟨beq⟩

mutual

/-- A value whose objects, at every level, have their fields in ascending order of the keys. -/
def sorted (v : Json) : Json :=
  match v with
  | .arr items => .arr (sortedItems items)
  | .obj fields => .obj (sortedFields fields [])
  | other => other

/-- The items of an array, each sorted. -/
def sortedItems (items : List Json) : List Json :=
  match items with
  | [] => []
  | v :: rest => sorted v :: sortedItems rest

/-- Stores the remaining fields, each sorted, in a dictionary. -/
def sortedFields (fields : List (String × Json)) (done : Dict Json) : Dict Json :=
  match fields with
  | [] => done
  | (k, v) :: rest => sortedFields rest (Dict.insert done k (sorted v))

end

end Json

end Mailroom
