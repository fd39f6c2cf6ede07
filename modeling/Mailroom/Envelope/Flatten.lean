import Mailroom.Json.Basic

/-!
# Unwrapping nested envelopes

A payload comes as the `data` of an object, and that object may itself be the `data` of another one.
`unwrapOnce?` merges an object with the object in its `data` as long as the inner one has `data`
too; the inner fields win, so the outer `data` gives way to the inner one. `flatten` repeats this
until nothing is nested. Arrays are never looked into.

`dataDepth` counts the objects along `data` and bounds the repetition: each merge takes one away.
-/

namespace Mailroom.Envelope

/-- The fields of an object whose `data` is an object with `data` again, and those of the inner one.
-/
def nestedParts? (v : Json) : Option (Dict Json × Dict Json) :=
  match v with
  | .obj outer =>
    match Dict.find? outer "data" with
    | some (.obj inner) => if Dict.contains inner "data" then some (outer, inner) else none
    | _ => none
  | _ => none

/-- Whether a value still holds an envelope inside its envelope. -/
def isNested (v : Json) : Bool :=
  (nestedParts? v).isSome

/-- One layer merged into the next, if there are two. -/
def unwrapOnce? (v : Json) : Option Json :=
  (nestedParts? v).map fun parts => .obj (Dict.insertAll parts.1 parts.2)

mutual

/-- The number of objects that lie one inside another along `data`. -/
def dataDepth (v : Json) : Nat :=
  match v with
  | .obj fields => fieldDepth fields + 1
  | _ => 0

/-- The number of objects along `data` below some fields. -/
def fieldDepth (fields : List (String × Json)) : Nat :=
  match fields with
  | [] => 0
  | (key, v) :: rest => if key = "data" then dataDepth v else fieldDepth rest

end

/-- Merges layers a limited number of times. -/
def flattenWithin (limit : Nat) (v : Json) : Json :=
  match limit with
  | 0 => v
  | n + 1 =>
    match unwrapOnce? v with
    | none => v
    | some next => flattenWithin n next

/-- A value with all its envelopes merged into one. -/
def flatten (v : Json) : Json :=
  flattenWithin (dataDepth v) v

end Mailroom.Envelope
