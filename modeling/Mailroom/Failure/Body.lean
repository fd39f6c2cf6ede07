import Mailroom.Json.Printer

/-!
# What a failure's body says

A server tells why it refused a request in the body of its answer: in `message`, in `error`, or in
the `message` of an object under `error`. A refused validation also lists its complaints field by
field, under `errors` or `fields`.
-/

namespace Mailroom.Failure

/-- The text a body gives as its reason. A body that is a text itself is the reason unless empty. -/
def bodyMessage? (body : Json) : Option String :=
  match (body.field? "message").bind Json.string? with
  | some message => some message
  | none =>
    match body.field? "error" with
    | some (.str message) => some message
    | some error => (error.field? "message").bind Json.string?
    | none => body.string?.filter (· ≠ "")

/-- A complaint as a text: a text as it is, anything else in JSON. -/
def complaint (v : Json) : String :=
  match v with
  | .str s => s
  | other => other.compact

/-- The complaints about one field. -/
def complaints (v : Json) : List String :=
  match v with
  | .arr items => items.map complaint
  | other => [complaint other]

/-- The complaints by field, if the body lists any. -/
def bodyFields? (body : Json) : Option (Dict (List String)) :=
  let listed :=
    match body.field? "errors" with
    | some v => some v
    | none => body.field? "fields"
  ((listed.bind Json.fields?).map (Dict.mapValues complaints)).filter (!·.isEmpty)

end Mailroom.Failure
