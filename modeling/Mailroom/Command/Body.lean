import Mailroom.Call.Options
import Mailroom.Command.Field
import Mailroom.Command.Inputs

/-!
# Bodies and queries of commands

A body comes from a document, from fields laid over it, or from fields alone. The query of a list
comes from parameters, over which the page and its size are laid.
-/

namespace Mailroom

/-- Where the body of a request comes from. -/
structure BodySource where
  typedFields : List String
  plainFields : List String
  input : Option String

namespace BodySource

/-- Whether no fields are given. -/
def hasNoFields (b : BodySource) : Bool :=
  b.typedFields.isEmpty && b.plainFields.isEmpty

/-- The document, if one is named. -/
def document (b : BodySource) (inputs : Inputs) : Except Report (Option Json) :=
  match b.input with
  | none => .ok none
  | some name => (inputs.document name).map some

/-- The object over which fields are laid. -/
def ground (document : Option Json) : Except Report (Dict Json) :=
  match document with
  | none => .ok []
  | some (.obj fields) => .ok fields
  | some _ => .error (.plain "--input must hold a JSON object when combined with fields")

/-- The body, if anything is given for it. -/
def body (b : BodySource) (inputs : Inputs) : Except Report (Option Json) :=
  match b.document inputs with
  | .error e => .error e
  | .ok document =>
    if b.hasNoFields then .ok document
    else
      match ground document with
      | .error e => .error e
      | .ok fields =>
        (Field.entries b.typedFields b.plainFields).map fun entries =>
          some (.obj (Field.putAll fields entries))

/-- The body of a request that needs one. -/
def required (b : BodySource) (inputs : Inputs) : Except Report Json :=
  match b.body inputs with
  | .error e => .error e
  | .ok (some v) => .ok v
  | .ok none =>
    .error (.plain "A request body is required: pass -F KEY=VALUE fields or --input FILE")

/-- The settings to replace the current ones by: the document or else the current settings, with
fields laid over them under their keys as they stand. -/
def settings (b : BodySource) (inputs : Inputs) (current : Json) : Except Report Json :=
  match b.document inputs with
  | .error e => .error e
  | .ok document =>
    match document.getD current with
    | .obj fields =>
      (Field.entries b.typedFields b.plainFields).map fun entries =>
        .obj (Dict.insertAll fields entries)
    | _ => .error (.plain "Settings must be a JSON object")

end BodySource

/-- Which page of a list is asked for, and with which further parameters. -/
structure PageQuery where
  page : Option UInt64
  perPage : Option String
  params : List String

namespace PageQuery

/-- The size of a page as a parameter: a number where it is one. -/
def sizeValue (size : String) : Json :=
  match Text.readWord? size with
  | some n => .ofWord n
  | none => .str size

/-- The parameters that name the page. -/
def ownEntries (q : PageQuery) : List (String × Json) :=
  (q.page.map fun n => ("page", Json.ofWord n)).toList ++
    (q.perPage.map fun size => ("per_page", sizeValue size)).toList

/-- The options of a request for a page. -/
def options (q : PageQuery) : Except Report CallOptions :=
  (Field.readAll Field.typed q.params).map fun entries =>
    { CallOptions.empty with query := Dict.ofList (entries ++ q.ownEntries) }

end PageQuery

end Mailroom
