import Mailroom.Record.Model

/-!
# Templates

A template is the frame of campaigns or of single messages; the latter have a subject too.
-/

namespace Mailroom

/-- A template. -/
structure Template where
  id : UInt64
  name : String
  templateType : String
  subject : Option String
  body : String
  isDefault : Bool
  createdAt : Option String
  updatedAt : Option String
  extra : Dict Json

namespace Template

/-- The keys of the fields that a template declares, in the order in which they are written. -/
def declared : List String :=
  ["id", "name", "type", "subject", "body", "is_default", "created_at", "updated_at"]

/-- Reads a template. -/
def decode : Decoder Template := fun v => do
  let fields ← Decode.record "Template" v
  let body ← Decode.field fields "body" "" Decode.text
  let createdAt ← Decode.field fields "created_at" none (Decode.optional Decode.text)
  let id ← Decode.field fields "id" 0 Decode.word
  let isDefault ← Decode.field fields "is_default" false Decode.bool
  let name ← Decode.field fields "name" "" Decode.text
  let subject ← Decode.field fields "subject" none (Decode.optional Decode.text)
  let templateType ← Decode.field fields "type" "" Decode.text
  let updatedAt ← Decode.field fields "updated_at" none (Decode.optional Decode.text)
  return {
    id, name, templateType, subject, body, isDefault, createdAt, updatedAt,
    extra := Decode.undeclared declared fields }

/-- Writes a template. -/
def encode (m : Template) : Json :=
  .obj ([("id", .ofWord m.id), ("name", .str m.name), ("type", .str m.templateType),
    ("subject", .ofOption .str m.subject), ("body", .str m.body), ("is_default", .bool m.isDefault),
    ("created_at", .ofOption .str m.createdAt), ("updated_at", .ofOption .str m.updatedAt)] ++
    m.extra)

instance : Model Template := ⟨decode, encode⟩

instance : Tabular Template where
  titles := ["ID", "Name", "Type", "Default"]
  cells color m := [
    Text.ofNat m.id.toNat, Terminal.truncate m.name 40, m.templateType,
    Terminal.boolText color m.isDefault]

instance : Detailed Template where
  lines color m :=
    View.title color s!"Template {Text.ofNat m.id.toNat}: {m.name}" ++
    [View.field color "Type" m.templateType,
      View.field color "Default" (Terminal.boolText color m.isDefault)] ++
    View.optionalField color "Subject" m.subject ++
    [View.field color "Body" s!"{Text.ofNat m.body.length} characters"]

end Template

end Mailroom
