import Mailroom.Record.Model

/-!
# Mailing lists

A list has a name, a type (public or private), a way of joining it (single or double) and the number
of its subscribers, in all and by the status of their subscription.
-/

namespace Mailroom

/-- A mailing list. -/
structure MailingList where
  id : UInt64
  uuid : String
  name : String
  listType : String
  optin : String
  tags : List String
  description : Option String
  subscriberCount : UInt64
  subscriberStatuses : Dict Json
  createdAt : Option String
  updatedAt : Option String
  extra : Dict Json

namespace MailingList

/-- The keys of the fields that a list declares, in the order in which they are written. -/
def declared : List String :=
  ["id", "uuid", "name", "type", "optin", "tags", "description", "subscriber_count",
    "subscriber_statuses", "created_at", "updated_at"]

/-- Reads a list. -/
def decode : Decoder MailingList := fun v => do
  let fields ← Decode.record "MailingList" v
  let createdAt ← Decode.field fields "created_at" none (Decode.optional Decode.text)
  let description ← Decode.field fields "description" none (Decode.optional Decode.text)
  let id ← Decode.field fields "id" 0 Decode.word
  let name ← Decode.field fields "name" "" Decode.text
  let optin ← Decode.field fields "optin" "" Decode.text
  let subscriberCount ← Decode.field fields "subscriber_count" 0 Decode.word
  let subscriberStatuses ←
    Decode.field fields "subscriber_statuses" [] (Decode.nullable [] Decode.dict)
  let tags ← Decode.field fields "tags" [] (Decode.nullable [] (Decode.list Decode.text))
  let listType ← Decode.field fields "type" "" Decode.text
  let updatedAt ← Decode.field fields "updated_at" none (Decode.optional Decode.text)
  let uuid ← Decode.field fields "uuid" "" Decode.text
  return {
    id, uuid, name, listType, optin, tags, description, subscriberCount, subscriberStatuses,
    createdAt, updatedAt, extra := Decode.undeclared declared fields }

/-- Writes a list. -/
def encode (m : MailingList) : Json :=
  .obj ([("id", .ofWord m.id), ("uuid", .str m.uuid), ("name", .str m.name),
    ("type", .str m.listType), ("optin", .str m.optin), ("tags", .ofStrings m.tags),
    ("description", .ofOption .str m.description),
    ("subscriber_count", .ofWord m.subscriberCount),
    ("subscriber_statuses", .obj m.subscriberStatuses),
    ("created_at", .ofOption .str m.createdAt), ("updated_at", .ofOption .str m.updatedAt)] ++
    m.extra)

instance : Model MailingList := ⟨decode, encode⟩

instance : Tabular MailingList where
  titles := ["ID", "Name", "Type", "Opt-in", "Subscribers", "Tags"]
  cells color m := [
    Text.ofNat m.id.toNat, Terminal.truncate m.name 40, Terminal.statusText color m.listType,
    m.optin, Text.ofNat m.subscriberCount.toNat, ", ".intercalate m.tags]

instance : Detailed MailingList where
  lines color m :=
    View.title color s!"List {Text.ofNat m.id.toNat}: {m.name}" ++
    [View.field color "UUID" m.uuid, View.field color "Type" m.listType,
      View.field color "Opt-in" m.optin,
      View.field color "Subscribers" (Text.ofNat m.subscriberCount.toNat)] ++
    m.subscriberStatuses.map (fun e => View.field color ("  " ++ e.1) e.2.compact) ++
    (if m.tags.isEmpty then [] else [View.field color "Tags" (", ".intercalate m.tags)]) ++
    View.optionalField color "Description" (m.description.filter (· ≠ "")) ++
    View.optionalField color "Created" m.createdAt

end MailingList

end Mailroom
