import Mailroom.Record.Model

/-!
# Media

A file of the media library, with the address under which it is published.
-/

namespace Mailroom

/-- An uploaded file. -/
structure Media where
  id : UInt64
  uuid : String
  filename : String
  contentType : String
  url : String
  thumbUrl : Option String
  provider : String
  createdAt : Option String
  extra : Dict Json

namespace Media

/-- The keys of the fields that a file declares, in the order in which they are written. -/
def declared : List String :=
  ["id", "uuid", "filename", "content_type", "url", "thumb_url", "provider", "created_at"]

/-- Reads a file. -/
def decode : Decoder Media := fun v => do
  let fields ← Decode.record "Media" v
  let contentType ← Decode.field fields "content_type" "" Decode.text
  let createdAt ← Decode.field fields "created_at" none (Decode.optional Decode.text)
  let filename ← Decode.field fields "filename" "" Decode.text
  let id ← Decode.field fields "id" 0 Decode.word
  let provider ← Decode.field fields "provider" "" Decode.text
  let thumbUrl ← Decode.field fields "thumb_url" none (Decode.optional Decode.text)
  let url ← Decode.field fields "url" "" Decode.text
  let uuid ← Decode.field fields "uuid" "" Decode.text
  return {
    id, uuid, filename, contentType, url, thumbUrl, provider, createdAt,
    extra := Decode.undeclared declared fields }

/-- Writes a file. -/
def encode (m : Media) : Json :=
  .obj ([("id", .ofWord m.id), ("uuid", .str m.uuid), ("filename", .str m.filename),
    ("content_type", .str m.contentType), ("url", .str m.url),
    ("thumb_url", .ofOption .str m.thumbUrl), ("provider", .str m.provider),
    ("created_at", .ofOption .str m.createdAt)] ++ m.extra)

instance : Model Media := ⟨decode, encode⟩

instance : Tabular Media where
  titles := ["ID", "Filename", "Type", "URL"]
  cells _ m := [Text.ofNat m.id.toNat, Terminal.truncate m.filename 40, m.contentType, m.url]

instance : Detailed Media where
  lines color m :=
    View.title color s!"Media {Text.ofNat m.id.toNat}: {m.filename}" ++
    [View.field color "Type" m.contentType, View.field color "URL" m.url] ++
    View.optionalField color "Thumbnail" m.thumbUrl ++
    [View.field color "Provider" m.provider]

end Media

end Mailroom
