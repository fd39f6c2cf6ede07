import Mailroom.Record.Model

/-!
# Bounces

A bounce records that a message could not be delivered: softly, hard, or with a complaint.
-/

namespace Mailroom

/-- A recorded bounce. -/
structure Bounce where
  id : UInt64
  bounceType : String
  source : String
  email : String
  subscriberId : Option UInt64
  subscriberUuid : Option String
  campaign : Option Json
  details : Option Json
  createdAt : Option String
  extra : Dict Json

namespace Bounce

/-- The keys of the fields that a bounce declares, in the order in which they are written. -/
def declared : List String :=
  ["id", "type", "source", "email", "subscriber_id", "subscriber_uuid", "campaign", "meta",
    "created_at"]

/-- Reads a bounce. -/
def decode : Decoder Bounce := fun v => do
  let fields ← Decode.record "Bounce" v
  let campaign ← Decode.field fields "campaign" none (Decode.optional Decode.value)
  let createdAt ← Decode.field fields "created_at" none (Decode.optional Decode.text)
  let email ← Decode.field fields "email" "" Decode.text
  let id ← Decode.field fields "id" 0 Decode.word
  let details ← Decode.field fields "meta" none (Decode.optional Decode.value)
  let source ← Decode.field fields "source" "" Decode.text
  let subscriberId ← Decode.field fields "subscriber_id" none (Decode.optional Decode.word)
  let subscriberUuid ← Decode.field fields "subscriber_uuid" none (Decode.optional Decode.text)
  let bounceType ← Decode.field fields "type" "" Decode.text
  return {
    id, bounceType, source, email, subscriberId, subscriberUuid, campaign, details, createdAt,
    extra := Decode.undeclared declared fields }

/-- Writes a bounce. -/
def encode (m : Bounce) : Json :=
  .obj ([("id", .ofWord m.id), ("type", .str m.bounceType), ("source", .str m.source),
    ("email", .str m.email), ("subscriber_id", .ofOption .ofWord m.subscriberId),
    ("subscriber_uuid", .ofOption .str m.subscriberUuid),
    ("campaign", .ofOption (fun v => v) m.campaign), ("meta", .ofOption (fun v => v) m.details),
    ("created_at", .ofOption .str m.createdAt)] ++ m.extra)

instance : Model Bounce := ⟨decode, encode⟩

/-- The name of the campaign whose message bounced. -/
def campaignName (m : Bounce) : String :=
  ((m.campaign.bind fun c => c.field? "name").bind Json.string?).getD "-"

/-- The type of a bounce; one that will not deliver again stands out. -/
def typeText (color : Bool) (m : Bounce) : String :=
  if m.bounceType = "hard" || m.bounceType = "complaint" then
    Terminal.paint color [.red] m.bounceType
  else m.bounceType

instance : Tabular Bounce where
  titles := ["ID", "Email", "Type", "Source", "Campaign", "Created"]
  cells color m := [
    Text.ofNat m.id.toNat, m.email, m.typeText color, m.source, m.campaignName,
    m.createdAt.getD ""]

instance : Detailed Bounce where
  lines color m :=
    View.title color s!"Bounce {Text.ofNat m.id.toNat}" ++
    [View.field color "Email" m.email, View.field color "Type" m.bounceType,
      View.field color "Source" m.source, View.field color "Campaign" m.campaignName] ++
    View.optionalField color "Meta" (m.details.map Json.compact) ++
    View.optionalField color "Created" m.createdAt

end Bounce

end Mailroom
