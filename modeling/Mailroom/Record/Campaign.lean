import Mailroom.Record.Model

/-!
# Campaigns

A campaign has a subject, content, the lists it goes to and the figures of its delivery. Its status
runs from draft over scheduled and running to finished or cancelled. The status is written as a
word; it is also read from an object whose only key is that word and whose value is null.
-/

namespace Mailroom

/-- The status of a campaign. -/
inductive CampaignStatus where
  | draft
  | scheduled
  | running
  | paused
  | finished
  | cancelled
deriving DecidableEq

namespace CampaignStatus

/-- The name of a status. -/
def text (s : CampaignStatus) : String :=
  match s with
  | draft => "draft"
  | scheduled => "scheduled"
  | running => "running"
  | paused => "paused"
  | finished => "finished"
  | cancelled => "cancelled"

/-- All the statuses. -/
def all : List CampaignStatus :=
  [draft, scheduled, running, paused, finished, cancelled]

/-- The status of an exact name. -/
def ofText? (s : String) : Option CampaignStatus :=
  all.find? fun status => status.text = s

/-- The status of a name in any case, which may spell the last one with a single letter l. -/
def parse (s : String) : Except String CampaignStatus :=
  let name := Text.lowercase s
  if name = "canceled" then .ok cancelled
  else
    match ofText? name with
    | some status => .ok status
    | none => .error s!"unknown campaign status '{name}'"

/-- The status of an exact name in a document. -/
def named (name : String) : Except Mismatch CampaignStatus :=
  match ofText? name with
  | some status => .ok status
  | none => .error (.unknownVariant name (all.map text))

/-- Reads a status. -/
def decode : Decoder CampaignStatus
  | .str name => named name
  | .obj [(name, v)] =>
    match named name with
    | .error e => .error e
    | .ok status => if v.isNull then .ok status else .error (.invalidType v "unit")
  | .obj _ => .error (.invalidValue "map" "map with a single key")
  | v => .error (.invalidType v "string or map")

end CampaignStatus

/-- The figures that are counted for campaigns. -/
inductive AnalyticsKind where
  | views
  | clicks
  | bounces
  | links
deriving DecidableEq

namespace AnalyticsKind

/-- The name of a figure. -/
def text (k : AnalyticsKind) : String :=
  match k with
  | views => "views"
  | clicks => "clicks"
  | bounces => "bounces"
  | links => "links"

/-- The figure of a name in any case. -/
def parse (s : String) : Except String AnalyticsKind :=
  match Text.lowercase s with
  | "views" => .ok views
  | "clicks" => .ok clicks
  | "bounces" => .ok bounces
  | "links" => .ok links
  | other =>
    .error s!"unknown analytics type '{other}' (expected views, clicks, bounces or links)"

end AnalyticsKind

/-- A campaign. -/
structure Campaign where
  id : UInt64
  uuid : String
  name : String
  subject : String
  fromEmail : String
  status : Option CampaignStatus
  campaignType : String
  contentType : String
  body : String
  templateId : Option UInt64
  lists : List (Dict Json)
  tags : List String
  sendAt : Option String
  startedAt : Option String
  createdAt : Option String
  updatedAt : Option String
  toSend : UInt64
  sent : UInt64
  views : UInt64
  clicks : UInt64
  extra : Dict Json

namespace Campaign

/-- The keys of the fields that a campaign declares, in the order in which they are written. -/
def declared : List String :=
  ["id", "uuid", "name", "subject", "from_email", "status", "type", "content_type", "body",
    "template_id", "lists", "tags", "send_at", "started_at", "created_at", "updated_at", "to_send",
    "sent", "views", "clicks"]

/-- Reads a campaign. -/
def decode : Decoder Campaign := fun v => do
  let fields ← Decode.record "Campaign" v
  let body ← Decode.field fields "body" "" Decode.text
  let clicks ← Decode.field fields "clicks" 0 Decode.word
  let contentType ← Decode.field fields "content_type" "" Decode.text
  let createdAt ← Decode.field fields "created_at" none (Decode.optional Decode.text)
  let fromEmail ← Decode.field fields "from_email" "" Decode.text
  let id ← Decode.field fields "id" 0 Decode.word
  let lists ← Decode.field fields "lists" [] (Decode.nullable [] (Decode.list Decode.dict))
  let name ← Decode.field fields "name" "" Decode.text
  let sendAt ← Decode.field fields "send_at" none (Decode.optional Decode.text)
  let sent ← Decode.field fields "sent" 0 Decode.word
  let startedAt ← Decode.field fields "started_at" none (Decode.optional Decode.text)
  let status ← Decode.field fields "status" none (Decode.optional CampaignStatus.decode)
  let subject ← Decode.field fields "subject" "" Decode.text
  let tags ← Decode.field fields "tags" [] (Decode.nullable [] (Decode.list Decode.text))
  let templateId ← Decode.field fields "template_id" none (Decode.optional Decode.word)
  let toSend ← Decode.field fields "to_send" 0 Decode.word
  let campaignType ← Decode.field fields "type" "" Decode.text
  let updatedAt ← Decode.field fields "updated_at" none (Decode.optional Decode.text)
  let uuid ← Decode.field fields "uuid" "" Decode.text
  let views ← Decode.field fields "views" 0 Decode.word
  return {
    id, uuid, name, subject, fromEmail, status, campaignType, contentType, body, templateId, lists,
    tags, sendAt, startedAt, createdAt, updatedAt, toSend, sent, views, clicks,
    extra := Decode.undeclared declared fields }

/-- Writes a campaign. -/
def encode (m : Campaign) : Json :=
  .obj ([("id", .ofWord m.id), ("uuid", .str m.uuid), ("name", .str m.name),
    ("subject", .str m.subject), ("from_email", .str m.fromEmail),
    ("status", .ofOption (fun s => .str s.text) m.status), ("type", .str m.campaignType),
    ("content_type", .str m.contentType), ("body", .str m.body),
    ("template_id", .ofOption .ofWord m.templateId), ("lists", .arr (m.lists.map .obj)),
    ("tags", .ofStrings m.tags), ("send_at", .ofOption .str m.sendAt),
    ("started_at", .ofOption .str m.startedAt), ("created_at", .ofOption .str m.createdAt),
    ("updated_at", .ofOption .str m.updatedAt), ("to_send", .ofWord m.toSend),
    ("sent", .ofWord m.sent), ("views", .ofWord m.views), ("clicks", .ofWord m.clicks)] ++
    m.extra)

instance : Model Campaign := ⟨decode, encode⟩

/-- The word shown for the status of a campaign. -/
def statusLabel (m : Campaign) : String :=
  match m.status with
  | some s => s.text
  | none => "-"

instance : Tabular Campaign where
  titles := ["ID", "Name", "Status", "Sent", "Views", "Clicks"]
  cells color m := [
    Text.ofNat m.id.toNat, Terminal.truncate m.name 40, Terminal.statusText color m.statusLabel,
    s!"{Text.ofNat m.sent.toNat}/{Text.ofNat m.toSend.toNat}", Text.ofNat m.views.toNat,
    Text.ofNat m.clicks.toNat]

/-- The names of the lists that a campaign goes to. -/
def listNames (m : Campaign) : List String :=
  m.lists.filterMap fun fields => (Dict.find? fields "name").bind Json.string?

instance : Detailed Campaign where
  lines color m :=
    View.title color s!"Campaign {Text.ofNat m.id.toNat}: {m.name}" ++
    [View.field color "Subject" m.subject, View.field color "From" m.fromEmail,
      View.field color "Status" (Terminal.statusText color m.statusLabel),
      View.field color "Type" m.campaignType, View.field color "Content type" m.contentType] ++
    (if m.listNames.isEmpty then []
      else [View.field color "Lists" (", ".intercalate m.listNames)]) ++
    [View.field color "Sent" s!"{Text.ofNat m.sent.toNat} of {Text.ofNat m.toSend.toNat}",
      View.field color "Views" (Text.ofNat m.views.toNat),
      View.field color "Clicks" (Text.ofNat m.clicks.toNat)] ++
    View.optionalField color "Send at" m.sendAt

end Campaign

end Mailroom
