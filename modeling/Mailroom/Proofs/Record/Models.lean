import Mailroom.Proofs.Record.OpenModel
import Mailroom.Record.Bounce
import Mailroom.Record.Campaign
import Mailroom.Record.Media
import Mailroom.Record.Subscriber
import Mailroom.Record.Template

/-!
# The models

Every model that the server's objects are read into is described by its slots, in the order in which
they are written. An object is read in the order of its keys instead: what is read from a record
(`Decode.field_bind_eq_ok_iff`) is stated field by field, and so the order does not matter. From the
descriptions the laws of open models follow for each model, and for the lists of a subscriber by way
of those of mailing lists.
-/

namespace Mailroom

namespace Decode

variable {α β : Type}

/-! ## Reading a record -/

@[simp] theorem record_bind_eq_ok_iff {name : String} {v : Json} {f : Dict Json → Except Mismatch α}
    {m : α} : (record name v >>= f) = .ok m ↔ ∃ fields, v = .obj fields ∧ f fields = .ok m := by
  cases v <;> simp [record, bind, Except.bind]

/-- What is read from a record goes on with what its first field is read as. -/
@[simp] theorem field_bind_eq_ok_iff {fields : Dict Json} {key : String} {absent : β}
    {item : Decoder β} {f : β → Except Mismatch α} {m : α} :
    (field fields key absent item >>= f) = .ok m ↔
      ∃ b, stored absent item (Dict.find? fields key) = .ok b ∧ f b = .ok m := by
  rw [field_eq_stored]
  exact Outcome.bind_eq_ok_iff

@[simp] theorem field_map_eq_ok_iff {fields : Dict Json} {key : String} {absent : β}
    {item : Decoder β} {f : β → α} {m : α} :
    (f <$> field fields key absent item) = .ok m ↔
      ∃ b, stored absent item (Dict.find? fields key) = .ok b ∧ f b = m := by
  rw [field_eq_stored]
  exact Outcome.map_eq_ok_iff

end Decode

/-! ## The models -/

namespace Template

instance : OpenModel Template where
  declared := declared
  collections := []
  extra := extra
  withExtra m e := { m with extra := e }

/-- The declared fields of a template. -/
def slots : List (Slot Template) :=
  [.word "id" id, .text "name" name, .text "type" templateType,
    .optional "subject" Decode.text .str subject, .text "body" body, .flag "is_default" isDefault,
    .optional "created_at" Decode.text .str createdAt,
    .optional "updated_at" Decode.text .str updatedAt]

theorem described : OpenModel.Described slots where
  decode_eq_ok_iff := by
    rintro v ⟨⟩
    -- The flag is found like the other fields, not by trying both truth values.
    simp [Model.decode, OpenModel.extra, OpenModel.declared, decode, slots, -Bool.exists_bool]
    grind
  stable := by simp [slots]
  holds_withExtra := by simp [slots, OpenModel.withExtra]
  collections := by simp [OpenModel.collections]

end Template

namespace Media

instance : OpenModel Media where
  declared := declared
  collections := []
  extra := extra
  withExtra m e := { m with extra := e }

/-- The declared fields of a file. -/
def slots : List (Slot Media) :=
  [.word "id" id, .text "uuid" uuid, .text "filename" filename, .text "content_type" contentType,
    .text "url" url, .optional "thumb_url" Decode.text .str thumbUrl, .text "provider" provider,
    .optional "created_at" Decode.text .str createdAt]

theorem described : OpenModel.Described slots where
  decode_eq_ok_iff := by
    rintro v ⟨⟩
    simp [Model.decode, OpenModel.extra, OpenModel.declared, decode, slots]
    grind
  stable := by simp [slots]
  holds_withExtra := by simp [slots, OpenModel.withExtra]
  collections := by simp [OpenModel.collections]

end Media

namespace Bounce

instance : OpenModel Bounce where
  declared := declared
  collections := []
  extra := extra
  withExtra m e := { m with extra := e }

/-- The declared fields of a bounce. -/
def slots : List (Slot Bounce) :=
  [.word "id" id, .text "type" bounceType, .text "source" source, .text "email" email,
    .optional "subscriber_id" Decode.word .ofWord subscriberId,
    .optional "subscriber_uuid" Decode.text .str subscriberUuid,
    .optional "campaign" Decode.value (fun v => v) campaign,
    .optional "meta" Decode.value (fun v => v) details,
    .optional "created_at" Decode.text .str createdAt]

theorem described : OpenModel.Described slots where
  decode_eq_ok_iff := by
    rintro v ⟨⟩
    simp [Model.decode, OpenModel.extra, OpenModel.declared, decode, slots]
    grind
  stable := by simp [slots]
  holds_withExtra := by simp [slots, OpenModel.withExtra]
  collections := by simp [OpenModel.collections]

end Bounce

namespace MailingList

instance : OpenModel MailingList where
  declared := declared
  collections := [("tags", .arr []), ("subscriber_statuses", .obj [])]
  extra := extra
  withExtra m e := { m with extra := e }

/-- The declared fields of a list. -/
def slots : List (Slot MailingList) :=
  [.word "id" id, .text "uuid" uuid, .text "name" name, .text "type" listType, .text "optin" optin,
    .collection "tags" (Decode.list Decode.text) .ofStrings tags,
    .optional "description" Decode.text .str description,
    .word "subscriber_count" subscriberCount,
    .collection "subscriber_statuses" Decode.dict .obj subscriberStatuses,
    .optional "created_at" Decode.text .str createdAt,
    .optional "updated_at" Decode.text .str updatedAt]

theorem described : OpenModel.Described slots where
  decode_eq_ok_iff := by
    rintro v ⟨⟩
    simp [Model.decode, OpenModel.extra, OpenModel.declared, decode, slots]
    grind
  stable := by simp [slots]
  holds_withExtra := by simp [slots, OpenModel.withExtra]
  collections := by
    simp only [OpenModel.collections, List.forall_mem_cons]
    exact ⟨Slot.exists_collection (Decode.list Decode.text) .ofStrings tags (by simp [slots]) rfl
        Json.noConfusion,
      Slot.exists_collection Decode.dict .obj subscriberStatuses (by simp [slots]) rfl
        Json.noConfusion,
      List.forall_mem_nil _⟩

end MailingList

namespace Subscriber

instance : OpenModel Subscriber where
  declared := declared
  collections := [("attribs", .obj []), ("lists", .arr [])]
  extra := extra
  withExtra m e := { m with extra := e }

/-- The declared fields of a subscriber. -/
def slots : List (Slot Subscriber) :=
  [.word "id" id, .text "uuid" uuid, .text "email" email, .text "name" name,
    .text "status" status, .collection "attribs" Decode.dict .obj attribs,
    .collection "lists" (Decode.list MailingList.decode)
      (fun ls => .arr (ls.map MailingList.encode)) lists,
    .optional "created_at" Decode.text .str createdAt,
    .optional "updated_at" Decode.text .str updatedAt]

theorem described : OpenModel.Described slots where
  decode_eq_ok_iff := by
    rintro v ⟨⟩
    simp [Model.decode, OpenModel.extra, OpenModel.declared, decode, slots]
    grind
  stable := by
    have hlists : Decode.Stable MailingList.decode MailingList.encode :=
      fun v m hv hm inOrder => MailingList.described.laws.decode_encode v m inOrder hv hm
    simp [slots, Slot.stable_array hlists]
  holds_withExtra := by simp [slots, OpenModel.withExtra]
  collections := by
    simp only [OpenModel.collections, List.forall_mem_cons]
    exact ⟨Slot.exists_collection Decode.dict .obj attribs (by simp [slots]) rfl Json.noConfusion,
      Slot.exists_collection (Decode.list MailingList.decode)
        (fun ls => .arr (ls.map MailingList.encode)) lists (by simp [slots]) rfl Json.noConfusion,
      List.forall_mem_nil _⟩

end Subscriber

namespace CampaignStatus

theorem named_text (s : CampaignStatus) : named s.text = .ok s := by
  cases s <;> rfl

/-- A status is read back from its word, whatever it was read from. -/
theorem stable_decode : Decode.Stable decode (fun s => .str s.text) := by
  intro v s _ _ inOrder
  rw [Json.listed_str]
  exact named_text s

end CampaignStatus

namespace Campaign

instance : OpenModel Campaign where
  declared := declared
  collections := [("lists", .arr []), ("tags", .arr [])]
  extra := extra
  withExtra m e := { m with extra := e }

/-- The declared fields of a campaign. -/
def slots : List (Slot Campaign) :=
  [.word "id" id, .text "uuid" uuid, .text "name" name, .text "subject" subject,
    .text "from_email" fromEmail,
    .optional "status" CampaignStatus.decode (fun s => .str s.text) status,
    .text "type" campaignType, .text "content_type" contentType, .text "body" body,
    .optional "template_id" Decode.word .ofWord templateId,
    .collection "lists" (Decode.list Decode.dict) (fun ls => .arr (ls.map .obj)) lists,
    .collection "tags" (Decode.list Decode.text) .ofStrings tags,
    .optional "send_at" Decode.text .str sendAt, .optional "started_at" Decode.text .str startedAt,
    .optional "created_at" Decode.text .str createdAt,
    .optional "updated_at" Decode.text .str updatedAt, .word "to_send" toSend, .word "sent" sent,
    .word "views" views, .word "clicks" clicks]

theorem described : OpenModel.Described slots where
  decode_eq_ok_iff := by
    rintro v ⟨⟩
    simp [Model.decode, OpenModel.extra, OpenModel.declared, decode, slots]
    grind
  stable := by
    have hstatus : (Slot.optional "status" CampaignStatus.decode (fun s => .str s.text)
        status).Stable :=
      Slot.stable_optional CampaignStatus.stable_decode fun _ _ _ _ => Json.noConfusion
    simp [slots, hstatus, Slot.stable_array Decode.stable_dict]
  holds_withExtra := by simp [slots, OpenModel.withExtra]
  collections := by
    simp only [OpenModel.collections, List.forall_mem_cons]
    exact ⟨Slot.exists_collection (Decode.list Decode.dict) (fun ls => .arr (ls.map .obj)) lists
        (by simp [slots]) rfl Json.noConfusion,
      Slot.exists_collection (Decode.list Decode.text) .ofStrings tags (by simp [slots]) rfl
        Json.noConfusion,
      List.forall_mem_nil _⟩

end Campaign

/-- All models survive being written and read, keep what they do not declare as it is, read their
declared fields whatever else an object holds, and take null and nothing for an empty collection. -/
theorem OpenModel.models_obey_laws :
    Laws MailingList ∧ Laws Subscriber ∧ Laws Campaign ∧ Laws Template ∧ Laws Media ∧
      Laws Bounce :=
  ⟨MailingList.described.laws, Subscriber.described.laws, Campaign.described.laws,
    Template.described.laws, Media.described.laws, Bounce.described.laws⟩

end Mailroom
