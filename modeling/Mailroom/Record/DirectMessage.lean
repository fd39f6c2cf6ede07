import Mailroom.Json.Basic
import Mailroom.Text.Decimal

/-!
# Direct messages

A message to a single recipient, rendered from a template with data of its own. The recipient is
given by address or by number; a message without either cannot be sent.
-/

namespace Mailroom

/-- A message to a single recipient. -/
structure DirectMessage where
  address : Option String
  subscriberId : Option UInt64
  templateId : UInt64
  fromEmail : Option String
  data : Json
  headers : Dict String
  messenger : Option String
  contentType : Option String

namespace DirectMessage

/-- Whether a message says who gets it. -/
def hasRecipient (m : DirectMessage) : Bool :=
  m.address.isSome || m.subscriberId.isSome

/-- The recipient as shown to the sender. -/
def recipientText (m : DirectMessage) : String :=
  match m.address with
  | some address => address
  | none =>
    match m.subscriberId with
    | some id => s!"subscriber {Text.ofNat id.toNat}"
    | none => ""

/-- An entry for a text that may be absent. -/
def optionalEntry (key : String) (value : Option Json) : List (String × Json) :=
  (value.map fun v => (key, v)).toList

/-- A message as a request states it: what is absent, null or empty is left out. -/
def encode (m : DirectMessage) : Json :=
  .object (
    optionalEntry "subscriber_email" (m.address.map .str) ++
    optionalEntry "subscriber_id" (m.subscriberId.map .ofWord) ++
    [("template_id", .ofWord m.templateId)] ++
    optionalEntry "from_email" (m.fromEmail.map .str) ++
    (if m.data.isNull then [] else [("data", m.data)]) ++
    (if m.headers.isEmpty then [] else [("headers", .obj (Dict.mapValues .str m.headers))]) ++
    optionalEntry "messenger" (m.messenger.map .str) ++
    optionalEntry "content_type" (m.contentType.map .str))

end DirectMessage

end Mailroom
