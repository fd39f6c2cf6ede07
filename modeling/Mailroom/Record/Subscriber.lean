import Mailroom.Record.MailingList

/-!
# Subscribers

A subscriber has an address, a name, a status (enabled or blocklisted), free attributes, and the
lists it belongs to, each with the status of the subscription among its undeclared fields. A change
of the lists takes subscribers by number or by a condition that the server evaluates.
-/

namespace Mailroom

/-- A subscriber. -/
structure Subscriber where
  id : UInt64
  uuid : String
  email : String
  name : String
  status : String
  attribs : Dict Json
  lists : List MailingList
  createdAt : Option String
  updatedAt : Option String
  extra : Dict Json

namespace Subscriber

/-- The keys of the fields that a subscriber declares, in the order in which they are written. -/
def declared : List String :=
  ["id", "uuid", "email", "name", "status", "attribs", "lists", "created_at", "updated_at"]

/-- Reads a subscriber. -/
def decode : Decoder Subscriber := fun v => do
  let fields ← Decode.record "Subscriber" v
  let attribs ← Decode.field fields "attribs" [] (Decode.nullable [] Decode.dict)
  let createdAt ← Decode.field fields "created_at" none (Decode.optional Decode.text)
  let email ← Decode.field fields "email" "" Decode.text
  let id ← Decode.field fields "id" 0 Decode.word
  let lists ← Decode.field fields "lists" [] (Decode.nullable [] (Decode.list MailingList.decode))
  let name ← Decode.field fields "name" "" Decode.text
  let status ← Decode.field fields "status" "" Decode.text
  let updatedAt ← Decode.field fields "updated_at" none (Decode.optional Decode.text)
  let uuid ← Decode.field fields "uuid" "" Decode.text
  return {
    id, uuid, email, name, status, attribs, lists, createdAt, updatedAt,
    extra := Decode.undeclared declared fields }

/-- Writes a subscriber. -/
def encode (m : Subscriber) : Json :=
  .obj ([("id", .ofWord m.id), ("uuid", .str m.uuid), ("email", .str m.email),
    ("name", .str m.name), ("status", .str m.status), ("attribs", .obj m.attribs),
    ("lists", .arr (m.lists.map MailingList.encode)),
    ("created_at", .ofOption .str m.createdAt), ("updated_at", .ofOption .str m.updatedAt)] ++
    m.extra)

instance : Model Subscriber := ⟨decode, encode⟩

instance : Tabular Subscriber where
  titles := ["ID", "Email", "Name", "Status", "Lists"]
  cells color m := [
    Text.ofNat m.id.toNat, m.email, Terminal.truncate m.name 30, Terminal.statusText color m.status,
    Text.ofNat m.lists.length]

/-- The line of a list that a subscriber belongs to. -/
def membershipLine (color : Bool) (l : MailingList) : String :=
  let subscription :=
    ((Dict.find? l.extra "subscription_status").bind Json.string?).getD "-"
  s!"  {Text.ofNat l.id.toNat} {l.name} ({Terminal.statusText color subscription})"

instance : Detailed Subscriber where
  lines color m :=
    View.title color s!"Subscriber {Text.ofNat m.id.toNat}: {m.email}" ++
    [View.field color "Name" m.name,
      View.field color "Status" (Terminal.statusText color m.status),
      View.field color "UUID" m.uuid] ++
    (if m.lists.isEmpty then [] else "" :: "Lists:" :: m.lists.map (membershipLine color)) ++
    (if m.attribs.isEmpty then []
      else "" :: "Attributes:" ::
        m.attribs.map fun e => View.field color ("  " ++ e.1) e.2.compact)

end Subscriber

/-- What a change does with the lists it names. -/
inductive MembershipAction where
  | add
  | remove
  | unsubscribe
deriving DecidableEq

namespace MembershipAction

/-- The name of an action. -/
def text (a : MembershipAction) : String :=
  match a with
  | add => "add"
  | remove => "remove"
  | unsubscribe => "unsubscribe"

/-- The action of a name in any case. -/
def parse (s : String) : Except String MembershipAction :=
  match Text.lowercase s with
  | "add" => .ok add
  | "remove" => .ok remove
  | "unsubscribe" => .ok unsubscribe
  | other => .error s!"unknown action '{other}' (expected add, remove or unsubscribe)"

end MembershipAction

/-- A change of the lists of subscribers given by their numbers. -/
structure ListMembership where
  ids : List UInt64
  action : MembershipAction
  targetLists : List UInt64
  status : Option String

/-- A change as a request states it. -/
def ListMembership.encode (m : ListMembership) : Json :=
  .object ([("ids", .ofWords m.ids), ("action", .str m.action.text),
    ("target_list_ids", .ofWords m.targetLists)] ++
    (m.status.map fun s => ("status", Json.str s)).toList)

/-- Subscribers given by a condition, of some lists or, where none are named, of all. -/
structure SubscriberQuery where
  query : String
  listIds : List UInt64

/-- The entries that state a condition in a request. -/
def SubscriberQuery.entries (q : SubscriberQuery) : List (String × Json) :=
  ("query", .str q.query) ::
    (if q.listIds.isEmpty then [] else [("list_ids", .ofWords q.listIds)])

/-- A condition as a request states it. -/
def SubscriberQuery.encode (q : SubscriberQuery) : Json :=
  .object q.entries

end Mailroom
