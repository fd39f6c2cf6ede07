import Mailroom.Json.Printer

/-!
# Imports

How the server takes up the rows of an uploaded file: it subscribes them to lists or blocklists
them.
-/

namespace Mailroom

/-- What is done with the rows of a file. -/
inductive ImportMode where
  | subscribe
  | blocklist
deriving DecidableEq

/-- The name of a mode. -/
def ImportMode.text (m : ImportMode) : String :=
  match m with
  | subscribe => "subscribe"
  | blocklist => "blocklist"

/-- The modes. -/
def ImportMode.all : List ImportMode :=
  [.subscribe, .blocklist]

/-- How the rows of a file are taken up. -/
structure ImportParams where
  mode : ImportMode
  subscriptionStatus : String
  delimiter : String
  lists : List UInt64
  overwrite : Bool

namespace ImportParams

/-- Rows are subscribed to no list, without a confirmation, and keep what is stored. -/
def default : ImportParams :=
  ⟨.subscribe, "unconfirmed", ",", [], false⟩

/-- The parameters as the text of a form field. -/
def text (p : ImportParams) : String :=
  (Json.obj [("mode", .str p.mode.text), ("subscription_status", .str p.subscriptionStatus),
    ("delim", .str p.delimiter), ("lists", .ofWords p.lists),
    ("overwrite", .bool p.overwrite)]).compact

end ImportParams

end Mailroom
