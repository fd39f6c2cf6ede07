import Mailroom.Text.Lowercase

/-!
# Styled text

Colours and weights of text on a terminal. Where colours are off, text stays plain.
-/

namespace Mailroom.Terminal

/-- A colour or a weight of text. -/
inductive Style where
  | red
  | green
  | yellow
  | blue
  | bold
  | dim

/-- The number that switches a style on. -/
def Style.code (s : Style) : String :=
  match s with
  | red => "31"
  | green => "32"
  | yellow => "33"
  | blue => "34"
  | bold => "1"
  | dim => "2"

/-- Text in some styles, which end behind it. -/
def styled (styles : List Style) (text : String) : String :=
  "".intercalate (styles.map fun s => "\x1b[" ++ s.code ++ "m") ++ text ++ "\x1b[0m"

/-- Text in some styles where colours are on. -/
def paint (color : Bool) (styles : List Style) (text : String) : String :=
  if color then styled styles text else text

/-- The colour of a status: green for what works, blue for what is done, red for what failed or was
stopped and yellow for what waits. -/
def statusStyle? (status : String) : Option Style :=
  let name := Text.lowercase status
  if ["enabled", "running", "confirmed", "active"].contains name then some .green
  else if name = "finished" then some .blue
  else if ["blocklisted", "cancelled", "unsubscribed", "failed"].contains name then some .red
  else if ["draft", "scheduled", "paused", "unconfirmed", "importing"].contains name then
    some .yellow
  else none

/-- A status in its colour. -/
def statusText (color : Bool) (status : String) : String :=
  match statusStyle? status with
  | some style => paint color [style] status
  | none => status

/-- The word for a truth value. -/
def boolText (color value : Bool) : String :=
  if value then paint color [.green] "Yes" else paint color [.dim] "No"

/-- A text cut to a number of characters, the cut marked by dots where there is room for them. -/
def truncate (text : String) (limit : Nat) : String :=
  let cs := text.toList
  if cs.length ≤ limit then text
  else if limit ≤ 3 then String.ofList (cs.take limit)
  else String.ofList (cs.take (limit - 3)) ++ "..."

end Mailroom.Terminal
