import Mailroom.Config.Error
import Mailroom.Dict
import Mailroom.Text.Lowercase

/-!
# Headers

The names of headers are the same in upper and lower case, but a header map keeps each name as it
was spelled. `merge` lays entries over a map one after the other: an entry takes the place of every
spelling of its name. `firstIllegal?` finds the first entry that cannot be sent.
-/

namespace Mailroom

/-- Header values by name, each name once whatever its spelling. -/
abbrev HeaderMap := Dict String

namespace Header

/-- Whether two names are the same header. -/
def sameName (a b : String) : Bool :=
  Text.asciiLowercase a == Text.asciiLowercase b

/-- A map with one entry laid over it. -/
def put (headers : HeaderMap) (name value : String) : HeaderMap :=
  Dict.insert (headers.filter fun e => !sameName e.1 name) name value

/-- A map with entries laid over it one after the other. -/
def merge (headers : HeaderMap) (layer : List (String × String)) : HeaderMap :=
  layer.foldl (fun acc e => put acc e.1 e.2) headers

/-- The value of a header under any spelling. -/
def value? (headers : HeaderMap) (name : String) : Option String :=
  (List.find? (fun e => sameName e.1 name) headers).map Prod.snd

/-- Whether a character may occur in a name. -/
def isNameChar (c : Char) : Bool :=
  ('a' ≤ c && c ≤ 'z') || ('A' ≤ c && c ≤ 'Z') || ('0' ≤ c && c ≤ '9') ||
    "!#$%&\x27*+-.^_\x60|~".toList.contains c

/-- Whether a name can be sent. -/
def isLegalName (name : String) : Bool :=
  name ≠ "" && name.toList.all isNameChar && name.length < 65536

/-- Whether a value can be sent: it has no controls but the tab. -/
def isLegalValue (value : String) : Bool :=
  value.toList.all fun c => (c.toNat ≥ 0x20 && c.toNat ≠ 0x7F) || c = '\t'

/-- What makes an entry impossible to send. -/
def illegal? (name value : String) : Option ConfigError :=
  if !isLegalName name then
    some (.invalidHeaders s!"header '{name}'" "invalid HTTP header name")
  else if !isLegalValue value then
    some (.invalidHeaders s!"header '{name}'" "failed to parse header value")
  else none

/-- What makes the first entry that cannot be sent impossible to send. -/
def firstIllegal? (headers : HeaderMap) : Option ConfigError :=
  headers.findSome? fun e => illegal? e.1 e.2

end Header

end Mailroom
