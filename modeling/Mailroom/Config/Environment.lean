import Mailroom.Config.Error
import Mailroom.Dict
import Mailroom.Json.Parser
import Mailroom.Text.Basic

/-!
# Settings from the environment

The variables that configure a client. A blank variable counts as not set. Numbers may have blanks
around them; headers are a JSON object of texts. A variable that cannot be read is a fault, and of
several the timeout comes first, then the retries, then the headers.
-/

namespace Mailroom

/-- The variables of a process. -/
abbrev Environment := Dict String

namespace Environment

/-- The root of the server's interface. -/
def baseUrlName : String := "LISTMONK_API_URL"

/-- The name of the user. -/
def usernameName : String := "LISTMONK_USERNAME"

/-- The token of the user. -/
def tokenName : String := "LISTMONK_API_TOKEN"

/-- The time allowed for a request, in milliseconds. -/
def timeoutName : String := "LISTMONK_TIMEOUT"

/-- The number of retries. -/
def retriesName : String := "LISTMONK_RETRIES"

/-- Further headers, as a JSON object of texts. -/
def headersName : String := "LISTMONK_HEADERS"

/-- The value of a variable that is not blank. -/
def get? (env : Environment) (name : String) : Option String :=
  (Dict.find? env name).filter fun value => !Text.isBlank value

/-- The number a variable is set to, below a bound. -/
def number? (env : Environment) (name : String) (bound : Nat) :
    Except ConfigError (Option Nat) :=
  match env.get? name with
  | none => .ok none
  | some raw =>
    match Text.readUnsigned? bound (Text.trim raw) with
    | some n => .ok (some n)
    | none => .error (.invalidNumber name raw)

/-- Reads the entries of a header object, all of which must be texts. -/
def headerEntries (fields : List (String × Json)) : Except String (List (String × String)) :=
  match fields with
  | [] => .ok []
  | (name, .str value) :: rest => (headerEntries rest).map ((name, value) :: ·)
  | (name, _) :: _ => .error s!"header '{name}' must be a string"

/-- The headers written by a JSON object of texts. -/
def parseHeaders (raw : String) : Except String (Dict String) :=
  match Json.parse raw with
  | .error e => .error e.message
  | .ok (.obj fields) => headerEntries fields
  | .ok _ => .error "expected a JSON object"

/-- The headers that a variable adds. -/
def headers (env : Environment) : Except ConfigError (Dict String) :=
  match env.get? headersName with
  | none => .ok []
  | some raw => (parseHeaders raw).mapError fun reason => .invalidHeaders headersName reason

end Environment

end Mailroom
