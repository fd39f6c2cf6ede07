import Mailroom.Config.Environment
import Mailroom.Http.Header
import Mailroom.Text.Decimal
import Mailroom.Url.Parser

/-!
# Configuration

The settings of a client come from three layers: what the caller gives, what the environment gives
and what is built in. A text is taken from the first layer where it is not blank, a number from the
first where it is given, and headers from all of them, the caller's before the environment's.
`resolve` puts the layers together and fails only if a variable cannot be read; `validate` then says
whether the result can be used.
-/

namespace Mailroom

/-- The settings of a client. -/
structure Config where
  baseUrl : String
  username : String
  token : String
  timeoutMs : Nat
  retries : Nat
  headers : HeaderMap

/-- The settings that a caller gives. -/
structure Overrides where
  baseUrl : Option String
  username : Option String
  token : Option String
  timeoutMs : Option Nat
  retries : Option Nat
  headers : Dict String

namespace Config

/-- The settings without any caller or environment; a token has to be given. -/
def builtin : Config :=
  ⟨"http://localhost:9000/api", "api-admin", "", 30000, 3, []⟩

/-- The first text given that is not blank. -/
def firstGiven? (candidates : List (Option String)) : Option String :=
  (candidates.filterMap id).find? fun s => !Text.isBlank s

/-- The settings of a caller in an environment. -/
def resolve (overrides : Overrides) (env : Environment) : Except ConfigError Config :=
  match env.number? Environment.timeoutName (bitBound 64) with
  | .error e => .error e
  | .ok timeout =>
    match env.number? Environment.retriesName (bitBound 32) with
    | .error e => .error e
    | .ok retries =>
      match env.headers with
      | .error e => .error e
      | .ok headers =>
        let text (override : Option String) (name absent : String) : String :=
          (firstGiven? [override, env.get? name]).getD absent
        .ok {
          baseUrl := text overrides.baseUrl Environment.baseUrlName builtin.baseUrl
          username := text overrides.username Environment.usernameName builtin.username
          token := text overrides.token Environment.tokenName builtin.token
          timeoutMs := (overrides.timeoutMs.or timeout).getD builtin.timeoutMs
          retries := (overrides.retries.or retries).getD builtin.retries
          headers := Header.merge (Header.merge builtin.headers headers) overrides.headers }

/-- The root of the server's interface as a URL. -/
def base (c : Config) : Except ConfigError Url :=
  (Url.parse c.baseUrl).mapError fun e => .invalidBaseUrl c.baseUrl e.message

/-- The root as a URL, where that has a host and can carry a path. -/
def checkedBase (c : Config) : Except ConfigError Url :=
  match c.base with
  | .error e => .error e
  | .ok url =>
    if url.carriesPath && url.hasHost then .ok url
    else .error (.invalidBaseUrl c.baseUrl "missing scheme or host")

/-- The root of a configuration that can be used: nothing that must be given is blank. -/
def validate (c : Config) : Except ConfigError Url :=
  if Text.isBlank c.baseUrl then .error .missingBaseUrl
  else if Text.isBlank c.username then .error .missingUsername
  else if Text.isBlank c.token then .error .missingToken
  else c.checkedBase

/-- The header that carries the credentials. -/
def authorization (c : Config) : String :=
  s!"token {c.username}:{c.token}"

/-- The headers of every request: the kind of body and the credentials, unless others are
configured. -/
def requestHeaders (c : Config) : HeaderMap :=
  Header.merge
    (Dict.ofList [("Content-Type", "application/json"), ("Authorization", c.authorization)])
    c.headers

end Config

end Mailroom
