/-!
# Faults of the configuration

Every fault names the setting or the variable that is wrong, so its message can be shown as it is.
-/

namespace Mailroom

/-- What can be wrong with a configuration. -/
inductive ConfigError where
  | missingBaseUrl
  | missingUsername
  | missingToken
  | invalidBaseUrl (url reason : String)
  | invalidNumber (name value : String)
  | invalidHeaders (origin reason : String)
deriving DecidableEq

namespace ConfigError

/-- The description of a fault. -/
def message (e : ConfigError) : String :=
  match e with
  | missingBaseUrl => "base URL is required (set LISTMONK_API_URL or pass --url)"
  | missingUsername => "auth username is required (set LISTMONK_USERNAME or pass --username)"
  | missingToken => "auth token is required (set LISTMONK_API_TOKEN or pass --token)"
  | invalidBaseUrl url reason => s!"base URL '{url}' is not a valid absolute URL: {reason}"
  | invalidNumber name value => s!"{name} must be an integer, got '{value}'"
  | invalidHeaders origin reason => s!"invalid headers in {origin}: {reason}"

end ConfigError

end Mailroom
