import Mailroom.Text.Decimal
import Mailroom.Url.Path

/-!
# URLs

An absolute URL is a scheme, an authority where there is one, a path, and a query and a fragment
where they are given, the empty ones told apart from the absent ones. `text` writes the URL; a path
of two leading slashes without an authority is kept apart from one by a dot.
-/

namespace Mailroom

/-- The part of a URL that names the server. -/
structure Authority where
  username : String
  password : Option String
  host : String
  port : Option Nat

/-- An absolute URL. -/
structure Url where
  scheme : String
  authority : Option Authority
  path : String
  query : Option String
  fragment : Option String

namespace Url

/-- The schemes of the web besides files, with their usual ports. -/
def usualPorts : List (String × Nat) :=
  [("http", 80), ("https", 443), ("ws", 80), ("wss", 443), ("ftp", 21)]

/-- The usual port of a scheme. -/
def usualPort? (scheme : String) : Option Nat :=
  usualPorts.lookup scheme

/-- The rules for the paths of a scheme. -/
def rulesOf (scheme : String) : PathRules :=
  ⟨(usualPort? scheme).isSome || scheme = "file", scheme = "file"⟩

/-- The name and password before a host. -/
def credentialsText (a : Authority) : String :=
  if a.username = "" && a.password.isNone then ""
  else
    a.username ++ (match a.password with
      | some p => ":" ++ p
      | none => "") ++ "@"

/-- The text of an authority. -/
def authorityText (a : Authority) : String :=
  credentialsText a ++ a.host ++ (match a.port with
    | some p => ":" ++ Text.ofNat p
    | none => "")

/-- The text between the scheme and the path. -/
def leadText (u : Url) : String :=
  match u.authority with
  | some a => "//" ++ authorityText a
  | none =>
    match u.path.toList with
    | '/' :: '/' :: _ => "/."
    | _ => ""

/-- The text of a URL up to its path. -/
def originText (u : Url) : String :=
  u.scheme ++ ":" ++ leadText u

/-- A mark and a text, where the text is given. -/
def marked (mark : String) (part : Option String) : String :=
  match part with
  | some s => mark ++ s
  | none => ""

/-- The text of a URL. -/
def text (u : Url) : String :=
  originText u ++ u.path ++ marked "?" u.query ++ marked "#" u.fragment

/-- Whether a URL can carry a path of segments. -/
def carriesPath (u : Url) : Bool :=
  u.authority.isSome || u.path.toList.head? = some '/'

/-- Whether a URL names a host. -/
def hasHost (u : Url) : Bool :=
  match u.authority with
  | some a => a.host ≠ ""
  | none => false

end Url

end Mailroom
