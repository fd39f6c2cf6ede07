import Mailroom.Url.Basic
import Mailroom.Url.Host

/-!
# Reading URLs

Reads an absolute URL by the rules of the web. Controls and spaces around the text are taken off,
tabs and line ends anywhere are dropped. The schemes of the web take backslashes for slashes and
always have a host and a path; any other scheme has them only if they are written.
-/

namespace Mailroom.Url

/-- Whether a character is taken off the ends of a URL. -/
def isTrimmed (c : Char) : Bool :=
  c.toNat ≤ 0x20

/-- The characters of a URL without those at its ends that do not count. -/
def trimmed (cs : List Char) : List Char :=
  ((cs.dropWhile isTrimmed).reverse.dropWhile isTrimmed).reverse

/-- The characters of a URL that count. -/
def significant (cs : List Char) : List Char :=
  cs.filter (!isDropped ·)

/-- The rest of a scheme and what follows its colon. -/
def readSchemeRest? (cs : List Char) : Option (List Char × List Char) :=
  match cs with
  | [] => none
  | c :: rest =>
    if c = ':' then some ([], rest)
    else if isDropped c then readSchemeRest? rest
    else if isLetter c || Text.isDigit c || c = '+' || c = '-' || c = '.' then
      (readSchemeRest? rest).map fun r => (Text.asciiLower c :: r.1, r.2)
    else none

/-- A scheme in lower case and what follows its colon. -/
def readScheme? (cs : List Char) : Option (String × List Char) :=
  match cs with
  | c :: _ =>
    if isLetter c then (readSchemeRest? cs).map fun r => (String.ofList r.1, r.2) else none
  | [] => none

/-- Whether a character ends the authority. -/
def endsAuthority (special : Bool) (c : Char) : Bool :=
  c = '/' || c = '?' || c = '#' || (special && c = '\\')

/-- The characters before the last at sign, if there is one, and those after it. -/
def splitLastAt? (cs : List Char) : Option (List Char × List Char) :=
  if cs.contains '@' then
    let after := (cs.reverse.takeWhile (· ≠ '@')).reverse
    some (cs.take (cs.length - after.length - 1), after)
  else none

/-- The name and password before a host, and what follows them. -/
structure Userinfo where
  username : String
  password : Option String
  rest : List Char

/-- Reads the name and the password before a host; an empty one needs a host behind it. -/
def readUserinfo (special : Bool) (cs : List Char) : Except Fault Userinfo :=
  let inside := cs.takeWhile (!endsAuthority special ·)
  match splitLastAt? inside with
  | none => .ok ⟨"", none, cs⟩
  | some (userinfo, _) =>
    let rest := cs.drop (userinfo.length + 1)
    if userinfo.isEmpty && rest.head?.any (endsAuthority special) then .error .emptyHost
    else
      let name := userinfo.takeWhile (· ≠ ':')
      let secret := (userinfo.dropWhile (· ≠ ':')).drop 1
      let written (cs : List Char) := String.ofList (encode keepsInUserinfo cs)
      .ok ⟨written name, if secret.isEmpty then none else some (written secret), rest⟩

/-- The characters of a host: up to a colon outside brackets or the end of the authority. -/
def takeHost (special : Bool) (inBrackets : Bool) (cs : List Char) : List Char :=
  match cs with
  | [] => []
  | c :: rest =>
    if (c = ':' && !inBrackets) || endsAuthority special c then []
    else
      c :: takeHost special (if c = '[' then true else if c = ']' then false else inBrackets) rest

/-- Reads the digits of a port; `port` is what they have come to. -/
def readPort (port : Nat) (any : Bool) (cs : List Char) : Except Fault (Option Nat × List Char) :=
  match cs with
  | [] => .ok (if any then some port else none, [])
  | c :: rest =>
    match Text.digitValue? c with
    | some d =>
      if port * 10 + d > 65535 then .error .badPort else readPort (port * 10 + d) true rest
    | none =>
      if endsAuthority true c then .ok (if any then some port else none, cs) else .error .badPort

/-- Reads a host and a port. A missing host is a fault before a port, after a name, and on the web.
-/
def readAuthority (scheme : String) (special : Bool) (cs : List Char) :
    Except Fault (Authority × List Char) := do
  let user ← readUserinfo special cs
  let hostChars := takeHost special false user.rest
  let rest := user.rest.drop hostChars.length
  if special && hostChars.isEmpty then .error .emptyHost
  let host ← if special then specialHost hostChars else otherHost hostChars
  if host.isEmpty && rest.head? = some ':' then .error .emptyHost
  let (port, rest) ←
    match rest with
    | ':' :: digits => readPort 0 false digits
    | _ => .ok (none, rest)
  if host.isEmpty && (user.username ≠ "" || user.password.isSome) then .error .emptyHost
  let port := if port = usualPort? scheme then none else port
  return (⟨user.username, user.password, String.ofList host, port⟩, rest)

/-- Reads the path after an authority. -/
def readPathAfterAuthority (rules : PathRules) (cs : List Char) : PathReading :=
  match cs.dropWhile isDropped with
  | [] => ⟨if rules.special then ['/'] else [], false, []⟩
  | c :: rest =>
    if rules.special then
      if c = '/' || c = '\\' then readPath rules ['/'] rest else readPath rules ['/'] cs
    else if c = '?' || c = '#' then ⟨[], false, cs⟩
    else if c = '/' then readPath rules ['/'] rest
    else readPath rules ['/'] cs

/-- The query and the fragment at the end of a URL. -/
def readEnding (special : Bool) (cs : List Char) : Option String × Option String :=
  let fragment (cs : List Char) := String.ofList (encode keepsInFragment cs)
  match cs with
  | '?' :: rest =>
    let query := rest.takeWhile (· ≠ '#')
    let written := String.ofList (encode (keepsInQuery special) query)
    match rest.drop query.length with
    | [] => (some written, none)
    | _ :: after => (some written, some (fragment after))
  | '#' :: rest => (none, some (fragment rest))
  | _ => (none, none)

/-- A URL of its parts and the text of its query and fragment. -/
def assemble (scheme : String) (authority : Option Authority) (path rest : List Char) : Url :=
  let ending := readEnding (rulesOf scheme).special (significant rest)
  ⟨scheme, authority, String.ofList path, ending.1, ending.2⟩

/-- Reads what follows the scheme and two slashes. -/
def readHierarchy (scheme : String) (cs : List Char) : Except Fault Url := do
  let rules := rulesOf scheme
  let (authority, rest) ← readAuthority scheme rules.special cs
  let reading := readPathAfterAuthority rules rest
  return assemble scheme (some authority) reading.path reading.rest

/-- A file without a host. -/
def noHost : Authority :=
  ⟨"", none, "", none⟩

/-- A file at a path on a host. A path on a drive leaves no host. -/
def fileAt (host : Authority) (reading : PathReading) : Url :=
  assemble "file" (some (if reading.onDrive then noHost else host)) reading.path reading.rest

/-- Whether a character is a slash of either kind. -/
def isSlash (c : Char) : Bool :=
  c = '/' || c = '\\'

/--
Reads what follows the scheme and two slashes of a file. A drive in the place of the host starts the
path. Where there is no host, or it is this computer, the slash in front of the path counts as a
segment of its own, so no drive stands at the root behind it.
-/
def readFileHost (cs : List Char) : Except Fault Url :=
  let rules := rulesOf "file"
  let hostChars := cs.takeWhile (!endsAuthority true ·)
  let after := cs.drop hostChars.length
  let hostChars := significant hostChars
  if isDrive hostChars then .ok (fileAt noHost (readPath rules ['/'] cs))
  else if hostChars.isEmpty then .ok (fileAt noHost (readPath rules ['/'] after))
  else
    (specialHost hostChars).map fun host =>
      if host = "localhost".toList then fileAt noHost (readPath rules ['/'] after)
      else fileAt { noHost with host := String.ofList host } (readPathAfterAuthority rules after)

/-- What follows a slash at the start of characters, if there is one. -/
def afterSlash? (cs : List Char) : Option (List Char) :=
  match cs.dropWhile isDropped with
  | c :: rest => if isSlash c then some rest else none
  | [] => none

/-- Reads what follows the scheme of a file. -/
def readFile (cs : List Char) : Except Fault Url :=
  let root := (afterSlash? cs).getD cs
  match (afterSlash? cs).bind afterSlash? with
  | some rest => readFileHost rest
  | none => .ok (fileAt noHost (readPath (rulesOf "file") ['/'] root))

/-- Reads what follows a scheme that is not one of the web. -/
def readOther (scheme : String) (cs : List Char) : Except Fault Url :=
  match cs with
  | '/' :: '/' :: rest => readHierarchy scheme rest
  | '/' :: rest =>
    let reading := readPath (rulesOf scheme) ['/'] rest
    .ok (assemble scheme none reading.path reading.rest)
  | _ =>
    let plainPath := cs.takeWhile fun c => c ≠ '?' && c ≠ '#'
    .ok (assemble scheme none (encode isPlain plainPath) (cs.drop plainPath.length))

/-- The absolute URL written by a text. -/
def parse (s : String) : Except Fault Url :=
  let cs := trimmed s.toList
  match readScheme? cs with
  | none => .error .relative
  | some (scheme, rest) =>
    if scheme = "file" then readFile rest
    else
      let rest := significant rest
      if (usualPort? scheme).isSome then
        readHierarchy scheme (rest.dropWhile fun c => c = '/' || c = '\\')
      else readOther scheme rest

end Mailroom.Url
