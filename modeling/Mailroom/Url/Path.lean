import Mailroom.Url.Percent

/-!
# Paths

The path of a URL is kept as its text. Reading a path takes it segment by segment: a segment is
encoded, and one that stands for the directory itself or for the one above it is worked off at once,
so no such segment stays. `pushSegment` appends a single segment to a path; in it a slash is no
separator but encoded, and so is a percent sign.
-/

namespace Mailroom.Url

/-- The rules of a scheme that matter for paths. -/
structure PathRules where
  special : Bool
  isFile : Bool

/-- The segments that stand for the directory itself. -/
def isSingleDot (segment : List Char) : Bool :=
  ["." , "%2e", "%2E"].contains (String.ofList segment)

/-- The segments that stand for the directory above. -/
def isDoubleDot (segment : List Char) : Bool :=
  ["..", "%2e%2e", "%2e%2E", "%2E%2e", "%2E%2E", "%2e.", "%2E.", ".%2e", ".%2E"].contains
    (String.ofList segment)

/-- Whether a path ends with a slash. -/
def endsWithSlash (path : List Char) : Bool :=
  path.getLast? = some '/'

/-- A path up to its last slash, that slash included. -/
def upToLastSlash (path : List Char) : List Char :=
  (path.reverse.dropWhile (· ≠ '/')).reverse

/-- Whether a character is a letter of ASCII. -/
def isLetter (c : Char) : Bool :=
  ('a' ≤ c && c ≤ 'z') || ('A' ≤ c && c ≤ 'Z')

/-- Whether text starts with the letter of a drive. -/
def startsWithDrive (cs : List Char) : Bool :=
  match cs with
  | a :: b :: rest =>
    isLetter a && (b = ':' || b = '|') &&
      (match rest with
        | [] => true
        | c :: _ => c = '/' || c = '\\' || c = '?' || c = '#')
  | _ => false

/-- Whether a segment is the letter of a drive. -/
def isDrive (segment : List Char) : Bool :=
  match segment with
  | [a, b] => isLetter a && (b = ':' || b = '|')
  | _ => false

/-- Whether a segment is the letter of a drive before a colon. -/
def isNormalDrive (segment : List Char) : Bool :=
  match segment with
  | [a, b] => isLetter a && b = ':'
  | _ => false

/-- Whether the slash at the end of a path may go: it is not the first one and follows no drive. -/
def lastSlashRemovable (path : List Char) : Bool :=
  let before := path.dropLast
  before.contains '/' && !startsWithDrive (path.drop (upToLastSlash before).length)

/-- A path without its last segment; the drive of a file stays. -/
def popSegment (rules : PathRules) (path : List Char) : List Char :=
  if path.isEmpty || (rules.isFile && isNormalDrive (path.drop 1)) then path
  else
    let kept := upToLastSlash path
    if rules.isFile && isNormalDrive (path.drop kept.length) then path else kept

/-- A path one directory up, at whose end a slash stands if one ended the segment. -/
def stepUp (rules : PathRules) (path : List Char) (slash : Bool) : List Char :=
  let path := if endsWithSlash path && lastSlashRemovable path then path.dropLast else path
  let path := popSegment rules path
  if slash && !endsWithSlash path then path ++ ['/'] else path

/-- Whether a segment is the drive at the root of a file's path. -/
def isRootDrive (rules : PathRules) (path segment : List Char) : Bool :=
  rules.isFile && path.length = 1 && isDrive segment

/-- A path with one more segment, which may have ended with a slash. -/
def addSegment (rules : PathRules) (path segment : List Char) (slash : Bool) : List Char :=
  let ending := if slash then ['/'] else []
  if isDoubleDot segment then stepUp rules path slash
  else if isSingleDot segment then if endsWithSlash path then path else path ++ ['/']
  else if isRootDrive rules path segment then path ++ segment.take 1 ++ ':' :: ending
  else path ++ segment ++ ending

/-- Characters that are dropped wherever they stand in a URL. -/
def isDropped (c : Char) : Bool :=
  c = '\t' || c = '\n' || c = '\r'

/-- Whether a character ends a segment of a document. -/
def endsSegment (rules : PathRules) (c : Char) : Bool :=
  c = '/' || c = '?' || c = '#' || (rules.special && c = '\\')

/--
The letter of a drive at the root of a file's path and what stands behind it, if a character between
the two is dropped. The drive is a segment then, and the rest of its segment is taken as it is.
-/
def splitDrive? (rules : PathRules) (path : List Char) (ends : Char → Bool) (input : List Char) :
    Option (Char × List Char) :=
  match input.dropWhile isDropped with
  | [] => none
  | letter :: more =>
    match more.dropWhile isDropped with
    | ':' :: c :: rest =>
      let behind := rest.dropWhile isDropped
      if rules.isFile && path.length = 1 && isLetter letter && isDropped c &&
          behind.head?.any (!ends ·) then
        some (letter, behind)
      else none
    | _ => none

/-- Reads a segment of a document: its encoded text, whether a slash ended it, and what follows. -/
def readSegment (rules : PathRules) (input : List Char) : List Char × Bool × List Char :=
  match input with
  | [] => ([], false, [])
  | c :: rest =>
    if c = '?' || c = '#' then ([], false, input)
    else if endsSegment rules c then ([], true, rest)
    else if isDropped c then readSegment rules rest
    else
      match readSegment rules rest with
      | (segment, slash, after) => (encodeChar keepsInPath c ++ segment, slash, after)

/-- A path that has been read: its text, whether it has a drive at its root, and what follows it. -/
structure PathReading where
  path : List Char
  onDrive : Bool
  rest : List Char

/-- Reads one segment onto a path, and tells whether a slash ended it. -/
def readSegmentOnto (rules : PathRules) (path : List Char) (onDrive : Bool) (input : List Char) :
    PathReading × Bool :=
  match splitDrive? rules path (endsSegment rules) input with
  | some (letter, behind) =>
    match readSegment rules behind with
    | (segment, slash, rest) =>
      let path := path ++ letter :: ':' :: '/' :: segment
      (⟨if slash then path ++ ['/'] else path, onDrive, rest⟩, slash)
  | none =>
    match readSegment rules input with
    | (segment, slash, rest) =>
      let onDrive := onDrive || isRootDrive rules path segment
      (⟨addSegment rules path segment slash, onDrive, rest⟩, slash)

/-- Reads segments onto a path up to its end; `fuel` bounds their number. -/
def readSegments (rules : PathRules) (fuel : Nat) (path : List Char) (onDrive : Bool)
    (input : List Char) : PathReading :=
  match readSegmentOnto rules path onDrive input with
  | (reading, slash) =>
    match fuel with
    | 0 => reading
    | n + 1 =>
      if slash then readSegments rules n reading.path reading.onDrive reading.rest else reading

/-- The path of a file starts with one slash; any other path stays as it is. -/
def normalizeRoot (rules : PathRules) (path : List Char) : List Char :=
  if rules.isFile then '/' :: path.dropWhile (· = '/') else path

/-- Reads the path of a document onto its beginning. -/
def readPath (rules : PathRules) (path input : List Char) : PathReading :=
  let reading := readSegments rules input.length path false input
  { reading with path := normalizeRoot rules reading.path }

/-- A path without the slash at its end, unless that is all of it. -/
def popTrailingSlash (path : List Char) : List Char :=
  if path.length > 1 && endsWithSlash path then path.dropLast else path

/--
Appends a segment to a path. The segments `.` and `..` are left out. Tabs and line ends are dropped
only afterwards, so a segment that turns into dots by that is worked off like one of a document.
-/
def pushSegment (rules : PathRules) (path segment : List Char) : List Char :=
  if segment = ['.'] || segment = ['.', '.'] then path
  else
    let opened := if path.length = 1 then path else path ++ ['/']
    let written (cs : List Char) := encode (keepsInSegment rules.special) (cs.filter (!isDropped ·))
    match splitDrive? rules opened (fun _ => false) segment with
    | some (letter, behind) => opened ++ letter :: ':' :: '/' :: written behind
    | none => normalizeRoot rules (addSegment rules opened (written segment) false)

end Mailroom.Url
