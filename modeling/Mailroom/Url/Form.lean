import Mailroom.Text.Basic
import Mailroom.Url.Percent

/-!
# Form-encoded pairs

The query of a request is a list of pairs. A name or a value keeps its letters, digits and `*-._`, a
space becomes a plus sign, and every other byte is percent encoded; an equals sign joins a name to
its value and an ampersand joins the pairs. Reading undoes this: pairs are split at the ampersands,
empty ones left out, and names end at the first equals sign.
-/

namespace Mailroom.Url.Form

/-- Characters that stand for themselves in a pair. -/
def keeps (c : Char) : Bool :=
  ('0' ≤ c && c ≤ '9') || ('A' ≤ c && c ≤ 'Z') || ('a' ≤ c && c ≤ 'z') ||
    c = '*' || c = '-' || c = '.' || c = '_'

/-- A character of a name or a value. -/
def encodeChar (c : Char) : List Char :=
  if c = ' ' then ['+'] else Url.encodeChar keeps c

/-- A name or a value. -/
def encodeText (s : String) : List Char :=
  s.toList.flatMap encodeChar

/-- A pair. -/
def encodePair (pair : String × String) : List Char :=
  encodeText pair.1 ++ '=' :: encodeText pair.2

/-- Pairs appended to the text of a query that may hold some already. -/
def append (query : List Char) (pairs : List (String × String)) : List Char :=
  pairs.foldl
    (fun text pair => (if text.isEmpty then text else text ++ ['&']) ++ encodePair pair) query

/-- The text of a name or a value. -/
def decodeText (cs : List Char) : String :=
  String.ofList (Text.utf8CharsLossy (Url.decode (cs.map fun c => if c = '+' then ' ' else c)))

/-- The pair of a name and a value around the first equals sign. -/
def decodePair (cs : List Char) : String × String :=
  (decodeText (cs.takeWhile (· ≠ '=')), decodeText ((cs.dropWhile (· ≠ '=')).drop 1))

/-- The pairs of a query. -/
def decodePairs (query : String) : List (String × String) :=
  ((Text.parts '&' query.toList).filter (!·.isEmpty)).map decodePair

end Mailroom.Url.Form
