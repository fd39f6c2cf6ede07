import Mailroom.Domain.Composition
import Mailroom.Domain.Direction
import Mailroom.Domain.Mapping
import Mailroom.Domain.Punycode
import Mailroom.Text.Property

/-!
# Domains

The name of a host may hold letters of all scripts. `toAscii?` brings it to the form in which it is
looked up: the characters that it stands for, composed, with each label beyond ASCII written in
letters of ASCII. A name that no host can have has no such form.

A label is a row of characters between two dots. It may not start with a mark, and a joiner has to
stand where it shows: behind a sign that asks for one or, if it keeps letters apart, between two
letters that would join. A label that is written in ASCII starts with `xn--` if its letters are
others, and has to be the writing of a label that a domain may hold.
-/

namespace Mailroom.Domain

/-- The letters that start a label whose other letters are written in ASCII. -/
def asciiMark : List Char :=
  ['x', 'n', '-', '-']

/-- The greatest number of characters of a label beyond ASCII. -/
def labelBound : Nat := 1000

/-- Characters of ASCII that no domain may hold. -/
def isForbidden (c : Char) : Bool :=
  c.toNat ≤ 0x20 || c.toNat = 0x7F || "%#/:<>?@[\\]^|".toList.contains c

/-- Whether the first character that letters do not join across satisfies a condition. -/
def nextJoining (p : Char → Bool) (cs : List Char) : Bool :=
  (cs.dropWhile Text.isTransparent).head?.any p

/-- Whether a joiner shows between the characters before it, the nearest first, and those after. -/
def joinerShows (joiner : Char) (before after : List Char) : Bool :=
  match before with
  | [] => false
  | c :: _ =>
    let joins := nextJoining Text.joinsAfter before && nextJoining Text.joinsBefore after
    markClass c = 9 || (joiner = '\u200c' && joins)

/-- Whether all joiners show; `before` are the characters already passed, the nearest first. -/
def joinersShow (before : List Char) (cs : List Char) : Bool :=
  match cs with
  | [] => true
  | c :: rest => (!isJoiner c || joinerShows c before rest) && joinersShow (c :: before) rest

/-- Whether a domain may hold a label of characters that stand for themselves. -/
def isLabel (label : List Char) : Bool :=
  !label.head?.any isMark && joinersShow [] label &&
    (label.all (·.toNat < 0x80) || label.length ≤ labelBound)

/-- Whether a label is composed, of characters that stand for themselves, and holds no dot. -/
def isPlainText (label : List Char) : Bool :=
  label.all (fun c => isKept c && !isForbidden c && c ≠ '.') && compose label = label

/-- The label that a label of a domain is the writing of. -/
def readLabel? (label : List Char) : Option (List Char) :=
  if asciiMark.isPrefixOf label then
    let rest := label.drop 4
    if rest.isEmpty || rest.getLast? = some '-' || rest.length > 2 * labelBound then none
    else
      (Punycode.decode? rest).filter fun decoded => isPlainText decoded && isLabel decoded
  else if isLabel label then some label
  else none

/-- A label in ASCII. -/
def writeLabel (label : List Char) : List Char :=
  if label.all (·.toNat < 0x80) then label else asciiMark ++ Punycode.encode label

/-- The labels that a name stands for, if a domain may hold all of its characters. -/
def labels? (name : List Char) : Option (List (List Char)) :=
  ((textStandsFor? name).map compose).bind fun plain =>
    if plain.any isForbidden then none else some (Text.parts '.' plain)

/-- The name of a host in ASCII. -/
def toAscii? (name : List Char) : Option (List Char) :=
  (labels? name).bind fun labels =>
    (labels.mapM readLabel?).bind fun read =>
      if directionsAgree read then some (['.'].intercalate (labels.map writeLabel)) else none

end Mailroom.Domain
