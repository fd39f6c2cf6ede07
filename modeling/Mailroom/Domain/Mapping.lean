import Mailroom.Domain.MappingTable
import Mailroom.Text.Basic
import Mailroom.Text.Lowercase

/-!
# What characters stand for in a domain

A domain does not tell upper from lower case, nor a form of a character from the character itself.
Each character therefore stands for the characters that are kept in its place: none for those that
are ignored, a letter in lower case, the plain characters of a compatibility form, or the character
itself. Some characters no domain may hold.
-/

namespace Mailroom.Domain

/-- Whether a character leaves no trace in a domain. -/
def isIgnored (c : Char) : Bool :=
  Text.inRanges ignoredRanges c.toNat

/-- Whether a character is a joiner or the sign that keeps letters apart. -/
def isJoiner (c : Char) : Bool :=
  c = '\u200c' || c = '\u200d'

/-- Whether no domain may hold a character. -/
def isRefused (c : Char) : Bool :=
  (Text.isFormless c && !isJoiner c) || Text.inRanges refusedRanges c.toNat

/-- Whether a letter is a Cherokee capital: domains keep it, and its lower case stands for it. -/
def isCherokeeCapital (c : Char) : Bool :=
  0x13A0 ≤ c.toNat && c.toNat ≤ 0x13F5

/-- The word of a character in a row. -/
def MappingRow.word? (row : MappingRow) (c : Char) : Option (List Char) :=
  (Text.parts ' ' row.words.toList)[c.toNat - row.first]?

/-- The word that stands for a character. -/
def word? (c : Char) : Option (List Char) :=
  (mappingRows.find? fun row => row.first ≤ c.toNat && c.toNat ≤ row.last).bind (·.word? c)

/-- The characters that a character stands for in a domain, if a domain may hold it. -/
def standsFor? (c : Char) : Option (List Char) :=
  if c.toNat < 0x80 then some [Text.asciiLower c]
  else if isIgnored c then some []
  else if isRefused c then none
  else
    match word? c with
    | some word => some word
    | none =>
      match Text.shifted? mappingRuns c with
      | some plain => some [plain]
      | none => some [if isCherokeeCapital c then c else Text.lowerChar c]

/-- Whether a character stands for itself. -/
def isKept (c : Char) : Bool :=
  standsFor? c = some [c]

/-- The characters that a text stands for in a domain. -/
def textStandsFor? (cs : List Char) : Option (List Char) :=
  (cs.mapM standsFor?).map List.flatten

end Mailroom.Domain
