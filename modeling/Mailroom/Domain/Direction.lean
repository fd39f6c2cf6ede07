import Mailroom.Domain.DirectionTable
import Mailroom.Text.Decimal
import Mailroom.Text.Property

/-!
# Directions in a domain

Some scripts run from right to left. Where a domain holds a letter or a digit of such a script, each
of its labels has to keep a rule that lets it be read in one way only: it starts with a letter,
ends with a letter or a digit of the same direction, marks behind it aside, and holds nothing of the
other direction.
-/

namespace Mailroom.Domain

/-- How a character behaves where scripts of two directions meet. -/
inductive Direction
  | left
  | right
  | arabicLetter
  | digit
  | arabicDigit
  | separator
  | terminator
  | neutral
  | mark
  deriving DecidableEq

/-- Whether a character is a digit that is read from the left in every script. -/
def isPlainDigit (c : Char) : Bool :=
  Text.isDigit c || (0x6F0 ≤ c.toNat && c.toNat ≤ 0x6F9) || (0x102E1 ≤ c.toNat && c.toNat ≤ 0x102FB)

/-- Whether a mark keeps the direction of Latin letters. -/
def isLeftMark (c : Char) : Bool :=
  c.toNat = 0xCBF || c.toNat = 0xCC6 || c.toNat = 0x11A07 || c.toNat = 0x11A08 || c.toNat = 0x11C3F

/-- The direction of a character of ASCII. -/
def asciiDirection (c : Char) : Direction :=
  if ('a' ≤ c ∧ c ≤ 'z') ∨ ('A' ≤ c ∧ c ≤ 'Z') then .left
  else if Text.isDigit c then .digit
  else if "+-,./:".toList.contains c then .separator
  else if "#$%".toList.contains c then .terminator
  else .neutral

/-- The direction of a character that a domain may hold. -/
def direction (c : Char) : Direction :=
  let n := c.toNat
  if n < 0x80 then asciiDirection c
  else if Text.inRanges rightRanges n then .right
  else if Text.inRanges arabicRanges n then .arabicLetter
  else if Text.inRanges arabicDigitRanges n then .arabicDigit
  else if isPlainDigit c then .digit
  else if n = 0x2212 || n = 0x60C || n = 0x2044 then .separator
  else if n = 0x200C || n = 0x200D || Text.inRanges neutralRanges n then .neutral
  else if Text.inRanges terminatorRanges n then .terminator
  else if Text.isNonspacing c && !isLeftMark c then .mark
  else .left

namespace Direction

/-- Whether a direction belongs to a script that runs from right to left. -/
def isRight : Direction → Bool
  | right | arabicLetter | arabicDigit => true
  | _ => false

/-- Whether a label that runs to the right may hold a direction. -/
def inLeft : Direction → Bool
  | right | arabicLetter | arabicDigit => false
  | _ => true

/-- Whether a label that runs to the left may hold a direction. -/
def inRight : Direction → Bool
  | left => false
  | _ => true

/-- Whether a label that runs to the right may end with a direction. -/
def endsLeft : Direction → Bool
  | left | digit => true
  | _ => false

/-- Whether a label that runs to the left may end with a direction. -/
def endsRight : Direction → Bool
  | right | arabicLetter | digit | arabicDigit => true
  | _ => false

end Direction

/-- The directions behind the first one, without those of the marks at the end. -/
def body (ds : List Direction) : List Direction :=
  (ds.reverse.dropWhile (· = .mark)).reverse

/-- Whether the directions of a label let it be read in one way only. -/
def isReadable (ds : List Direction) : Bool :=
  match ds with
  | [] => true
  | .left :: rest =>
    (body rest).all (·.inLeft) && (body rest).getLast?.all (·.endsLeft)
  | .right :: rest | .arabicLetter :: rest =>
    (body rest).all (·.inRight) && (body rest).getLast?.all (·.endsRight) &&
      !((body rest).contains .digit && (body rest).contains .arabicDigit)
  | _ => false

/-- Whether the labels of a domain can be read in one way only. -/
def directionsAgree (labels : List (List Char)) : Bool :=
  let directions := labels.map (·.map direction)
  !(directions.any (·.any (·.isRight))) || directions.all isReadable

end Mailroom.Domain
