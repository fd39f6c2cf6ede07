import Mailroom.Number.Binary64
import Mailroom.Text.Decimal

/-!
# Numbers as people spell them

A decimal number has a sign or none, digits with at most one point anywhere among them, and perhaps
an exponent. It is read as the nearest number of the format; one beyond the format is not read at
all.
-/

namespace Mailroom.Binary64

/-- The characters after an optional sign, and whether the sign was a minus. -/
def takeSign (cs : List Char) : Bool × List Char :=
  match cs with
  | '-' :: rest => (true, rest)
  | '+' :: rest => (false, rest)
  | _ => (false, cs)

/-- The exponent that the characters after the digits stand for, none of them meaning zero. -/
def spelledExponent? (cs : List Char) : Option Int :=
  match cs with
  | [] => some 0
  | c :: rest =>
    if c = 'e' || c = 'E' then
      let (negative, digits) := takeSign rest
      (Text.readDigits? digits).map fun n => if negative then -(n : Int) else n
    else none

/-- The digits after a point, and what comes after them. -/
def takeFraction (cs : List Char) : List Char × List Char :=
  match cs with
  | '.' :: rest => (rest.takeWhile Text.isDigit, rest.dropWhile Text.isDigit)
  | _ => ([], cs)

/-- The number that a text spells. -/
def ofSpelled? (s : String) : Option Binary64 :=
  let (negative, unsigned) := takeSign s.toList
  let whole := unsigned.takeWhile Text.isDigit
  let (fraction, rest) := takeFraction (unsigned.dropWhile Text.isDigit)
  (Text.readDigits? (whole ++ fraction)).bind fun digits =>
    (spelledExponent? rest).bind fun exponent =>
      ofDecimal? negative digits (exponent - fraction.length)

end Mailroom.Binary64
