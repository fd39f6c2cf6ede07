/-!
# Whole numbers in decimal

Writing and reading of whole numbers. A written number has no leading zeros. A reader takes ASCII
digits only, an optional sign in front, no blanks, and refuses a number that does not fit the width
it was asked for. The numbers of some bits are those below a power of two.
-/

namespace Mailroom

/-- The least number that does not fit some bits. -/
def bitBound (bits : Nat) : Nat :=
  Nat.pow 2 bits

/-- Each bit doubles the bound. -/
theorem bitBound_succ (bits : Nat) : bitBound (bits + 1) = bitBound bits * 2 := rfl

namespace Text

/-- The character of a digit below ten. -/
def digitChar (d : Nat) : Char :=
  Char.ofNat (48 + d)

/-- The value of an ASCII digit. -/
def digitValue? (c : Char) : Option Nat :=
  if '0' ≤ c ∧ c ≤ '9' then some (c.toNat - 48) else none

/-- Whether a character is an ASCII digit. -/
def isDigit (c : Char) : Bool :=
  (digitValue? c).isSome

/-- The decimal digits of a number, put in front of other characters. -/
def natDigitsOnto (n : Nat) (rest : List Char) : List Char :=
  if n < 10 then digitChar n :: rest
  else natDigitsOnto (n / 10) (digitChar (n % 10) :: rest)
termination_by n

/-- The decimal digits of a number, the first of them not zero unless the number is. -/
def natDigits (n : Nat) : List Char :=
  natDigitsOnto n []

/-- A number in decimal. -/
def ofNat (n : Nat) : String :=
  String.ofList (natDigits n)

/-- A signed number in decimal. -/
def ofInt (n : Int) : String :=
  match n with
  | .ofNat m => ofNat m
  | .negSucc m => String.ofList ('-' :: natDigits (m + 1))

/-- Continues the number read so far with more digits. -/
def readDigitsFrom? (acc : Nat) (cs : List Char) : Option Nat :=
  match cs with
  | [] => some acc
  | c :: rest => (digitValue? c).bind fun d => readDigitsFrom? (acc * 10 + d) rest

/-- The number written by at least one digit. -/
def readDigits? (cs : List Char) : Option Nat :=
  if cs.isEmpty then none else readDigitsFrom? 0 cs

/-- The number below a bound written by digits after an optional plus sign. -/
def readUnsigned? (bound : Nat) (s : String) : Option Nat :=
  let digits :=
    match s.toList with
    | '+' :: rest => rest
    | cs => cs
  (readDigits? digits).filter (· < bound)

/-- The number from `-bound` up to `bound - 1` written by digits after an optional sign. -/
def readSigned? (bound : Nat) (s : String) : Option Int :=
  match s.toList with
  | '-' :: rest => ((readDigits? rest).filter (· ≤ bound)).map fun n => -(n : Int)
  | '+' :: rest => ((readDigits? rest).filter (· < bound)).map Int.ofNat
  | cs => ((readDigits? cs).filter (· < bound)).map Int.ofNat

/-- A number of 64 bits. -/
def readWord? (s : String) : Option UInt64 :=
  (readUnsigned? (bitBound 64) s).map Nat.toUInt64

end Text

end Mailroom
