import Mailroom.Text.Basic
import Mailroom.Text.Property

/-!
# Text shown inside messages

A message that cites a text puts it in quotes and writes what could not be seen in it by name or by
number: the quote, the backslash, line ends, controls, unusual blanks, marks and fillers.
-/

namespace Mailroom.Text

/-- The hexadecimal digits of a number, put in front of other characters. -/
def hexDigitsOnto (fuel n : Nat) (rest : List Char) : List Char :=
  let digit := if n % 16 < 10 then Char.ofNat (48 + n % 16) else Char.ofNat (87 + n % 16)
  match fuel with
  | 0 => rest
  | k + 1 => if n < 16 then digit :: rest else hexDigitsOnto k (n / 16) (digit :: rest)

/-- A code point by its number; six digits are enough for each. -/
def codePoint (c : Char) : List Char :=
  '\\' :: 'u' :: '\x7b' :: hexDigitsOnto 6 c.toNat ['\x7d']

/-- Whether a letter is a filler: it holds the place of a part of a syllable and leaves no trace. -/
def isFiller (c : Char) : Bool :=
  c.toNat = 0x115F || c.toNat = 0x1160 || c.toNat = 0x3164 || c.toNat = 0xFFA0

/-- Whether a character is shown by its number. -/
def isHidden (c : Char) : Bool :=
  isFormless c || (isBlankChar c && c ≠ ' ') || isExtending c || isFiller c

/-- A character inside a cited text. -/
def shownChar (c : Char) : List Char :=
  if c = '"' then ['\\', '"']
  else if c = '\\' then ['\\', '\\']
  else if c = '\t' then ['\\', 't']
  else if c = '\n' then ['\\', 'n']
  else if c = '\r' then ['\\', 'r']
  else if c.toNat = 0 then ['\\', '0']
  else if isHidden c then codePoint c
  else [c]

/-- A text in quotes as a message cites it. -/
def shown (s : String) : String :=
  String.ofList ('"' :: s.toList.flatMap shownChar ++ ['"'])

end Mailroom.Text
