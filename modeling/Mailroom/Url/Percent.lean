import Mailroom.Text.Utf8

/-!
# Percent encoding

A character that may not stand for itself is written as its UTF-8 bytes, each a percent sign and two
hexadecimal digits in upper case. Which characters may stand for themselves depends on the part of
the URL; nothing outside the visible part of ASCII ever does.
-/

namespace Mailroom.Url

/-- Whether a character is a visible one of ASCII, the space among them. -/
def isPlain (c : Char) : Bool :=
  0x20 ≤ c.toNat && c.toNat < 0x7F

/-- Characters that stand for themselves in a fragment. -/
def keepsInFragment (c : Char) : Bool :=
  isPlain c && !(" \"<>`".toList.contains c)

/-- Characters that stand for themselves in the path of a document. -/
def keepsInPath (c : Char) : Bool :=
  keepsInFragment c && !("#?\x7b\x7d".toList.contains c)

/-- Characters that stand for themselves in a user name or a password. -/
def keepsInUserinfo (c : Char) : Bool :=
  keepsInPath c && !("/:;=@[\\]^|".toList.contains c)

/-- Characters that stand for themselves in a segment added to a path. -/
def keepsInSegment (special : Bool) (c : Char) : Bool :=
  keepsInPath c && c ≠ '/' && c ≠ '%' && !(special && c = '\\')

/-- Characters that stand for themselves in a query. -/
def keepsInQuery (special : Bool) (c : Char) : Bool :=
  isPlain c && !(" \"#<>".toList.contains c) && !(special && c = '\x27')

/-- A hexadecimal digit in upper case. -/
def hexDigit (n : Nat) : Char :=
  if n < 10 then Char.ofNat (48 + n) else Char.ofNat (55 + n)

/-- A byte as a percent sign and two digits. -/
def encodeByte (b : UInt8) : List Char :=
  ['%', hexDigit (b.toNat / 16), hexDigit (b.toNat % 16)]

/-- A character, encoded unless it may stand for itself. -/
def encodeChar (keeps : Char → Bool) (c : Char) : List Char :=
  if keeps c then [c] else (String.utf8EncodeChar c).flatMap encodeByte

/-- Characters with those encoded that may not stand for themselves. -/
def encode (keeps : Char → Bool) (cs : List Char) : List Char :=
  cs.flatMap (encodeChar keeps)

/-- The value of a hexadecimal digit of either case. -/
def hexValue? (c : Char) : Option Nat :=
  if '0' ≤ c ∧ c ≤ '9' then some (c.toNat - 48)
  else if 'A' ≤ c ∧ c ≤ 'F' then some (c.toNat - 55)
  else if 'a' ≤ c ∧ c ≤ 'f' then some (c.toNat - 87)
  else none

/-- The bytes that characters stand for; a percent sign without two digits stands for itself. -/
def decode (cs : List Char) : List UInt8 :=
  match cs with
  | '%' :: a :: b :: rest =>
    match hexValue? a, hexValue? b with
    | some x, some y => UInt8.ofNat (x * 16 + y) :: decode rest
    | _, _ => String.utf8EncodeChar '%' ++ decode (a :: b :: rest)
  | c :: rest => String.utf8EncodeChar c ++ decode rest
  | [] => []

end Mailroom.Url
