import Mailroom.Json.Basic
import Mailroom.Number.Shortest

/-!
# Writing JSON

Two layouts of one value: `compact` without any blanks, and `pretty` with one item or field a line,
indented by two blanks a level. Texts escape the quote, the backslash and the control characters of
ASCII; everything else stands for itself.
-/

namespace Mailroom

/-- The text of a number. -/
def Number.text (n : Number) : String :=
  match n with
  | .int value => Text.ofInt value
  | .float value => value.text

namespace Json

/-- A hexadecimal digit in lower case. -/
def hexDigit (n : Nat) : Char :=
  if n < 10 then Char.ofNat (48 + n) else Char.ofNat (87 + n)

/-- A character inside a quoted text. -/
def escapeChar (c : Char) : List Char :=
  if c = '"' then ['\\', '"']
  else if c = '\\' then ['\\', '\\']
  else if c.toNat < 0x20 then
    match c.toNat with
    | 8 => ['\\', 'b']
    | 9 => ['\\', 't']
    | 10 => ['\\', 'n']
    | 12 => ['\\', 'f']
    | 13 => ['\\', 'r']
    | n => ['\\', 'u', '0', '0', hexDigit (n / 16), hexDigit (n % 16)]
  else [c]

/-- A text in quotes. -/
def quote (s : String) : String :=
  String.ofList ('"' :: s.toList.flatMap escapeChar ++ ['"'])

mutual

/-- A value without blanks. -/
def compact (v : Json) : String :=
  match v with
  | .null => "null"
  | .bool b => if b then "true" else "false"
  | .num n => n.text
  | .str s => quote s
  | .arr [] => "[]"
  | .arr (x :: xs) => "[" ++ compact x ++ compactItems xs ++ "]"
  | .obj [] => "\x7b\x7d"
  | .obj ((k, x) :: xs) => "\x7b" ++ quote k ++ ":" ++ compact x ++ compactFields xs ++ "\x7d"

/-- The items after the first. -/
def compactItems (items : List Json) : String :=
  match items with
  | [] => ""
  | x :: xs => "," ++ compact x ++ compactItems xs

/-- The fields after the first. -/
def compactFields (fields : List (String × Json)) : String :=
  match fields with
  | [] => ""
  | (k, x) :: xs => "," ++ quote k ++ ":" ++ compact x ++ compactFields xs

end

/-- The start of a line at some depth. -/
def newLine (depth : Nat) : String :=
  String.ofList ('\n' :: List.replicate (2 * depth) ' ')

mutual

/-- A value spread over lines, the first of which stands at some depth. -/
def prettyAt (depth : Nat) (v : Json) : String :=
  match v with
  | .null => "null"
  | .bool b => if b then "true" else "false"
  | .num n => n.text
  | .str s => quote s
  | .arr [] => "[]"
  | .arr (x :: xs) =>
    "[" ++ newLine (depth + 1) ++ prettyAt (depth + 1) x ++ prettyItems (depth + 1) xs ++
      newLine depth ++ "]"
  | .obj [] => "\x7b\x7d"
  | .obj ((k, x) :: xs) =>
    "\x7b" ++ newLine (depth + 1) ++ quote k ++ ": " ++ prettyAt (depth + 1) x ++
      prettyFields (depth + 1) xs ++ newLine depth ++ "\x7d"

/-- The items after the first, each on its own line. -/
def prettyItems (depth : Nat) (items : List Json) : String :=
  match items with
  | [] => ""
  | x :: xs => "," ++ newLine depth ++ prettyAt depth x ++ prettyItems depth xs

/-- The fields after the first, each on its own line. -/
def prettyFields (depth : Nat) (fields : List (String × Json)) : String :=
  match fields with
  | [] => ""
  | (k, x) :: xs =>
    "," ++ newLine depth ++ quote k ++ ": " ++ prettyAt depth x ++ prettyFields depth xs

end

/-- A value spread over lines. -/
def pretty (v : Json) : String :=
  prettyAt 0 v

end Json

end Mailroom
