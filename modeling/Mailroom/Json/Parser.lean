import Mailroom.Json.Basic
import Mailroom.Text.Decimal

/-!
# Reading JSON

One value with blanks around it, read from left to right. A fault is remembered as the number of
bytes not yet read, from which the line and the column are counted afterwards; columns count bytes.
Faults come in two places: just after the last byte read, or one byte further on where only a look
ahead told that something is wrong.

At most 127 arrays and objects nest. Whole numbers that fit 64 bits stay whole; a minus zero, a
fraction, an exponent or too many digits make a binary floating point number.
-/

namespace Mailroom.Json

/-- What can be wrong with a document. -/
inductive Problem where
  | endInList
  | endInObject
  | endInString
  | endInValue
  | expectedColon
  | expectedListEnd
  | expectedObjectEnd
  | expectedIdent
  | expectedValue
  | invalidEscape
  | invalidNumber
  | numberOutOfRange
  | controlCharacter
  | keyNotString
  | loneSurrogate
  | trailingComma
  | trailingCharacters
  | endInHexEscape
  | tooDeep

/-- The description of a problem. -/
def Problem.message (p : Problem) : String :=
  match p with
  | .endInList => "EOF while parsing a list"
  | .endInObject => "EOF while parsing an object"
  | .endInString => "EOF while parsing a string"
  | .endInValue => "EOF while parsing a value"
  | .expectedColon => "expected `:`"
  | .expectedListEnd => "expected `,` or `]`"
  | .expectedObjectEnd => "expected `,` or `\x7d`"
  | .expectedIdent => "expected ident"
  | .expectedValue => "expected value"
  | .invalidEscape => "invalid escape"
  | .invalidNumber => "invalid number"
  | .numberOutOfRange => "number out of range"
  | .controlCharacter =>
    "control character (\\u0000-\\u001F) found while parsing a string"
  | .keyNotString => "key must be a string"
  | .loneSurrogate => "lone leading surrogate in hex escape"
  | .trailingComma => "trailing comma"
  | .trailingCharacters => "trailing characters"
  | .endInHexEscape => "unexpected end of hex escape"
  | .tooDeep => "recursion limit exceeded"

/-- A problem and the number of bytes that were not read. -/
structure Fault where
  problem : Problem
  unread : Nat

/-- A problem at a place in a document. -/
structure SyntaxError where
  problem : Problem
  line : Nat
  column : Nat

/-- The description of a problem and its place. -/
def SyntaxError.message (e : SyntaxError) : String :=
  e.problem.message ++ " at line " ++ Text.ofNat e.line ++ " column " ++ Text.ofNat e.column

/-- The number of bytes of some characters. -/
def byteCount (cs : List Char) : Nat :=
  cs.foldl (fun n c => n + c.utf8Size) 0

/-- A fault just before the characters that are left. -/
def faultBefore (p : Problem) (rest : List Char) : Fault :=
  ⟨p, byteCount rest⟩

/-- A fault some bytes into the characters that are left. -/
def faultInto (bytes : Nat) (p : Problem) (rest : List Char) : Fault :=
  ⟨p, byteCount rest - bytes⟩

/-- A fault at the next byte, or at the end where no byte is left. -/
def faultAt (p : Problem) (rest : List Char) : Fault :=
  faultInto 1 p rest

/-- The blanks between the parts of a document. -/
def isJsonBlank (c : Char) : Bool :=
  c = ' ' || c = '\n' || c = '\t' || c = '\r'

/-- The characters after leading blanks. -/
def skipBlanks (s : List Char) : List Char :=
  s.dropWhile isJsonBlank

/-- The value of a hexadecimal digit. -/
def hexValue? (c : Char) : Option Nat :=
  if '0' ≤ c ∧ c ≤ '9' then some (c.toNat - 48)
  else if 'a' ≤ c ∧ c ≤ 'f' then some (c.toNat - 87)
  else if 'A' ≤ c ∧ c ≤ 'F' then some (c.toNat - 55)
  else none

/-- The value of four hexadecimal digits. -/
def hexQuad? (a b c d : Char) : Option Nat := do
  return (← hexValue? a) * 4096 + (← hexValue? b) * 256 + (← hexValue? c) * 16 + (← hexValue? d)

/-- Reads four hexadecimal digits; a text too short for four bytes has ended inside. -/
def readHexQuad (s : List Char) : Except Fault (Nat × List Char) :=
  let broken : Fault :=
    if byteCount s < 4 then ⟨.endInString, 0⟩ else faultInto 4 .invalidEscape s
  match s with
  | a :: b :: c :: d :: rest =>
    match hexQuad? a b c d with
    | some n => .ok (n, rest)
    | none => .error broken
  | _ => .error broken

/-- Whether a code unit is the first half of a pair. -/
def isHighSurrogate (n : Nat) : Bool :=
  0xD800 ≤ n && n ≤ 0xDBFF

/-- Whether a code unit is the second half of a pair. -/
def isLowSurrogate (n : Nat) : Bool :=
  0xDC00 ≤ n && n ≤ 0xDFFF

/-- Reads the second half of a pair whose first half was read. -/
def readLowSurrogate (high : Nat) (s : List Char) : Except Fault (Char × List Char) :=
  match s with
  | [] => .error (faultBefore .endInString [])
  | '\\' :: [] => .error (faultBefore .endInString [])
  | '\\' :: 'u' :: rest =>
    match readHexQuad rest with
    | .error e => .error e
    | .ok (low, rest) =>
      if isLowSurrogate low then
        .ok (Char.ofNat (0x10000 + (high - 0xD800) * 1024 + (low - 0xDC00)), rest)
      else .error (faultBefore .loneSurrogate rest)
  | '\\' :: rest => .error (faultAt .endInHexEscape rest)
  | other => .error (faultAt .endInHexEscape other)

/-- Reads the character of a numeric escape. -/
def readUnicodeEscape (s : List Char) : Except Fault (Char × List Char) :=
  match readHexQuad s with
  | .error e => .error e
  | .ok (n, rest) =>
    if isLowSurrogate n then .error (faultBefore .loneSurrogate rest)
    else if isHighSurrogate n then readLowSurrogate n rest
    else .ok (Char.ofNat n, rest)

/-- The character of an escape with a single letter or sign. -/
def shortEscape? (c : Char) : Option Char :=
  match c with
  | '"' => some '"'
  | '\\' => some '\\'
  | '/' => some '/'
  | 'b' => some '\x08'
  | 'f' => some '\x0c'
  | 'n' => some '\n'
  | 'r' => some '\r'
  | 't' => some '\t'
  | _ => none

/-- Reads the character of an escape, after its backslash. -/
def readEscape (s : List Char) : Except Fault (Char × List Char) :=
  match s with
  | [] => .error (faultBefore .endInString [])
  | c :: rest =>
    if c = 'u' then readUnicodeEscape rest
    else
      match shortEscape? c with
      | some d => .ok (d, rest)
      | none => .error (faultAt .invalidEscape s)

/-- Reads a text after its opening quote; `fuel` bounds the number of characters. -/
def readText (fuel : Nat) (done : List Char) (s : List Char) : Except Fault (String × List Char) :=
  match fuel with
  | 0 => .error (faultBefore .endInString s)
  | n + 1 =>
    match s with
    | [] => .error (faultBefore .endInString [])
    | c :: rest =>
      if c = '"' then .ok (String.ofList done.reverse, rest)
      else if c = '\\' then
        match readEscape rest with
        | .error e => .error e
        | .ok (d, rest) => readText n (d :: done) rest
      else if c.toNat < 0x20 then .error (faultBefore .controlCharacter rest)
      else readText n (c :: done) rest

/-- Takes up digits as long as the number stays below a bound, and counts them. -/
def takeDigits (bound acc count : Nat) (s : List Char) : Nat × Nat × List Char :=
  match s with
  | [] => (acc, count, [])
  | c :: rest =>
    match Text.digitValue? c with
    | none => (acc, count, s)
    | some d =>
      if acc * 10 + d < bound then takeDigits bound (acc * 10 + d) (count + 1) rest
      else (acc, count, s)

/-- Passes over digits and counts them. -/
def passDigits (count : Nat) (s : List Char) : Nat × List Char :=
  match s with
  | [] => (count, [])
  | c :: rest => if Text.isDigit c then passDigits (count + 1) rest else (count, s)

/-- Whether a digit comes next. -/
def startsWithDigit (s : List Char) : Bool :=
  match s with
  | [] => false
  | c :: _ => Text.isDigit c

/-- The number of digits and a decimal exponent, unless it is too great. -/
def floatNumber (negative : Bool) (significand : Nat) (exponent : Int) (rest : List Char) :
    Except Fault (Number × List Char) :=
  match Binary64.ofScaled? negative significand exponent with
  | some x => .ok (.float x, rest)
  | none => .error (faultBefore .numberOutOfRange rest)

/-- Reads the digits of an exponent and scales the digits read before. -/
def readExponentDigits (negative : Bool) (significand : Nat) (start : Int) (down : Bool)
    (s : List Char) : Except Fault (Number × List Char) :=
  match s with
  | [] => .error (faultBefore .endInValue [])
  | c :: _ =>
    if Text.isDigit c then
      match takeDigits (bitBound 31) 0 0 s with
      | (exponent, _, rest) =>
        if startsWithDigit rest then
          if significand ≠ 0 && !down then .error (faultBefore .numberOutOfRange rest.tail)
          else .ok (.float (Binary64.zero negative), (passDigits 0 rest).2)
        else
          floatNumber negative significand
            (if down then start - exponent else start + exponent) rest
    else .error (faultAt .invalidNumber s)

/-- Reads an exponent after its letter. -/
def readExponent (negative : Bool) (significand : Nat) (start : Int) (s : List Char) :
    Except Fault (Number × List Char) :=
  match s with
  | '+' :: rest => readExponentDigits negative significand start false rest
  | '-' :: rest => readExponentDigits negative significand start true rest
  | _ => readExponentDigits negative significand start false s

/-- Reads what may follow the digits of a fraction. -/
def readAfterFraction (negative : Bool) (significand : Nat) (exponent : Int) (s : List Char) :
    Except Fault (Number × List Char) :=
  match s with
  | 'e' :: rest => readExponent negative significand exponent rest
  | 'E' :: rest => readExponent negative significand exponent rest
  | _ => floatNumber negative significand exponent s

/-- Reads a fraction after its point; digits beyond 64 bits are passed over. -/
def readFraction (negative : Bool) (significand : Nat) (start : Int) (s : List Char) :
    Except Fault (Number × List Char) :=
  match takeDigits (bitBound 64) significand 0 s with
  | (significand, count, rest) =>
    if startsWithDigit rest then
      readAfterFraction negative significand (start - count) (passDigits 0 rest).2
    else if count = 0 then
      .error (faultAt (if rest.isEmpty then .endInValue else .invalidNumber) rest)
    else readAfterFraction negative significand (start - count) rest

/-- The number of digits that fit 64 bits: whole if its sign allows it and it is not minus zero. -/
def wholeNumber (negative : Bool) (significand : Nat) (rest : List Char) :
    Except Fault (Number × List Char) :=
  if !negative then .ok (.int significand, rest)
  else if significand = 0 || significand > bitBound 63 then floatNumber true significand 0 rest
  else .ok (.int (-(significand : Int)), rest)

/-- Reads what may follow the whole part of a number. -/
def readAfterWhole (negative : Bool) (significand : Nat) (s : List Char) :
    Except Fault (Number × List Char) :=
  match s with
  | '.' :: rest => readFraction negative significand 0 rest
  | 'e' :: rest => readExponent negative significand 0 rest
  | 'E' :: rest => readExponent negative significand 0 rest
  | _ => wholeNumber negative significand s

/-- Reads the rest of a number whose whole part goes beyond 64 bits. -/
def readLongWhole (negative : Bool) (significand : Nat) (s : List Char) :
    Except Fault (Number × List Char) :=
  match passDigits 0 s with
  | (count, rest) =>
    match rest with
    | '.' :: rest => readFraction negative significand count rest
    | 'e' :: rest => readExponent negative significand count rest
    | 'E' :: rest => readExponent negative significand count rest
    | _ => floatNumber negative significand count rest

/-- Reads a number after its sign. -/
def readNumber (negative : Bool) (s : List Char) : Except Fault (Number × List Char) :=
  match s with
  | [] => .error (faultBefore .endInValue [])
  | '0' :: rest =>
    if startsWithDigit rest then .error (faultAt .invalidNumber rest)
    else readAfterWhole negative 0 rest
  | c :: _ =>
    if Text.isDigit c then
      match takeDigits (bitBound 64) 0 0 s with
      | (significand, _, rest) =>
        if startsWithDigit rest then readLongWhole negative significand rest
        else readAfterWhole negative significand rest
    else .error (faultAt .invalidNumber s)

/-- Reads the rest of a fixed word. -/
def readWord (word : List Char) (s : List Char) : Except Fault (List Char) :=
  match word, s with
  | [], rest => .ok rest
  | _ :: _, [] => .error (faultBefore .endInValue [])
  | w :: word, c :: rest => if c = w then readWord word rest else .error (faultAt .expectedIdent s)

/-- The greatest number of arrays and objects around a value, and one more. -/
def depthLimit : Nat := 128

mutual

/-- Reads a value whose first character comes next; `fuel` bounds the steps, `depth` the nesting
left. -/
def readValue (fuel depth : Nat) (s : List Char) : Except Fault (Json × List Char) :=
  match fuel with
  | 0 => .error (faultAt .endInValue s)
  | n + 1 =>
    match s with
    | [] => .error (faultAt .endInValue [])
    | c :: rest =>
      if c = 'n' then (readWord ['u', 'l', 'l'] rest).map fun rest => (.null, rest)
      else if c = 't' then (readWord ['r', 'u', 'e'] rest).map fun rest => (.bool true, rest)
      else if c = 'f' then (readWord ['a', 'l', 's', 'e'] rest).map fun rest => (.bool false, rest)
      else if c = '-' then (readNumber true rest).map fun r => (.num r.1, r.2)
      else if Text.isDigit c then (readNumber false s).map fun r => (.num r.1, r.2)
      else if c = '"' then (readText n [] rest).map fun r => (.str r.1, r.2)
      else if c = '[' then
        if depth ≤ 1 then .error (faultAt .tooDeep s)
        else readItems n (depth - 1) true [] (skipBlanks rest)
      else if c = '\x7b' then
        if depth ≤ 1 then .error (faultAt .tooDeep s)
        else readFields n (depth - 1) true [] (skipBlanks rest)
      else .error (faultAt .expectedValue s)

/-- Reads the items of an array up to its end; the items already read are given last first. -/
def readItems (fuel depth : Nat) (first : Bool) (done : List Json) (s : List Char) :
    Except Fault (Json × List Char) :=
  match fuel with
  | 0 => .error (faultAt .endInList s)
  | n + 1 =>
    match s with
    | [] => .error (faultAt .endInList [])
    | c :: rest =>
      if c = ']' then .ok (.arr done.reverse, rest)
      else if first then
        match readValue n depth s with
        | .error e => .error e
        | .ok (v, rest) => readItems n depth false (v :: done) (skipBlanks rest)
      else if c = ',' then
        match skipBlanks rest with
        | [] => .error (faultAt .endInValue [])
        | ']' :: rest => .error (faultAt .trailingComma (']' :: rest))
        | s =>
          match readValue n depth s with
          | .error e => .error e
          | .ok (v, rest) => readItems n depth false (v :: done) (skipBlanks rest)
      else .error (faultAt .expectedListEnd s)

/-- Reads the fields of an object up to its end. -/
def readFields (fuel depth : Nat) (first : Bool) (done : Dict Json) (s : List Char) :
    Except Fault (Json × List Char) :=
  match fuel with
  | 0 => .error (faultAt .endInObject s)
  | n + 1 =>
    match s with
    | [] => .error (faultAt .endInObject [])
    | c :: rest =>
      if c = '\x7d' then .ok (.obj done, rest)
      else if first then
        if c = '"' then readField n depth done rest else .error (faultAt .keyNotString s)
      else if c = ',' then
        match skipBlanks rest with
        | [] => .error (faultAt .endInValue [])
        | '"' :: rest => readField n depth done rest
        | '\x7d' :: rest => .error (faultAt .trailingComma ('\x7d' :: rest))
        | s => .error (faultAt .keyNotString s)
      else .error (faultAt .expectedObjectEnd s)

/-- Reads a field after the opening quote of its key, and the fields after it. -/
def readField (fuel depth : Nat) (done : Dict Json) (s : List Char) :
    Except Fault (Json × List Char) :=
  match fuel with
  | 0 => .error (faultAt .endInObject s)
  | n + 1 =>
    match readText n [] s with
    | .error e => .error e
    | .ok (key, rest) =>
      match skipBlanks rest with
      | [] => .error (faultAt .endInObject [])
      | ':' :: rest =>
        match readValue n depth (skipBlanks rest) with
        | .error e => .error e
        | .ok (v, rest) => readFields n depth false (Dict.insert done key v) (skipBlanks rest)
      | s => .error (faultAt .expectedColon s)

end

/-- The line and column after some bytes of a text, counted on from a line and a column. -/
def placeAfter (bytes line column : Nat) (s : List Char) : Nat × Nat :=
  match s with
  | [] => (line, column)
  | c :: rest =>
    if bytes < c.utf8Size then (line, column + bytes)
    else if c = '\n' then placeAfter (bytes - 1) (line + 1) 0 rest
    else placeAfter (bytes - c.utf8Size) line (column + c.utf8Size) rest

/-- A fault with its place in the whole document. -/
def Fault.locate (e : Fault) (document : List Char) : SyntaxError :=
  let place := placeAfter (byteCount document - e.unread) 1 0 document
  ⟨e.problem, place.1, place.2⟩

/-- Reads a document of one value; three steps a character are more than it needs. -/
def readDocument (s : List Char) : Except Fault Json :=
  match readValue (3 * s.length + 3) depthLimit (skipBlanks s) with
  | .error e => .error e
  | .ok (v, rest) =>
    match skipBlanks rest with
    | [] => .ok v
    | rest => .error (faultAt .trailingCharacters rest)

/-- The value written by a text. -/
def parse (text : String) : Except SyntaxError Json :=
  (readDocument text.toList).mapError fun e => e.locate text.toList

end Mailroom.Json
