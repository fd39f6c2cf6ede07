/-!
# UTF-8

Characters as bytes and back. Reading goes character by character: `readChar` takes the longest
start of the bytes that can be part of one character, and says none where it is not a whole one. The
strict reader refuses such bytes, the tolerant one puts the replacement character in their place.
-/

namespace Mailroom.Text

/-- The bytes of some characters. -/
def utf8 (cs : List Char) : List UInt8 :=
  cs.flatMap String.utf8EncodeChar

/-- The lowest and highest second byte after a first byte of a longer character, and the bytes after
it. -/
def secondByteRange? (first : Nat) : Option (Nat × Nat × Nat) :=
  if 0xC2 ≤ first ∧ first ≤ 0xDF then some (0x80, 0xBF, 0)
  else if first = 0xE0 then some (0xA0, 0xBF, 1)
  else if first = 0xED then some (0x80, 0x9F, 1)
  else if 0xE1 ≤ first ∧ first ≤ 0xEF then some (0x80, 0xBF, 1)
  else if first = 0xF0 then some (0x90, 0xBF, 2)
  else if 0xF1 ≤ first ∧ first ≤ 0xF3 then some (0x80, 0xBF, 2)
  else if first = 0xF4 then some (0x80, 0x8F, 2)
  else none

/-- Takes up the bytes after the second one, whose bits follow those already read. -/
def readContinuation (missing bits : Nat) (bytes : List UInt8) : Option Char × List UInt8 :=
  match missing, bytes with
  | 0, rest => (some (Char.ofNat bits), rest)
  | _ + 1, [] => (none, [])
  | n + 1, b :: rest =>
    if 0x80 ≤ b.toNat ∧ b.toNat ≤ 0xBF then
      readContinuation n (bits * 64 + (b.toNat - 0x80)) rest
    else (none, b :: rest)

/-- Reads one character after its first byte. -/
def readChar (first : UInt8) (bytes : List UInt8) : Option Char × List UInt8 :=
  if first.toNat < 0x80 then (some (Char.ofNat first.toNat), bytes)
  else
    match secondByteRange? first.toNat, bytes with
    | none, _ => (none, bytes)
    | some _, [] => (none, [])
    | some (low, high, more), b :: rest =>
      if low ≤ b.toNat ∧ b.toNat ≤ high then
        let lead := first.toNat % (if more = 0 then 32 else if more = 1 then 16 else 8)
        readContinuation more (lead * 64 + (b.toNat - 0x80)) rest
      else (none, bytes)

/-- Reads characters, none standing for bytes that are no character; `fuel` bounds their number. -/
def readChars (fuel : Nat) (bytes : List UInt8) : List (Option Char) :=
  match fuel, bytes with
  | 0, _ => []
  | _, [] => []
  | n + 1, b :: rest =>
    match readChar b rest with
    | (c, rest) => c :: readChars n rest

/-- The characters of some bytes, if these are UTF-8 throughout. -/
def utf8Chars? (bytes : List UInt8) : Option (List Char) :=
  (readChars bytes.length bytes).mapM id

/-- The characters of some bytes, with a replacement where they are not UTF-8. -/
def utf8CharsLossy (bytes : List UInt8) : List Char :=
  (readChars bytes.length bytes).map fun c => c.getD '\ufffd'

end Mailroom.Text
