import Mailroom.Text.CaseTable
import Mailroom.Text.Property

/-!
# Lower case

Lower-case letters by the rules of the Unicode standard, not of ASCII alone. Two letters need more
than the table: a dotted capital I becomes an i with a dot above it, and a capital sigma at the end
of a word takes its final form.
-/

namespace Mailroom.Text

/-- A lower-case letter of ASCII for an upper-case one, and any other character as it is. -/
def asciiLower (c : Char) : Char :=
  if 'A' ≤ c ∧ c ≤ 'Z' then Char.ofNat (c.toNat + 32) else c

/-- A text with its ASCII letters in lower case. -/
def asciiLowercase (s : String) : String :=
  s.map asciiLower

/-- Whether a letter has a case. -/
def isCased (c : Char) : Bool :=
  if c.toNat < 0x80 then ('a' ≤ c && c ≤ 'z') || ('A' ≤ c && c ≤ 'Z')
  else inRanges casedRanges c.toNat

/-- Whether a character is passed over when the end of a word is sought. -/
def isCaseIgnorable (c : Char) : Bool :=
  isNonspacing c || inRanges caseIgnorableRanges c.toNat

/-- Whether the first character that is not passed over has a case. -/
def startsCased (cs : List Char) : Bool :=
  match cs.dropWhile isCaseIgnorable with
  | [] => false
  | c :: _ => isCased c

/-- Whether a code point belongs to a run. -/
def ShiftRun.covers (r : ShiftRun) (n : Nat) : Bool :=
  r.first ≤ n && n ≤ r.last && (n - r.first) % r.step = 0

/-- The character that corresponds to another one by the first run that covers it. -/
def shifted? (runs : List ShiftRun) (c : Char) : Option Char :=
  (runs.find? (·.covers c.toNat)).map fun r => Char.ofNat ((c.toNat : Int) + r.shift).toNat

/-- The lower-case form of a letter that has a single one. -/
def lowerChar (c : Char) : Char :=
  if c.toNat < 0x80 then asciiLower c else (shifted? caseRuns c).getD c

/-- Lower case of the letters after those already passed, which are given last first. -/
def lowercaseAfter (passed : List Char) (cs : List Char) : List Char :=
  match cs with
  | [] => []
  | c :: rest =>
    let lower :=
      if c = 'İ' then ['i', '\u0307']
      else if c = 'Σ' then [if startsCased passed && !startsCased rest then 'ς' else 'σ']
      else [lowerChar c]
    lower ++ lowercaseAfter (c :: passed) rest

/-- A text in lower case. -/
def lowercase (s : String) : String :=
  String.ofList (lowercaseAfter [] s.toList)

end Mailroom.Text
