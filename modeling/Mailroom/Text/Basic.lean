/-!
# Blanks and parts of a text

Blanks are the characters with the Unicode property White_Space: besides the ASCII blanks these are
the next-line sign, the no-break space and the spaces of general punctuation, but not the zero-width
space. A text is blank when nothing else occurs in it, and `trim` takes the blanks off both ends.

The parts of a text are what stands between the occurrences of a separator. There is always one part
more than there are separators, and no part holds one.
-/

namespace Mailroom.Text

/-- Whether a character counts as blank space. -/
def isBlankChar (c : Char) : Bool :=
  let n := c.toNat
  (9 ≤ n && n ≤ 13) || n = 0x20 || n = 0x85 || n = 0xA0 || n = 0x1680 ||
    (0x2000 ≤ n && n ≤ 0x200A) || n = 0x2028 || n = 0x2029 || n = 0x202F || n = 0x205F || n = 0x3000

/-- Whether a text holds nothing but blanks. -/
def isBlank (s : String) : Bool :=
  s.toList.all isBlankChar

/-- The characters left when the blanks at both ends are taken off. -/
def trimChars (cs : List Char) : List Char :=
  ((cs.dropWhile isBlankChar).reverse.dropWhile isBlankChar).reverse

/-- A text without the blanks at its ends. -/
def trim (s : String) : String :=
  String.ofList (trimChars s.toList)

/-- The parts between the occurrences of a separator. -/
def parts (sep : Char) (cs : List Char) : List (List Char) :=
  match cs with
  | [] => [[]]
  | c :: rest =>
    if c = sep then [] :: parts sep rest
    else
      match parts sep rest with
      | [] => [[c]]
      | first :: others => (c :: first) :: others

theorem parts_ne_nil (sep : Char) (cs : List Char) : parts sep cs ≠ [] := by
  cases cs with
  | nil => simp [parts]
  | cons c rest =>
    unfold parts
    split
    · simp
    · split <;> simp

/-- A separator starts a new part. -/
theorem parts_cons_self (sep : Char) (cs : List Char) :
    parts sep (sep :: cs) = [] :: parts sep cs := by
  simp [parts]

end Mailroom.Text
