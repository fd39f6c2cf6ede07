import Mailroom.Text.Property
import Mailroom.Text.WidthTable

/-!
# Width of text on a terminal

The number of columns that a text takes: one for most characters, two for wide ones, none for marks.
Controls count like letters. Some characters form one sign together: a picture with a selector of
its form, with a shade, or with other pictures behind joiners; the two letters of a flag; letters
that are written as one. A text is therefore read from its end, and the columns of a character are
those that it adds to the signs behind it, which may be fewer than none.
-/

namespace Mailroom.Text

/-- The columns of a character that stands alone. The joiner of Tifinagh is seen unless it joins. -/
def columns (c : Char) : Nat :=
  let n := c.toNat
  if n ≤ 0xA0 || n = 0x2D7F then 1
  else if n = 0x17D8 then 3
  else if n = 0x17A4 then 2
  else if isExtending c || inRanges widthlessRanges n then 0
  else if inRanges wideRanges n then 2
  else 1

/-- The sign at the beginning of a text that the character before it may become a part of. -/
inductive Sign
  /-- A sign that stays as it is. -/
  | plain
  | lineEnd
  /-- One of the shades of a picture. -/
  | shade
  /-- A letter of a flag. -/
  | flagLetter
  /-- Several letters of flags. -/
  | flagLetters
  | picture
  /-- A joiner before a picture. -/
  | joinedPicture
  /-- The frame of a key before a joiner and a picture. -/
  | joinedKey
  /-- A letter of a flag before a joiner and a picture. -/
  | joinedFlagLetter
  /-- A flag before a joiner and a picture. -/
  | joinedFlag
  /-- A letter of a flag and a whole flag before a joiner and a picture. -/
  | joinedFlagAndLetter
  /-- Tags that end the name of a region, before a joiner and a picture. -/
  | joinedTags (letters digits : Nat)
  /-- An alef, which a lam before it takes up. -/
  | alef
  /-- A lamed, perhaps behind a joiner. -/
  | lamed (joined : Bool)
  /-- A Buginese ya, perhaps behind a joiner. -/
  | ya (joined : Bool)
  /-- A vowel sign before a joiner and a Buginese ya. -/
  | vowelYa
  /-- A Tifinagh consonant, perhaps behind a joiner. -/
  | consonant (joined : Bool)
  /-- The joiner of consonants before a Tifinagh consonant. -/
  | joinedConsonant
  /-- The second of two tone letters. -/
  | tone
  /-- An Orkhon letter, perhaps behind a joiner. -/
  | orkhon (joined : Bool)
  /-- A Khmer letter that can be set below another one. -/
  | subscript
  /-- The vowel of Kirat Rai that may be a part of another vowel. -/
  | shortVowel
  /-- The vowel of Kirat Rai made of two such parts. -/
  | longVowel
  deriving DecidableEq

namespace Sign

/-- Whether a sign is a letter that joins to the one before it. -/
def isLetter : Sign → Bool
  | alef | lamed _ | ya _ | vowelYa | consonant _ | joinedConsonant | tone | orkhon _ | subscript =>
    true
  | _ => false

/-- Whether the picture of a sign waits for one more picture before it. -/
def awaitsPicture : Sign → Bool
  | joinedPicture | joinedKey => true
  | _ => false

/-- A letter behind a joiner. -/
def behindJoiner : Sign → Sign
  | lamed _ => lamed true
  | ya _ => ya true
  | consonant _ => consonant true
  | orkhon _ => orkhon true
  | s => s

end Sign

/-- What a selector asks the character before it to look like. -/
inductive Selector
  | picture
  | text
  | wide
  deriving DecidableEq

/-- What follows a character: a sign and the selector before it. -/
structure Following where
  sign : Sign
  selector : Option Selector

namespace Following

/-- A sign without a selector. -/
def only (sign : Sign) : Following :=
  ⟨sign, none⟩

/-- A selector before what follows. It parts all signs but letters and pictures that wait. -/
def select (f : Following) (s : Selector) : Following :=
  ⟨if f.sign.isLetter || (s = .picture && f.sign.awaitsPicture) then f.sign else .plain, some s⟩

/-- What follows when its selector for a picture has not been heeded. -/
def unheeded (f : Following) : Following :=
  if f.selector = some .picture then only (if f.sign.isLetter then f.sign else .plain) else f

end Following

/-- Whether a character has a form as a picture besides its form as text. -/
def isSelectable (c : Char) : Bool :=
  inRanges selectableRanges c.toNat

/-- Whether a picture takes one column in its form as text. -/
def isTextable (c : Char) : Bool :=
  isSelectable c && inRanges pictureRanges c.toNat && !(0x1F200 ≤ c.toNat && c.toNat ≤ 0x1F2FF)

/-- Whether a character is one of the quotes that come in two widths. -/
def isSelectableQuote (c : Char) : Bool :=
  c = '\u2018' || c = '\u2019' || c = '\u201c' || c = '\u201d'

/-- Whether a character gives a picture one of five shades. -/
def isShade (c : Char) : Bool :=
  0x1F3FB ≤ c.toNat && c.toNat ≤ 0x1F3FF

/-- Whether a character is a letter of a flag. -/
def isFlagLetter (c : Char) : Bool :=
  0x1F1E6 ≤ c.toNat && c.toNat ≤ 0x1F1FF

/-- Whether a character is a letter in the name of a region. -/
def isTagLetter (c : Char) : Bool :=
  0xE0061 ≤ c.toNat && c.toNat ≤ 0xE007A

/-- Whether a character is a digit in the name of a region. -/
def isTagDigit (c : Char) : Bool :=
  0xE0030 ≤ c.toNat && c.toNat ≤ 0xE0039

/-- Whether a letter is an alef. -/
def isAlef (c : Char) : Bool :=
  inRanges [(0x622, 0x623), (0x625, 0x625), (0x627, 0x627), (0x671, 0x673), (0x675, 0x675),
    (0x773, 0x774), (0x870, 0x882)] c.toNat

/-- Whether a letter is a lam. -/
def isLam (c : Char) : Bool :=
  inRanges [(0x644, 0x644), (0x6B5, 0x6B8), (0x76A, 0x76A), (0x8A6, 0x8A6), (0x8C7, 0x8C7)] c.toNat

/-- Whether a Khmer letter can be set below another one. -/
def isSubscriptLetter (c : Char) : Bool :=
  inRanges [(0x1780, 0x1782), (0x1784, 0x1787), (0x1789, 0x178C), (0x178E, 0x1793),
    (0x1795, 0x1798), (0x179B, 0x179D), (0x17A0, 0x17A0), (0x17A2, 0x17A2), (0x17A7, 0x17A7),
    (0x17AB, 0x17AC), (0x17AF, 0x17AF)] c.toNat

/-- Whether a letter is a Tifinagh consonant. -/
def isConsonant (c : Char) : Bool :=
  (0x2D31 ≤ c.toNat && c.toNat ≤ 0x2D65) || c.toNat = 0x2D6F

/-- Whether a character between two letters leaves them together, the joiner left aside. -/
def isUnseen (c : Char) : Bool :=
  inRanges [(0x34F, 0x34F), (0x17B4, 0x17B5), (0x180B, 0x180D), (0x180F, 0x180F),
    (0xFE00, 0xFE0F), (0xE0100, 0xE01EF)] c.toNat

/-- The sign that a character is if nothing before it joins. -/
def signOf (c : Char) : Sign :=
  if isAlef c then .alef
  else if c = '\u05dc' then .lamed false
  else if isSubscriptLetter c then .subscript
  else if c = '\u1a10' then .ya false
  else if isConsonant c then .consonant false
  else if c = '\ua4fc' || c = '\ua4fd' then .tone
  else if c.toNat = 0x10C03 then .orkhon false
  else if c.toNat = 0x16D67 then .shortVowel
  else if c.toNat = 0x16D68 then .longVowel
  else if isFlagLetter c then .flagLetter
  else if isShade c then .shade
  else if inRanges pictureRanges c.toNat then .picture
  else .plain

/-- A character that joins to a letter: the columns it adds and the sign they are together. -/
def joinLetter? (sign : Sign) (c : Char) : Option (Int × Sign) :=
  match sign with
  | .alef =>
    if isLam c then some (0, .plain)
    else if isTransparent c && columns c = 0 then some (0, .alef)
    else none
  | .lamed true => if c = '\u05d0' then some (0, .plain) else none
  | .subscript => if c = '\u17d2' then some (-1, .plain) else none
  | .ya true => if c = '\u1a17' then some (0, .vowelYa) else none
  | .vowelYa => if c = '\u1a15' then some (0, .plain) else none
  | .consonant joined =>
    if c = '\u2d7f' then some (1, .joinedConsonant)
    else if joined && isConsonant c then some (0, .plain)
    else none
  | .joinedConsonant => if isConsonant c then some (-1, .plain) else none
  | .tone => if '\ua4f8' ≤ c ∧ c ≤ '\ua4fb' then some (0, .plain) else none
  | .orkhon true => if c.toNat = 0x10C32 then some (0, .plain) else none
  | .shortVowel =>
    if c.toNat = 0x16D63 || c.toNat = 0x16D69 then some (0, .plain)
    else if c.toNat = 0x16D67 then some (0, .longVowel)
    else if c.toNat = 0x16D68 then some (1, .shortVowel)
    else none
  | .longVowel => if c.toNat = 0x16D63 then some (0, .plain) else none
  | _ => none

/-- A character that joins to the tags of a region: at most six letters or at most three digits. -/
def joinTags? (letters digits : Nat) (c : Char) : Option (Int × Sign) :=
  if isTagLetter c && digits = 0 && letters < 6 then some (0, .joinedTags (letters + 1) 0)
  else if isTagDigit c && digits < 3 && letters < 5 then some (0, .joinedTags 0 (digits + 1))
  else if c.toNat = 0x1F3F4 && (digits = 3 || 3 ≤ letters) then some (0, .picture)
  else none

/-- A character that joins to a picture: the columns it adds and the sign they are together. -/
def joinPicture? (sign : Sign) (c : Char) : Option (Int × Sign) :=
  match sign with
  | .shade =>
    if inRanges shadeableRanges c.toNat then some (0, .picture)
    else if c = '\u200d' then some (0, .joinedPicture)
    else none
  | .picture => if c = '\u200d' then some (0, .joinedPicture) else none
  | .flagLetter => if isFlagLetter c then some (1, .flagLetters) else none
  | .flagLetters =>
    if isFlagLetter c then some (1, .flagLetters)
    else if c = '\u200d' then some (0, .joinedPicture)
    else none
  | .joinedPicture =>
    if c = '\u20e3' then some (0, .joinedKey)
    else if isFlagLetter c then some (1, .joinedFlagLetter)
    else if isShade c then some (0, .shade)
    else if c.toNat = 0xE007F then some (0, .joinedTags 0 0)
    else if inRanges pictureRanges c.toNat then some (0, .picture)
    else none
  | .joinedFlagLetter => if isFlagLetter c then some (-1, .joinedFlag) else none
  | .joinedFlag =>
    if isFlagLetter c then some (3, .joinedFlagAndLetter)
    else if c = '\u200d' then some (0, .joinedPicture)
    else none
  | .joinedFlagAndLetter =>
    if isFlagLetter c then some (-1, .joinedFlag)
    else if c = '\u200d' then some (0, .joinedPicture)
    else none
  | .joinedTags letters digits => joinTags? letters digits c
  | _ => none

/-- Whether a letter stays what it is behind a character. The alef knows its own such marks. -/
def keepsLetter (sign : Sign) (c : Char) : Bool :=
  sign.isLetter && sign ≠ .alef && (c = '\u200d' || isUnseen c)

/-- A character beyond ASCII before a sign: the columns it adds and the sign then in front. -/
def join (c : Char) (sign : Sign) : Int × Sign :=
  if keepsLetter sign c then (0, if c = '\u200d' then sign.behindJoiner else sign)
  else (joinLetter? sign c <|> joinPicture? sign c).getD (columns c, signOf c)

/-- A character before what follows it: the columns it adds, and what follows one that precedes. -/
def stepBack (c : Char) (f : Following) : Int × Following :=
  if f.selector = some .picture && isSelectable c then
    (if f.sign.awaitsPicture then 0 else 2, .only .picture)
  else
    let f := f.unheeded
    if c = '\n' then (1, .only .lineEnd)
    else if c = '\r' && f.sign = .lineEnd then (0, .only .plain)
    else if c.toNat ≤ 0xA0 then (1, .only .plain)
    else if c = '\ufe0f' then (0, f.select .picture)
    else if c = '\ufe0e' then (0, f.select .text)
    else if f.selector = some .text && isTextable c then (1, .only .plain)
    else if c = '\ufe01' then (0, f.select .wide)
    else if f.selector = some .wide && isSelectableQuote c then (2, .only .plain)
    else
      let r := join c f.sign
      (r.1, .only r.2)

/-- The columns of characters and what they show to one before them. -/
def measure (cs : List Char) : Int × Following :=
  cs.foldr
    (fun c m =>
      let r := stepBack c m.2
      (r.1 + m.1, r.2))
    (0, .only .plain)

/-- The columns of a text. -/
def width (s : String) : Nat :=
  (measure s.toList).1.toNat

end Mailroom.Text
