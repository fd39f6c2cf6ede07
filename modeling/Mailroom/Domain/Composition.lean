import Mailroom.Domain.CompositionTable
import Mailroom.Text.Property

/-!
# Composed characters

A letter with marks can be written as one character or as several, and its marks in more than one
order. The composed form of a text has one spelling for all of these: characters are taken apart,
marks are put in the order of their classes, and what a letter and a mark form together is put in
their place as long as no mark of the same class stands between them.
-/

namespace Mailroom.Domain

/-- The class by which a mark is ordered; zero for all characters that keep their place. -/
def markClass (c : Char) : Nat :=
  if c.toNat < 0x300 then 0
  else
    match markClasses.find? fun r => r.first ≤ c.toNat && c.toNat ≤ r.last with
    | some r => r.order
    | none => 0

/-- Whether a character is a mark. -/
def isMark (c : Char) : Bool :=
  Text.isNonspacing c || Text.inRanges spacingMarkRanges c.toNat

/-- Whether a character is a syllable of Hangul. -/
def isSyllable (c : Char) : Bool :=
  0xAC00 ≤ c.toNat && c.toNat ≤ 0xD7A3

/-- The two or three letters of a syllable of Hangul. -/
def syllableLetters (c : Char) : List Char :=
  let n := c.toNat - 0xAC00
  let last := if n % 28 = 0 then [] else [Char.ofNat (0x11A7 + n % 28)]
  Char.ofNat (0x1100 + n / 588) :: Char.ofNat (0x1161 + n % 588 / 28) :: last

/-- A character taken apart, in front of others; `fuel` bounds the number of its marks. -/
def apartOnto (fuel : Nat) (c : Char) (rest : List Char) : List Char :=
  match fuel with
  | 0 => c :: rest
  | n + 1 =>
    match compositions.find? (·.whole = c.toNat) with
    | some p => apartOnto n (Char.ofNat p.base) (Char.ofNat p.mark :: rest)
    | none => c :: rest

/-- The characters that a character consists of; none consists of more than four. -/
def apart (c : Char) : List Char :=
  if c.toNat < 0x80 then [c] else if isSyllable c then syllableLetters c else apartOnto 3 c []

/-- Puts a character before others, behind the marks that come earlier by their class. -/
def insertMark (c : Char) (cs : List Char) : List Char :=
  match cs with
  | [] => [c]
  | d :: rest =>
    if 0 < markClass d && markClass d < markClass c then d :: insertMark c rest else c :: cs

/-- The syllable of Hangul that a character and a letter form together. -/
def syllable? (base mark : Char) : Option Char :=
  let b := base.toNat
  let m := mark.toNat
  if 0x1100 ≤ b && b ≤ 0x1112 && 0x1161 ≤ m && m ≤ 0x1175 then
    some (Char.ofNat (0xAC00 + ((b - 0x1100) * 21 + (m - 0x1161)) * 28))
  else if isSyllable base && (b - 0xAC00) % 28 = 0 && 0x11A8 ≤ m && m ≤ 0x11C2 then
    some (Char.ofNat (b + (m - 0x11A7)))
  else none

/-- The character that two characters form together. -/
def together? (base mark : Char) : Option Char :=
  match syllable? base mark with
  | some c => some c
  | none =>
    (compositions.find? fun p => p.base = base.toNat && p.mark = mark.toNat).map
      fun p => Char.ofNat p.whole

/--
Puts a letter together with the marks behind it. `between` are the marks already passed, the last
one first, and `last` is the class of that one.
-/
def composeFrom (letter : Char) (between : List Char) (last : Nat) (cs : List Char) : List Char :=
  match cs with
  | [] => letter :: between.reverse
  | c :: rest =>
    let order := markClass c
    match if between.isEmpty || last < order then together? letter c else none with
    | some whole => composeFrom whole between last rest
    | none =>
      if order = 0 then letter :: between.reverse ++ composeFrom c [] 0 rest
      else composeFrom letter (c :: between) order rest

/-- Puts together what can be, from the first letter on. -/
def composeOrdered (cs : List Char) : List Char :=
  match cs with
  | [] => []
  | c :: rest => if markClass c = 0 then composeFrom c [] 0 rest else c :: composeOrdered rest

/-- The composed form of a text. -/
def compose (cs : List Char) : List Char :=
  if cs.all fun c => c.toNat < 0x80 then cs
  else composeOrdered ((cs.flatMap apart).foldr insertMark [])

end Mailroom.Domain
