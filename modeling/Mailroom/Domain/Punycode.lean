import Mailroom.Text.Decimal

/-!
# Labels in letters of ASCII

A label of a domain that holds other letters than those of ASCII is written with them alone: first
the ASCII characters of the label, then the other ones in ascending order, each as the distance it
lies from the one before. A distance is a row of digits of base 36 whose weights follow a bias, and
the bias follows the distances already written. Distances and weights are numbers of 32 bits.
-/

namespace Mailroom.Domain.Punycode

/-- The digit of a value below 36. -/
def digit (value : Nat) : Char :=
  if value < 26 then Char.ofNat (97 + value) else Char.ofNat (22 + value)

/-- The value of a digit in lower case. -/
def value? (c : Char) : Option Nat :=
  if 'a' ≤ c ∧ c ≤ 'z' then some (c.toNat - 97)
  else if '0' ≤ c ∧ c ≤ '9' then some (c.toNat - 22)
  else none

/-- The least value of a digit that is not the last of its row. -/
def threshold (place bias : Nat) : Nat :=
  min 26 (max 1 (place - bias))

/-- Halves a distance in steps of 35 until it is small, and counts the steps; `fuel` bounds them. -/
def shrink (fuel distance steps : Nat) : Nat × Nat :=
  match fuel with
  | 0 => (distance, steps)
  | n + 1 => if distance > 455 then shrink n (distance / 35) (steps + 1) else (distance, steps)

/-- The bias after a distance, of so many characters as stand written then. -/
def adapt (distance written : Nat) (first : Bool) : Nat :=
  let damped := if first then distance / 700 else distance / 2
  let spread := shrink 40 (damped + damped / written) 0
  36 * spread.2 + 36 * spread.1 / (spread.1 + 38)

/-- The digits of a distance; `fuel` bounds their number. -/
def distanceDigits (fuel place bias distance : Nat) : List Char :=
  match fuel with
  | 0 => []
  | n + 1 =>
    let least := threshold place bias
    if distance < least then [digit distance]
    else
      let excess := distance - least
      digit (least + excess % (36 - least)) ::
        distanceDigits n (place + 36) bias (excess / (36 - least))

/-- What has been written of the characters beyond ASCII, and where the writing stands. -/
structure Progress where
  output : List Char
  distance : Nat
  bias : Nat
  written : Nat

/-- Passes one character of the label while those of one code point are written. -/
def pass (plain point : Nat) (p : Progress) (c : Char) : Progress :=
  if c.toNat < point then { p with distance := p.distance + 1 }
  else if c.toNat = point then
    ⟨p.output ++ distanceDigits 40 36 p.bias p.distance, 0,
      adapt p.distance (p.written + 1) (p.written = plain), p.written + 1⟩
  else p

/-- Writes the characters of the given code points, which ascend from `next` on. -/
def writePoints (label : List Char) (plain next : Nat) (points : List Nat) (p : Progress) :
    List Char :=
  match points with
  | [] => p.output
  | point :: rest =>
    let moved := { p with distance := p.distance + (point - next) * (p.written + 1) }
    let passed := label.foldl (pass plain point) moved
    writePoints label plain (point + 1) rest { passed with distance := passed.distance + 1 }

/-- Puts a number into an ascending list unless it is there. -/
def place (n : Nat) (points : List Nat) : List Nat :=
  match points with
  | [] => [n]
  | m :: rest => if n < m then n :: points else if n = m then points else m :: place n rest

/-- A label with all its letters written in ASCII. -/
def encode (label : List Char) : List Char :=
  let plain := label.filter fun c => c.toNat < 0x80
  let points := (label.filter fun c => c.toNat ≥ 0x80).foldr (fun c ps => place c.toNat ps) []
  plain ++ (if plain.isEmpty then [] else ['-']) ++
    writePoints label plain.length 128 points ⟨[], 0, 72, plain.length⟩

/-- Reads a distance: the sum of the digits by weight, and the characters after it. -/
def readDistance (place bias weight sum : Nat) (cs : List Char) : Option (Nat × List Char) :=
  match cs with
  | [] => none
  | c :: rest =>
    match value? c with
    | none => none
    | some v =>
      let least := threshold place bias
      let next := weight * (36 - least)
      if v < least then some (sum + v * weight, rest)
      else if next < bitBound 32 then readDistance (place + 36) bias next (sum + v * weight) rest
      else none

/-- Puts a character at a place of a list. -/
def insertAt (n : Nat) (c : Char) (cs : List Char) : List Char :=
  cs.take n ++ c :: cs.drop n

/-- Reads the distances and puts the characters they lead to in their places; `fuel` bounds them. -/
def readPoints (fuel index point bias : Nat) (plain : Nat) (label cs : List Char) :
    Option (List Char) :=
  match fuel, cs with
  | _, [] => some label
  | 0, _ => none
  | n + 1, cs =>
    match readDistance 36 bias 1 0 cs with
    | none => none
    | some (distance, rest) =>
      let total := index + distance
      let size := label.length + 1
      let next := point + total / size
      let spot := total % size
      if total ≥ bitBound 32 ∨ next ≥ 0x110000 ∨ (0xD800 ≤ next ∧ next < 0xE000) then none
      else
        readPoints n (spot + 1) next (adapt distance size (label.length = plain)) plain
          (insertAt spot (Char.ofNat next) label) rest

/-- The label that letters of ASCII stand for. A hyphen alone does not end the plain characters. -/
def decode? (cs : List Char) : Option (List Char) :=
  let tail := (cs.reverse.takeWhile (· ≠ '-')).reverse
  let plain := (cs.take (cs.length - tail.length)).dropLast
  if plain.any (fun c => c.toNat ≥ 0x80) ∨ cs.length = tail.length + 1 then none
  else readPoints tail.length 0 128 72 plain.length plain tail

end Mailroom.Domain.Punycode
