import Mailroom.Number.Binary64
import Mailroom.Text.Decimal

/-!
# The shortest decimal of a number

Every number of the format stands for an interval of decimals that are read back as it. The shortest
decimal is a point of that interval on the coarsest grid of powers of ten that meets it, the nearest
such point, and of two equally near the even one. Numbers of middling size are written out in full
and always show a fraction; all others carry an exponent.
-/

namespace Mailroom.Binary64

/-- The bounds of the interval that is read back as a number, in quarters of its last unit. -/
def quarterBounds (x : Binary64) : Nat × Nat :=
  let low := if x.mantissa = bitBound 52 && x.exponent > leastExponent then 1 else 2
  (4 * x.mantissa - low, 4 * x.mantissa + 2)

/-- A quarter of the last unit divided by a power of ten. -/
def quarterOver (x : Binary64) (k : Int) : Nat × Nat :=
  let unit := powerRatio 2 (x.exponent - 2)
  let grid := powerRatio 10 k
  (unit.1 * grid.2, unit.2 * grid.1)

/-- Whether the grid point `d · 10 ^ k` is read back as the number; the bounds count for even
mantissas. -/
def readsBack (x : Binary64) (k : Int) (d : Nat) : Bool :=
  let step := x.quarterOver k
  let point := d * step.2
  let low := x.quarterBounds.1 * step.1
  let high := x.quarterBounds.2 * step.1
  if x.mantissa % 2 = 0 then low ≤ point && point ≤ high else low < point && point < high

/-- The point nearest to the number on the grid of `10 ^ k`, if one is read back as the number. -/
def gridPoint? (x : Binary64) (k : Int) : Option Nat :=
  let step := x.quarterOver k
  let value := 4 * x.mantissa * step.1
  let below := value / step.2
  let twice := 2 * (value % step.2)
  let upper := twice > step.2 || (twice = step.2 && below % 2 = 1)
  let candidates := if upper then [below + 1, below] else [below, below + 1]
  candidates.find? (x.readsBack k)

/-- Tries ever finer grids, from `10 ^ k` downwards. -/
def finestNeeded (x : Binary64) (k : Int) (tries : Nat) : Nat × Int :=
  match tries with
  | 0 => (0, k)
  | n + 1 =>
    match x.gridPoint? k with
    | some d => (d, k)
    | none => finestNeeded x (k - 1) n

/-- The digits and the decimal exponent of the shortest decimal of a number other than zero. -/
def shortest (x : Binary64) : Nat × Int :=
  let top := ((Nat.log2 x.mantissa : Int) + x.exponent) * 30103 / 100000 + 2
  finestNeeded x top 24

/-- The least decimal exponent that is written out in full. -/
def leastPlain : Int := -5

/-- The greatest decimal exponent that is written out in full. -/
def greatestPlain : Int := 15

/-- Digits with a decimal point after the first of them. -/
def pointed (digits : List Char) : List Char :=
  match digits with
  | [] => []
  | [d] => [d]
  | d :: rest => d :: '.' :: rest

/-- The text of digits and a decimal exponent. -/
def decimalChars (digits : Nat) (exponent : Int) : List Char :=
  let written := Text.natDigits digits
  let scientific := exponent + written.length - 1
  if leastPlain ≤ scientific ∧ scientific ≤ greatestPlain then
    if 0 ≤ exponent then written ++ List.replicate exponent.toNat '0' ++ ['.', '0']
    else if 0 ≤ scientific then
      let whole := scientific.toNat + 1
      written.take whole ++ '.' :: written.drop whole
    else '0' :: '.' :: List.replicate (-scientific - 1).toNat '0' ++ written
  else
    let sign := if scientific < 0 then '-' else '+'
    pointed written ++ 'e' :: sign :: Text.natDigits scientific.natAbs

/-- The text of a number. -/
def text (x : Binary64) : String :=
  let size := if x.isZero then ['0', '.', '0'] else decimalChars x.shortest.1 x.shortest.2
  String.ofList (if x.negative then '-' :: size else size)

end Mailroom.Binary64
