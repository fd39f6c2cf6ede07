import Mailroom.Text.Decimal

/-!
# Binary floating point

Finite numbers of 64 bits as a sign, a whole mantissa and a power of two. All arithmetic is exact
arithmetic on whole numbers followed by one rounding: to the nearest number of the format, a half to
the even mantissa. A result beyond the greatest number is reported by `none`.

Two readings of a decimal stand side by side. `ofDecimal?` rounds the exact value once. `ofScaled?`
first rounds the digits and then multiplies or divides by a rounded power of ten, so its last bit
may differ; number texts inside documents are read this way.
-/

namespace Mailroom

/-- The number `mantissa · 2 ^ exponent`, negated when `negative` is set. -/
structure Binary64 where
  negative : Bool
  mantissa : Nat
  exponent : Int
deriving DecidableEq

namespace Binary64

/-- The least exponent of the format. -/
def leastExponent : Int := -1074

/-- The greatest exponent of the format. -/
def greatestExponent : Int := 971

/-- Zero with a sign. -/
def zero (negative : Bool) : Binary64 :=
  ⟨negative, 0, leastExponent⟩

/-- Whether a number is zero, of either sign. -/
def isZero (x : Binary64) : Bool :=
  x.mantissa = 0

/-- A power of a base split into a numerator and a denominator. -/
def powerRatio (base : Nat) (exponent : Int) : Nat × Nat :=
  match exponent with
  | .ofNat k => (Nat.pow base k, 1)
  | .negSucc k => (1, Nat.pow base (k + 1))

/-- The exponent at which a positive ratio has a mantissa of 53 bits, or the least one. -/
def exponentFor (num den : Nat) : Int :=
  let guess : Int := (Nat.log2 num : Int) - (Nat.log2 den : Int) - 52
  let scale := powerRatio 2 guess
  let fitted := if num * scale.2 < bitBound 52 * (den * scale.1) then guess - 1 else guess
  max fitted leastExponent

/-- A quotient rounded to the nearest whole number, a half to the even one. -/
def roundHalfEven (num den : Nat) : Nat :=
  let quotient := num / den
  let twice := 2 * (num % den)
  if twice > den || (twice = den && quotient % 2 = 1) then quotient + 1 else quotient

/-- The number of the format nearest to a ratio. -/
def ofRatio? (negative : Bool) (num den : Nat) : Option Binary64 :=
  if num = 0 then some (zero negative)
  else
    let exponent := exponentFor num den
    let scale := powerRatio 2 exponent
    let rounded := roundHalfEven (num * scale.2) (den * scale.1)
    let result : Binary64 :=
      if rounded = bitBound 53 then ⟨negative, bitBound 52, exponent + 1⟩
      else ⟨negative, rounded, exponent⟩
    if result.exponent > greatestExponent then none else some result

/-- The size of a number as a ratio. -/
def ratio (x : Binary64) : Nat × Nat :=
  let scale := powerRatio 2 x.exponent
  (x.mantissa * scale.1, scale.2)

/-- The power of ten nearest to `10 ^ k`, as a ratio. -/
def powerOfTen (k : Nat) : Nat × Nat :=
  match ofRatio? false (Nat.pow 10 k) 1 with
  | some p => p.ratio
  | none => (Nat.pow 10 k, 1)

/-- A product with a rounded power of ten, rounded again. -/
def timesPowerOfTen? (x : Binary64) (k : Nat) : Option Binary64 :=
  let a := x.ratio
  let p := powerOfTen k
  ofRatio? x.negative (a.1 * p.1) (a.2 * p.2)

/-- A quotient by a rounded power of ten, rounded again. -/
def overPowerOfTen (x : Binary64) (k : Nat) : Binary64 :=
  let a := x.ratio
  let p := powerOfTen k
  (ofRatio? x.negative (a.1 * p.2) (a.2 * p.1)).getD (zero x.negative)

/-- Divides by `10 ^ 308` as often as told. -/
def overGreatestPowers (x : Binary64) (times : Nat) : Binary64 :=
  match times with
  | 0 => x
  | n + 1 => overGreatestPowers (x.overPowerOfTen 308) n

/--
Reads digits and a decimal exponent with one rounding per step. A positive exponent above 308 is too
great for any digits but zero; a negative one is worked off in steps of 308, of which three leave
nothing of 64 bits.
-/
def ofScaled? (negative : Bool) (significand : Nat) (exponent : Int) : Option Binary64 :=
  (ofRatio? negative significand 1).bind fun x =>
    match exponent with
    | .ofNat k =>
      if k ≤ 308 then x.timesPowerOfTen? k
      else if x.isZero then some x
      else none
    | .negSucc k =>
      let steps := k / 308
      some ((x.overGreatestPowers (min steps 3)).overPowerOfTen (k + 1 - 308 * steps))

/--
Reads digits and a decimal exponent exactly, with one rounding at the end. The length of the digits
decides beforehand where the value is beyond the format or below half its least number.
-/
def ofDecimal? (negative : Bool) (digits : Nat) (exponent : Int) : Option Binary64 :=
  if digits = 0 then some (zero negative)
  else
    let magnitude : Int := (Nat.log2 digits : Int) * 30103 / 100000 + exponent
    if magnitude > 310 then none
    else if magnitude < -330 then some (zero negative)
    else
      let scale := powerRatio 10 exponent
      ofRatio? negative (digits * scale.1) scale.2

end Binary64

end Mailroom
