import MagicRules.Binary64
import MagicRules.Text.Digit

/-!
# Decimal forms of binary64 numbers

Three ways to write a magnitude in decimal, all from its exact value:

* the shortest: the fewest digits that read back as the same number, and of those the nearest,
* with a fixed number of places,
* with a fixed number of significant digits and an exponent.

The last two round to the nearest; a half goes to the even digit.
-/

namespace MagicRules.Binary64

/-- Whether `num / den < 10 ^ e`. -/
def belowPower (num den : Nat) (e : Int) : Bool :=
  let (powerNum, powerDen) := scaled 1 10 e
  num * powerDen < den * powerNum

/-- The least `e` with `num / den < 10 ^ e`, for a positive quotient: how many digits stand
before the point. The binary logarithm gives it up to a few units, between which it is sought. -/
def decimalExponent (num den : Nat) : Int :=
  let e := (floorLog num den - 1) * 30103 / 100000
  ([e - 1, e, e + 1, e + 2, e + 3].find? (belowPower num den)).getD (e + 4)

/-- `num / den` in units of `10 ^ e`, as numerator and denominator. -/
def inUnits (num den : Nat) (e : Int) : Nat × Nat :=
  let (unitNum, unitDen) := scaled 1 10 e
  (num * unitDen, den * unitNum)

/-- Digits and decimal exponent: `0.d₁d₂… · 10 ^ e`. -/
structure Decimal where
  digits : Text
  exponent : Int
  deriving DecidableEq, Repr

/-- The numbers `n / 4 · 2 ^ exponent` between `low` and `high` are nearer to `x` than to any
other number; the ends count if the significand is even. Below a power of two the next number
is only half as far away. -/
def neighbourhood (x : Binary64) : Nat × Nat :=
  let n := 4 * x.significand
  (n - (if x.significand = exponentBit then 1 else 2), n + 2)

def readsBack (x : Binary64) (n : Nat) (e : Int) : Bool :=
  let (low, high) := x.neighbourhood
  let (unitNum, unitDen) := scaled 1 2 (x.exponent - 2)
  let (num, den) := scaled n 10 e
  let ends (c : Nat) : Nat := c * unitNum * den
  let middle := num * unitDen
  if x.significand % 2 = 0 then ends low ≤ middle && middle ≤ ends high
  else ends low < middle && middle < ends high

/-- The multiple of `10 ^ e` that reads back as `x` and is nearest to it, if there is one. -/
def nearestMultiple? (x : Binary64) (e : Int) : Option Nat :=
  let (num, den) := inUnits x.ratio.1 x.ratio.2 e
  let below := num / den
  match x.readsBack below e, x.readsBack (below + 1) e with
  | true, true => some (if 2 * (num % den) < den then below else below + 1)
  | true, false => some below
  | false, true => some (below + 1)
  | false, false => none

/-- The fewest digits that read back as the finite positive `x`. Seventeen are always enough. -/
def shortest (x : Binary64) : Decimal :=
  let e := decimalExponent x.ratio.1 x.ratio.2
  let withDigits (count : Nat) : Option Decimal :=
    (x.nearestMultiple? (e - count)).map fun n =>
      let digits := Text.ofNat 10 n
      { digits, exponent := e - count + digits.length }
  ((List.range' 1 17).findSome? withDigits).getD { digits := ['0'], exponent := 1 }

namespace Decimal

/-- Without trailing zeros, which carry over from a digit that rounds up. -/
def strip (d : Decimal) : Decimal :=
  { d with digits := (d.digits.reverse.dropWhile (· = '0')).reverse }

/-- Written with a point where it belongs and no exponent. -/
def positional (d : Decimal) : Text :=
  let length : Int := d.digits.length
  if d.exponent ≤ 0 then '0' :: '.' :: List.replicate (-d.exponent).toNat '0' ++ d.digits
  else if length ≤ d.exponent then d.digits ++ List.replicate (d.exponent - length).toNat '0'
  else d.digits.take d.exponent.toNat ++ '.' :: d.digits.drop d.exponent.toNat

end Decimal

/-- The shortest text that reads back, never with an exponent. -/
def written (x : Binary64) : Text :=
  if x.isNaN then "NaN".toList
  else
    let magnitude :=
      if !x.isFinite then "inf".toList
      else if x.isZero then ['0']
      else x.shortest.strip.positional
    if x.negative then '-' :: magnitude else magnitude

def fixed (places : Nat) (x : Binary64) : Text :=
  let n := roundDiv (x.ratio.1 * Nat.pow 10 places) x.ratio.2
  let digits := Text.ofNat 10 n
  let padded := List.replicate (places + 1 - digits.length) '0' ++ digits
  let whole := padded.length - places
  if places = 0 then padded else padded.take whole ++ '.' :: padded.drop whole

/-- The `count` most significant digits of a magnitude, rounded, and the exponent of ten of
the first of them. -/
def significant (count : Nat) (x : Binary64) : Text × Int :=
  if x.isZero then (List.replicate count '0', 0)
  else
    let (num, den) := x.ratio
    let e := decimalExponent num den
    let (unitsNum, unitsDen) := inUnits num den (e - count)
    let n := roundDiv unitsNum unitsDen
    if n < Nat.pow 10 count then (Text.ofNat 10 n, e - 1) else (Text.ofNat 10 (n / 10), e)

end MagicRules.Binary64
