import MagicRules.IntRange
import MagicRules.Text

/-!
# Binary64 numbers

A floating-point number of 64 bits is kept as its bits, and its value is worked out in exact
arithmetic: a finite number is `significand · 2 ^ exponent`, negated if the sign bit is set.
Not-a-number has a sign bit too, and it can be seen in printed output.
-/

namespace MagicRules

structure Binary64 where
  bits : UInt64
  deriving DecidableEq, Repr

/-- The quotient rounded to the nearest whole number; a half goes to the even one. -/
def roundDiv (num den : Nat) : Nat :=
  let quotient := num / den
  let twice := 2 * (num % den)
  if twice < den then quotient
  else if den < twice then quotient + 1
  else quotient + quotient % 2

namespace Binary64

/-- The weight of the sign bit, the highest one. -/
def signBit : Nat := 0x8000000000000000

/-- The weight of the lowest bit of the exponent, above the 52 bits of the fraction. -/
def exponentBit : Nat := 0x10000000000000

def ofSigned (negative : Bool) (magnitude : Nat) : Binary64 :=
  ⟨UInt64.ofNat (magnitude + if negative then signBit else 0)⟩

def infinity (negative : Bool) : Binary64 := ofSigned negative (2047 * exponentBit)

def notANumber (negative : Bool) : Binary64 :=
  ofSigned negative (2047 * exponentBit + exponentBit / 2)

def negative (x : Binary64) : Bool := signBit ≤ x.bits.toNat

/-- The bits below the sign bit. They order the magnitudes. -/
def magnitude (x : Binary64) : Nat := x.bits.toNat % signBit

def abs (x : Binary64) : Binary64 := ofSigned false x.magnitude

def exponentField (x : Binary64) : Nat := x.magnitude / exponentBit

def fraction (x : Binary64) : Nat := x.magnitude % exponentBit

def isFinite (x : Binary64) : Bool := x.exponentField < 2047

def isNaN (x : Binary64) : Bool := !x.isFinite && x.fraction != 0

def isZero (x : Binary64) : Bool := x.magnitude = 0

def significand (x : Binary64) : Nat :=
  if x.exponentField = 0 then x.fraction else exponentBit + x.fraction

def exponent (x : Binary64) : Int := (max x.exponentField 1 : Nat) - 1075

/-- Numerator and denominator of `n · base ^ e`. -/
def scaled (n base : Nat) (e : Int) : Nat × Nat :=
  if 0 ≤ e then (n * Nat.pow base e.toNat, 1) else (n, Nat.pow base (-e).toNat)

/-- Numerator and denominator of the magnitude of a finite number. -/
def ratio (x : Binary64) : Nat × Nat := scaled x.significand 2 x.exponent

/-- The greatest `e` with `2 ^ e ≤ num / den`, for a positive quotient. -/
def floorLog (num den : Nat) : Int :=
  let e := (Nat.log2 num : Int) - Nat.log2 den
  let (powerNum, powerDen) := scaled 1 2 e
  if powerNum * den ≤ num * powerDen then e else e - 1

/-- The number nearest to `num / den`, ties to the even significand, infinite beyond the
greatest finite one. Bits count up through the exponents, so a significand that rounds up to
the next power of two carries into the exponent by itself. -/
def ofRatio (negative : Bool) (num den : Nat) : Binary64 :=
  if num = 0 then ofSigned negative 0
  else
    let exponent := max (floorLog num den - 52) (-1074)
    let (scaledNum, scaledDen) := scaled 1 2 (-exponent)
    let significand := roundDiv (num * scaledNum) (den * scaledDen)
    let magnitude := (exponent + 1074).toNat * exponentBit + significand
    ofSigned negative (min magnitude (2047 * exponentBit))

def ofInt (n : Int) : Binary64 := ofRatio (n < 0) n.natAbs 1

/-- The whole part as a signed 64-bit number: out of range it is the nearest such number, and
not-a-number is zero. -/
def toInt64 (x : Binary64) : Int :=
  if x.isNaN then 0
  else
    let whole : Nat := if x.isFinite then x.ratio.1 / x.ratio.2 else 2 * signBit
    IntRange.signed64.clamp (if x.negative then -(whole : Int) else whole)

end Binary64

end MagicRules
