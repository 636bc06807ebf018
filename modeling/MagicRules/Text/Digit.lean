import MagicRules.Text

/-!
# Digits

Digits of any radix up to sixteen, read and written. Letters count as digits above nine in
either case.
-/

namespace MagicRules

def digit? (radix : Nat) (c : Char) : Option Nat :=
  let value :=
    if '0' ≤ c ∧ c ≤ '9' then c.toNat - '0'.toNat
    else if 'a' ≤ c ∧ c ≤ 'f' then c.toNat - 'a'.toNat + 10
    else if 'A' ≤ c ∧ c ≤ 'F' then c.toNat - 'A'.toNat + 10
    else 16
  if value < radix ∧ value < 16 then some value else none

def isDecimalDigit (c : Char) : Bool := (digit? 10 c).isSome

def isHexDigit (c : Char) : Bool := (digit? 16 c).isSome

namespace Text

/-- The digits of `n`, most significant first and without leading zeros; zero is `0`. -/
def ofNat (radix n : Nat) : Text := Nat.toDigits radix n

def ofInt (n : Int) : Text :=
  if n < 0 then '-' :: ofNat 10 n.natAbs else ofNat 10 n.natAbs

/-- Two lower-case hexadecimal digits. -/
def ofByte (b : UInt8) : Text :=
  [Nat.digitChar (b.toNat / 16), Nat.digitChar (b.toNat % 16)]

end Text

end MagicRules
