import MagicRules.IntRange
import MagicRules.Text.Digit

/-!
# Integer literals

`123`, `-123`, `0x7b`, `#7b` and `0173` are literals: an optional sign, an optional mark of
the radix, and digits. A zero in front of further digits marks octal. A literal has a value
of its own; whether that value fits is asked only when it is read at a width.
-/

namespace MagicRules

inductive DigitsError where
  | empty
  | invalid
  | tooLarge
  | tooSmall
  deriving DecidableEq, Repr

inductive LiteralError where
  | empty
  | sign
  | digits (cause : DigitsError)
  deriving DecidableEq, Repr

/-- Reads digits onto `value`, away from zero on the side of the sign. The first character
at which the number is spoilt decides: it is no digit, or it takes the value out of the
range. -/
def readDigits (radix : Nat) (negative : Bool) (range : IntRange) :
    Int → Text → Except DigitsError Int
  | value, [] => .ok value
  | value, c :: cs =>
    match digit? radix c with
    | none => .error .invalid
    | some d =>
      let next := value * radix + (if negative then -(d : Int) else d)
      if range.most < next then .error .tooLarge
      else if next < range.least then .error .tooSmall
      else readDigits radix negative range next cs

structure Literal where
  negative : Bool
  radix : Nat
  digits : Text
  deriving DecidableEq, Repr

namespace Literal

/-- Takes the mark of the radix off. -/
def radixAndDigits : Text → Nat × Text
  | '0' :: 'x' :: digits | '0' :: 'X' :: digits => (16, digits)
  | '#' :: digits => (16, digits)
  | '0' :: d :: digits => (8, d :: digits)
  | digits => (10, digits)

/-- Takes a literal apart. The sign comes before the mark of the radix and nowhere else. -/
def ofText (t : Text) : Except LiteralError Literal :=
  let (negative, unsigned) := match t with
    | '-' :: rest => (true, rest)
    | '+' :: rest => (false, rest)
    | _ => (false, t)
  let (radix, digits) := radixAndDigits unsigned
  match t, digits with
  | [], _ => .error .empty
  | _, '-' :: _ => .error .sign
  | _, '+' :: _ => .error .sign
  | _, _ => .ok { negative, radix, digits }

/-- The value of the literal, if it lies in the range. A sign alone is a character that is no
digit. -/
def value (l : Literal) (range : IntRange) : Except DigitsError Int :=
  if l.digits.isEmpty then .error (if l.negative then .invalid else .empty)
  else readDigits l.radix l.negative range 0 l.digits

def read (range : IntRange) (t : Text) : Except LiteralError Int := do
  let l ← ofText t
  (l.value range).mapError .digits

/-- Reads a 32-bit literal; offsets are of this width. -/
def read32 : Text → Except LiteralError Int := read .signed32

/-- Reads a 64-bit literal; masks are of this width. -/
def read64 : Text → Except LiteralError Int := read .signed64

/-- Reads a 64-bit literal, where one that is too large for a signed value but fits 64 bits
is the signed value of the same bits. Test values such as `0xffffffffffffffff` need it. -/
def readWrapping (t : Text) : Except LiteralError Int :=
  match read64 t with
  | .error (.digits .tooLarge) => do
    let l ← ofText t
    let value ← (l.value .unsigned64).mapError LiteralError.digits
    return IntRange.signed64.wrap value
  | result => result

end Literal

end MagicRules
