import MagicRules.Binary64.Decimal
import MagicRules.Binary64.Reader
import MagicRules.Offset
import MagicRules.Template
import MagicRules.Text.Blank

/-!
# Rendering templates

A directive asks the value for what it needs: a whole number, a floating-point number or a
text. Values of the other kinds are taken for it as well as they can be, and a text that is
no number counts as zero.

A rendered value has a sign, a mark of its radix and a body. Padding with zeros goes between
the mark and the body, padding with blanks around all three.
-/

namespace MagicRules

/-- What a rule has found. -/
inductive Value where
  | int (n : Int)
  | float (x : Binary64)
  | text (t : Text)
  deriving DecidableEq, Repr

namespace Value

/-- Reads an optional sign and decimal digits as a signed 64-bit number. -/
def readInt64? (t : Text) : Option Int :=
  let (negative, digits) := match t with
    | '-' :: rest => (true, rest)
    | '+' :: rest => (false, rest)
    | _ => (false, t)
  if digits.isEmpty then none
  else (readDigits 10 negative .signed64 0 digits).toOption

def toInt : Value → Int
  | int n => n
  | float x => x.toInt64
  | text t => (readInt64? t.trim).getD 0

def toFloat : Value → Binary64
  | int n => .ofInt n
  | float x => x
  | text t => (Binary64.ofText t.trim).toOption.getD (.ofSigned false 0)

def toText : Value → Text
  | int n => Text.ofInt n
  | float x => x.written
  | text t => t

/-- The first character of a text, and of a number the character of its low byte. -/
def toChar : Value → Char
  | text t => t.head?.getD '\x00'
  | v => Char.ofNat (v.toInt.emod 256).toNat

end Value

namespace Directive

/-- A value in its parts, before padding. Zeros may pad only what is numeric. -/
structure Parts where
  sign : Text := []
  mark : Text := []
  body : Text
  numeric : Bool := true
  deriving DecidableEq, Repr

/-- A negative number has its sign in any case; for others the flags decide. -/
def sign (d : Directive) (negative : Bool) : Text :=
  if negative then ['-'] else if d.plus then ['+'] else if d.space then [' '] else []

/-- Puts zeros in front up to the precision. -/
def extend (d : Directive) (digits : Text) : Text :=
  List.replicate (d.precision.getD 0 - digits.length) '0' ++ digits

def upperIf (upper : Bool) (t : Text) : Text := if upper then t.map Char.toUpper else t

/-- The magnitude as a 64-bit word without sign, in a radix. -/
def unsignedParts (d : Directive) (radix : Nat) (upper : Bool) (mark : Text) (n : Int) : Parts :=
  let word := (IntRange.unsigned64.wrap n).toNat
  { mark := if d.alternate ∧ word ≠ 0 then mark else []
    body := d.extend (upperIf upper (Text.ofNat radix word)) }

/-- A magnitude with one digit before the point and an exponent of at least two digits. -/
def scientificText (upper : Bool) (places : Nat) (x : Binary64) : Text :=
  let (digits, e) := x.significant (places + 1)
  let mantissa := if places = 0 then digits else digits.take 1 ++ '.' :: digits.drop 1
  let power := Text.ofNat 10 e.natAbs
  mantissa ++ (if upper then 'E' else 'e') :: (if e < 0 then '-' else '+') ::
    List.replicate (2 - power.length) '0' ++ power

/-- Takes trailing zeros after the point away, and the point after them. An exponent stays. -/
def stripZeros (t : Text) : Text :=
  if !t.contains '.' then t
  else
    let isExponent (c : Char) : Bool := c = 'e' || c = 'E'
    let mantissa := t.takeWhile (!isExponent ·)
    let stripped := Text.dropWhileEnd (· = '.') (Text.dropWhileEnd (· = '0') mantissa)
    stripped ++ t.dropWhile (!isExponent ·)

/-- The shorter of the two forms: with an exponent if it is small, or not below the precision.
The exponent is that of the rounded value. -/
def generalText (d : Directive) (upper : Bool) (x : Binary64) : Text :=
  let digits := max 1 (d.precision.getD 6)
  let e := (x.significant digits).2
  let t :=
    if e < -4 ∨ (digits : Int) ≤ e then scientificText upper (digits - 1) x
    else x.fixed (digits - 1 - e).toNat
  if d.alternate then t else stripZeros t

/-- The body of a floating-point value; without a precision there are six places. -/
def floatParts (d : Directive) (upper : Bool) (finite : Binary64 → Text) (x : Binary64) : Parts :=
  { sign := d.sign (x.negative && !x.isZero)
    body :=
      if x.isNaN then upperIf upper "nan".toList
      else if !x.isFinite then upperIf upper "inf".toList
      else finite x.abs }

def parts (d : Directive) (v : Value) : Parts :=
  match d.conversion with
  | .decimal =>
    { sign := d.sign (v.toInt < 0), body := d.extend (Text.ofNat 10 v.toInt.natAbs) }
  | .unsigned => d.unsignedParts 10 false [] v.toInt
  | .hexadecimal upper => d.unsignedParts 16 upper (upperIf upper ['0', 'x']) v.toInt
  | .octal => d.unsignedParts 8 false ['0'] v.toInt
  | .character => { body := [v.toChar], numeric := false }
  | .text =>
    { body := match d.precision with
        | some n => v.toText.take n
        | none => v.toText
      numeric := false }
  | .fixed upper => d.floatParts upper (·.fixed (d.precision.getD 6)) v.toFloat
  | .scientific upper =>
    d.floatParts upper (scientificText upper (d.precision.getD 6)) v.toFloat
  | .general upper => d.floatParts upper (d.generalText upper) v.toFloat

def isWhole (d : Directive) : Bool :=
  match d.conversion with
  | .decimal | .unsigned | .hexadecimal _ | .octal => true
  | _ => false

/-- Pads to the width, on the right, with zeros in front of the body, or on the left. A
precision of a whole number has already said how many zeros it wants. -/
def pad (d : Directive) (p : Parts) : Text :=
  let length := p.sign.length + p.mark.length + p.body.length
  let missing := d.width.getD 0 - length
  if d.left then p.sign ++ p.mark ++ p.body ++ List.replicate missing ' '
  else if d.zero ∧ p.numeric ∧ (d.precision = none ∨ !d.isWhole) then
    p.sign ++ p.mark ++ List.replicate missing '0' ++ p.body
  else List.replicate missing ' ' ++ p.sign ++ p.mark ++ p.body

def render (d : Directive) (v : Value) : Text := d.pad (d.parts v)

end Directive

namespace Piece

def render (v : Value) : Piece → Text
  | char c => [c]
  | directive d => d.render v

end Piece

namespace Template

def render (t : Template) (v : Value) : Text := t.pieces.flatMap (Piece.render v)

end Template

end MagicRules
