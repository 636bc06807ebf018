import MagicRules.Binary64
import MagicRules.Error
import MagicRules.Text.Digit

/-!
# Reading binary64 numbers

A number is an optional sign and then digits with an optional point among them or at either
end, and an optional decimal exponent; or, in any case of letters, `inf`, `infinity` or `nan`.
It is read as the binary64 number nearest to its exact value.
-/

namespace MagicRules.Binary64

def decimalValue (digits : Text) : Nat :=
  digits.foldl (fun value c => value * 10 + (digit? 10 c).getD 0) 0

/-- The value of the digits of an exponent. Past five digits it is far out of range either
way, and no more of them are read. -/
def exponentValue (digits : Text) : Nat :=
  digits.foldl (fun value c =>
    if value < 65536 then value * 10 + (digit? 10 c).getD 0 else value) 0

/-- Reads what may follow the digits of a number: nothing, or an exponent. -/
def readExponent? : Text → Option Int
  | [] => some 0
  | e :: t =>
    if e ≠ 'e' ∧ e ≠ 'E' then none
    else
      let (negative, digits) := match t with
        | '-' :: digits => (true, digits)
        | '+' :: digits => (false, digits)
        | _ => (false, t)
      if digits.isEmpty ∨ digits.any (!isDecimalDigit ·) then none
      else some (if negative then -(exponentValue digits : Int) else exponentValue digits)

/-- The number nearest to `digits · 10 ^ exponent`, for digits without leading zeros. Far
outside the range of the numbers the power of ten is not worked out. -/
def ofDecimal (negative : Bool) (digits : Text) (exponent : Int) : Binary64 :=
  if digits.isEmpty ∨ exponent + digits.length < -330 then ofSigned negative 0
  else if 310 < exponent + digits.length then infinity negative
  else
    let (num, den) := scaled (decimalValue digits) 10 exponent
    ofRatio negative num den

def readMagnitude? (negative : Bool) (t : Text) : Option Binary64 :=
  let whole := t.takeWhile isDecimalDigit
  let (places, rest) := match t.dropWhile isDecimalDigit with
    | '.' :: rest => (rest.takeWhile isDecimalDigit, rest.dropWhile isDecimalDigit)
    | rest => ([], rest)
  if whole.isEmpty ∧ places.isEmpty then none
  else (readExponent? rest).map fun exponent =>
    ofDecimal negative ((whole ++ places).dropWhile (· = '0')) (exponent - places.length)

/-- Reads the names of the values that have no digits. -/
def readName? (negative : Bool) (t : Text) : Option Binary64 :=
  let name := String.ofList (t.map Char.toLower)
  if name = "inf" ∨ name = "infinity" then some (infinity negative)
  else if name = "nan" then some (notANumber negative)
  else none

def ofText (t : Text) : Except FloatError Binary64 :=
  let (negative, unsigned) := match t with
    | '-' :: rest => (true, rest)
    | '+' :: rest => (false, rest)
    | _ => (false, t)
  match t, readMagnitude? negative unsigned <|> readName? negative unsigned with
  | [], _ => .error .empty
  | _, none => .error .invalid
  | _, some x => .ok x

end MagicRules.Binary64
