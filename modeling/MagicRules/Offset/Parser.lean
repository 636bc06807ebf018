import MagicRules.Error
import MagicRules.Offset

/-!
# Reading indirect offsets

An indirect offset is `(`, a run of number characters, an optional point, an optional type
letter, an optional sign, another run of number characters that may be empty, and `)`.
Nothing is tried twice: each part takes as much as it can. Hexadecimal digits are number
characters, so a letter that is also such a digit belongs to the number before it.
-/

namespace MagicRules.Indirect

/-- The parts of an indirect offset before any number is read. -/
structure Parts where
  base : Text
  letter : Option Char
  sign : Option Char
  add : Text
  deriving DecidableEq, Repr

def isNumberChar (c : Char) : Bool := isHexDigit c || c = 'x'

def isLetter (c : Char) : Bool := "bsilBSILm".toList.contains c

def isSign (c : Char) : Bool := c = '+' || c = '-'

def takeOne (p : Char → Bool) : Text → Option Char × Text
  | c :: cs => if p c then (some c, cs) else (none, c :: cs)
  | [] => (none, [])

namespace Parts

def ofText? : Text → Option Parts
  | '(' :: t =>
    let base := t.takeWhile isNumberChar
    let (_, t) := takeOne (· = '.') (t.dropWhile isNumberChar)
    let (letter, t) := takeOne isLetter t
    let (sign, t) := takeOne isSign t
    let add := t.takeWhile isNumberChar
    if base.isEmpty ∨ t.dropWhile isNumberChar ≠ [')'] then none
    else some { base, letter, sign, add }
  | _ => none

end Parts

/-- Size, byte order and synchsafety that a type letter stands for. -/
def letterType : Option Char → Nat × ByteOrder × Bool
  | some 'b' => (1, .little, false)
  | some 'B' => (1, .big, false)
  | some 's' => (2, .little, false)
  | some 'S' => (2, .big, false)
  | some 'i' => (4, .little, true)
  | some 'I' => (4, .big, true)
  | some 'L' => (4, .big, false)
  | some 'm' => (4, .middle, false)
  | _ => (4, .little, false)

/-- The adjustment; there is none without digits, whatever the sign. -/
def readAdd (parts : Parts) : Except LineError Int :=
  if parts.add.isEmpty then .ok 0
  else match Literal.read32 parts.add with
    | .error cause => .error (.indirectAdjustment parts.add cause)
    | .ok add => .ok (if parts.sign = some '-' then IntRange.signed32.wrap (-add) else add)

def ofText (t : Text) : Except LineError Indirect :=
  match Parts.ofText? t with
  | none => .error (.offsetPattern t)
  | some parts =>
    match Literal.read32 parts.base with
    | .error cause => .error (.indirectBase t cause)
    | .ok base => do
      let add ← readAdd parts
      let (size, order, synchsafe) := letterType parts.letter
      return { base, order, synchsafe, size, add }

end MagicRules.Indirect
