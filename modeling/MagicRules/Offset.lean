import MagicRules.ByteOrder
import MagicRules.IntRange
import MagicRules.Text.Digit

/-!
# Offsets

A rule looks at a fixed place of the content, or at a place whose offset is itself stored in
the content. The second is written `(x.ty±z)`: at `x` stands a number of the type that the
letter `t` names, and `z` is added to it.
-/

namespace MagicRules

/-- An offset that is stored in the content at `base`, in `size` bytes. -/
structure Indirect where
  base : Int
  order : ByteOrder
  synchsafe : Bool
  size : Nat
  add : Int
  deriving DecidableEq, Repr

inductive Offset where
  | direct (offset : Int)
  | indirect (pointer : Indirect)
  deriving DecidableEq, Repr

namespace Indirect

/-- The bytes of `content` that hold the offset, if all of them are there. -/
def stored? (p : Indirect) (content : Bytes) : Option Bytes :=
  if 0 ≤ p.base ∧ p.base.toNat + p.size ≤ content.length then
    some ((content.drop p.base.toNat).take p.size)
  else none

/-- The offset that `content` holds, adjusted. Arithmetic is on 64-bit words. -/
def resolve? (p : Indirect) (content : Bytes) : Option Int := do
  let bytes ← p.stored? content
  let raw ← if p.synchsafe then p.order.readSynchsafe? bytes else p.order.read? bytes
  return IntRange.signed64.wrap (raw + p.add)

/-- The letter of the type of the stored number. One and two bytes tell only big from
little, and a letter for synchsafe numbers exists only at the full size. -/
def letter (p : Indirect) : Char :=
  match p.size, p.order, p.synchsafe with
  | 1, .big, _ => 'B'
  | 1, _, _ => 'b'
  | 2, .big, _ => 'S'
  | 2, _, _ => 's'
  | _, .big, true => 'I'
  | _, _, true => 'i'
  | _, .big, false => 'L'
  | _, .middle, false => 'm'
  | _, .little, false => 'l'

/-- The offset as it is written in a rule: base in hexadecimal unless negative, adjustment
in decimal with its sign and left out if zero. -/
def written (p : Indirect) : Text :=
  let base := if p.base < 0 then Text.ofInt p.base else '0' :: 'x' :: Text.ofNat 16 p.base.natAbs
  let add :=
    if p.add = 0 then [] else if p.add < 0 then Text.ofInt p.add else '+' :: Text.ofInt p.add
  '(' :: base ++ ['.', p.letter] ++ add ++ [')']

end Indirect

namespace Offset

def written : Offset → Text
  | .direct offset => Text.ofInt offset
  | .indirect pointer => pointer.written

end Offset

end MagicRules
