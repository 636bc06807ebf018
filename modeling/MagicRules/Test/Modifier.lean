import MagicRules.Error

/-!
# Modifiers of types

A type text such as `search/c/256` is a name and groups of modifiers. A group is a run of
decimal digits, which may be empty, and letters.
-/

namespace MagicRules

structure ModifierGroup where
  digits : Text
  letters : Text
  deriving DecidableEq, Repr

namespace ModifierGroup

def ofText (t : Text) : ModifierGroup :=
  { digits := t.takeWhile isDecimalDigit, letters := t.dropWhile isDecimalDigit }

/-- The groups of a type text, which is cut at the slashes; its name is no group. -/
def all (typeText : Text) : List ModifierGroup := ((typeText.splitAt '/').drop 1).map ofText

/-- The number of a group, if it has one. It has 64 bits. -/
def range (kind : String) (g : ModifierGroup) : Except TestError (Option Nat) :=
  if g.digits.isEmpty then .ok none
  else match readDigits 10 false .unsigned64 0 g.digits with
    | .ok n => .ok (some n.toNat)
    | .error cause => .error (.range kind g.digits cause)

/-- The character that stands for a misplaced number in an error: the first one after the
first slash of the type text, or the slash if nothing is there. -/
def misplaced (typeText : Text) : Char :=
  (((typeText.splitAt '/').drop 1).head?.bind List.head?).getD '/'

end ModifierGroup

end MagicRules
