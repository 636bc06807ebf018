import MagicRules.Ranges
import MagicRules.Unicode.Folding

/-!
# Alphabets

A class of a pattern is a set of bytes or a set of characters. What is not in a class, and which
letters differ in case only, depends on that.
-/

namespace MagicRules.Regex

inductive Alphabet where
  | bytes
  | scalars
  deriving DecidableEq, Repr

def code (c : Char) : Nat × Nat := (c.toNat, c.toNat)

def codes (first last : Char) : Nat × Nat := (first.toNat, last.toNat)

namespace Alphabet

/-- All codes. Surrogates are no characters. -/
def all : Alphabet → Ranges
  | bytes => [(0, 0xff)]
  | scalars => [(0, 0xd7ff), (0xe000, 0x10ffff)]

def compl (alphabet : Alphabet) (s : Ranges) : Ranges := alphabet.all.diff s

/-- The set closed under change of case. Of bytes only the letters of ASCII have a case. -/
def fold (alphabet : Alphabet) (s : Ranges) : Ranges :=
  match alphabet with
  | bytes =>
    let shifted (letters : Nat × Nat) (shift : Nat → Nat) : Ranges :=
      (s.inter [letters]).map fun (a, b) => (shift a, shift b)
    (s.union (shifted (codes 'A' 'Z') (· + 32))).union (shifted (codes 'a' 'z') (· - 32))
  | scalars => Unicode.caseClosure s

end Alphabet

end MagicRules.Regex
