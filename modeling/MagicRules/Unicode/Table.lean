import MagicRules.Ranges
import MagicRules.Text.Digit

/-!
# Tables of character properties

Character properties are data, and are kept as text in one of two forms. A set of characters is
written as hexadecimal ranges, as in `41-5A 5F 61-7A`. A property that gives every character a
value is written as runs from character to character, each the value and how many characters
have it, as in `Cc32Zs1Po3`; the value `-` stands for none.
-/

namespace MagicRules.Unicode

/-- The range that has been read when its last code is complete. -/
def rangeRead (first last : Option Nat) : List (Nat × Nat) :=
  match first, last with
  | some a, some b => [(a, b)]
  | none, some b => [(b, b)]
  | _, none => []

/-- Reads hexadecimal ranges, of which a first code and some digits of a code have been read. -/
def readRanges (first digits : Option Nat) : Text → List (Nat × Nat)
  | [] => rangeRead first digits
  | c :: cs =>
    match digit? 16 c with
    | some d => readRanges first (some (digits.getD 0 * 16 + d)) cs
    | none =>
      if c = '-' then readRanges digits none cs
      else rangeRead first digits ++ readRanges none none cs

/-- A set that is written as hexadecimal ranges in ascending order. -/
def codes (written : String) : Ranges := readRanges none none written.toList

/-- Characters in a row that have the same value of a property. -/
structure Run where
  value : Text
  first : Nat
  last : Nat
  deriving DecidableEq, Repr

/-- The run that has been read when its length is complete; an empty one is none. -/
def runRead (value : Text) (start length : Nat) : List Run :=
  if length = 0 ∨ value = ['-'] then []
  else [{ value := value.reverse, first := start, last := start + length - 1 }]

/-- Reads runs from the character `start` on, of which the first has the value `value`, written
backwards, and the length `length` as far as it has been read. -/
def readRuns (value : Text) (start length : Nat) : Text → List Run
  | [] => runRead value start length
  | c :: cs =>
    if c = '\n' ∨ c = ' ' then readRuns value start length cs
    else match digit? 10 c with
      | some d => readRuns value start (length * 10 + d) cs
      | none =>
        if length = 0 then readRuns (c :: value) start 0 cs
        else runRead value start length ++ readRuns [c] (start + length) 0 cs

def runs (written : String) : List Run := readRuns [] 0 0 written.toList

namespace Run

def select (p : Text → Bool) (table : List Run) : Ranges :=
  Ranges.union (table.filterMap fun r => if p r.value then some (r.first, r.last) else none) []

def withValue (value : String) (table : List Run) : Ranges := select (· = value.toList) table

end Run

end MagicRules.Unicode
