import MagicRules.Test.Modifier
import MagicRules.Text.Latin

/-!
# Tests of literal bytes

The tests of the string types: a pattern of bytes, with the modifiers of the type. Letters may
come in any order and number, and of several numbers or length letters the last one counts.
-/

namespace MagicRules

structure StringFlags where
  /-- Blanks of the pattern match one or more blanks. -/
  compactBlanks : Bool := false
  /-- Blanks of the pattern need not be there. -/
  optionalBlanks : Bool := false
  /-- Lower case in the pattern matches both cases. -/
  ignoreLower : Bool := false
  /-- Upper case in the pattern matches both cases. -/
  ignoreUpper : Bool := false
  text : Bool := false
  binary : Bool := false
  trim : Bool := false
  fullWord : Bool := false
  deriving DecidableEq, Repr

namespace StringFlags

def set? (f : StringFlags) : Char → Option StringFlags
  | 'W' => some { f with compactBlanks := true }
  | 'w' => some { f with optionalBlanks := true }
  | 'c' => some { f with ignoreLower := true }
  | 'C' => some { f with ignoreUpper := true }
  | 't' => some { f with text := true }
  | 'b' => some { f with binary := true }
  | 'T' => some { f with trim := true }
  | 'f' => some { f with fullWord := true }
  | _ => none

/-- The letters of the flags that are set, in a fixed order. -/
def letters (f : StringFlags) : List Char :=
  [(f.compactBlanks, 'W'), (f.optionalBlanks, 'w'), (f.ignoreLower, 'c'), (f.ignoreUpper, 'C'),
   (f.text, 't'), (f.binary, 'b'), (f.trim, 'T'), (f.fullWord, 'f')].filterMap
    fun (isSet, letter) => if isSet then some letter else none

end StringFlags

/-- Width and byte order of the length in front of a `pstring`. -/
inductive LengthField where
  | byte
  | bigShort
  | littleShort
  | bigLong
  | littleLong
  deriving DecidableEq, Repr

namespace LengthField

def ofLetter? : Char → Option LengthField
  | 'B' => some byte
  | 'H' => some bigShort
  | 'h' => some littleShort
  | 'L' => some bigLong
  | 'l' => some littleLong
  | _ => none

def letter : LengthField → Char
  | byte => 'B'
  | bigShort => 'H'
  | littleShort => 'h'
  | bigLong => 'L'
  | littleLong => 'l'

end LengthField

structure BytesTest where
  pattern : Bytes
  flags : StringFlags := {}
  /-- How many bytes `search` goes through. -/
  range : Option Nat := none
  length : LengthField := .byte
  /-- Whether the length in front of a `pstring` counts itself. -/
  lengthCountsItself : Bool := false
  deriving DecidableEq, Repr

namespace BytesTest

def ofText (t : Text) : BytesTest := { pattern := t.toBytes }

def setFlag (kind : String) (test : BytesTest) (letter : Char) : Except TestError BytesTest :=
  match test.flags.set? letter with
  | some flags => .ok { test with flags }
  | none => .error (.modifier kind letter)

/-- Applies a group of modifiers of `string`, or of `search`, which alone takes a number. A
number that does not fit is reported even where none may stand. -/
def addGroup (search : Bool) (kind : String) (typeText : Text) (test : BytesTest)
    (g : ModifierGroup) : Except TestError BytesTest := do
  let range ← g.range kind
  if range.isSome ∧ !search then throw (.modifier kind (ModifierGroup.misplaced typeText))
  g.letters.foldlM (setFlag kind) { test with range := range <|> test.range }

def readString (typeText t : Text) : Except TestError BytesTest :=
  (ModifierGroup.all typeText).foldlM (addGroup false "string" typeText) (ofText t)

def readSearch (typeText t : Text) : Except TestError BytesTest :=
  (ModifierGroup.all typeText).foldlM (addGroup true "search" typeText) (ofText t)

def setLength (test : BytesTest) (letter : Char) : Except TestError BytesTest :=
  match LengthField.ofLetter? letter with
  | some length => .ok { test with length }
  | none =>
    if letter = 'J' then .ok { test with lengthCountsItself := true }
    else .error (.modifier "pstring" letter)

/-- Applies a group of modifiers of `pstring`, which takes no number. -/
def addLengthGroup (typeText : Text) (test : BytesTest) (g : ModifierGroup) :
    Except TestError BytesTest :=
  if g.digits.isEmpty then g.letters.foldlM setLength test
  else .error (.modifier "pstring" (ModifierGroup.misplaced typeText))

def readCounted (typeText t : Text) : Except TestError BytesTest :=
  (ModifierGroup.all typeText).foldlM (addLengthGroup typeText) (ofText t)

def written (test : BytesTest) : Text := Text.ofBytes test.pattern

end BytesTest

end MagicRules
