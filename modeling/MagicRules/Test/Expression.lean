import MagicRules.Regex.BytePattern
import MagicRules.Regex.Parser
import MagicRules.Regex.Search
import MagicRules.Test.Modifier

/-!
# Tests of regular expressions

The test of the type `regex`: a pattern that must be well formed, with the modifiers of the
type. The modifiers are read first, so a fault in them is the one that is reported.
-/

namespace MagicRules

structure RegexFlags where
  ignoreCase : Bool := false
  /-- What follows is taken relative to the start of the match. -/
  startOffset : Bool := false
  /-- The count is one of lines. -/
  lines : Bool := false
  deriving DecidableEq, Repr

namespace RegexFlags

def set? (f : RegexFlags) : Char → Option RegexFlags
  | 'c' => some { f with ignoreCase := true }
  | 's' => some { f with startOffset := true }
  | 'l' => some { f with lines := true }
  | _ => none

def letters (f : RegexFlags) : List Char :=
  [(f.ignoreCase, 'c'), (f.startOffset, 's'), (f.lines, 'l')].filterMap
    fun (isSet, letter) => if isSet then some letter else none

end RegexFlags

/-- The modifiers of `regex`: its flags, and how many bytes or lines it goes through. -/
structure RegexModifiers where
  flags : RegexFlags := {}
  count : Option Nat := none
  deriving DecidableEq, Repr

namespace RegexModifiers

def setFlag (m : RegexModifiers) (letter : Char) : Except TestError RegexModifiers :=
  match m.flags.set? letter with
  | some flags => .ok { m with flags }
  | none => .error (.modifier "regex" letter)

def addGroup (m : RegexModifiers) (g : ModifierGroup) : Except TestError RegexModifiers := do
  let count ← g.range "regex"
  g.letters.foldlM setFlag { m with count := count <|> m.count }

def read (typeText : Text) : Except TestError RegexModifiers :=
  (ModifierGroup.all typeText).foldlM addGroup {}

end RegexModifiers

structure RegexTest where
  source : Text
  modifiers : RegexModifiers
  node : Regex.Node
  deriving DecidableEq, Repr

namespace RegexTest

def read (typeText t : Text) : Except TestError RegexTest := do
  let modifiers ← RegexModifiers.read typeText
  match Regex.Node.ofText? modifiers.flags.ignoreCase (Regex.bytePattern t) with
  | some node => return { source := t, modifiers, node }
  | none => throw .regex

/-- The pattern in the form in which it is read. -/
def pattern (test : RegexTest) : Text := Regex.bytePattern test.source

def program (test : RegexTest) : Regex.Program := .ofNode test.node

def find? (test : RegexTest) (content : Bytes) : Option (Nat × Nat) := test.program.find? content

def written (test : RegexTest) : Text := test.source

end RegexTest

end MagicRules
