import MagicRules.ByteOrder
import MagicRules.Test.Bytes
import MagicRules.Test.Expression
import MagicRules.Test.Number

/-!
# Types and tests

A magic type has a name and a kind. The kind says what is read from the content and how the
test text of a rule is taken: as a number, as bytes, as a regular expression, or as it stands.
-/

namespace MagicRules

inductive Kind where
  | integer (size : Nat) (order : ByteOrder)
  | synchsafe (order : ByteOrder)
  | date (size : Nat) (order : ByteOrder) (localTime : Bool)
  | float (size : Nat) (order : ByteOrder)
  | string
  | pstring
  | search
  | string16 (order : ByteOrder)
  | regex
  | default
  | clear
  | name
  | use
  | indirect
  | offset
  | der
  | guid
  deriving DecidableEq, Repr

structure MagicType where
  name : Text
  kind : Kind
  deriving DecidableEq, Repr

/-- A test text with the meaning that its type gives it. -/
inductive Test where
  | integer (test : IntegerTest)
  | float (test : FloatTest)
  | bytes (test : BytesTest)
  | regex (test : RegexTest)
  | text (t : Text)
  deriving DecidableEq, Repr

namespace Test

def written : Test → Text
  | integer test => test.written
  | float test => test.written
  | bytes test => test.written
  | regex test => test.written
  | text t => t

end Test

namespace Kind

/-- Reads a test text. `typeText` is the type field of the rule with its modifiers and without
its mask. -/
def readTest (k : Kind) (typeText t : Text) : Except TestError Test :=
  match k with
  | integer _ _ | synchsafe _ | date _ _ _ => (IntegerTest.read t).map .integer
  | float _ _ => (FloatTest.read t).map .float
  | string => (BytesTest.readString typeText t).map .bytes
  | search => (BytesTest.readSearch typeText t).map .bytes
  | pstring => (BytesTest.readCounted typeText t).map .bytes
  | string16 _ => .ok (.bytes (BytesTest.ofText t))
  | regex => (RegexTest.read typeText t).map .regex
  | default | clear | name | use | indirect | offset | der | guid => .ok (.text t)

end Kind

end MagicRules
