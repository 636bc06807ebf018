import MagicRules.Literal

/-!
# Errors

Why a line of a magic file gives no rule. Each error is a cause with the text that it is
about; the wording stands in `message`, and `causes` lists the wordings of what lies behind
it, outermost first. An error of digits is its own cause, so its wording comes twice there.
-/

namespace MagicRules

inductive FloatError where
  | empty
  | invalid
  deriving DecidableEq, Repr

/-- Why a test text has no value of its type. `kind` names the family of types whose
modifiers were read. -/
inductive TestError where
  | number (text : Text) (cause : LiteralError)
  | float (text : Text) (cause : FloatError)
  | modifier (kind : String) (flag : Char)
  | range (kind : String) (text : Text) (cause : DigitsError)
  | regex
  deriving DecidableEq, Repr

inductive LineError where
  | extensionFields
  | fieldCount
  | emptyOffset (text : Text)
  | offset (text : Text) (cause : LiteralError)
  | offsetPattern (text : Text)
  | indirectBase (text : Text) (cause : LiteralError)
  | indirectAdjustment (text : Text) (cause : LiteralError)
  | mask (text : Text) (cause : LiteralError)
  | blankType
  | unknownType (text : Text)
  | testValue (text : Text) (cause : TestError)
  deriving DecidableEq, Repr

namespace DigitsError

def message : DigitsError → String
  | empty => "cannot parse integer from empty string"
  | invalid => "invalid digit found in string"
  | tooLarge => "number too large to fit in target type"
  | tooSmall => "number too small to fit in target type"

end DigitsError

namespace LiteralError

def message : LiteralError → String
  | empty => "empty number"
  | sign => "misplaced sign"
  | digits cause => cause.message

def causes : LiteralError → List String
  | digits cause => [cause.message]
  | _ => []

end LiteralError

namespace FloatError

def message : FloatError → String
  | empty => "cannot parse float from empty string"
  | invalid => "invalid float literal"

end FloatError

namespace TestError

def message : TestError → String
  | number text _ => "invalid number `" ++ String.ofList text ++ "`"
  | float text _ => "invalid float `" ++ String.ofList text ++ "`"
  | modifier kind flag => "invalid " ++ kind ++ " modifier `" ++ flag.toString ++ "`"
  | range kind text _ => "invalid " ++ kind ++ " range `" ++ String.ofList text ++ "`"
  | regex => "invalid regex"

/-- What is wrong with a pattern is not told. -/
def causes : TestError → List String
  | number _ cause => cause.message :: cause.causes
  | float _ cause => [cause.message]
  | range _ _ cause => [cause.message]
  | modifier _ _ | regex => []

end TestError

namespace LineError

def message : LineError → String
  | extensionFields => "invalid extension line has less than 2 whitespace separated fields"
  | fieldCount => "invalid number of whitespace separated fields, must be >= 3"
  | emptyOffset text | offset text _ => "invalid offset number: " ++ String.ofList text
  | offsetPattern text => "invalid offset pattern: " ++ String.ofList text
  | indirectBase text _ => "invalid long offset number: " ++ String.ofList text
  | indirectAdjustment text _ => "invalid long add value: " ++ String.ofList text
  | mask text _ => "invalid type AND-number: " ++ String.ofList text
  | blankType => "blank type string"
  | unknownType text => "unknown magic type string: " ++ String.ofList text
  | testValue text _ => "could not convert magic test string: " ++ String.ofList text

def causes : LineError → List String
  | offset _ cause | indirectBase _ cause | indirectAdjustment _ cause | mask _ cause =>
    cause.message :: cause.causes
  | testValue _ cause => cause.message :: cause.causes
  | _ => []

end LineError

end MagicRules
