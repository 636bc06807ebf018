import MagicRules.Error
import MagicRules.Field
import MagicRules.Offset.Parser
import MagicRules.Rule

/-!
# Lines of a magic file

A line that begins with `!:` is an extension line. Any other line is a rule, in at most four
fields: level and offset, type and mask, test, and message.

    0      string         %PDF-   PDF document
    !:mime application/pdf
    >5     byte           x       \b, version %c
    >>&2   ubelong&0xff   >0x7f   \b.%d

The fields are read in this order, so the first fault from the left is the one reported.
-/

namespace MagicRules

inductive Line where
  | rule (r : Rule)
  | extension (e : Extension)
  deriving DecidableEq, Repr

namespace Line

def isExtension : Text → Bool
  | '!' :: ':' :: _ => true
  | _ => false

/-- Reads an extension line. Its key is the first field, marker included. -/
def readExtension (line : Text) : Except LineError Extension :=
  match Field.split line 3 with
  | key :: value :: _ =>
    if key = "!:mime".toList then .ok (.mime value)
    else if key = "!:ext".toList then .ok (.ext ((value.splitAt '/').filter (!·.isEmpty)))
    else if key = "!:apple".toList then .ok (.apple value)
    else .ok (.unknown key)
  | _ => .error .extensionFields

/-- Reads an offset, which an opening parenthesis makes an indirect one. -/
def readOffset (t : Text) : Except LineError Offset :=
  match t with
  | [] => .error (.emptyOffset [])
  | '(' :: _ => (Indirect.ofText t).map .indirect
  | _ =>
    match Literal.read32 t with
    | .ok offset => .ok (.direct offset)
    | .error cause => .error (.offset t cause)

/-- Reads level, relativity and offset. The level counts the characters up to the last marker
`>` of the field, which is itself among them; the count is one of 32 bits. -/
def readPlace (field : Text) : Except LineError (UInt32 × Bool × Offset) := do
  let (level, t) := match field.cutAtLast? '>' with
    | some (before, after) => (before.length.toUInt32 + 1, after)
    | none => (0, field)
  let (relative, t) := match t with
    | '&' :: rest => (true, rest)
    | _ => (false, t)
  return (level, relative, ← readOffset t)

/-- Reads the text of the type and the mask, which stands behind the first `&`. A mask is read
before the text in front of it is looked at. -/
def readMask (field : Text) : Except LineError (Text × Option Int) := do
  let (typeText, mask) ← match field.cutAt? '&' with
    | some (typeText, mask) =>
      match Literal.read64 mask with
      | .ok value => pure (typeText, some value)
      | .error cause => throw (.mask mask cause)
    | none => pure (field, none)
  if typeText.isEmpty then throw .blankType
  return (typeText, mask)

/-- Finds the type of a type text. What is no name as a whole may be one after the mark `u` of
an unsigned type, or in front of its modifiers, but not both; the mark goes first. -/
def resolveType (registry : Registry) (typeText : Text) : Except LineError (MagicType × Bool) :=
  let found := match registry.resolve? typeText with
    | some type => some (type, false)
    | none =>
      match typeText with
      | 'u' :: name => (registry.resolve? name).map (·, true)
      | _ =>
        match typeText.cutAt? '/' with
        | some (name, _) =>
          if name.isEmpty then none else (registry.resolve? name).map (·, false)
        | none => none
  match found with
  | some result => .ok result
  | none => .error (.unknownType typeText)

/-- Reads the test; `x` alone is none. -/
def readTest (type : MagicType) (typeText t : Text) : Except LineError (Option Test) :=
  if t = ['x'] then .ok none
  else match type.kind.readTest typeText t with
    | .ok test => .ok (some test)
    | .error cause => .error (.testValue t cause)

/-- The first word of a message, control characters around the message not counted. -/
def nameOf (message : Text) : Text :=
  let isLow (c : Char) : Bool := c ≤ ' '
  match Text.dropWhileEnd isLow (message.dropWhile isLow) with
  | [] => unknownName
  | trimmed => trimmed.takeWhile fun c => c != ' ' && c != '\t'

/-- Gives a rule its message. A leading backspace takes the blank in front of it away, and a
leading carriage return has it start over. -/
def withMessage (r : Rule) (field : Text) : Rule :=
  match field with
  | '\x08' :: t => { r with spaced := false, name := nameOf t, message := some ⟨t⟩ }
  | '\r' :: t => { r with clears := true, name := nameOf t, message := some ⟨t⟩ }
  | t => { r with name := nameOf t, message := some ⟨t⟩ }

def readRule (registry : Registry) (place typeField testField : Text) (message : Option Text) :
    Except LineError Rule := do
  let (level, relative, offset) ← readPlace place
  let (typeText, mask) ← readMask typeField
  let (type, isUnsigned) ← resolveType registry typeText
  let test ← readTest type typeText testField
  let r : Rule :=
    { name := unknownName, level, relative, offset, type, mask, isUnsigned, test
      spaced := true, clears := false, message := none
      mime := none, extensions := [], apple := none }
  return message.elim r (withMessage r)

def read (registry : Registry) (line : Text) : Except LineError Line :=
  if isExtension line then (readExtension line).map .extension
  else match Field.split line 4 with
    | place :: type :: test :: message =>
      (readRule registry place type test message.head?).map .rule
    | _ => .error .fieldCount

end Line

/-- What a line comes to when the rule before it is at hand. -/
inductive Reading where
  /-- A new rule. -/
  | rule (r : Rule)
  /-- An extension line, and the rule before it with the extension. -/
  | attached (r : Rule)
  /-- An extension line without a rule before it. -/
  | ignored
  | failed (cause : LineError)
  deriving DecidableEq, Repr

namespace Reading

/-- Reads a line after the rule `previous`. An extension line without a rule before it is not
even looked at. -/
def ofLine (registry : Registry) (previous : Option Rule) (line : Text) : Reading :=
  match previous, Line.isExtension line with
  | none, true => ignored
  | _, _ =>
    match Line.read registry line, previous with
    | .ok (.rule r), _ => rule r
    | .ok (.extension e), some r => attached (e.apply r)
    | .ok (.extension _), none => ignored
    | .error cause, _ => failed cause

def next (previous : Option Rule) : Reading → Option Rule
  | rule r | attached r => some r
  | ignored | failed _ => previous

end Reading

end MagicRules
