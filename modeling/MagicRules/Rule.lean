import MagicRules.Mime
import MagicRules.Offset
import MagicRules.Registry
import MagicRules.Template

/-!
# Rules

A rule is what one line of a magic file says: where to look, what type of value to read there,
how to mask and test it, and what to print. Extension lines attach more to the rule before
them. Rules of a file form trees by their levels.
-/

namespace MagicRules

/-- A level is a 32-bit word; where it is written or counted with, it is its number. -/
instance levelNumber : Coe UInt32 Nat := ⟨UInt32.toNat⟩

/-- The name of a rule whose message has no first word. -/
def unknownName : Text := "unknown".toList

structure Rule where
  name : Text
  level : UInt32
  /-- Whether the offset is relative to the end of what the rule above has matched. -/
  relative : Bool
  offset : Offset
  type : MagicType
  mask : Option Int
  isUnsigned : Bool
  /-- A rule without a test always matches. -/
  test : Option Test
  /-- Whether a blank goes between the messages of the rules before and this one. -/
  spaced : Bool
  /-- Whether the message replaces those before it. -/
  clears : Bool
  message : Option Template
  mime : Option Text
  extensions : List Text
  apple : Option Text
  deriving DecidableEq, Repr

namespace Rule

def mediaType? (r : Rule) : Option MediaType := r.mime.bind MediaType.ofText?

def writtenOffset (r : Rule) : Text := (if r.relative then ['&'] else []) ++ r.offset.written

/-- One line that tells the level, the name, the test and the message. -/
def summary (r : Rule) : Text :=
  let quoted (label : String) (t : Text) : Text := label.toList ++ '\'' :: t ++ ['\'']
  "level ".toList ++ Text.ofNat 10 r.level ++ quoted ",name " r.name
    ++ (match r.test with
      | some test => quoted ",test " test.written
      | none => [])
    ++ (match r.message with
      | some message => quoted ",format " message.source
      | none => [])

end Rule

inductive Extension where
  | mime (t : Text)
  | ext (names : List Text)
  | apple (code : Text)
  | unknown (key : Text)
  deriving DecidableEq, Repr

namespace Extension

/-- Attaches an extension to a rule. A media type and a code replace an earlier one, file name
extensions add up, and what is unknown changes nothing. -/
def apply (e : Extension) (r : Rule) : Rule :=
  match e with
  | mime t => { r with mime := some t }
  | ext names => { r with extensions := r.extensions ++ names }
  | apple code => { r with apple := some code }
  | unknown _ => r

end Extension

end MagicRules
