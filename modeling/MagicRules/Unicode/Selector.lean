import MagicRules.Unicode.Age
import MagicRules.Unicode.Derived
import MagicRules.Unicode.GraphemeBreak
import MagicRules.Unicode.Script
import MagicRules.Unicode.SentenceBreak

/-!
# Sets of characters by name

A set of characters is asked for by a name alone, which is that of a property, of a general
category or of a script, or by the name of a property and one of its values. Names are
compared loosely.
-/

namespace MagicRules.Unicode

/-- The characters with a property that a character has or has not. -/
def property? (name : String) : Option Ranges :=
  match name with
  | "ahex" | "asciihexdigit" => some (codes "30-39 41-46 61-66")
  | "alpha" | "alphabetic" => some alphabetic
  | "bidic" | "bidicontrol" => some (codes "61C 200E-200F 202A-202E 2066-2069")
  | "cased" => some cased
  | "ci" | "caseignorable" => some caseIgnorable
  | "cwcf" | "changeswhencasefolded" => some changesWhenCasefolded
  | "cwcm" | "changeswhencasemapped" => some changesWhenCasemapped
  | "cwl" | "changeswhenlowercased" => some changesWhenLowercased
  | "cwt" | "changeswhentitlecased" => some changesWhenTitlecased
  | "cwu" | "changeswhenuppercased" => some changesWhenUppercased
  | "dash" => some dash
  | "dep" | "deprecated" => some deprecated
  | "di" | "defaultignorablecodepoint" => some defaultIgnorable
  | "dia" | "diacritic" => some diacritic
  | "ebase" | "emojimodifierbase" => some emojiModifierBase
  | "ecomp" | "emojicomponent" => some emojiComponent
  | "emod" | "emojimodifier" => some (codes "1F3FB-1F3FF")
  | "emoji" => some emoji
  | "epres" | "emojipresentation" => some emojiPresentation
  | "ext" | "extender" => some extender
  | "extpict" | "extendedpictographic" => some extendedPictographic
  | "grbase" | "graphemebase" => some graphemeBase
  | "grext" | "graphemeextend" => some graphemeExtend
  | "grlink" | "graphemelink" => some graphemeLink
  | "hex" | "hexdigit" => some (codes "30-39 41-46 61-66 FF10-FF19 FF21-FF26 FF41-FF46")
  | "hyphen" => some hyphen
  | "idc" | "idcontinue" => some idContinue
  | "idcompatmathcontinue" => some (codes
    "B2-B3 B9 2070 2074-207E 2080-208E 2202 2207 221E 1D6C1 1D6DB 1D6FB 1D715 1D735 1D74F 1D76F
    1D789 1D7A9 1D7C3")
  | "idcompatmathstart" => some (codes
    "2202 2207 221E 1D6C1 1D6DB 1D6FB 1D715 1D735 1D74F 1D76F 1D789 1D7A9 1D7C3")
  | "ideo" | "ideographic" => some ideographic
  | "ids" | "idstart" => some idStart
  | "idsb" | "idsbinaryoperator" => some (codes "2FF0-2FF1 2FF4-2FFD 31EF")
  | "idst" | "idstrinaryoperator" => some (codes "2FF2-2FF3")
  | "idsu" | "idsunaryoperator" => some (codes "2FFE-2FFF")
  | "joinc" | "joincontrol" => some joinControl
  | "loe" | "logicalorderexception" => some logicalOrderException
  | "lower" | "lowercase" => some lowercase
  | "math" => some math
  | "mcm" | "modifiercombiningmark" =>
    some (codes "654-655 658 6DC 6E3 6E7-6E8 8CA-8CB 8CD-8CF 8D3 8F3")
  | "nchar" | "noncharactercodepoint" => some noncharacter
  | "oalpha" | "otheralphabetic" => some otherAlphabetic
  | "odi" | "otherdefaultignorablecodepoint" => some otherDefaultIgnorable
  | "ogrext" | "othergraphemeextend" => some otherGraphemeExtend
  | "oidc" | "otheridcontinue" => some otherIdContinue
  | "oids" | "otheridstart" => some otherIdStart
  | "olower" | "otherlowercase" => some otherLowercase
  | "omath" | "othermath" => some otherMath
  | "oupper" | "otheruppercase" => some otherUppercase
  | "patsyn" | "patternsyntax" => some patternSyntax
  | "patws" | "patternwhitespace" => some patternWhiteSpace
  | "pcm" | "prependedconcatenationmark" => some prependedConcatenationMark
  | "qmark" | "quotationmark" => some quotationMark
  | "radical" => some (codes "2E80-2E99 2E9B-2EF3 2F00-2FD5")
  | "ri" | "regionalindicator" => some (codes "1F1E6-1F1FF")
  | "sd" | "softdotted" => some softDotted
  | "sterm" | "sentenceterminal" => some sentenceTerminal
  | "term" | "terminalpunctuation" => some terminalPunctuation
  | "uideo" | "unifiedideograph" => some unifiedIdeograph
  | "upper" | "uppercase" => some uppercase
  | "vs" | "variationselector" => some variationSelector
  | "wspace" | "whitespace" | "space" => some whiteSpace
  | "xidc" | "xidcontinue" => some xidContinue
  | "xids" | "xidstart" => some xidStart
  | _ => none

inductive Selector where
  | named (name : Text)
  | valued (property value : Text)
  deriving DecidableEq, Repr

namespace Selector

/-- The characters that a name stands for. A property goes before a category, and a category
before a script. -/
def named? (name : String) : Option Ranges :=
  property? name <|> categoryByName? name <|> (script? name).map script

def valued? (property value : String) : Option Ranges :=
  match property with
  | "gc" | "generalcategory" => categoryByName? value
  | "sc" | "script" => (script? value).map script
  | "scx" | "scriptextensions" => (script? value).map usedWithScript
  | "age" => age? value
  | "gcb" | "graphemeclusterbreak" => graphemeBreak? value
  | "wb" | "wordbreak" => wordBreak? value
  | "sb" | "sentencebreak" => sentenceBreak? value
  | _ => none

def ranges? : Selector → Option Ranges
  | named name => named? (normalName name)
  | valued property value => valued? (normalName property) (normalName value)

end Selector

end MagicRules.Unicode
