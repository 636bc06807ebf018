import MagicRules.Unicode.Category
import MagicRules.Unicode.Property
import MagicRules.Unicode.WordBreak

/-!
# Derived properties

Sets of characters that follow by rule from the general categories and from the properties by
list.
-/

namespace MagicRules.Unicode

/-! ### Letters and case -/

def lowercase : Ranges := (category ["Ll"]).union otherLowercase

def uppercase : Ranges := (category ["Lu"]).union otherUppercase

def titlecase : Ranges := category ["Lt"]

def cased : Ranges := (lowercase.union uppercase).union titlecase

def alphabetic : Ranges :=
  (category ["Lu", "Ll", "Lt", "Lm", "Lo", "Nl"]).union otherAlphabetic

/-- Characters that do not count when the letters around them are looked at: marks, and
punctuation within words. -/
def caseIgnorable : Ranges :=
  (category ["Mn", "Me", "Cf", "Lm", "Sk"]).union
    (Run.select (fun value => [['S', 'Q'], ['M', 'B'], ['M', 'L']].contains value) wordBreakRuns)

/-- Characters that are written otherwise in small letters. -/
def changesWhenLowercased : Ranges := (uppercase.union titlecase).diff uppercaseAlone

/-- Characters that are written otherwise in capital letters. Title letters are among them, and
so are those of Greek that carry a small iota beside them. -/
def changesWhenUppercased : Ranges := (lowercase.diff lowercaseAlone).union titlecase

/-- Characters that are written otherwise as the first letter of a title. Letters of Georgian
keep their form there, and digraphs of two capitals do not. -/
def changesWhenTitlecased : Ranges :=
  ((changesWhenUppercased.diff titlecase).diff (codes "10D0-10FA 10FD-10FF")).union
    (codes "1C4 1C7 1CA 1F1")

def changesWhenCasemapped : Ranges :=
  (changesWhenLowercased.union changesWhenUppercased).union changesWhenTitlecased

/-- Characters that are written otherwise where case is taken away. Cherokee is then written in
capital letters. -/
def changesWhenCasefolded : Ranges :=
  (changesWhenLowercased.diff (codes "13A0-13F5")).union (codes
    "B5 DF 149 17F 345 3C2 3D0-3D1 3D5-3D6 3F0-3F1 3F5 587 13F8-13FD 1C80-1C88 1E9A-1E9B
    1F80-1F87 1F90-1F97 1FA0-1FA7 1FB2-1FB4 1FB7 1FC2-1FC4 1FC7 1FF2-1FF4 1FF7 AB70-ABBF
    FB00-FB06 FB13-FB17")

/-! ### Grapheme clusters and display -/

def graphemeExtend : Ranges := (category ["Mn", "Me"]).union otherGraphemeExtend

def graphemeBase : Ranges :=
  ((Run.select (fun _ => true) categoryRuns).diff
    (category ["Cc", "Cf", "Cs", "Co", "Cn", "Zl", "Zp"])).diff graphemeExtend

def whiteSpace : Ranges :=
  codes "9-D 20 85 A0 1680 2000-200A 2028-2029 202F 205F 3000"

/-- Characters that are not shown. Some format characters are, among them the marks that span
digits. -/
def defaultIgnorable : Ranges :=
  (((category ["Cf"]).union otherDefaultIgnorable).union variationSelector).diff
    ((codes "FFF9-FFFB 13430-13440").union prependedConcatenationMark)

/-! ### Identifiers -/

def patternWhiteSpace : Ranges := codes "9-D 20 85 200E-200F 2028-2029"

def idStart : Ranges :=
  ((category ["Lu", "Ll", "Lt", "Lm", "Lo", "Nl"]).union otherIdStart).diff
    (patternSyntax.union patternWhiteSpace)

def idContinue : Ranges :=
  (idStart.union ((category ["Mn", "Mc", "Nd", "Pc"]).union otherIdContinue)).diff
    (patternSyntax.union patternWhiteSpace)

/-- Characters that may stand in an identifier, but not where their compatible forms do. -/
def unstableInIdentifiers : Ranges :=
  codes "37A 309B-309C FC5E-FC63 FDFA-FDFB FE70 FE72 FE74 FE76 FE78 FE7A FE7C FE7E"

def xidStart : Ranges :=
  (idStart.diff unstableInIdentifiers).diff (codes "E33 EB3 FF9E-FF9F")

def xidContinue : Ranges := idContinue.diff unstableInIdentifiers

/-! ### Others -/

def math : Ranges := (category ["Sm"]).union otherMath

def joinControl : Ranges := codes "200C-200D"

/-- Characters that words are made of: letters, marks, digits, what connects, and joiners. -/
def word : Ranges :=
  (alphabetic.union (category ["Mn", "Mc", "Me", "Nd", "Pc"])).union joinControl

def decimalDigit : Ranges := category ["Nd"]

end MagicRules.Unicode
