import MagicRules.Text
import MagicRules.Unicode.Width

/-!
# The width of a text

A text takes the columns that its characters take, but some characters take another number of
columns because of what is behind them: letters that are written as one, and the parts of an
emoji. So a text is measured from its end to its start, and on the way it is kept what the
character in front may belong to. Columns may be taken back, as a sign turns the letter behind
it into one that stands below.
-/

namespace MagicRules.Text

/-- A letter that may be written as one with what is in front of it. -/
inductive Tail where
  /-- Of Hebrew, behind an alef. -/
  | lamed
  /-- Of Buginese, behind a vowel. -/
  | ya
  /-- That letter with the vowel and a joiner in front of it. -/
  | vowelAndYa
  /-- Of Old Turkic. -/
  | orkhonI
  /-- Any letter of Tifinagh. -/
  | tifinagh
  /-- The same with the sign that joins letters in front of it. -/
  | joinedTifinagh
  /-- The second tone letter of Lisu. -/
  | tone
  /-- A letter of Khmer that may stand below. -/
  | subscript
  deriving DecidableEq, Repr

/-- What a character may belong to, from its right side. -/
inductive Behind where
  | nothing
  | alef
  /-- A letter, and whether a joiner stands in front of it. -/
  | letter (tail : Tail) (joined : Bool)
  /-- A vowel of Kirat Rai, single or double. -/
  | vowelE
  | vowelAi
  | modifier
  | emoji
  | indicator
  | indicators
  /-- A joiner in front of emoji. -/
  | joiner
  /-- A keycap in front of a joiner. -/
  | keycap
  /-- Regional indicators in front of a joiner: the first, an even number of them, an odd one. -/
  | joinedIndicator
  | evenIndicators
  | oddIndicators
  /-- The end of a tag in front of a joiner, with letters and digits of the tag before it. -/
  | tagEnd
  | tagLetters (count : Nat)
  | tagDigits (count : Nat)
  deriving DecidableEq, Repr

/-- What is behind a character, and whether it is asked to be shown as emoji or as text. -/
structure Context where
  behind : Behind := .nothing
  emojiStyle : Bool := false
  textStyle : Bool := false
  deriving DecidableEq, Repr

namespace Behind

/-- Letters that are written as one keep together across selectors of a style. -/
def isLetter : Behind → Bool
  | alef | letter _ _ => true
  | _ => false

def isJoiner : Behind → Bool
  | joiner | keycap => true
  | _ => false

end Behind

def isTifinagh (c : Nat) : Bool := 0x2d31 ≤ c && c ≤ 0x2d65 || c = 0x2d6f

def isIndicator (c : Nat) : Bool := 0x1f1e6 ≤ c && c ≤ 0x1f1ff

def isModifier (c : Nat) : Bool := 0x1f3fb ≤ c && c ≤ 0x1f3ff

def isTagLetter (c : Nat) : Bool := 0xe0061 ≤ c && c ≤ 0xe007a

def isTagDigit (c : Nat) : Bool := 0xe0030 ≤ c && c ≤ 0xe0039

/-- Letters of Arabic that are written as one with an alef behind them. -/
def lams : Ranges := Unicode.codes "644 6B5-6B8 76A 8A6 8C7"

def alefs : Ranges := Unicode.codes "622-623 625 627 671-673 675 773-774 870-882"

/-- Letters of Khmer that have a form below the line. -/
def subscriptLetters : Ranges := Unicode.codes
  "1780-1782 1784-1787 1789-178C 178E-1793 1795-1798 179B-179D 17A0 17A2 17A7 17AB-17AC 17AF"

/-- Characters that do not keep letters from being written as one. -/
def transparent : Ranges := Unicode.codes "34F 17B4-17B5 180B-180D 180F 200D FE00-FE0F E0100-E01EF"

/-- Marks of Arabic writing that do not keep letters from being written as one. -/
def isTransparentMark (c : Nat) : Bool :=
  Unicode.zeroWidth.contains c && (Unicode.category ["Mn", "Me", "Cf"]).contains c &&
    !(Unicode.codes "605 890-891 8E2 180E 200C-200D 2066-2069").contains c

/-- What a character begins on its left side, with its own columns. -/
def alone (c : Nat) : Int × Context :=
  let tail (t : Tail) (joined : Bool) : Int × Context := (1, { behind := .letter t joined })
  if c = 0x5dc then tail .lamed false
  else if alefs.contains c then (1, { behind := .alef })
  else if subscriptLetters.contains c then tail .subscript true
  else if c = 0x1a10 then tail .ya false
  else if isTifinagh c then tail .tifinagh false
  else if c = 0xa4fc ∨ c = 0xa4fd then tail .tone true
  else if c = 0xfe0e then (0, { textStyle := true })
  else if c = 0xfe0f then (0, { emojiStyle := true })
  else if c = 0x10c03 then tail .orkhonI false
  else if c = 0x16d67 then (1, { behind := .vowelE })
  else if c = 0x16d68 then (1, { behind := .vowelAi })
  else if isIndicator c then (1, { behind := .indicator })
  else if isModifier c then (2, { behind := .modifier })
  else if Unicode.emojiPresentation.contains c then (2, { behind := .emoji })
  else (Unicode.columns c, {})

/-- The columns of a character that belongs to what is behind it. -/
def belonging? (c : Nat) (behind : Behind) : Option (Int × Behind) :=
  match behind with
  | .nothing => none
  | .alef =>
    if lams.contains c then some (0, .nothing)
    else if isTransparentMark c then some (0, .alef)
    else none
  | .letter tail joined =>
    if c = 0x200d then some (0, .letter tail true)
    else if transparent.contains c then some (0, .letter tail joined)
    else match tail with
      | .lamed => if joined ∧ c = 0x5d0 then some (0, .nothing) else none
      | .ya => if joined ∧ c = 0x1a17 then some (0, .letter .vowelAndYa true) else none
      | .vowelAndYa => if c = 0x1a15 then some (0, .nothing) else none
      | .orkhonI => if joined ∧ c = 0x10c32 then some (0, .nothing) else none
      | .tifinagh =>
        if c = 0x2d7f then some (1, .letter .joinedTifinagh true)
        else if joined ∧ isTifinagh c then some (0, .nothing)
        else none
      | .joinedTifinagh => if isTifinagh c then some (-1, .nothing) else none
      | .tone => if 0xa4f8 ≤ c ∧ c ≤ 0xa4fb then some (0, .nothing) else none
      | .subscript => if c = 0x17d2 then some (-1, .nothing) else none
  | .vowelE =>
    if c = 0x16d63 ∨ c = 0x16d69 then some (0, .nothing)
    else if c = 0x16d67 then some (0, .vowelAi)
    else if c = 0x16d68 then some (1, .vowelE)
    else none
  | .vowelAi => if c = 0x16d63 then some (0, .nothing) else none
  | .modifier =>
    if Unicode.emojiModifierBase.contains c then some (0, .emoji)
    else if c = 0x200d then some (0, .joiner)
    else none
  | .emoji => if c = 0x200d then some (0, .joiner) else none
  | .indicator => if isIndicator c then some (1, .indicators) else none
  | .indicators =>
    if isIndicator c then some (1, .indicators)
    else if c = 0x200d then some (0, .joiner)
    else none
  | .joiner =>
    if c = 0x20e3 then some (0, .keycap)
    else if isIndicator c then some (1, .joinedIndicator)
    else if isModifier c then some (0, .modifier)
    else if c = 0xe007f then some (0, .tagEnd)
    else if Unicode.emojiPresentation.contains c then some (0, .emoji)
    else none
  | .keycap => none
  | .joinedIndicator => if isIndicator c then some (-1, .evenIndicators) else none
  | .evenIndicators =>
    if isIndicator c then some (3, .oddIndicators)
    else if c = 0x200d then some (0, .joiner)
    else none
  | .oddIndicators =>
    if isIndicator c then some (-1, .evenIndicators)
    else if c = 0x200d then some (0, .joiner)
    else none
  | .tagEnd =>
    if isTagLetter c then some (0, .tagLetters 1)
    else if isTagDigit c then some (0, .tagDigits 1)
    else none
  | .tagLetters n =>
    if isTagLetter c ∧ n < 6 then some (0, .tagLetters (n + 1))
    else if isTagDigit c ∧ n < 5 then some (0, .tagDigits 1)
    else if c = 0x1f3f4 ∧ 3 ≤ n then some (0, .emoji)
    else none
  | .tagDigits n =>
    if isTagDigit c ∧ n < 3 then some (0, .tagDigits (n + 1))
    else if c = 0x1f3f4 ∧ n = 3 then some (0, .emoji)
    else none

/-- The columns of a character in front of what is behind it. A style is asked for of the next
character that is no letter with a tail; characters of ASCII begin nothing. -/
def columnsBefore (x : Context) (c : Nat) : Int × Context :=
  if x.emojiStyle && Unicode.emojiStyleBases.contains c then
    (if x.behind.isJoiner then 0 else 2, { behind := .emoji })
  else
    let x : Context :=
      if x.emojiStyle && !x.behind.isLetter then {} else { x with emojiStyle := false }
    if c ≤ 0xa0 then (if c < 0x20 ∨ 0x7f ≤ c ∧ c < 0xa0 then 0 else 1, {})
    else if x = {} then alone c
    else if c = 0xfe0f then
      (0, if x.behind.isLetter ∨ x.behind.isJoiner then { x with emojiStyle := true }
          else { emojiStyle := true })
    else if c = 0xfe0e then
      (0, if x.behind.isLetter then { x with textStyle := true } else { textStyle := true })
    else if x.textStyle && Unicode.textStyleBases.contains c then (1, {})
    else match belonging? c x.behind with
      | some (columns, behind) => (columns, { behind })
      | none => alone c

def width (t : Text) : Nat :=
  (t.foldr (fun c (sum, x) =>
    let (columns, x) := columnsBefore x c.toNat
    (sum + columns, x)) ((0 : Int), ({} : Context))).1.toNat

end MagicRules.Text
