import MagicRules.Regex.Named
import MagicRules.Regex.Node
import MagicRules.Text.Blank
import MagicRules.Text.Digit
import MagicRules.Unicode.Selector

/-!
# Single elements of a pattern

What a character of a pattern stands for, alone or behind a backslash. In verbose mode blanks
and comments between the characters are skipped. Every reader returns the text that it leaves;
none means that the pattern is malformed.
-/

namespace MagicRules.Regex

/-- Skips blanks and comments; within a comment, to the end of its line. -/
def skipVerbose (comment : Bool) : Text → Text
  | [] => []
  | c :: cs =>
    if comment then skipVerbose (c ≠ '\n') cs
    else if isBlank c then skipVerbose false cs
    else if c = '#' then skipVerbose true cs
    else c :: cs

def skip (verbose : Bool) (t : Text) : Text := if verbose then skipVerbose false t else t

/-- An element of a pattern. A literal that was written with two hexadecimal digits is a byte. -/
inductive Element where
  | literal (c : Char) (isByte : Bool)
  | dot
  | caret
  | dollar
  | anchor (place : Anchor)
  | wordPlace (place : WordPlace)
  | shorthand (kind : Shorthand) (negated : Bool)
  | property (selector : Unicode.Selector) (negated : Bool)
  deriving DecidableEq, Repr

namespace Element

def readHex? (verbose : Bool) : Nat → Nat → Text → Option (Nat × Text)
  | 0, value, t => some (value, t)
  | n + 1, value, t =>
    match t with
    | [] => none
    | c :: cs => (digit? 16 c).bind fun d => readHex? verbose n (value * 16 + d) (skip verbose cs)

def readBracedHex? (verbose : Bool) : Nat → Option Nat → Text → Option (Nat × Text)
  | 0, _, _ => none
  | fuel + 1, value, t =>
    match skip verbose t with
    | [] => none
    | c :: cs =>
      if c = '\x7d' then value.map fun v => (v, skip verbose cs)
      else (digit? 16 c).bind fun d =>
        readBracedHex? verbose fuel (some (value.getD 0 * 16 + d)) cs

def scalar? (n : Nat) : Option Char :=
  if n < 0xd800 ∨ 0xdfff < n ∧ n < 0x110000 then some (Char.ofNat n) else none

/-- Reads the code of a character: `digits` hexadecimal digits, or any number in braces. -/
def readCode? (verbose : Bool) (digits : Nat) (t : Text) : Option (Element × Text) :=
  match skip verbose t with
  | [] => none
  | c :: cs =>
    if c = '\x7b' then do
      let (n, rest) ← readBracedHex? verbose (cs.length + 1) none cs
      return (literal (← scalar? n) false, rest)
    else do
      let (n, rest) ← readHex? verbose digits 0 (c :: cs)
      return (literal (← scalar? n) (digits = 2), rest)

def isPlaceChar (c : Char) : Bool := c.isAlpha || c = '-'

def readPlaceName (verbose : Bool) : Nat → Text → Text × Text
  | 0, t => ([], t)
  | fuel + 1, t =>
    match t with
    | [] => ([], [])
    | c :: cs =>
      if isPlaceChar c then
        let (name, rest) := readPlaceName verbose fuel (skip verbose cs)
        (c :: name, rest)
      else ([], t)

def place? (name : Text) : Option WordPlace :=
  match String.ofList name with
  | "start" => some .start
  | "end" => some .stop
  | "start-half" => some .startHalf
  | "end-half" => some .stopHalf
  | _ => none

/-- Reads what follows the letter of a word boundary. A name in braces makes it one of the
special boundaries; braces that cannot hold a name are left, and count repetitions. -/
def readBoundary? (verbose : Bool) (t : Text) : Option (Element × Text) :=
  match t with
  | [] => some (wordPlace .boundary, [])
  | c :: cs =>
    if c ≠ '\x7b' then some (wordPlace .boundary, t)
    else match skip verbose cs with
      | [] => none
      | d :: ds =>
        if !isPlaceChar d then some (wordPlace .boundary, t)
        else
          let (name, rest) := readPlaceName verbose (ds.length + 1) (d :: ds)
          match rest with
          | [] => none
          | e :: rest => if e = '\x7d' then (place? name).map (wordPlace ·, rest) else none

def control? : Char → Option Char
  | 'a' => some '\x07'
  | 'f' => some '\x0c'
  | 't' => some '\t'
  | 'n' => some '\n'
  | 'r' => some '\r'
  | 'v' => some '\x0b'
  | _ => none

def anchor? : Char → Option Element
  | 'A' => some (anchor .textStart)
  | 'z' => some (anchor .textEnd)
  | 'B' => some (wordPlace .notBoundary)
  | '<' => some (wordPlace .start)
  | '>' => some (wordPlace .stop)
  | _ => none

/-- The text before the first place where `mark` stands, and the text behind that mark. -/
def cutAtMark? (mark : Text) : Text → Option (Text × Text)
  | [] => none
  | c :: cs =>
    if mark.isPrefixOf (c :: cs) then some ([], (c :: cs).drop mark.length)
    else (cutAtMark? mark cs).map fun (before, after) => (c :: before, after)

/-- What stands between the braces that name a set of characters. A value may be asked for by an
equals sign or a colon, and all others by an exclamation mark and an equals sign. -/
def propertyNamed (negated : Bool) (name : Text) : Element :=
  match cutAtMark? ['!', '='] name, cutAtMark? [':'] name, cutAtMark? ['='] name with
  | some (name, value), _, _ => property (.valued name value) !negated
  | none, some (name, value), _ => property (.valued name value) negated
  | none, none, some (name, value) => property (.valued name value) negated
  | none, none, none => property (.named name) negated

/-- Reads up to the closing brace, without what verbose mode ignores. -/
def readBraced? (verbose : Bool) : Nat → Text → Option (Text × Text)
  | 0, _ => none
  | fuel + 1, t =>
    match skip verbose t with
    | [] => none
    | c :: cs =>
      if c = '\x7d' then some ([], cs)
      else (readBraced? verbose fuel cs).map fun (name, rest) => (c :: name, rest)

def readProperty? (verbose negated : Bool) (t : Text) : Option (Element × Text) :=
  match skip verbose t with
  | [] => none
  | c :: cs =>
    if c = '\x7b' then
      (readBraced? verbose (cs.length + 1) cs).map fun (name, rest) =>
        (propertyNamed negated name, rest)
    else if c = '\\' then none
    else some (property (.named [c]) negated, cs)

/-- Reads what follows a backslash. Any character of ASCII that is no letter or digit stands
for itself there; other letters and digits are refused. -/
def ofEscape? (verbose : Bool) : Text → Option (Element × Text)
  | [] => none
  | c :: cs =>
    if c = 'x' then readCode? verbose 2 cs
    else if c = 'u' then readCode? verbose 4 cs
    else if c = 'U' then readCode? verbose 8 cs
    else if c = 'b' then readBoundary? verbose cs
    else if c = 'p' ∨ c = 'P' then readProperty? verbose (c = 'P') cs
    else match Shorthand.ofLetter? c, anchor? c, control? c with
      | some (kind, negated), _, _ => some (shorthand kind negated, cs)
      | none, some place, _ => some (place, cs)
      | none, none, some control => some (literal control false, cs)
      | none, none, none =>
        if c.isAlphanum ∨ 0x7f < c.toNat then none else some (literal c false, cs)

/-- Reads an element outside of brackets; of the characters with a meaning of their own only
those that stand for a place or a class are left here. -/
def ofText? (verbose : Bool) : Text → Option (Element × Text)
  | [] => none
  | c :: cs =>
    if c = '\\' then ofEscape? verbose cs
    else if c = '.' then some (dot, cs)
    else if c = '^' then some (caret, cs)
    else if c = '$' then some (dollar, cs)
    else some (literal c false, cs)

end Element

end MagicRules.Regex
