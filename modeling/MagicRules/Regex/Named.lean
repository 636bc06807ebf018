import MagicRules.Regex.Alphabet
import MagicRules.Unicode.Derived

/-!
# Named classes

The classes that a backslash and a letter name, and those written `[:name:]` within brackets.
The latter are classes of ASCII; the former are so only where a pattern is one of bytes.
-/

namespace MagicRules.Regex

/-- The classes `\d`, `\s` and `\w`. -/
inductive Shorthand where
  | digit
  | space
  | word
  deriving DecidableEq, Repr

namespace Shorthand

def ascii : Shorthand → Ranges
  | digit => [codes '0' '9']
  | space => [codes '\t' '\r', code ' ']
  | word => [codes '0' '9', codes 'A' 'Z', code '_', codes 'a' 'z']

def unicode : Shorthand → Ranges
  | digit => Unicode.decimalDigit
  | space => Unicode.whiteSpace
  | word => Unicode.word

def ranges (alphabet : Alphabet) (kind : Shorthand) : Ranges :=
  match alphabet with
  | .bytes => kind.ascii
  | .scalars => kind.unicode

/-- The class of a letter, and whether it stands for what is not in the class. -/
def ofLetter? : Char → Option (Shorthand × Bool)
  | 'd' => some (digit, false)
  | 's' => some (space, false)
  | 'w' => some (word, false)
  | 'D' => some (digit, true)
  | 'S' => some (space, true)
  | 'W' => some (word, true)
  | _ => none

end Shorthand

def namedClass? (name : String) : Option Ranges :=
  match name with
  | "alnum" => some [codes '0' '9', codes 'A' 'Z', codes 'a' 'z']
  | "alpha" => some [codes 'A' 'Z', codes 'a' 'z']
  | "ascii" => some [(0, 0x7f)]
  | "blank" => some [code '\t', code ' ']
  | "cntrl" => some [(0, 0x1f), (0x7f, 0x7f)]
  | "digit" => some Shorthand.digit.ascii
  | "graph" => some [codes '!' '~']
  | "lower" => some [codes 'a' 'z']
  | "print" => some [codes ' ' '~']
  | "punct" => some [codes '!' '/', codes ':' '@', codes '[' (Char.ofNat 0x60), (0x7b, 0x7e)]
  | "space" => some Shorthand.space.ascii
  | "upper" => some [codes 'A' 'Z']
  | "word" => some Shorthand.word.ascii
  | "xdigit" => some [codes '0' '9', codes 'A' 'F', codes 'a' 'f']
  | _ => none

end MagicRules.Regex
