import MagicRules.Text.Digit

/-!
# Making text visible

Text of one byte a character is shown with its quotes, backslashes, controls and invisible
characters written as escapes, so that what is shown never holds a tab or an end of line.
-/

namespace MagicRules.Text

/-- Whether a character up to `U+00FF` cannot be seen: controls, the blank that forbids a line
break, and the soft hyphen. -/
def isInvisible (c : Char) : Bool :=
  c.toNat < 0x20 || 0x7f ≤ c.toNat && c.toNat ≤ 0xa0 || c.toNat = 0xad

def visibleChar (c : Char) : Text :=
  if c = '\x00' then ['\\', '0']
  else if c = '\t' then ['\\', 't']
  else if c = '\r' then ['\\', 'r']
  else if c = '\n' then ['\\', 'n']
  else if c = '\\' ∨ c = '"' ∨ c = '\'' then ['\\', c]
  else if isInvisible c then "\\u\x7b".toList ++ ofNat 16 c.toNat ++ ['\x7d']
  else [c]

def visible (t : Text) : Text := t.flatMap visibleChar

end MagicRules.Text
