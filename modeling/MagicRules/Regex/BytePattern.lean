import MagicRules.Text.Digit
import MagicRules.Text.Latin

/-!
# Patterns of bytes

A pattern of a magic file may hold any byte. It is spelled in ASCII before it is read, each
byte beyond ASCII as `\x` and two hexadecimal digits. Where an unescaped backslash stands in
front of such a byte already, that backslash is the one of the spelled byte.
-/

namespace MagicRules.Regex

/-- Spells bytes; `escaped` says that an unescaped backslash has just been written. -/
def asciiFrom (escaped : Bool) : Bytes → Text
  | [] => []
  | b :: bs =>
    if b < 0x80 then
      Char.ofNat b.toNat :: asciiFrom (b = 0x5c && !escaped) bs
    else
      (if escaped then [] else ['\\']) ++ 'x' :: Text.ofByte b ++ asciiFrom false bs

def bytePattern (t : Text) : Text := asciiFrom false t.toBytes

end MagicRules.Regex
