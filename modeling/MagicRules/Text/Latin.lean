import MagicRules.Text

/-!
# Text as bytes

A character up to `U+00FF` is the byte of the same value; the byte escapes of a line produce
such characters, and a file that is read as bytes has no others. A character above them is the
bytes of its UTF-8 encoding.
-/

namespace MagicRules.Text

def charBytes (c : Char) : Bytes :=
  if c.toNat ≤ 0xff then [UInt8.ofNat c.toNat] else String.utf8EncodeChar c

def toBytes (t : Text) : Bytes := t.flatMap charBytes

/-- Each byte as the character of the same value. -/
def ofBytes (bytes : Bytes) : Text := bytes.map fun b => Char.ofNat b.toNat

end MagicRules.Text
