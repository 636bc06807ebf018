import MagicRules.Ranges
import MagicRules.Text

/-!
# Characters as bytes

Content is bytes, so characters are met there through their UTF-8 encodings. The encodings of a
set of characters are given as sequences of ranges of bytes: a range of characters whose
encodings have the same length is cut until each byte can be chosen apart from the others.
-/

namespace MagicRules.Utf8

/-- Ranges that the bytes of an encoding lie in, one after another. -/
abbrev ByteSequence := List (Nat × Nat)

/-- The encodings of the codes from `first` to `last`: a leading byte whose low bits are the high
bits of the code, on top of `lead`, and `n` bytes that continue it. -/
def encodings (lead : Nat) : Nat → Nat → Nat → List ByteSequence
  | 0, first, last => [[(lead + first, lead + last)]]
  | n + 1, first, last =>
    let block := Nat.pow 64 (n + 1)
    let high (code : Nat) : Nat := lead + code / block
    let whole : ByteSequence := List.replicate (n + 1) (0x80, 0xbf)
    let rest (first last : Nat) : List ByteSequence := encodings 0x80 n first last
    if first / block = last / block then
      (rest (first % block) (last % block)).map ((high first, high first) :: ·)
    else
      let opensWhole := first % block = 0
      let closesWhole := last % block = block - 1
      let opening := if opensWhole then [] else
        (rest (first % block) (block - 1)).map ((high first, high first) :: ·)
      let closing := if closesWhole then [] else
        (rest 0 (last % block)).map ((high last, high last) :: ·)
      let start := if opensWhole then high first else high first + 1
      let stop := if closesWhole then high last + 1 else high last
      let middle := if start < stop then [(start, stop - 1) :: whole] else []
      opening ++ middle ++ closing

/-- The codes whose encodings have one, two, three and four bytes, with their leading bytes.
Between them lie the surrogates, which are no characters. -/
def encodedRanges : List (Nat × Nat × Nat × Nat) :=
  [(0, 0x7f, 0, 0), (0x80, 0x7ff, 0xc0, 1), (0x800, 0xd7ff, 0xe0, 2), (0xe000, 0xffff, 0xe0, 2),
   (0x10000, 0x10ffff, 0xf0, 3)]

def sequences (s : Ranges) : List ByteSequence :=
  s.flatMap fun r => encodedRanges.flatMap fun (first, last, lead, n) =>
    (Ranges.inter [r] [(first, last)]).flatMap fun (a, b) => encodings lead n a b

/-- The encoding of one character; what is no character has none. -/
def encode (code : Nat) : Bytes :=
  ((sequences [(code, code)]).headD []).map fun (b, _) => UInt8.ofNat b

/-- Cuts sequences into their first ranges, each with what follows it in a row of sequences. -/
def byFirst (seqs : List ByteSequence) : List ((Nat × Nat) × List ByteSequence) :=
  seqs.foldr (fun seq groups =>
    match seq, groups with
    | [], groups => groups
    | r :: rest, [] => [(r, [rest])]
    | r :: rest, (first, rests) :: groups =>
      if r = first then (first, rest :: rests) :: groups
      else (r, [rest]) :: (first, rests) :: groups) []

def isContinuation (b : UInt8) : Bool := 0x80 ≤ b && b ≤ 0xbf

/-- How many bytes an encoding has that begins with this one. -/
def length? (lead : UInt8) : Option Nat :=
  if lead < 0x80 then some 1
  else if lead < 0xc0 then none
  else if lead < 0xe0 then some 2
  else if lead < 0xf0 then some 3
  else if lead < 0xf8 then some 4
  else none

/-- The bits of a byte that belong to the code, if its encoding has `n` bytes. -/
def leadBits (n : Nat) (lead : UInt8) : Nat :=
  if n = 1 then lead.toNat else lead.toNat % Nat.pow 2 (7 - n)

/-- The character at the start of bytes and how many bytes it has, if they begin with an
encoding. -/
def decode? : Bytes → Option (Nat × Nat)
  | [] => none
  | lead :: rest => do
    let n ← length? lead
    let following := rest.take (n - 1)
    let code := following.foldl (fun code b => code * 64 + b.toNat % 64) (leadBits n lead)
    if encode code = lead :: following then some (code, n) else none

def decodeWhole? (bytes : Bytes) : Option Nat :=
  match decode? bytes with
  | some (code, n) => if n = bytes.length then some code else none
  | none => none

/-- The character in front of a place, from the bytes in front of it in reverse order. It begins
at the nearest byte that continues nothing, at most four bytes back; whether it reaches to the
place is not asked. -/
def decodeLast? (before : Bytes) : Option Nat :=
  let continuing := min ((before.take 3).takeWhile isContinuation).length (before.length - 1)
  (decode? (before.take (continuing + 1)).reverse).map (·.1)

end MagicRules.Utf8
