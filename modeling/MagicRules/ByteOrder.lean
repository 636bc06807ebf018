import MagicRules.Text

/-!
# Byte orders

Numbers of one to eight content bytes, in the three orders that magic types know. The middle
order puts the high one of two little-endian 16-bit words first, so it differs from the little
order for four bytes only. A synchsafe number uses the low seven bits of each byte. Either is put
together in a word of 64 bits.
-/

namespace MagicRules

inductive ByteOrder where
  | little
  | big
  | middle
  deriving DecidableEq, Repr

def lowMask (width : Nat) : UInt64 := (1 <<< UInt64.ofNat width) - 1

/-- The word shifted to the left by `width` bits, with as many low bits of a byte in the place that
becomes free. A bit that is shifted out of the word is lost. -/
def shiftIn (width : Nat) (word : UInt64) (b : UInt8) : UInt64 :=
  word <<< UInt64.ofNat width ||| b.toUInt64 &&& lowMask width

/-- The low `width` bits of the bytes in one word, those of the first byte on top. -/
def wordOf (width : Nat) (bytes : Bytes) : UInt64 := bytes.foldl (shiftIn width) 0

namespace ByteOrder

/-- The order of the types whose name gives none. -/
def native : ByteOrder := .little

/-- The bytes of a number, most significant first. -/
def descending : ByteOrder → Bytes → Bytes
  | .big, bytes => bytes
  | .middle, [b₁, b₀, b₃, b₂] => [b₀, b₁, b₂, b₃]
  | _, bytes => bytes.reverse

/-- As `descending`; a synchsafe number has no middle order. -/
def descendingSynchsafe : ByteOrder → Bytes → Bytes
  | .big, bytes => bytes
  | _, bytes => bytes.reverse

def Readable (bytes : Bytes) : Prop := 1 ≤ bytes.length ∧ bytes.length ≤ 8

instance (bytes : Bytes) : Decidable (Readable bytes) :=
  inferInstanceAs (Decidable (_ ∧ _))

def read? (order : ByteOrder) (bytes : Bytes) : Option Nat :=
  if Readable bytes then some (wordOf 8 (order.descending bytes)).toNat else none

def readSynchsafe? (order : ByteOrder) (bytes : Bytes) : Option Nat :=
  if Readable bytes then some (wordOf 7 (order.descendingSynchsafe bytes)).toNat else none

end ByteOrder

end MagicRules
