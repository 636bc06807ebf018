/-!
# Ranges of whole numbers

Numbers in rules have a width, 32 bits for offsets and 64 for values. A width is known by its
range. A number beyond the range is brought back either to the number with the same low bits,
or to the nearest number of the range.
-/

namespace MagicRules

structure IntRange where
  least : Int
  most : Int
  deriving DecidableEq, Repr

namespace IntRange

def signed32 : IntRange := { least := -0x80000000, most := 0x7fffffff }

def signed64 : IntRange := { least := -0x8000000000000000, most := 0x7fffffffffffffff }

def unsigned64 : IntRange := { least := 0, most := 0xffffffffffffffff }

/-- The number of the range that differs from `n` by a multiple of the size of the range. -/
def wrap (r : IntRange) (n : Int) : Int := (n - r.least).emod (r.most - r.least + 1) + r.least

def clamp (r : IntRange) (n : Int) : Int := max r.least (min r.most n)

end IntRange

end MagicRules
