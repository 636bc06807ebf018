import MagicRules.ByteOrder
import Mathlib.Data.List.Induction
import Mathlib.Data.Nat.Digits.Defs

/-!
# The numbers that bytes hold

A number is put together in a word of 64 bits, the most significant digit first. As long as the word
has room for another digit, the step adds this digit behind the others (`toNat_shiftIn`), so eight
bytes and fewer make the sum of their digits by the weights (`toNat_wordOf`). Mathlib counts weights
from the least significant digit (`Nat.ofDigits`): the bytes as they stand are the digits in little
order, and the bytes from the last to the first in big order. Four bytes in middle order are two
digits of radix 65536, each of them two bytes in little order, and the high one first.

So many digits hold any number below the power of the radix, and no other.
-/

namespace MagicRules

def lowDigits (radix : Nat) (bytes : Bytes) : List Nat := bytes.map (·.toNat % radix)

/-- The number with these digits, most significant first. -/
def digitsValue (radix : Nat) (bytes : Bytes) : Nat :=
  Nat.ofDigits radix (lowDigits radix bytes).reverse

theorem lowDigits_byte (bytes : Bytes) : lowDigits 256 bytes = bytes.map UInt8.toNat := by
  apply List.map_congr_left
  intro b _
  exact Nat.mod_eq_of_lt b.toNat_lt

theorem lt_of_mem_lowDigits {radix : Nat} (proper : 1 < radix) {bytes : Bytes} {d : Nat}
    (member : d ∈ lowDigits radix bytes) : d < radix := by
  obtain ⟨b, _, rfl⟩ := List.mem_map.mp member
  exact Nat.mod_lt _ (by omega)

theorem digitsValue_append_singleton (radix : Nat) (bytes : Bytes) (b : UInt8) :
    digitsValue radix (bytes ++ [b]) = digitsValue radix bytes * radix + b.toNat % radix := by
  rw [digitsValue, digitsValue, lowDigits, lowDigits, List.map_append, List.reverse_append,
    List.map_singleton, List.reverse_singleton, List.singleton_append, Nat.ofDigits_cons,
    Nat.mul_comm, Nat.add_comm]

/-- From the last byte on, the digits are weighed in the order of the bytes. -/
theorem digitsValue_reverse (radix : Nat) (bytes : Bytes) :
    digitsValue radix bytes.reverse = Nat.ofDigits radix (lowDigits radix bytes) := by
  rw [digitsValue, lowDigits, lowDigits, List.map_reverse, List.reverse_reverse]

theorem digitsValue_lt {radix : Nat} (proper : 1 < radix) (bytes : Bytes) :
    digitsValue radix bytes < radix ^ bytes.length := by
  have lt := Nat.ofDigits_lt_base_pow_length (l := (lowDigits radix bytes).reverse) proper
    fun d member => lt_of_mem_lowDigits proper (List.mem_reverse.mp member)
  rwa [List.length_reverse, lowDigits, List.length_map] at lt

theorem wordOf_append_singleton (width : Nat) (bytes : Bytes) (b : UInt8) :
    wordOf width (bytes ++ [b]) = shiftIn width (wordOf width bytes) b := by
  rw [wordOf, List.foldl_append]
  rfl

section Word

variable {width : Nat} (narrow : width ≤ 8)

include narrow

theorem toNat_shiftLeft_width (word : UInt64) :
    (word <<< UInt64.ofNat width).toNat = word.toNat * 2 ^ width % 2 ^ 64 := by
  have small : (UInt64.ofNat width).toNat = width :=
    UInt64.toNat_ofNat_of_lt' (Nat.lt_of_le_of_lt narrow (by decide))
  rw [UInt64.toNat_shiftLeft, small, Nat.mod_eq_of_lt (by omega : width < 64), Nat.shiftLeft_eq]

theorem toNat_lowMask : (lowMask width).toNat = 2 ^ width - 1 := by
  have power : (1 <<< UInt64.ofNat width : UInt64).toNat = 2 ^ width := by
    have lt : 2 ^ width < 2 ^ 64 := Nat.pow_lt_pow_right (by omega) (by omega)
    rw [toNat_shiftLeft_width narrow, UInt64.toNat_one, Nat.one_mul, Nat.mod_eq_of_lt lt]
  rw [lowMask, UInt64.toNat_sub_of_le, power, UInt64.toNat_one]
  rw [UInt64.le_iff_toNat_le, power]
  exact Nat.one_le_two_pow

/-- The digit takes the place that the shift makes free, and the shift takes nothing out of a word
that has room for it. -/
theorem toNat_shiftIn {word : UInt64} (room : word.toNat < 2 ^ (64 - width)) (b : UInt8) :
    (shiftIn width word b).toNat = word.toNat * 2 ^ width + b.toNat % 2 ^ width := by
  have whole : word.toNat * 2 ^ width < 2 ^ 64 := by
    calc word.toNat * 2 ^ width < 2 ^ (64 - width) * 2 ^ width :=
          Nat.mul_lt_mul_of_pos_right room (Nat.two_pow_pos width)
      _ = 2 ^ 64 := Nat.pow_sub_mul_pow 2 (by omega)
  have digit : b.toNat % 2 ^ width < 2 ^ width := Nat.mod_lt _ (Nat.two_pow_pos width)
  rw [shiftIn, UInt64.toNat_or, UInt64.toNat_and, UInt8.toNat_toUInt64, toNat_lowMask narrow,
    Nat.and_two_pow_sub_one_eq_mod, toNat_shiftLeft_width narrow, Nat.mod_eq_of_lt whole,
    ← Nat.shiftLeft_eq, Nat.shiftLeft_add_eq_or_of_lt digit]

theorem digitsValue_room (positive : 0 < width) {bytes : Bytes} (few : bytes.length ≤ 7) :
    digitsValue (2 ^ width) bytes < 2 ^ (64 - width) := by
  have bits : width * bytes.length ≤ 8 * 7 := Nat.mul_le_mul narrow few
  calc digitsValue (2 ^ width) bytes < (2 ^ width) ^ bytes.length :=
        digitsValue_lt (Nat.one_lt_two_pow (by omega)) bytes
    _ = 2 ^ (width * bytes.length) := (Nat.pow_mul 2 width bytes.length).symm
    _ ≤ 2 ^ (64 - width) := Nat.pow_le_pow_right (by omega) (by omega)

/-- Eight digits and fewer have room in a word. -/
theorem toNat_wordOf (positive : 0 < width) {bytes : Bytes} (few : bytes.length ≤ 8) :
    (wordOf width bytes).toNat = digitsValue (2 ^ width) bytes := by
  induction bytes using List.reverseRecOn with
  | nil => rfl
  | append_singleton bytes b ih =>
      rw [List.length_append, List.length_singleton] at few
      have word := ih (by omega)
      have room : (wordOf width bytes).toNat < 2 ^ (64 - width) := by
        rw [word]
        exact digitsValue_room narrow positive (by omega)
      rw [wordOf_append_singleton, toNat_shiftIn narrow room, word, digitsValue_append_singleton]

end Word

namespace ByteOrder

/-- The number that bytes hold in an order. -/
def number : ByteOrder → Bytes → Nat
  | .little, bytes => Nat.ofDigits 256 (bytes.map UInt8.toNat)
  | .big, bytes => Nat.ofDigits 256 (bytes.map UInt8.toNat).reverse
  | .middle, [b₀, b₁, b₂, b₃] =>
    let high := Nat.ofDigits 256 [b₀.toNat, b₁.toNat]
    let low := Nat.ofDigits 256 [b₂.toNat, b₃.toNat]
    Nat.ofDigits 65536 [low, high]
  | .middle, bytes => Nat.ofDigits 256 (bytes.map UInt8.toNat)

/-- The number that the low seven bits of bytes hold. -/
def synchsafeNumber : ByteOrder → Bytes → Nat
  | .big, bytes => Nat.ofDigits 128 (lowDigits 128 bytes).reverse
  | _, bytes => Nat.ofDigits 128 (lowDigits 128 bytes)

/-- The order in which the bytes are read makes the number that they hold. -/
theorem digitsValue_descending (order : ByteOrder) (bytes : Bytes) :
    digitsValue 256 (order.descending bytes) = order.number bytes := by
  unfold number
  split
  · rw [descending, digitsValue_reverse, lowDigits_byte]
    · exact nofun
    · exact nofun
  · rw [descending, digitsValue, lowDigits_byte]
  · rw [descending, digitsValue, lowDigits_byte]
    simp only [List.map_cons, List.map_nil, List.reverse_cons, List.reverse_nil, List.nil_append,
      List.cons_append, Nat.ofDigits_cons, Nat.ofDigits_nil]
    omega
  · rename_i notFour
    rw [descending, digitsValue_reverse, lowDigits_byte]
    · exact nofun
    · intro b₁ b₀ b₃ b₂ _ four
      exact notFour b₁ b₀ b₃ b₂ four

theorem digitsValue_descendingSynchsafe (order : ByteOrder) (bytes : Bytes) :
    digitsValue 128 (order.descendingSynchsafe bytes) = order.synchsafeNumber bytes := by
  cases order with
  | little => exact digitsValue_reverse 128 bytes
  | big => rfl
  | middle => exact digitsValue_reverse 128 bytes

/-- The bytes are read in another order, and none of them twice or not at all. -/
theorem descending_perm (order : ByteOrder) (bytes : Bytes) :
    (order.descending bytes).Perm bytes := by
  unfold descending
  split
  · rfl
  · rename_i b₁ b₀ b₃ b₂
    exact (List.Perm.swap b₁ b₀ _).trans (((List.Perm.swap b₃ b₂ []).cons b₀).cons b₁)
  · exact List.reverse_perm _

theorem descendingSynchsafe_perm (order : ByteOrder) (bytes : Bytes) :
    (order.descendingSynchsafe bytes).Perm bytes := by
  unfold descendingSynchsafe
  split
  · rfl
  · exact List.reverse_perm _

theorem number_lt (order : ByteOrder) (bytes : Bytes) :
    order.number bytes < 256 ^ bytes.length := by
  rw [← digitsValue_descending, ← (order.descending_perm bytes).length_eq]
  exact digitsValue_lt (by omega) _

theorem synchsafeNumber_lt (order : ByteOrder) (bytes : Bytes) :
    order.synchsafeNumber bytes < 128 ^ bytes.length := by
  rw [← digitsValue_descendingSynchsafe, ← (order.descendingSynchsafe_perm bytes).length_eq]
  exact digitsValue_lt (by omega) _

/-- Bytes that can be read, in whatever order, have room in a word. -/
theorem some_wordOf_eq {width : Nat} (positive : 0 < width) (narrow : width ≤ 8)
    {bytes arranged : Bytes} (perm : arranged.Perm bytes) :
    (if Readable bytes then some (wordOf width arranged).toNat else none) =
      if Readable bytes then some (digitsValue (2 ^ width) arranged) else none := by
  split_ifs with readable
  · have few : arranged.length ≤ 8 := by
      rw [perm.length_eq]
      exact readable.2
    rw [toNat_wordOf narrow positive few]
  · rfl

theorem read?_eq_digits (order : ByteOrder) (bytes : Bytes) :
    order.read? bytes =
      if Readable bytes then some (digitsValue 256 (order.descending bytes)) else none :=
  some_wordOf_eq (by omega) (by omega) (order.descending_perm bytes)

theorem readSynchsafe?_eq_digits (order : ByteOrder) (bytes : Bytes) :
    order.readSynchsafe? bytes =
      if Readable bytes then some (digitsValue 128 (order.descendingSynchsafe bytes)) else none :=
  some_wordOf_eq (by omega) (by omega) (order.descendingSynchsafe_perm bytes)

theorem read?_eq (order : ByteOrder) (bytes : Bytes) :
    order.read? bytes = if Readable bytes then some (order.number bytes) else none := by
  rw [read?_eq_digits, digitsValue_descending]

theorem readSynchsafe?_eq (order : ByteOrder) (bytes : Bytes) :
    order.readSynchsafe? bytes =
      if Readable bytes then some (order.synchsafeNumber bytes) else none := by
  rw [readSynchsafe?_eq_digits, digitsValue_descendingSynchsafe]

end ByteOrder

end MagicRules
