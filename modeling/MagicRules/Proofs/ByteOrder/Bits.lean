import MagicRules.Proofs.ByteOrder
import Mathlib.Data.Nat.Digits.Lemmas

/-!
# No bit is lost and none is added

A step puts the low bits of a byte behind the bits of the word, and in a word of seven digits and
fewer the shift meets no set bit that it would take out (`keepsBits_wordOf`). So the digits are all
there, and as the digits of a number below a power of the radix are unique, lists of `k` digits and
numbers below that power correspond (`bijOn_digitsValue`). A byte order only rearranges the bytes,
and twice gives them back, so it changes nothing of that (`bijOn_rearranged`).

Of a synchsafe number the bytes above 127 are no digits of their own: without bit 7 they are
(`lowBits_mem_digitBytes`), and this bit is not read.
-/

namespace MagicRules

/-- The shift takes no set bit out of the word, and what comes out has the low bits of the byte and,
from there on, the bits of the word. -/
structure KeepsBits (width : Nat) (word : UInt64) (b : UInt8) : Prop where
  kept : ∀ i, word.toNat.testBit i → i + width < 64
  bits : ∀ i, (shiftIn width word b).toNat.testBit i =
    if i < width then b.toNat.testBit i else word.toNat.testBit (i - width)

section Step

variable {width : Nat} (narrow : width ≤ 8)

include narrow

theorem keepsBits_of_room {word : UInt64} (room : word.toNat < 2 ^ (64 - width)) (b : UInt8) :
    KeepsBits width word b where
  kept i isSet := by
    have below : 2 ^ i < 2 ^ (64 - width) :=
      Nat.lt_of_le_of_lt (Nat.ge_two_pow_of_testBit isSet) room
    have lower : i < 64 - width := (Nat.pow_lt_pow_iff_right (by omega)).mp below
    omega
  bits i := by
    have digit : b.toNat % 2 ^ width < 2 ^ width := Nat.mod_lt _ (Nat.two_pow_pos width)
    rw [toNat_shiftIn narrow room, Nat.mul_comm, Nat.testBit_two_pow_mul_add _ digit,
      Nat.testBit_mod_two_pow]
    split_ifs with low
    · rw [decide_eq_true low, Bool.true_and]
    · rfl

/-- Whatever seven bytes and fewer were read before, the next step keeps all bits. -/
theorem keepsBits_wordOf (positive : 0 < width) {front : Bytes} (few : front.length ≤ 7)
    (b : UInt8) : KeepsBits width (wordOf width front) b := by
  apply keepsBits_of_room narrow
  rw [toNat_wordOf narrow positive (by omega)]
  exact digitsValue_room narrow positive few

end Step

/-- Lists of `k` bytes that are digits of the radix. -/
def digitBytes (radix k : Nat) : Set Bytes :=
  {bytes | bytes.length = k ∧ ∀ b ∈ bytes, b.toNat < radix}

theorem digitBytes_byte (k : Nat) : digitBytes 256 k = {bytes | bytes.length = k} := by
  ext bytes
  exact and_iff_left fun b _ => b.toNat_lt

theorem lowBits_mem_digitBytes (bytes : Bytes) :
    bytes.map (· &&& 0x7f) ∈ digitBytes 128 bytes.length := by
  refine ⟨List.length_map _, fun b member => ?_⟩
  obtain ⟨b, _, rfl⟩ := List.mem_map.mp member
  rw [UInt8.toNat_and]
  exact Nat.lt_of_le_of_lt Nat.and_le_right (by decide)

/-- Bit 7 is no part of a digit of radix 128. -/
theorem lowDigits_lowBits (bytes : Bytes) :
    lowDigits 128 (bytes.map (· &&& 0x7f)) = lowDigits 128 bytes := by
  have low (b : UInt8) : (b &&& 0x7f).toNat = b.toNat % 128 := by
    rw [UInt8.toNat_and]
    exact Nat.and_two_pow_sub_one_eq_mod b.toNat 7
  rw [lowDigits, lowDigits, List.map_map]
  apply List.map_congr_left
  intro b _
  rw [Function.comp_apply, low, Nat.mod_mod]

/-- Every list of digits is there in bytes, and once. -/
theorem bijOn_lowDigits {radix : Nat} (proper : 1 < radix) (le : radix ≤ 256) (k : Nat) :
    Set.BijOn (lowDigits radix) (digitBytes radix k)
      {digits | digits.length = k ∧ ∀ d ∈ digits, d < radix} := by
  have byte {d : Nat} (below : d < radix) : (UInt8.ofNat d).toNat = d :=
    UInt8.toNat_ofNat_of_lt' (Nat.lt_of_lt_of_le below le)
  have back : Set.InvOn (List.map UInt8.ofNat) (lowDigits radix) (digitBytes radix k)
      {digits | digits.length = k ∧ ∀ d ∈ digits, d < radix} := by
    constructor
    · rintro bytes ⟨_, digit⟩
      rw [lowDigits, List.map_map]
      refine (List.map_congr_left fun b member => ?_).trans bytes.map_id
      rw [Function.comp_apply, Nat.mod_eq_of_lt (digit b member), UInt8.ofNat_toNat, id]
    · rintro digits ⟨_, digit⟩
      rw [lowDigits, List.map_map]
      refine (List.map_congr_left fun d member => ?_).trans digits.map_id
      have below := digit d member
      rw [Function.comp_apply, byte below, Nat.mod_eq_of_lt below, id]
  refine back.bijOn ?_ ?_
  · rintro bytes ⟨rfl, _⟩
    exact ⟨List.length_map _, fun d => lt_of_mem_lowDigits proper⟩
  · rintro digits ⟨rfl, digit⟩
    refine ⟨List.length_map _, fun b member => ?_⟩
    obtain ⟨d, among, rfl⟩ := List.mem_map.mp member
    have below := digit d among
    rwa [byte below]

/-- What rearranges bytes, and done twice gives them back, permutes the lists of `k` digits. -/
theorem bijOn_rearranged {arrange : Bytes → Bytes} (perm : ∀ bytes, (arrange bytes).Perm bytes)
    (twice : Function.Involutive arrange) (radix k : Nat) :
    Set.BijOn arrange (digitBytes radix k) (digitBytes radix k) := by
  have maps : Set.MapsTo arrange (digitBytes radix k) (digitBytes radix k) := by
    rintro bytes ⟨rfl, digit⟩
    exact ⟨(perm bytes).length_eq, fun b member => digit b ((perm bytes).mem_iff.mp member)⟩
  have back : Set.InvOn arrange arrange (digitBytes radix k) (digitBytes radix k) :=
    ⟨fun bytes _ => twice bytes, fun bytes _ => twice bytes⟩
  exact back.bijOn maps maps

theorem bijOn_digitsValue {radix : Nat} (proper : 1 < radix) (le : radix ≤ 256) (k : Nat) :
    Set.BijOn (digitsValue radix) (digitBytes radix k) {n | n < radix ^ k} := by
  have reversed :=
    bijOn_rearranged (fun bytes => bytes.reverse_perm) List.reverse_involutive radix k
  apply ((Nat.bijOn_ofDigits proper k).comp ((bijOn_lowDigits proper le k).comp reversed)).congr
  intro bytes _
  rw [Function.comp_apply, Function.comp_apply, ← digitsValue_reverse, List.reverse_reverse]

namespace ByteOrder

theorem descending_involutive (order : ByteOrder) : Function.Involutive order.descending := by
  intro bytes
  fun_cases descending order bytes with
  | case1 => rfl
  | case2 => rfl
  | case3 =>
      rename_i notBig notFour
      rw [descending, List.reverse_reverse]
      · exact notBig
      · intro b₁ b₀ b₃ b₂ middle four
        exact notFour b₂ b₃ b₀ b₁ middle (List.reverse_eq_iff.mp four)

theorem descendingSynchsafe_involutive (order : ByteOrder) :
    Function.Involutive order.descendingSynchsafe := by
  intro bytes
  cases order with
  | little => exact List.reverse_reverse bytes
  | big => rfl
  | middle => exact List.reverse_reverse bytes

/-- A reader that weighs the digits of one to eight bytes, in an order of them, reads every number
below the power of the radix from one list of digits. -/
theorem bijOn_reader {radix : Nat} (proper : 1 < radix) (le : radix ≤ 256)
    {arrange : Bytes → Bytes} (perm : ∀ bytes, (arrange bytes).Perm bytes)
    (twice : Function.Involutive arrange) {k : Nat} (positive : 1 ≤ k) (few : k ≤ 8) :
    Set.BijOn
      (fun bytes => if Readable bytes then some (digitsValue radix (arrange bytes)) else none)
      (digitBytes radix k) (some '' {n | n < radix ^ k}) := by
  have value := (bijOn_digitsValue proper le k).comp (bijOn_rearranged perm twice radix k)
  have present := ((Option.some_injective Nat).injOn (s := {n | n < radix ^ k})).bijOn_image
  apply (present.comp value).congr
  rintro bytes ⟨rfl, _⟩
  exact (if_pos ⟨positive, few⟩).symm

theorem not_readable_iff {bytes : Bytes} : ¬Readable bytes ↔ bytes = [] ∨ 8 < bytes.length := by
  rw [Readable, ← List.length_eq_zero_iff]
  omega

theorem readable_congr {bytes others : Bytes} (length : bytes.length = others.length) :
    Readable bytes ↔ Readable others := by
  rw [Readable, Readable, length]

/-- Reading from the last byte on is reading from the first one on in the opposite order. -/
theorem read?_big (bytes : Bytes) : big.read? bytes = little.read? bytes.reverse := by
  have order : little.descending bytes.reverse = big.descending bytes := List.reverse_reverse bytes
  simp only [read?, order, readable_congr bytes.length_reverse]

theorem bijOn_read? (order : ByteOrder) {k : Nat} (positive : 1 ≤ k) (few : k ≤ 8) :
    Set.BijOn order.read? {bytes | bytes.length = k} (some '' {n | n < 256 ^ k}) := by
  rw [← digitBytes_byte, funext order.read?_eq_digits]
  exact bijOn_reader (by omega) (by omega) order.descending_perm order.descending_involutive
    positive few

theorem bijOn_readSynchsafe? (order : ByteOrder) {k : Nat} (positive : 1 ≤ k) (few : k ≤ 8) :
    Set.BijOn order.readSynchsafe? (digitBytes 128 k) (some '' {n | n < 128 ^ k}) := by
  rw [funext order.readSynchsafe?_eq_digits]
  exact bijOn_reader (by omega) (by omega) order.descendingSynchsafe_perm
    order.descendingSynchsafe_involutive positive few

theorem readSynchsafe?_lowBits (order : ByteOrder) (bytes : Bytes) :
    order.readSynchsafe? (bytes.map (· &&& 0x7f)) = order.readSynchsafe? bytes := by
  have number : order.synchsafeNumber (bytes.map (· &&& 0x7f)) = order.synchsafeNumber bytes := by
    cases order <;> simp only [synchsafeNumber, lowDigits_lowBits]
  simp only [readSynchsafe?_eq, number, readable_congr (List.length_map _)]

theorem image_readSynchsafe? (order : ByteOrder) {k : Nat} (positive : 1 ≤ k) (few : k ≤ 8) :
    order.readSynchsafe? '' {bytes | bytes.length = k} = some '' {n | n < 128 ^ k} := by
  have digits := order.bijOn_readSynchsafe? positive few
  apply Set.Subset.antisymm
  · rintro _ ⟨bytes, rfl, rfl⟩
    rw [← readSynchsafe?_lowBits]
    exact digits.mapsTo (lowBits_mem_digitBytes bytes)
  · rw [← digits.image_eq]
    exact Set.image_mono fun bytes member => member.1

/-- When bytes are read, in whatever order, seven and fewer are in the word before the next one is
put behind them. -/
theorem keepsBits_of_readable {width : Nat} (positive : 0 < width) (narrow : width ≤ 8)
    {bytes arranged : Bytes} (perm : arranged.Perm bytes) (readable : Readable bytes)
    {front back : Bytes} {b : UInt8} (step : arranged = front ++ b :: back) :
    KeepsBits width (wordOf width front) b := by
  apply keepsBits_wordOf narrow positive
  have length := perm.length_eq
  have most := readable.2
  rw [step, List.length_append, List.length_cons] at length
  omega

/-- Both readers keep all bits and add none. In every order, lists of one to eight bytes are the
numbers of as many digits of radix 256. Synchsafe numbers are those of as many digits of radix 128,
each of them from one list of bytes below 128, and bit 7 of a byte is ignored. The big order is the
little one from the last byte on, and for four bytes the middle order is the big one with the bytes
of each half exchanged. No step to such a number shifts a set bit out of the word, and other lists
of bytes are not read. -/
theorem readers_keep_bits (order : ByteOrder) :
    (∀ k, 1 ≤ k → k ≤ 8 →
      Set.BijOn order.read? {bytes | bytes.length = k} (some '' {n | n < 256 ^ k}) ∧
        order.readSynchsafe? '' {bytes | bytes.length = k} = some '' {n | n < 128 ^ k} ∧
        Set.InjOn order.readSynchsafe? {bytes | bytes.length = k ∧ ∀ b ∈ bytes, b < 128}) ∧
      (∀ bytes, big.read? bytes = little.read? bytes.reverse) ∧
      (∀ b₁ b₀ b₃ b₂, middle.read? [b₁, b₀, b₃, b₂] = big.read? [b₀, b₁, b₂, b₃]) ∧
      (∀ bytes, order.readSynchsafe? (bytes.map (· &&& 0x7f)) = order.readSynchsafe? bytes) ∧
      (∀ bytes, Readable bytes → ∀ front b back,
        (order.descending bytes = front ++ b :: back → KeepsBits 8 (wordOf 8 front) b) ∧
          (order.descendingSynchsafe bytes = front ++ b :: back →
            KeepsBits 7 (wordOf 7 front) b)) ∧
      ∀ bytes, (order.read? bytes = none ↔ bytes = [] ∨ 8 < bytes.length) ∧
        (order.readSynchsafe? bytes = none ↔ bytes = [] ∨ 8 < bytes.length) := by
  refine ⟨?_, read?_big, fun _ _ _ _ => rfl, order.readSynchsafe?_lowBits, ?_, ?_⟩
  · intro k positive few
    refine ⟨order.bijOn_read? positive few, order.image_readSynchsafe? positive few, ?_⟩
    apply (order.bijOn_readSynchsafe? positive few).injOn.mono
    rintro bytes ⟨length, low⟩
    exact ⟨length, fun b member => UInt8.lt_iff_toNat_lt.mp (low b member)⟩
  · intro bytes readable front b back
    constructor
    · exact keepsBits_of_readable (by omega) (by omega) (order.descending_perm bytes) readable
    · exact keepsBits_of_readable (by omega) (by omega) (order.descendingSynchsafe_perm bytes)
        readable
  · intro bytes
    rw [read?, readSynchsafe?, ← not_readable_iff]
    simp only [ite_eq_right_iff, reduceCtorEq, imp_false, and_self]

/-- Eight bytes with all bits set fill the word. The last step shifts 56 set bits, or 49. -/
theorem readers_keep_bits_ones :
    let ones : Bytes := List.replicate 8 0xff
    let front : Bytes := List.replicate 7 0xff
    (1 ≤ 8 ∧ 8 ≤ 8 ∧ Set.BijOn middle.read? {bytes | bytes.length = 8} (some '' {n | n < 256 ^ 8}) ∧
      middle.readSynchsafe? '' {bytes | bytes.length = 8} = some '' {n | n < 128 ^ 8} ∧
      Set.InjOn middle.readSynchsafe? {bytes | bytes.length = 8 ∧ ∀ b ∈ bytes, b < 128}) ∧
    (Readable ones ∧ middle.descending ones = front ++ [0xff] ∧
      middle.descendingSynchsafe ones = front ++ [0xff] ∧
      KeepsBits 8 (wordOf 8 front) 0xff ∧ KeepsBits 7 (wordOf 7 front) 0xff) ∧
    middle.read? ones = some 0xffffffffffffffff ∧
      middle.readSynchsafe? ones = some 0xffffffffffffff := by
  intro ones front
  obtain ⟨sizes, _, _, _, steps, _⟩ := readers_keep_bits middle
  have readable : Readable ones := by decide
  have plain : middle.descending ones = front ++ [0xff] := rfl
  have synchsafe : middle.descendingSynchsafe ones = front ++ [0xff] := rfl
  obtain ⟨plainStep, synchsafeStep⟩ := steps ones readable front 0xff []
  refine ⟨⟨by decide, by decide, sizes 8 (by decide) (by decide)⟩, ⟨readable, plain, synchsafe,
    plainStep plain, synchsafeStep synchsafe⟩, ?_, ?_⟩
  · decide
  · decide

end ByteOrder

end MagicRules
