import MagicRules.Proofs.ByteOrder
import MagicRules.Proofs.Offset

/-!
# Where an indirect offset leads

An offset can be resolved exactly if the content has all of its bytes, one to eight of them
(`resolve?_eq_some_iff`). It is the number that these bytes hold, with the adjustment added. Seven
bytes, or eight of which only seven bits count, leave a number below `2 ^ 56`, so an adjustment of
32 bits cannot take the sum out of the 64-bit numbers. The offsets of rules are stored in at most
four bytes and lead no further than that (`bounds_of_resolve?`).
-/

namespace MagicRules.Indirect

/-- The content has all bytes of the stored offset, and they are one to eight. -/
structure Within (p : Indirect) (content : Bytes) : Prop where
  base_nonneg : 0 ≤ p.base
  size_pos : 1 ≤ p.size
  size_le : p.size ≤ 8
  end_le : p.base + p.size ≤ content.length

/-- The bytes of the content at the base. -/
def window (p : Indirect) (content : Bytes) : Bytes := (content.drop p.base.toNat).take p.size

/-- The number that bytes hold in the type of the offset. -/
def numberIn (p : Indirect) (bytes : Bytes) : Nat :=
  if p.synchsafe then p.order.synchsafeNumber bytes else p.order.number bytes

/-- The number that the content holds at the base, before it is adjusted. -/
def storedNumber (p : Indirect) (content : Bytes) : Nat := p.numberIn (p.window content)

/-- Offsets whose number, adjusted in 32 bits, is a 64-bit number whatever the content. -/
structure Sound (p : Indirect) : Prop where
  add_fits : IntRange.signed32.Contains p.add
  narrow : p.synchsafe ∨ p.size ≠ 8

theorem length_window {p : Indirect} {content : Bytes} (nonneg : 0 ≤ p.base)
    (end_le : p.base + p.size ≤ content.length) : (p.window content).length = p.size := by
  rw [window, List.length_take, List.length_drop]
  omega

theorem stored?_eq_some_iff {p : Indirect} {content bytes : Bytes} :
    p.stored? content = some bytes ↔
      0 ≤ p.base ∧ p.base + p.size ≤ content.length ∧ bytes = p.window content := by
  rw [stored?, window]
  split_ifs with inside
  · rw [Option.some.injEq, eq_comm]
    constructor
    · intro same
      exact ⟨inside.1, by omega, same⟩
    · rintro ⟨_, _, same⟩
      exact same
  · constructor
    · exact nofun
    · rintro ⟨nonneg, end_le, _⟩
      exact absurd ⟨nonneg, by omega⟩ inside

theorem resolve?_eq_bind (p : Indirect) (content : Bytes) :
    p.resolve? content = (p.stored? content).bind fun bytes =>
      if ByteOrder.Readable bytes then some (IntRange.signed64.wrap (p.numberIn bytes + p.add))
      else none := by
  rw [resolve?]
  apply congrArg (Option.bind (p.stored? content))
  funext bytes
  rw [numberIn, ByteOrder.readSynchsafe?_eq, ByteOrder.read?_eq]
  split_ifs <;> rfl

/-- An offset is resolved exactly if its bytes are there. -/
theorem resolve?_eq_some_iff {p : Indirect} {content : Bytes} {n : Int} :
    p.resolve? content = some n ↔
      p.Within content ∧ n = IntRange.signed64.wrap (p.storedNumber content + p.add) := by
  rw [resolve?_eq_bind, Option.bind_eq_some_iff]
  constructor
  · rintro ⟨bytes, stored, result⟩
    obtain ⟨nonneg, end_le, rfl⟩ := stored?_eq_some_iff.mp stored
    split_ifs at result with readable
    rw [ByteOrder.Readable, length_window nonneg end_le] at readable
    exact ⟨⟨nonneg, readable.1, readable.2, end_le⟩, (Option.some.inj result).symm⟩
  · rintro ⟨⟨nonneg, positive, eight, end_le⟩, rfl⟩
    refine ⟨_, stored?_eq_some_iff.mpr ⟨nonneg, end_le, rfl⟩, if_pos ?_⟩
    rw [ByteOrder.Readable, length_window nonneg end_le]
    exact ⟨positive, eight⟩

theorem storedNumber_lt_pow {p : Indirect} {content : Bytes} (h : p.Within content) :
    p.storedNumber content < (if p.synchsafe then 128 else 256) ^ p.size := by
  rw [storedNumber, numberIn, ← length_window h.base_nonneg h.end_le]
  split_ifs
  · exact p.order.synchsafeNumber_lt _
  · exact p.order.number_lt _

/-- Seven bytes, and eight of seven bits, hold less than `2 ^ 56`. -/
theorem storedNumber_lt {p : Indirect} {content : Bytes} (sound : p.Sound)
    (h : p.Within content) : p.storedNumber content < 2 ^ 56 := by
  have lt := storedNumber_lt_pow h
  have size := h.size_le
  by_cases synchsafe : p.synchsafe
  · rw [if_pos synchsafe] at lt
    calc p.storedNumber content < 128 ^ p.size := lt
      _ ≤ 128 ^ 8 := Nat.pow_le_pow_right (by omega) size
      _ = 2 ^ 56 := by norm_num
  · rw [if_neg synchsafe] at lt
    have narrow : p.size ≤ 7 := by
      have := sound.narrow.resolve_left synchsafe
      omega
    calc p.storedNumber content < 256 ^ p.size := lt
      _ ≤ 256 ^ 7 := Nat.pow_le_pow_right (by omega) narrow
      _ = 2 ^ 56 := by norm_num

theorem contains_sum {p : Indirect} {content : Bytes} (sound : p.Sound) (h : p.Within content) :
    IntRange.signed64.Contains (p.storedNumber content + p.add) := by
  have lt := storedNumber_lt sound h
  obtain ⟨least, most⟩ := sound.add_fits
  simp only [IntRange.Contains, IntRange.signed64, IntRange.signed32] at least most ⊢
  omega

theorem resolve?_of_sound {p : Indirect} {content : Bytes} (sound : p.Sound) {n : Int} :
    p.resolve? content = some n ↔
      p.Within content ∧ n = p.storedNumber content + p.add := by
  rw [resolve?_eq_some_iff]
  constructor
  · rintro ⟨within, rfl⟩
    exact ⟨within, IntRange.wrap_of_contains (contains_sum sound within)⟩
  · rintro ⟨within, rfl⟩
    exact ⟨within, (IntRange.wrap_of_contains (contains_sum sound within)).symm⟩

/-- The number of an offset that a rule can have is stored in at most four bytes. -/
theorem Bounded.size_le {p : Indirect} (h : p.Bounded) : p.size ≤ 4 := by
  have all : ∀ type ∈ storedTypes, type.1 ≤ 4 := by decide
  exact all _ h.type_mem

theorem Bounded.sound {p : Indirect} (h : p.Bounded) : p.Sound := by
  have least : IntRange.signed32.least ≤ -IntRange.signed32.most := by decide
  have size := h.size_le
  exact ⟨⟨Int.le_trans least h.le_add, h.add_le⟩, .inr (by omega)⟩

/-- How far the offset of a rule can lead. -/
theorem bounds_of_resolve? {p : Indirect} (h : p.Bounded) {content : Bytes} {n : Int}
    (resolved : p.resolve? content = some n) : -2 ^ 31 < n ∧ n < 2 ^ 32 + 2 ^ 31 := by
  obtain ⟨within, rfl⟩ := (resolve?_of_sound h.sound).mp resolved
  have radix : (if p.synchsafe then 128 else 256) ≤ 256 := by
    split_ifs <;> omega
  have number : p.storedNumber content < 2 ^ 32 :=
    calc p.storedNumber content < (if p.synchsafe then 128 else 256) ^ p.size :=
          storedNumber_lt_pow within
      _ ≤ 256 ^ p.size := Nat.pow_le_pow_left radix p.size
      _ ≤ 256 ^ 4 := Nat.pow_le_pow_right (by omega) h.size_le
      _ = 2 ^ 32 := by norm_num
  have leAdd := h.le_add
  have addLe := h.add_le
  simp only [IntRange.signed32] at leAdd addLe
  omega

/-- An offset is resolved exactly if the content has its bytes, one to eight of them. It is then
the number in those bytes with the adjustment added, and neither the number nor the sum goes beyond
64 bits. That is so for every offset that a rule can have, and such an offset leads to a place
between `-2 ^ 31` and `2 ^ 32 + 2 ^ 31`. -/
theorem resolve?_exact :
    (∀ p : Indirect, p.Sound → ∀ content,
      ((p.resolve? content).isSome ↔ p.Within content) ∧
        ∀ n, p.resolve? content = some n → n = p.storedNumber content + p.add ∧
          IntRange.signed64.Contains (p.storedNumber content) ∧
          IntRange.signed64.Contains (p.storedNumber content + p.add)) ∧
      ∀ t p, ofText t = .ok p → p.Sound ∧ ∀ content n, p.resolve? content = some n →
        -2 ^ 31 < n ∧ n < 2 ^ 32 + 2 ^ 31 := by
  constructor
  · intro p sound content
    refine ⟨?_, ?_⟩
    · rw [Option.isSome_iff_exists]
      constructor
      · rintro ⟨n, resolved⟩
        exact ((resolve?_of_sound sound).mp resolved).1
      · intro within
        exact ⟨_, (resolve?_of_sound sound).mpr ⟨within, rfl⟩⟩
    · intro n resolved
      obtain ⟨within, rfl⟩ := (resolve?_of_sound sound).mp resolved
      refine ⟨rfl, ?_, contains_sum sound within⟩
      have lt := storedNumber_lt sound within
      simp only [IntRange.Contains, IntRange.signed64]
      omega
  · intro t p read
    have bounded := bounded_of_ofText read
    refine ⟨bounded.sound, ?_⟩
    intro content n resolved
    exact bounds_of_resolve? bounded resolved

/-- Two words, the high one first, with the least adjustment of all; and an offset of a rule that
is stored there. -/
theorem resolve?_exact_middle :
    let content : Bytes := [0, 0, 0xfe, 0xca, 0xbe, 0xba]
    let p : Indirect :=
      { base := 2, order := .middle, synchsafe := false, size := 4, add := -0x80000000 }
    p.Sound ∧ p.Within content ∧ (0x4afebabe : Int) = p.storedNumber content + p.add ∧
      ofText "(2.m+1)".toList = .ok { p with add := 1 } ∧ (0xcafebabf : Int) < 2 ^ 32 + 2 ^ 31 := by
  intro content p
  obtain ⟨all, ofRules⟩ := resolve?_exact
  have sound : p.Sound := ⟨by decide, .inr (by decide)⟩
  obtain ⟨within, value⟩ := all p sound content
  have resolved : p.resolve? content = some 0x4afebabe := by decide
  have read : ofText "(2.m+1)".toList = .ok { p with add := 1 } := rfl
  have next : { p with add := 1 }.resolve? content = some 0xcafebabf := by decide
  obtain ⟨_, bounds⟩ := ofRules _ _ read
  obtain ⟨_, below⟩ := bounds content _ next
  refine ⟨sound, within.mp ?_, (value _ resolved).1, read, below⟩
  rw [resolved]
  rfl

end MagicRules.Indirect
