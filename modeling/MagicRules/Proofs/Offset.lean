import MagicRules.Offset.Parser
import MagicRules.Proofs.Literal
import MagicRules.Proofs.Offset.Grammar
import MagicRules.Proofs.Text
import Mathlib.Data.Set.Function

/-!
# Indirect offsets, read and written

The text of an indirect offset has no signs but the one between its two numbers. So what is read
has a base that is not negative and an adjustment whose negative is a number of 32 bits too
(`bounded_of_ofText`). Those are the offsets that can be written and read back
(`ofText_written`): the base is written in hexadecimal, which the point behind it ends, and the
type letters tell the types apart. Reading and writing are therefore inverse on the offsets that
can be read (`readable_written_back`).
-/

namespace MagicRules.Indirect

/-- Size, byte order and synchsafety of the numbers that an indirect offset may be stored in. -/
def storedTypes : List (Nat × ByteOrder × Bool) :=
  [(1, .little, false), (1, .big, false), (2, .little, false), (2, .big, false),
   (4, .little, true), (4, .big, true), (4, .little, false), (4, .big, false),
   (4, .middle, false)]

/-- The indirect offsets that a rule can have. -/
structure Bounded (p : Indirect) : Prop where
  base_nonneg : 0 ≤ p.base
  base_le : p.base ≤ IntRange.signed32.most
  le_add : -IntRange.signed32.most ≤ p.add
  add_le : p.add ≤ IntRange.signed32.most
  type_mem : (p.size, p.order, p.synchsafe) ∈ storedTypes

theorem letterType_mem (letter : Option Char) : letterType letter ∈ storedTypes := by
  unfold letterType
  split <;> decide

theorem letterType_letter {p : Indirect}
    (h : (p.size, p.order, p.synchsafe) ∈ storedTypes) :
    letterType (some p.letter) = (p.size, p.order, p.synchsafe) := by
  obtain ⟨base, order, synchsafe, size, add⟩ := p
  simp only [storedTypes, List.mem_cons, List.not_mem_nil, or_false, Prod.mk.injEq] at h
  rcases h with ⟨rfl, rfl, rfl⟩ | ⟨rfl, rfl, rfl⟩ | ⟨rfl, rfl, rfl⟩ | ⟨rfl, rfl, rfl⟩ |
    ⟨rfl, rfl, rfl⟩ | ⟨rfl, rfl, rfl⟩ | ⟨rfl, rfl, rfl⟩ | ⟨rfl, rfl, rfl⟩ | ⟨rfl, rfl, rfl⟩ <;> rfl

theorem letter_mem (p : Indirect) : p.letter ∈ typeLetters := by
  unfold letter
  split <;> decide

theorem head?_ne_minus {t : Text} (h : ∀ c ∈ t, isNumberChar c) : t.head? ≠ some '-' := by
  intro minus
  exact absurd (h '-' (List.mem_of_head? minus)) (by decide)

theorem bounds_of_read32 {t : Text} {n : Int} (digits : ∀ c ∈ t, isNumberChar c)
    (read : Literal.read32 t = .ok n) : 0 ≤ n ∧ n ≤ IntRange.signed32.most :=
  Literal.bounds_of_read (by decide) read (head?_ne_minus digits)

theorem isNumberChar_of_isSome {radix : Nat} {c : Char} (h : (digit? radix c).isSome) :
    isNumberChar c := by
  obtain ⟨d, digit⟩ := Option.isSome_iff_exists.mp h
  simp [isNumberChar, isHexDigit, (digit?_eq_some_iff.mp digit).1]

namespace Parts

theorem isNumberChar_of_ofText? {t : Text} {parts : Parts} (h : ofText? t = some parts) :
    (∀ c ∈ parts.base, isNumberChar c) ∧ ∀ c ∈ parts.add, isNumberChar c := by
  obtain ⟨_, longest⟩ := longest_of_ofText? h
  constructor
  · intro c member
    exact isNumberChar_iff.mpr (longest.base_mem c member)
  · intro c member
    exact isNumberChar_iff.mpr (longest.add_mem c member)

theorem ofText?_dotted {base add : Text} {letter : Char} {sign : Option Char}
    (nonempty : base ≠ []) (hbase : ∀ c ∈ base, isNumberChar c) (hletter : letter ∈ typeLetters)
    (hsign : ∀ c ∈ sign, isSign c) (hadd : ∀ c ∈ add, isNumberChar c) :
    ofText? ('(' :: (base ++ '.' :: letter :: (sign.toList ++ (add ++ [')'])))) =
      some { base, letter := some letter, sign, add } := by
  refine ofText?_eq_some_iff.mpr ⟨some '.', ⟨rfl, nonempty, ?_, ?_, ?_, ?_, ?_⟩, ?_, nofun⟩
  · intro c member
    exact isNumberChar_iff.mp (hbase c member)
  · rintro _ ⟨⟩
    exact List.mem_singleton_self _
  · rintro _ ⟨⟩
    exact hletter
  · intro c member
    exact isSign_iff.mp (hsign c member)
  · intro c member
    exact isNumberChar_iff.mp (hadd c member)
  · rintro _ ⟨⟩
    decide

end Parts

/-- The adjustment is zero without digits, and else the number of the digits with the sign. -/
theorem readAdd_eq_ok_iff {parts : Parts} {add : Int} :
    readAdd parts = .ok add ↔
      parts.add = [] ∧ add = 0 ∨
        parts.add ≠ [] ∧ ∃ n, Literal.read32 parts.add = .ok n ∧
          add = if parts.sign = some '-' then IntRange.signed32.wrap (-n) else n := by
  rw [readAdd]
  by_cases empty : parts.add = []
  · simp [empty, eq_comm]
  · rw [if_neg (by simpa using empty)]
    cases Literal.read32 parts.add with
    | error cause => simp [empty]
    | ok n => simp [empty, eq_comm]

theorem wrap_neg {n : Int} (nonneg : 0 ≤ n) (le : n ≤ IntRange.signed32.most) :
    IntRange.signed32.wrap (-n) = -n := by
  apply IntRange.wrap_of_contains
  simp only [IntRange.Contains, IntRange.signed32] at le ⊢
  omega

theorem add_bounds_of_readAdd {parts : Parts} {add : Int}
    (digits : ∀ c ∈ parts.add, isNumberChar c) (h : readAdd parts = .ok add) :
    -IntRange.signed32.most ≤ add ∧ add ≤ IntRange.signed32.most := by
  rcases readAdd_eq_ok_iff.mp h with ⟨_, rfl⟩ | ⟨_, n, read, rfl⟩
  · decide
  · obtain ⟨nonneg, le⟩ := bounds_of_read32 digits read
    rw [wrap_neg nonneg le]
    split_ifs <;> omega

/-- What is read can be the offset of a rule. -/
theorem bounded_of_ofText {t : Text} {p : Indirect} (h : ofText t = .ok p) : p.Bounded := by
  unfold ofText at h
  split at h
  · cases h
  · rename_i parts shape
    obtain ⟨baseDigits, addDigits⟩ := Parts.isNumberChar_of_ofText? shape
    split at h
    · cases h
    · rename_i base read
      obtain ⟨nonneg, le⟩ := bounds_of_read32 baseDigits read
      obtain ⟨add, readAdd, made⟩ := exists_ok_of_bind_eq_ok h
      obtain ⟨leAdd, addLe⟩ := add_bounds_of_readAdd addDigits readAdd
      cases made
      exact ⟨nonneg, le, leAdd, addLe, letterType_mem parts.letter⟩

/-- The sign in front of the adjustment as it is written. -/
def writtenSign (p : Indirect) : Option Char :=
  if p.add = 0 then none else if p.add < 0 then some '-' else some '+'

def writtenDigits (p : Indirect) : Text := if p.add = 0 then [] else Text.ofNat 10 p.add.natAbs

def writtenParts (p : Indirect) : Parts :=
  { base := '0' :: 'x' :: Text.ofNat 16 p.base.natAbs, letter := some p.letter
    sign := p.writtenSign, add := p.writtenDigits }

theorem written_eq {p : Indirect} (h : 0 ≤ p.base) :
    p.written = '(' :: (p.writtenParts.base ++ '.' :: p.letter ::
      (p.writtenSign.toList ++ (p.writtenDigits ++ [')']))) := by
  have base : ¬ p.base < 0 := by omega
  rw [written, if_neg base, writtenSign, writtenDigits]
  split_ifs with zero negative <;> simp [Text.ofInt, writtenParts, *]

theorem parts_written {p : Indirect} (h : p.Bounded) :
    Parts.ofText? p.written = some p.writtenParts := by
  have hex : ∀ c ∈ p.writtenParts.base, isNumberChar c := by
    intro c member
    rcases List.mem_cons.mp member with rfl | member
    · decide
    rcases List.mem_cons.mp member with rfl | digit
    · decide
    exact isNumberChar_of_isSome (isSome_of_mem_ofNat (by omega) (by omega : 16 ≤ 16) digit)
  have decimal : ∀ c ∈ p.writtenDigits, isNumberChar c := by
    intro c member
    rw [writtenDigits] at member
    split_ifs at member
    · cases member
    · exact isNumberChar_of_isSome (isSome_of_mem_ofNat (by omega) (by omega : 10 ≤ 16) member)
  have sign : ∀ c ∈ p.writtenSign, isSign c := by
    intro c member
    rw [writtenSign] at member
    split_ifs at member <;> cases member <;> decide
  rw [written_eq h.base_nonneg]
  exact Parts.ofText?_dotted (List.cons_ne_nil _ _) hex p.letter_mem sign decimal

theorem readAdd_writtenParts {p : Indirect} (h : p.Bounded) :
    readAdd p.writtenParts = .ok p.add := by
  obtain ⟨_, _, leAdd, addLe, _⟩ := h
  by_cases zero : p.add = 0
  · exact readAdd_eq_ok_iff.mpr (.inl ⟨if_pos zero, zero⟩)
  have digits : p.writtenParts.add = Text.ofNat 10 p.add.natAbs := if_neg zero
  have nonneg : 0 ≤ (p.add.natAbs : Int) := Int.natCast_nonneg _
  have le : (p.add.natAbs : Int) ≤ IntRange.signed32.most := by omega
  have read : Literal.read32 (Text.ofNat 10 p.add.natAbs) = .ok (p.add.natAbs : Int) :=
    Literal.read_decimal (by decide) ⟨Int.le_trans (by decide) nonneg, le⟩
  refine readAdd_eq_ok_iff.mpr (.inr ⟨?_, _, digits ▸ read, ?_⟩)
  · rw [digits]
    exact ofNat_ne_nil 10 _
  · have sign : p.writtenParts.sign = some '-' ↔ p.add < 0 := by
      simp only [writtenParts, writtenSign, if_neg zero]
      split_ifs with negative <;> simp [negative]
    simp only [sign, wrap_neg nonneg le]
    split_ifs <;> omega

/-- An offset that a rule can have is read back from what is written. -/
theorem ofText_written {p : Indirect} (h : p.Bounded) : ofText p.written = .ok p := by
  have fits : IntRange.signed32.Contains p.base :=
    ⟨Int.le_trans (by decide) h.base_nonneg, h.base_le⟩
  have natural : (p.base.natAbs : Int) = p.base := Int.natAbs_of_nonneg h.base_nonneg
  have base : Literal.read32 p.writtenParts.base = .ok p.base := by
    have read := Literal.read_hex (by decide) (natural.symm ▸ fits)
    rwa [natural] at read
  simp only [ofText, parts_written h, base, readAdd_writtenParts h]
  simp only [writtenParts, letterType_letter h.type_mem]
  rfl

theorem readable_iff_bounded (p : Indirect) : (∃ t, ofText t = .ok p) ↔ p.Bounded := by
  constructor
  · rintro ⟨t, read⟩
    exact bounded_of_ofText read
  · intro bounded
    exact ⟨p.written, ofText_written bounded⟩

/-- The adjustment is read as a number whose negative is a number of 32 bits too. -/
theorem wrap_neg_of_readAdd {t : Text} {parts : Parts} {n : Int}
    (shape : Parts.ofText? t = some parts) (read : Literal.read32 parts.add = .ok n) :
    IntRange.signed32.wrap (-n) = -n := by
  obtain ⟨_, digits⟩ := Parts.isNumberChar_of_ofText? shape
  obtain ⟨nonneg, le⟩ := bounds_of_read32 digits read
  exact wrap_neg nonneg le

/-- No two offsets that can be read are written alike. -/
theorem written_injOn : {p | ∃ t, ofText t = .ok p}.InjOn written := by
  intro p readable q readable' same
  have hp := ofText_written ((readable_iff_bounded p).mp readable)
  have hq := ofText_written ((readable_iff_bounded q).mp readable')
  rw [same, hq] at hp
  exact (Except.ok.inj hp).symm

/-- The offsets that can be read are exactly the bounded ones, no adjustment wraps when its sign
is put to it, and what is written of such an offset is read as that offset. So offsets are told
apart by what is written of them, and a text that was written from a reading is written again from
its own reading. -/
theorem readable_written_back :
    (∀ p : Indirect, (∃ t, ofText t = .ok p) ↔ p.Bounded) ∧
      (∀ t parts n, Parts.ofText? t = some parts → Literal.read32 parts.add = .ok n →
        IntRange.signed32.wrap (-n) = -n) ∧
      (∀ p : Indirect, p.Bounded → ofText p.written = .ok p) ∧
      {p | ∃ t, ofText t = .ok p}.InjOn written ∧
      ∀ t u, (ofText t).map written = .ok u → (ofText u).map written = .ok u := by
  refine ⟨readable_iff_bounded, ?_, ?_, written_injOn, ?_⟩
  · intro t parts n shape read
    exact wrap_neg_of_readAdd shape read
  · intro p bounded
    exact ofText_written bounded
  · intro t u written
    obtain ⟨p, read, rfl⟩ := exists_ok_of_map_eq_ok written
    rw [ofText_written (bounded_of_ofText read)]
    rfl

/-- An octal base and a hexadecimal adjustment at its limit are written in other digits, and stay
the same offset. -/
theorem readable_written_back_octal :
    Bounded { base := 6, order := .big, synchsafe := true, size := 4, add := -0x7fffffff } ∧
      IntRange.signed32.wrap (-0x7fffffff) = -0x7fffffff ∧
      (ofText "(0x6.I-2147483647)".toList).map written = .ok "(0x6.I-2147483647)".toList := by
  obtain ⟨bounded, negative, _, _, again⟩ := readable_written_back
  have read : ofText "(06.I-0x7fffffff)".toList =
      .ok { base := 6, order := .big, synchsafe := true, size := 4, add := -0x7fffffff } := by
    rfl
  refine ⟨(bounded _).mp ⟨_, read⟩, ?_, ?_⟩
  · exact negative "(06.I-0x7fffffff)".toList
      { base := ['0', '6'], letter := some 'I', sign := some '-', add := "0x7fffffff".toList }
      0x7fffffff rfl rfl
  · refine again "(06.I-0x7fffffff)".toList _ ?_
    rw [read]
    rfl

theorem forall_mem_written {P : Char → Prop} (digits : ∀ d < 16, P d.digitChar)
    (marks : ∀ c ∈ "()+-.x".toList ++ typeLetters, P c) (p : Indirect) :
    ∀ c ∈ p.written, P c := by
  have decimal := forall_mem_ofInt (fun d lt => digits d (by omega)) (marks '-' (by decide))
  have hex := forall_mem_ofNat (by omega : 2 ≤ 16) digits p.base.natAbs
  have letter := marks p.letter (List.mem_append_right _ p.letter_mem)
  have base : ∀ c ∈ if p.base < 0 then Text.ofInt p.base
      else '0' :: 'x' :: Text.ofNat 16 p.base.natAbs, P c := by
    split_ifs
    · exact decimal p.base
    · exact List.forall_mem_cons.mpr
        ⟨digits 0 (by omega), List.forall_mem_cons.mpr ⟨marks 'x' (by decide), hex⟩⟩
  have add : ∀ c ∈ if p.add = 0 then [] else if p.add < 0 then Text.ofInt p.add
      else '+' :: Text.ofInt p.add, P c := by
    split_ifs
    · exact fun _ => nofun
    · exact decimal p.add
    · exact List.forall_mem_cons.mpr ⟨marks '+' (by decide), decimal p.add⟩
  intro c member
  rw [written] at member
  simp only [List.mem_append, List.mem_cons, List.not_mem_nil, or_false] at member
  rcases member with (((rfl | inBase) | (rfl | rfl)) | inAdd) | rfl
  · exact marks '(' (by decide)
  · exact base c inBase
  · exact marks '.' (by decide)
  · exact letter
  · exact add c inAdd
  · exact marks ')' (by decide)

end MagicRules.Indirect
