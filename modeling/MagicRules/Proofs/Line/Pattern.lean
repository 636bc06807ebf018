import MagicRules.Proofs.Field.Written
import MagicRules.Proofs.Line.Parts
import MagicRules.Proofs.Registry
import MagicRules.Proofs.Text.Latin

/-!
# Patterns of any bytes

Every byte can be written in the test of a rule: in two hexadecimal or three octal digits behind a
backslash, and as the character of its value if that stands for itself. Each of these is complete,
so they may be mixed as one likes, also with digits behind an escape. What the rule tests for are
these bytes and no others.
-/

namespace MagicRules.Line

/-- The ways to write a byte. -/
inductive Spelling (b : UInt8) : Text → Prop
  | hex {high low : Char} {h l : Nat} (digit_high : digit? 16 high = some h)
      (digit_low : digit? 16 low = some l) (value : h * 16 + l = b.toNat) :
      Spelling b ['\\', 'x', high, low]
  | octal {high mid low : Char} {h m l : Nat} (digit_high : digit? 8 high = some h)
      (digit_mid : digit? 8 mid = some m) (digit_low : digit? 8 low = some l)
      (value : (h * 8 + m) * 8 + l = b.toNat) :
      Spelling b ['\\', high, mid, low]
  | raw (plain : Field.IsPlain (Char.ofNat b.toNat)) : Spelling b [Char.ofNat b.toNat]

/-- The text writes the bytes one by one, each in a way of its own. -/
inductive Spells : Bytes → Text → Prop
  | nil : Spells [] []
  | cons {b : UInt8} {bytes : Bytes} {t rest : Text} (first : Spelling b t)
      (others : Spells bytes rest) : Spells (b :: bytes) (t ++ rest)

/-- The types whose tests are bytes with modifiers. -/
def patternTypes : List MagicType :=
  [{ name := "string".toList, kind := .string }, { name := "search".toList, kind := .search },
   { name := "pstring".toList, kind := .pstring }]

theorem Spelling.writes {b : UInt8} {t : Text} (h : Spelling b t) :
    Field.Writes t (Text.ofBytes [b]) := by
  cases h with
  | hex digit_high digit_low value =>
      have written := Field.Writes.hex digit_high digit_low
      rwa [value] at written
  | octal digit_high digit_mid digit_low value =>
      have written := Field.Writes.octal digit_high digit_mid digit_low
      rwa [value, Nat.mod_eq_of_lt b.toNat_lt] at written
  | raw plain => exact Field.Writes.plain (by simpa using plain)

theorem Spells.writes {bytes : Bytes} {t : Text} (h : Spells bytes t) :
    Field.Writes t (Text.ofBytes bytes) := by
  induction h with
  | nil => exact Field.Writes.nil
  | cons first others ih => exact first.writes.append ih

theorem resolve?_of_mem_patternTypes {type : MagicType} (h : type ∈ patternTypes) :
    Registry.builtin.resolve? type.name = some type := by
  have all : ∀ type ∈ patternTypes, Registry.builtin.resolve? type.name = some type := by decide
  exact all type h

/-- Without modifiers a pattern is taken as it is. -/
theorem readTest_of_mem_patternTypes {type : MagicType} (h : type ∈ patternTypes) {t : Text}
    (test : t ≠ ['x']) :
    readTest type type.name t = .ok (some (.bytes (BytesTest.ofText t))) := by
  simp only [patternTypes, List.mem_cons, List.not_mem_nil, or_false] at h
  rw [readTest, if_neg test]
  rcases h with rfl | rfl | rfl <;> rfl

/-- A rule for a pattern of bytes tests for exactly these bytes, in whatever way each of them is
written, and has neither flags nor range nor message. Only the byte of the letter `x` alone is
something else, the test that always holds. -/
theorem read_spelled {type : MagicType} (h : type ∈ patternTypes) {bytes : Bytes} {t : Text}
    (spelled : Spells bytes t) (nonempty : bytes ≠ []) (test : bytes ≠ [0x78]) :
    read .builtin ("0 ".toList ++ type.name ++ ' ' :: t) =
      .ok (.rule (wordless 0 false (.direct 0) type none false
        (some (.bytes { pattern := bytes })))) := by
  have found := resolve?_of_mem_patternTypes h
  have named := Registry.builtin_ne_nil found
  have plain := Registry.builtin_plain found
  have content : Text.ofBytes bytes ≠ [] := by
    simpa [Text.ofBytes] using nonempty
  have zero : Field.Writes ['0'] ['0'] := .plain (List.forall_mem_singleton.mpr (by decide))
  have fields : Field.split ("0 ".toList ++ type.name ++ ' ' :: t) 4 =
      [['0'], type.name, Text.ofBytes bytes] :=
    Field.split_three zero (.plain fun c member => (plain c member).1) spelled.writes
      (List.cons_ne_nil _ _) named content rfl rfl (Nat.le_succ 3)
  have mask : readMask type.name = .ok (type.name, none) :=
    readMask_bare named fun member => (plain '&' member).2 rfl
  have other : Text.ofBytes bytes ≠ ['x'] := by
    intro same
    have letter := congrArg Text.toBytes same
    rw [Text.toBytes_ofBytes] at letter
    exact test letter
  have pattern : readTest type type.name (Text.ofBytes bytes) =
      .ok (some (.bytes { pattern := bytes })) := by
    rw [readTest_of_mem_patternTypes h other, BytesTest.ofText, Text.toBytes_ofBytes]
  have rule : ¬ isExtension ("0 ".toList ++ type.name ++ ' ' :: t) :=
    not_isExtension_of_notMem (show '!' ∉ some '0' by decide)
  exact read_of_parts rule fields rfl mask (resolveType_named found) pattern

/-- Escapes end where they are complete: the digit `7` behind the first one is a byte of its own. -/
theorem read_spelled_mixture :
    read .builtin "0 search \\x1b7\\000\u00ff\\040".toList =
      .ok (.rule (wordless 0 false (.direct 0) { name := "search".toList, kind := .search } none
        false (some (.bytes { pattern := [0x1b, 0x37, 0x00, 0xff, 0x20] })))) := by
  have spelled : Spells [0x1b, 0x37, 0x00, 0xff, 0x20] "\\x1b7\\000\u00ff\\040".toList :=
    .cons (.hex rfl rfl rfl) (.cons (.raw (by decide)) (.cons (.octal rfl rfl rfl rfl)
      (.cons (.raw (by decide)) (.cons (.octal rfl rfl rfl rfl) .nil))))
  have search : { name := "search".toList, kind := .search } ∈ patternTypes := by
    decide
  exact read_spelled search spelled (by decide) (by decide)

end MagicRules.Line
