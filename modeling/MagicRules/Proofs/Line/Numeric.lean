import MagicRules.Proofs.Field.Written
import MagicRules.Proofs.Line.Parts
import MagicRules.Proofs.Registry
import MagicRules.Proofs.Test.Number

/-!
# Numeric rules, written and read

A rule for a number can be written as a line of three fields: the markers of its level with the
offset behind them, the type with its mask in decimal, and the test. No field has a separator or
a backslash in it, so each is read back as it was written, and from its parts the rule.
-/

namespace MagicRules

def Kind.isNumeric : Kind → Bool
  | .integer _ _ | .synchsafe _ | .date _ _ _ => true
  | _ => false

theorem Kind.readTest_of_isNumeric {k : Kind} (h : k.isNumeric) (typeText t : Text) :
    k.readTest typeText t = (IntegerTest.read t).map .integer := by
  cases k <;> first | rfl | cases h

/-- A rule for a whole number, without a message. Its offset is one that a line can have, its type
one of the builtin numeric ones, and its values have 64 bits. -/
structure NumericRule where
  level : UInt32
  relative : Bool
  offset : Offset
  type : MagicType
  isUnsigned : Bool
  mask : Option Int
  test : Option IntegerTest
  readable : offset.IsReadable
  builtin : Registry.builtin.resolve? type.name = some type
  numeric : type.kind.isNumeric
  mask_fits : ∀ value ∈ mask, IntRange.signed64.Contains value
  test_fits : ∀ t ∈ test, IntRange.signed64.Contains t.value

namespace NumericRule

def rule (r : NumericRule) : Rule :=
  Line.wordless r.level r.relative r.offset r.type r.mask r.isUnsigned (r.test.map .integer)

def place (r : NumericRule) : Text := List.replicate r.level.toNat '>' ++ r.rule.writtenOffset

/-- The type, behind the mark `u` if it is an unsigned one. -/
def typeText (r : NumericRule) : Text := (if r.isUnsigned then ['u'] else []) ++ r.type.name

def typeField (r : NumericRule) : Text :=
  r.typeText ++ r.mask.elim [] fun value => '&' :: Text.ofInt value

def testField (r : NumericRule) : Text := r.test.elim ['x'] IntegerTest.written

/-- The line of the rule. -/
def line (r : NumericRule) : Text := r.place ++ '\t' :: (r.typeField ++ '\t' :: r.testField)

variable (r : NumericRule)

/-- An offset has none of the marks that stand in front of one or make an extension line. -/
theorem offset_unmarked :
    ∀ c ∈ r.offset.written, Field.IsPlain c ∧ c ≠ '!' ∧ c ≠ '>' ∧ c ≠ '&' :=
  Offset.forall_mem_written (by decide) (Text.forall_mem_of_all (by decide)) r.offset

theorem place_plain : ∀ c ∈ r.place, Field.IsPlain c ∧ c ≠ '!' := by
  have level : ∀ c ∈ List.replicate r.level.toNat '>', Field.IsPlain c ∧ c ≠ '!' := by
    intro c member
    rw [List.eq_of_mem_replicate member]
    decide
  have offset : ∀ c ∈ r.offset.written, Field.IsPlain c ∧ c ≠ '!' := by
    intro c member
    obtain ⟨plain, bare, _⟩ := r.offset_unmarked c member
    exact ⟨plain, bare⟩
  exact List.forall_mem_append.mpr ⟨level, Text.forall_mem_marked r.relative (by decide) offset⟩

theorem place_ne_nil : r.place ≠ [] := by
  simp [place, Rule.writtenOffset, rule, Line.wordless, r.offset.written_ne_nil]

theorem readPlace_place : Line.readPlace r.place = .ok (r.level, r.relative, r.offset) := by
  have unmarked : '>' ∉ r.offset.written := fun member =>
    (r.offset_unmarked '>' member).2.2.1 rfl
  have absolute : '&' ∉ r.offset.written.head? := fun first =>
    (r.offset_unmarked '&' (List.mem_of_head? first)).2.2.2 rfl
  exact Line.readPlace_marked r.level r.relative unmarked absolute
    (Line.readOffset_written r.readable)

theorem typeText_plain : ∀ c ∈ r.typeText, Field.IsPlain c ∧ c ≠ '&' :=
  Text.forall_mem_marked r.isUnsigned (by decide) (Registry.builtin_plain r.builtin)

theorem typeText_ne_nil : r.typeText ≠ [] := by
  simp [typeText, Registry.builtin_ne_nil r.builtin]

theorem typeField_plain : ∀ c ∈ r.typeField, Field.IsPlain c := by
  have type : ∀ c ∈ r.typeText, Field.IsPlain c := fun c member => (r.typeText_plain c member).1
  refine List.forall_mem_append.mpr ⟨type, ?_⟩
  cases r.mask with
  | none => exact fun _ => nofun
  | some value =>
      have digits : ∀ c ∈ Text.ofInt value, Field.IsPlain c :=
        forall_mem_ofInt (by decide) (by decide) value
      exact List.forall_mem_cons.mpr ⟨by decide, digits⟩

theorem typeField_ne_nil : r.typeField ≠ [] := by
  simp [typeField, r.typeText_ne_nil]

theorem readMask_typeField : Line.readMask r.typeField = .ok (r.typeText, r.mask) := by
  have unmarked : '&' ∉ r.typeText := fun member => (r.typeText_plain '&' member).2 rfl
  rw [typeField]
  cases mask : r.mask with
  | none =>
      rw [Option.elim_none, List.append_nil]
      exact Line.readMask_bare r.typeText_ne_nil unmarked
  | some value =>
      exact Line.readMask_masked r.typeText_ne_nil unmarked
        (Literal.read_ofInt (by decide) (r.mask_fits value mask))

theorem resolveType_typeText :
    Line.resolveType .builtin r.typeText = .ok (r.type, r.isUnsigned) := by
  rw [typeText]
  cases r.isUnsigned with
  | false => exact Line.resolveType_named r.builtin
  | true => exact Line.resolveType_unsigned (Registry.builtin_unsigned r.builtin) r.builtin

theorem testField_plain : ∀ c ∈ r.testField, Field.IsPlain c := by
  rw [testField]
  cases r.test with
  | none => exact List.forall_mem_singleton.mpr (by decide)
  | some test =>
      exact IntegerTest.forall_mem_written (by decide) (Text.forall_mem_of_all (by decide)) test

theorem testField_ne_nil : r.testField ≠ [] := by
  rw [testField]
  cases r.test with
  | none => exact List.cons_ne_nil _ _
  | some test => simp [IntegerTest.written, ofInt_ne_nil]

theorem readTest_testField :
    Line.readTest r.type r.typeText r.testField = .ok (r.test.map .integer) := by
  rw [testField]
  cases value : r.test with
  | none => rfl
  | some test =>
      have fits := r.test_fits test value
      have other : test.written ≠ ['x'] := by
        have bare : ∀ c ∈ test.written, c ≠ 'x' :=
          IntegerTest.forall_mem_written (by decide) (Text.forall_mem_of_all (by decide)) test
        intro same
        exact bare 'x' (same ▸ List.mem_cons_self) rfl
      rw [Option.elim_some, Line.readTest, if_neg other,
        Kind.readTest_of_isNumeric r.numeric, IntegerTest.read_written fits]
      rfl

/-- The line of a numeric rule is read as that rule, whatever its level, offset, type, mask and
test are: nothing is lost, and no mark of one part is taken for that of another. -/
theorem read_line : Line.read .builtin r.line = .ok (.rule r.rule) := by
  have fields : Field.split r.line 4 = [r.place, r.typeField, r.testField] :=
    Field.split_three (.plain fun c member => (r.place_plain c member).1)
      (.plain r.typeField_plain) (.plain r.testField_plain) r.place_ne_nil r.typeField_ne_nil
      r.testField_ne_nil rfl rfl (Nat.le_succ 3)
  have rule : ¬ Line.isExtension r.line := by
    refine Line.not_isExtension_of_notMem ?_
    rw [line, List.head?_append_of_ne_nil _ r.place_ne_nil]
    exact fun first => (r.place_plain '!' (List.mem_of_head? first)).2 rfl
  exact Line.read_of_parts rule fields r.readPlace_place r.readMask_typeField
    r.resolveType_typeText r.readTest_testField

/-- The least mask and the least test value are read at full width, behind the mark of an unsigned
type and an operator. -/
theorem read_line_least :
    Line.read .builtin (">>&(0x7fffffff.m-2147483647)\tumeldate&-9223372036854775808" ++
        "\t~-9223372036854775808").toList =
      .ok (.rule (Line.wordless 2 true
        (.indirect { base := 0x7fffffff, order := .middle, synchsafe := false, size := 4
                     add := -0x7fffffff })
        { name := "meldate".toList, kind := .date 4 .middle true } (some (-0x8000000000000000)) true
        (some (.integer { op := .negated, value := -0x8000000000000000 })))) :=
  read_line
    { level := 2
      relative := true
      offset := .indirect { base := 0x7fffffff, order := .middle, synchsafe := false, size := 4
                            add := -0x7fffffff }
      type := { name := "meldate".toList, kind := .date 4 .middle true }
      isUnsigned := true
      mask := some (-0x8000000000000000)
      test := some { op := .negated, value := -0x8000000000000000 }
      readable := ⟨"(0x7fffffff.m-2147483647)".toList, rfl⟩
      builtin := by decide
      numeric := rfl
      mask_fits := by decide
      test_fits := by decide }

end NumericRule

end MagicRules
