import MagicRules.Line
import MagicRules.Proofs.Readers

/-!
# What a line that can be read looks like

Reading goes from left to right and stops at the first fault. The inversion lemmas here say what
has been read when there was none: the two fields of an extension line, and the four parts of a
rule with the message put onto it. Proofs about lines start from them and do not open the
readers.
-/

namespace MagicRules

namespace Line

variable {registry : Registry} {line : Text}

theorem read_of_isExtension (extension : isExtension line) :
    read registry line = (readExtension line).map .extension := if_pos extension

theorem isExtension_of_read {e : Extension} (h : read registry line = .ok (.extension e)) :
    isExtension line := by
  by_cases extension : isExtension line
  · exact extension
  · rw [read, if_neg extension] at h
    split at h
    · obtain ⟨r, _, same⟩ := exists_ok_of_map_eq_ok h
      cases same
    · cases h

theorem readExtension_of_read {e : Extension} (h : read registry line = .ok (.extension e)) :
    readExtension line = .ok e := by
  rw [read_of_isExtension (isExtension_of_read h)] at h
  obtain ⟨_, ok, same⟩ := exists_ok_of_map_eq_ok h
  cases same
  exact ok

/-- The rule that the parts of a line make, before it gets a message. -/
def wordless (level : UInt32) (relative : Bool) (offset : Offset) (type : MagicType)
    (mask : Option Int) (isUnsigned : Bool) (test : Option Test) : Rule :=
  { name := unknownName, level, relative, offset, type, mask, isUnsigned, test
    spaced := true, clears := false, message := none
    mime := none, extensions := [], apple := none }

theorem attachments_withMessage (r : Rule) (field : Text) :
    (withMessage r field).mime = r.mime ∧ (withMessage r field).extensions = r.extensions ∧
      (withMessage r field).apple = r.apple := by
  unfold withMessage
  split <;> exact ⟨rfl, rfl, rfl⟩

/-- The parts of a rule that could be read. -/
theorem parts_of_readRule {place typeField testField : Text} {message : Option Text} {r : Rule}
    (h : readRule registry place typeField testField message = .ok r) :
    ∃ level relative offset typeText mask type isUnsigned test,
      readPlace place = .ok (level, relative, offset) ∧
      readMask typeField = .ok (typeText, mask) ∧
      resolveType registry typeText = .ok (type, isUnsigned) ∧
      readTest type typeText testField = .ok test ∧
      r = message.elim (wordless level relative offset type mask isUnsigned test)
        (withMessage (wordless level relative offset type mask isUnsigned test)) := by
  unfold readRule at h
  obtain ⟨⟨level, relative, offset⟩, hplace, h⟩ := exists_ok_of_bind_eq_ok h
  obtain ⟨⟨typeText, mask⟩, hmask, h⟩ := exists_ok_of_bind_eq_ok h
  obtain ⟨⟨type, isUnsigned⟩, htype, h⟩ := exists_ok_of_bind_eq_ok h
  obtain ⟨test, htest, h⟩ := exists_ok_of_bind_eq_ok h
  cases h
  exact ⟨level, relative, offset, typeText, mask, type, isUnsigned, test,
    hplace, hmask, htype, htest, rfl⟩

/-- A line of three fields is the rule of its parts, if all of them can be read. -/
theorem read_of_parts {place typeField testField typeText : Text} {level : UInt32}
    {relative : Bool} {offset : Offset} {mask : Option Int} {type : MagicType}
    {isUnsigned : Bool} {test : Option Test} (other : ¬ isExtension line)
    (fields : Field.split line 4 = [place, typeField, testField])
    (hplace : readPlace place = .ok (level, relative, offset))
    (hmask : readMask typeField = .ok (typeText, mask))
    (htype : resolveType registry typeText = .ok (type, isUnsigned))
    (htest : readTest type typeText testField = .ok test) :
    read registry line =
      .ok (.rule (wordless level relative offset type mask isUnsigned test)) := by
  rw [read, if_neg other, fields]
  dsimp only
  have rule : readRule registry place typeField testField none =
      .ok (wordless level relative offset type mask isUnsigned test) := by
    simp only [readRule, hplace, hmask, htype, htest, ok_bind]
    rfl
  rw [List.head?_nil, rule]
  rfl

theorem fields_of_read {r : Rule} (h : read registry line = .ok (.rule r)) :
    ¬ isExtension line ∧ ∃ place type test message,
      Field.split line 4 = place :: type :: test :: message ∧
      readRule registry place type test message.head? = .ok r := by
  by_cases extension : isExtension line
  · rw [read_of_isExtension extension] at h
    obtain ⟨_, _, same⟩ := exists_ok_of_map_eq_ok h
    cases same
  · refine ⟨extension, ?_⟩
    rw [read, if_neg extension] at h
    split at h
    · rename_i place type test message fields
      obtain ⟨_, ok, same⟩ := exists_ok_of_map_eq_ok h
      cases same
      exact ⟨place, type, test, message, fields, ok⟩
    · cases h

theorem parts_withMessage (r : Rule) (field : Text) :
    (withMessage r field).level = r.level ∧ (withMessage r field).relative = r.relative ∧
      (withMessage r field).offset = r.offset ∧ (withMessage r field).type = r.type ∧
      (withMessage r field).mask = r.mask ∧ (withMessage r field).isUnsigned = r.isUnsigned ∧
      (withMessage r field).test = r.test := by
  unfold withMessage
  split <;> exact ⟨rfl, rfl, rfl, rfl, rfl, rfl, rfl⟩

/-- What the first three fields of a line say of its rule. -/
theorem parts_of_read {r : Rule} (h : read registry line = .ok (.rule r)) :
    ∃ place typeField testField typeText,
      (Field.split line 4).take 3 = [place, typeField, testField] ∧
      readPlace place = .ok (r.level, r.relative, r.offset) ∧
      readMask typeField = .ok (typeText, r.mask) ∧
      resolveType registry typeText = .ok (r.type, r.isUnsigned) ∧
      readTest r.type typeText testField = .ok r.test := by
  obtain ⟨_, place, typeField, testField, message, fields, ok⟩ := fields_of_read h
  obtain ⟨level, relative, offset, typeText, mask, type, isUnsigned, test,
    hplace, hmask, htype, htest, made⟩ := parts_of_readRule ok
  refine ⟨place, typeField, testField, typeText, by rw [fields]; rfl, ?_⟩
  cases hm : message.head? with
  | none =>
      rw [made, hm]
      exact ⟨hplace, hmask, htype, htest⟩
  | some field =>
      obtain ⟨l, rel, o, t, m, u, te⟩ :=
        parts_withMessage (wordless level relative offset type mask isUnsigned test) field
      rw [made, hm, Option.elim_some, l, rel, o, t, m, u, te]
      exact ⟨hplace, hmask, htype, htest⟩

theorem attachments_of_read {r : Rule} (h : read registry line = .ok (.rule r)) :
    r.mime = none ∧ r.extensions = [] ∧ r.apple = none := by
  obtain ⟨_, place, type, test, message, _, ok⟩ := fields_of_read h
  obtain ⟨level, relative, offset, _, mask, type, isUnsigned, test, _, _, _, _, made⟩ :=
    parts_of_readRule ok
  cases hm : message.head? with
  | none =>
      rw [made, hm]
      exact ⟨rfl, rfl, rfl⟩
  | some field =>
      rw [made, hm]
      exact attachments_withMessage _ field

end Line

end MagicRules
