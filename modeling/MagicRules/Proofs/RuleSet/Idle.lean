import MagicRules.Proofs.Field.Token
import MagicRules.Proofs.RuleSet.Ledger

/-!
# Lines that are skipped

A line is skipped if nothing or a comment stands behind its leading blanks. Its fields are cut at
separators, which are other characters than the blanks: the information separators are no blanks,
and four blanks belong to a field (`isBlank_eq_isSeparator_iff`). So it depends on the characters in
front whether the two agree on a line that has no field or is a comment.

Both directions are one lemma about two classes of characters (`nothingBehind_iff`): what one class
passes over, the other one passes over exactly if it has all of it.
-/

namespace MagicRules

namespace Field

/-- The separators that are no blanks. -/
def informationSeparators : List Char := ['\x1c', '\x1d', '\x1e', '\x1f']

/-- The blanks that are no separators: the next-line control, and those that forbid a line break. -/
def fieldBlanks : List Char := ['\u0085', '\u00a0', '\u2007', '\u202f']

theorem mem_informationSeparators {c : Char} :
    c ∈ informationSeparators ↔ 0x1c ≤ c.toNat ∧ c.toNat ≤ 0x1f := by
  simp only [informationSeparators, List.mem_cons, List.not_mem_nil, or_false, ← Char.toNat_inj]
  change c.toNat = 0x1c ∨ c.toNat = 0x1d ∨ c.toNat = 0x1e ∨ c.toNat = 0x1f ↔ _
  omega

theorem mem_fieldBlanks {c : Char} :
    c ∈ fieldBlanks ↔ c.toNat ∈ [0x85, 0xa0, 0x2007, 0x202f] := by
  simp only [fieldBlanks, List.mem_cons, List.not_mem_nil, or_false, ← Char.toNat_inj]
  rfl

theorem isBlank_of_mem {c : Char} (h : c ∈ fieldBlanks) : isBlank c := by
  have all : ∀ c ∈ fieldBlanks, isBlank c := Text.forall_mem_of_all (by decide)
  exact all c h

theorem not_isBlank_of_mem {c : Char} (h : c ∈ informationSeparators) : ¬ isBlank c := by
  have all : ∀ c ∈ informationSeparators, ¬ isBlank c := Text.forall_mem_of_all (by decide)
  exact all c h

theorem isSeparator_iff {c : Char} :
    isSeparator c ↔ c ∈ informationSeparators ∨ isBlank c ∧ c ∉ fieldBlanks := by
  rw [mem_informationSeparators, mem_fieldBlanks, isSeparator]
  split_ifs with information inside
  · simp [information]
  · simp [information, inside]
  · simp [information, inside]

/-- A separator is a blank unless it is an information separator. -/
theorem isBlank_iff_of_isSeparator {c : Char} (h : isSeparator c) :
    isBlank c ↔ c ∉ informationSeparators := by
  constructor
  · exact fun blank information => not_isBlank_of_mem information blank
  · exact fun other => ((isSeparator_iff.mp h).resolve_left other).1

/-- A blank is a separator unless it belongs to a field. -/
theorem isSeparator_iff_of_isBlank {c : Char} (h : isBlank c) :
    isSeparator c ↔ c ∉ fieldBlanks := by
  rw [isSeparator_iff, or_iff_right fun information => not_isBlank_of_mem information h]
  exact and_iff_right h

/-- Blanks and separators are the same but for eight characters. -/
theorem isBlank_eq_isSeparator_iff (c : Char) :
    isBlank c = isSeparator c ↔ c ∉ informationSeparators ∧ c ∉ fieldBlanks := by
  rw [Bool.eq_iff_iff]
  constructor
  · intro same
    refine ⟨fun information => ?_, fun blank => ?_⟩
    · exact not_isBlank_of_mem information (same.mpr (isSeparator_iff.mpr (.inl information)))
    · exact (isSeparator_iff_of_isBlank (isBlank_of_mem blank)).mp
        (same.mp (isBlank_of_mem blank)) blank
  · rintro ⟨other, outside⟩
    rw [isSeparator_iff, or_iff_right other]
    exact (and_iff_left outside).symm

theorem group_content_ne_nil (more : Nat) (c : Char) (as : List Atom) :
    group more (.content c :: as) ≠ [] := by
  cases more <;> exact List.cons_ne_nil _ _

theorem split_eq_nil_iff {line : Text} {fields : Nat} :
    split line fields = [] ↔ line.dropWhile isSeparator = [] := by
  rw [split, splitFrom_start, ← group_dropWhile]
  cases front : line.dropWhile isSeparator with
  | nil => simp
  | cons c cs =>
      refine iff_of_false ?_ (List.cons_ne_nil c cs)
      by_cases raw : c = '\\'
      · rw [raw, atoms_escape]
        exact group_content_ne_nil _ _ _
      · have word : ¬ isSeparator c := by
          simpa using stop_dropWhile isSeparator line c (by simp [front])
        rw [atoms_content word raw]
        exact group_content_ne_nil _ _ _

end Field

namespace RuleSet

open MagicRules.Field

variable {line : Text}

/-- Whether nothing or a comment stands behind the leading characters of a class. -/
def NothingBehind (p : Char → Bool) (line : Text) : Prop := ∀ c ∈ (line.dropWhile p).head?, c = '#'

theorem nothingBehind_cons_pos {p : Char → Bool} {c : Char} (h : p c) (cs : Text) :
    NothingBehind p (c :: cs) ↔ NothingBehind p cs := by
  rw [NothingBehind, List.dropWhile_cons_of_pos h]
  rfl

theorem nothingBehind_cons_neg {p : Char → Bool} {c : Char} (h : ¬ p c) (cs : Text) :
    NothingBehind p (c :: cs) ↔ c = '#' := by
  rw [NothingBehind, List.dropWhile_cons_of_neg h]
  simp

/-- If nothing is left behind one class of characters, nothing is left behind another one exactly if
it has the characters in front too. -/
theorem nothingBehind_iff {p q : Char → Bool} (hp : ¬ p '#') (hq : ¬ q '#')
    (h : NothingBehind p line) : NothingBehind q line ↔ ∀ c ∈ line.takeWhile p, q c := by
  induction line with
  | nil => simp [NothingBehind]
  | cons c cs ih =>
      by_cases first : p c
      · have mark : c ≠ '#' := by
          rintro rfl
          exact hp first
        rw [List.takeWhile_cons_of_pos first, List.forall_mem_cons]
        by_cases second : q c
        · rw [nothingBehind_cons_pos second, ih ((nothingBehind_cons_pos first cs).mp h)]
          exact (and_iff_right second).symm
        · rw [nothingBehind_cons_neg second]
          exact iff_of_false mark fun all => second all.1
      · obtain rfl : c = '#' := (nothingBehind_cons_neg first cs).mp h
        rw [nothingBehind_cons_neg hq, List.takeWhile_cons_of_neg first]
        simp

theorem isIdle_iff : isIdle line ↔ NothingBehind isBlank line := by
  rw [isIdle, NothingBehind, Text.trimStart]
  split
  · rename_i nothing
    simp [nothing]
  · rename_i c cs front
    simp [front]

theorem nothingBehind_isSeparator_iff (fields : Nat) :
    NothingBehind isSeparator line ↔
      split line fields = [] ∨ (line.dropWhile isSeparator).head? = some '#' := by
  rw [NothingBehind, split_eq_nil_iff]
  cases line.dropWhile isSeparator with
  | nil => simp
  | cons c cs => simp

/-- An extension line has a field, and is no comment. -/
theorem not_nothingBehind_of_isExtension (h : Line.isExtension line) :
    ¬ NothingBehind isSeparator line := by
  unfold Line.isExtension at h
  split at h
  · rw [nothingBehind_cons_neg (by decide)]
    decide
  · cases h

theorem outcome_skipped_iff {registry : Registry} {s : RuleSet} (other : ¬ Line.isExtension line) :
    (s.step registry line).outcome = .skipped ↔ isIdle line :=
  outcome_eq_iff.trans (or_iff_left fun orphan => other orphan.2)

/-- A line without a field is a failure if it is not skipped. -/
theorem step_of_split_eq_nil {registry : Registry} {s : RuleSet} (fieldless : split line 4 = [])
    (seen : (s.step registry line).outcome ≠ .skipped) :
    s.step registry line =
      { set := s, outcome := .failed .fieldCount
        reported := [{ line, cause := .fieldCount }] } := by
  have nothing := (nothingBehind_isSeparator_iff 4).mpr (.inl fieldless)
  have other := fun extension => not_nothingBehind_of_isExtension extension nothing
  have read : Line.read registry line = .error .fieldCount := by
    rw [Line.read, if_neg other, fieldless]
  exact step_of_error read ((outcome_skipped_iff other).not.mp seen) fun orphan => other orphan.2

/-- Skipping a line and finding no field in it agree but for eight characters. A line without a
field and a comment are skipped exactly if no information separator is among the separators in
front; and a line that is skipped has no field or is a comment exactly if none of the blanks in
front belongs to a field. What is skipped changes nothing and is not reported. -/
theorem skipping_agrees_iff (registry : Registry) (s : RuleSet) (line : Text) (fields : Nat) :
    let step := s.step registry line
    let passed := split line fields = [] ∨ (line.dropWhile isSeparator).head? = some '#'
    (∀ c, isBlank c = isSeparator c ↔ c ∉ informationSeparators ∧ c ∉ fieldBlanks) ∧
    (step.outcome = .skipped → step.set = s ∧ step.reported = []) ∧
    (passed → (step.outcome = .skipped ↔
      ∀ c ∈ line.takeWhile isSeparator, c ∉ informationSeparators)) ∧
    (¬ Line.isExtension line → step.outcome = .skipped →
      (passed ↔ ∀ c ∈ line.takeWhile isBlank, c ∉ fieldBlanks)) ∧
    (split line fields = [] → step.outcome ≠ .skipped →
      step.outcome = .failed .fieldCount ∧ step.reported = [{ line, cause := .fieldCount }]) := by
  intro step passed
  have hash : ¬ isSeparator '#' ∧ ¬ isBlank '#' := by decide
  have front : passed ↔ NothingBehind isSeparator line :=
    (nothingBehind_isSeparator_iff fields).symm
  refine ⟨isBlank_eq_isSeparator_iff, ?_, ?_, ?_, ?_⟩
  · intro skipped
    have books : Accounted s line step := step_accounted registry s line
    rwa [Accounted, skipped] at books
  · intro pass
    have nothing := front.mp pass
    have other := fun extension => not_nothingBehind_of_isExtension extension nothing
    rw [outcome_skipped_iff other, isIdle_iff, nothingBehind_iff hash.1 hash.2 nothing]
    exact forall₂_congr fun c member =>
      isBlank_iff_of_isSeparator (List.mem_takeWhile_imp member)
  · intro other skipped
    have nothing := isIdle_iff.mp ((outcome_skipped_iff other).mp skipped)
    rw [front, nothingBehind_iff hash.2 hash.1 nothing]
    exact forall₂_congr fun c member =>
      isSeparator_iff_of_isBlank (List.mem_takeWhile_imp member)
  · intro fieldless seen
    have effect := step_of_split_eq_nil (split_eq_nil_iff.mpr (split_eq_nil_iff.mp fieldless)) seen
    change step = _ at effect
    rw [effect]
    exact ⟨rfl, rfl⟩

/-- A comment behind an information separator is read as a rule, and one behind a blank that forbids
a line break is skipped. -/
theorem skipping_agrees_iff_comment :
    let information := "\x1c#10 byte 1".toList
    let blank := "\u00a0# 0 byte 1".toList
    ((split information 4 = [] ∨ (information.dropWhile isSeparator).head? = some '#') ∧
      ((empty.step .builtin information).outcome = .skipped ↔
        ∀ c ∈ information.takeWhile isSeparator, c ∉ informationSeparators) ∧
      (empty.step .builtin information).outcome = .added 0) ∧
    (¬ Line.isExtension blank ∧ (empty.step .builtin blank).outcome = .skipped ∧
      ((split blank 4 = [] ∨ (blank.dropWhile isSeparator).head? = some '#') ↔
        ∀ c ∈ blank.takeWhile isBlank, c ∉ fieldBlanks)) := by
  intro information blank
  have passed : split information 4 = [] ∨ (information.dropWhile isSeparator).head? = some '#' :=
    .inr (by decide)
  have skipped : (empty.step .builtin blank).outcome = .skipped := by decide
  obtain ⟨-, -, behind, -, -⟩ := skipping_agrees_iff .builtin empty information 4
  obtain ⟨-, -, -, front, -⟩ := skipping_agrees_iff .builtin empty blank 4
  exact ⟨⟨passed, behind passed, by decide +kernel⟩, by decide, skipped, front (by decide) skipped⟩

/-- A line of one character: a separator that is no blank, which is reported though there is no
field, and a blank that is no separator, which is skipped though it is one. -/
theorem skipping_disagrees :
    (split "\x1c".toList 4 = [] ∧
      empty.step .builtin "\x1c".toList =
        { set := empty, outcome := .failed .fieldCount
          reported := [{ line := "\x1c".toList, cause := .fieldCount }] }) ∧
    (split "\u00a0".toList 4 = ["\u00a0".toList] ∧
      ("\u00a0".toList.dropWhile isSeparator).head? = some '\u00a0' ∧
      empty.step .builtin "\u00a0".toList =
        { set := empty, outcome := .skipped, reported := [] }) := by
  decide +kernel

end RuleSet

end MagicRules
