import MagicRules.Proofs.Field.Token

/-!
# Words joined to a line

Any words can be the fields of a line. With a backslash in front of each of its separators and
backslashes, a word is a token for itself: none of these characters is the letter or the digit of
another escape (`escape_of_not_isPlain`). Separators between the words keep them apart, and the line
is cut into the same words again (`split_joined`).
-/

namespace MagicRules.Field

/-- A word with a backslash in front of each separator and each backslash. -/
def escaped (word : Text) : Text :=
  word.flatMap fun c => if isSeparator c ∨ c = '\\' then ['\\', c] else [c]

/-- A word to be joined to a line, behind a run of separators. -/
structure SpacedWord where
  run : Text
  word : Text
  separators : ∀ c ∈ run, isSeparator c
  nonempty : word ≠ []

/-- The words joined to a line, each of them escaped. -/
def joined (words : List SpacedWord) : Text := words.flatMap fun w => w.run ++ escaped w.word

theorem not_isPlain_iff {c : Char} : ¬ IsPlain c ↔ isSeparator c ∨ c = '\\' := by
  rw [IsPlain, not_and_or, Bool.not_eq_false, not_not]

theorem isPlain_of_control {c control : Char} (h : control? c = some control) : IsPlain c := by
  have all : ∀ entry ∈ controlLetters, IsPlain entry.1 := by decide
  rw [control?_eq_lookup] at h
  exact all (c, control) (mem_of_lookup h)

/-- Behind a backslash, a separator or a backslash stands for itself and takes nothing with it. -/
theorem escape_of_not_isPlain {c : Char} (h : ¬ IsPlain c) (cs : Text) :
    escape (c :: cs) = (c, cs) := by
  have control : control? c = none :=
    Option.eq_none_iff_forall_ne_some.mpr fun _ letter => h (isPlain_of_control letter)
  have octal : digit? 8 c = none :=
    Option.eq_none_iff_forall_ne_some.mpr fun d digit =>
      h (isPlain_of_digit (Option.isSome_iff_exists.mpr ⟨d, digit⟩))
  have letter : c ≠ 'x' := by
    rintro rfl
    exact h (by decide)
  simp [escape, control, octal, letter]

theorem Writes.backslash {c : Char} (h : ¬ IsPlain c) : Writes ['\\', c] [c] := by
  intro rest
  change atoms ('\\' :: c :: rest) = .content c :: atoms rest
  rw [atoms_backslash, escape_of_not_isPlain h]

theorem writes_escaped (word : Text) : Writes (escaped word) word := by
  induction word with
  | nil => exact Writes.nil
  | cons c word ih =>
      by_cases plain : IsPlain c
      · have same : escaped (c :: word) = [c] ++ escaped word := by
          rw [escaped, List.flatMap_cons, if_neg (not_isPlain_iff.not_right.mp plain)]
          rfl
        rw [same]
        exact (Writes.plain (List.forall_mem_singleton.mpr plain)).append ih
      · have marked : escaped (c :: word) = ['\\', c] ++ escaped word := by
          rw [escaped, List.flatMap_cons, if_pos (not_isPlain_iff.mp plain)]
          rfl
        rw [marked]
        exact (Writes.backslash plain).append ih

/-- The part of a line that an escaped word is. -/
def SpacedWord.part (w : SpacedWord) : Part where
  run := w.run
  text := escaped w.word
  word := w.word
  separators := w.separators
  writes := writes_escaped w.word
  nonempty := w.nonempty

/-- Escaped words with separators between them are cut into the words again, if that many fields are
asked for or more. Separators may stand in front of the first word, and behind the last one if more
are asked for. -/
theorem split_joined {words : List SpacedWord} {back : Text} {fields : Nat}
    (apart : ∀ w ∈ words.tail, w.run ≠ []) (separators : ∀ c ∈ back, isSeparator c)
    (enough : words.length ≤ fields) (room : back = [] ∨ words.length < fields) :
    split (joined words ++ back) fields = words.map SpacedWord.word := by
  have parts : (words.map SpacedWord.part).flatMap Part.line = joined words :=
    List.flatMap_map _ _ _
  have others : ∀ p ∈ (words.map SpacedWord.part).tail, p.run ≠ [] := by
    rw [← List.map_tail, List.forall_mem_map]
    exact apart
  have fields := Part.split_flatMap_line others separators (by simpa using enough)
    (by simpa using room)
  rwa [parts, List.map_map] at fields

/-- Words that look like escapes and like ends of fields: a backslash in front of the letter of an
escape, a separator, and a backslash behind a blank. -/
theorem split_joined_hard :
    let words : List SpacedWord :=
      [⟨"\t ".toList, "\\n".toList, Text.forall_mem_of_all (by decide), by decide⟩,
       ⟨"\u2003".toList, "\n".toList, Text.forall_mem_of_all (by decide), by decide⟩,
       ⟨" \x1f".toList, "x \\".toList, Text.forall_mem_of_all (by decide), by decide⟩]
    joined words ++ " ".toList = "\t \\\\n\u2003\\\n \x1fx\\ \\\\ ".toList ∧
      (∀ w ∈ words.tail, w.run ≠ []) ∧ (∀ c ∈ " ".toList, isSeparator c) ∧
      words.length ≤ 4 ∧ words.length < 4 ∧
      split (joined words ++ " ".toList) 4 = ["\\n", "\n", "x \\"].map String.toList := by
  intro words
  have apart : ∀ w ∈ words.tail, w.run ≠ [] := by
    simp [words]
  have blank : ∀ c ∈ " ".toList, isSeparator c := Text.forall_mem_of_all (by decide)
  exact ⟨by decide, apart, blank, by decide, by decide,
    split_joined apart blank (by decide) (.inr (by decide))⟩

end MagicRules.Field
