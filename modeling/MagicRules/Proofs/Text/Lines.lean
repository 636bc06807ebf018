import MagicRules.Proofs.Text
import MagicRules.Text.Lines

/-!
# Texts line by line

A text is empty, or a last line that nothing ends, or a line with a line feed behind it and
further text. `induction_lines` is induction along these three forms, with one equation of
`lines` for each, so that no proof about lines has to count pieces between line feeds.

Two texts one after the other have the lines of both if the first one ends where a line ends.
The carriage returns in front of line feeds make no difference to the lines.
-/

namespace MagicRules.Text

/-- A text is taken apart line by line, from its start. -/
@[elab_as_elim]
theorem induction_lines {motive : Text → Prop} (t : Text) (nil : motive [])
    (last : ∀ line, line ≠ [] → '\n' ∉ line → motive line)
    (ended : ∀ line rest, '\n' ∉ line → motive rest → motive (line ++ '\n' :: rest)) :
    motive t := by
  -- The line feed is looked for behind a part that has none, which grows to the whole line.
  suffices behind : ∀ rest line : Text, '\n' ∉ line → motive (line ++ rest) from
    behind t [] List.not_mem_nil
  intro rest
  induction rest with
  | nil =>
      intro line notMem
      rw [List.append_nil]
      by_cases empty : line = []
      · exact empty ▸ nil
      · exact last line empty notMem
  | cons c cs ih =>
      intro line notMem
      by_cases feed : c = '\n'
      · subst feed
        exact ended line cs notMem (ih [] List.not_mem_nil)
      · have grown : '\n' ∉ line ++ [c] := by
          simpa [notMem] using Ne.symm feed
        simpa using ih (line ++ [c]) grown

theorem dropReturn_of_notMem {line : Text} (h : '\r' ∉ line) : dropReturn line = line :=
  if_neg fun last => h (List.mem_of_getLast? last)

theorem dropReturn_append_return (line : Text) : dropReturn (line ++ ['\r']) = line := by
  simp [dropReturn]

@[simp] theorem lines_nil : lines [] = [] := rfl

/-- What no line feed ends is a line as it stands. -/
theorem lines_last {line : Text} (h : '\n' ∉ line) (nonempty : line ≠ []) :
    lines line = [line] := by
  rw [lines, splitAt_eq_splitOn, List.splitOn_eq_singleton h]
  simp [nonempty]

theorem lines_ended {line : Text} (h : '\n' ∉ line) (rest : Text) :
    lines (line ++ '\n' :: rest) = dropReturn line :: lines rest := by
  rw [lines, lines, splitAt_eq_splitOn, splitAt_eq_splitOn,
    List.splitOn_append_cons_self_of_not_mem h, List.reverse_cons]
  cases pieces : (rest.splitOn '\n').reverse with
  | nil => exact absurd (List.reverse_eq_nil_iff.mp pieces) (List.splitOn_ne_nil '\n' rest)
  | cons last front => simp

/-- A text that stops where a line ends adds its lines to those of what follows. -/
theorem lines_append {a : Text} (h : a = [] ∨ a.getLast? = some '\n') (b : Text) :
    lines (a ++ b) = lines a ++ lines b := by
  induction a using induction_lines with
  | nil => rfl
  | last line nonempty notMem =>
      have feed : line.getLast? = some '\n' := h.resolve_left nonempty
      exact absurd (List.mem_of_getLast? feed) notMem
  | ended line rest notMem ih =>
      have stops : rest = [] ∨ rest.getLast? = some '\n' := by
        cases rest with
        | nil => exact .inl rfl
        | cons c cs => exact .inr (by simpa [List.getLast?_append] using h)
      rw [List.append_assoc, List.cons_append, lines_ended notMem, lines_ended notMem, ih stops,
        List.cons_append]

theorem mem_of_mem_lines {t line : Text} {c : Char} (h : line ∈ lines t) (member : c ∈ line) :
    c ∈ t := by
  induction t using induction_lines with
  | nil => cases h
  | last only nonempty notMem =>
      rw [lines_last notMem nonempty, List.mem_singleton] at h
      exact h ▸ member
  | ended first rest notMem ih =>
      rw [lines_ended notMem] at h
      rcases List.mem_cons.mp h with rfl | later
      · have inside : c ∈ first := by
          unfold dropReturn at member
          split at member
          · exact List.dropLast_subset first member
          · exact member
        exact List.mem_append_left _ inside
      · exact List.mem_append_right _ (List.mem_cons_of_mem _ (ih later))

/-- The lines are the same with a carriage return in front of every line feed. -/
theorem lines_replaceEach {t : Text} (h : '\r' ∉ t) :
    lines (replaceEach '\n' ['\r', '\n'] t) = lines t := by
  induction t using induction_lines with
  | nil => rfl
  | last line nonempty notMem => rw [replaceEach_of_notMem notMem]
  | ended line rest notMem ih =>
      have inLine : '\r' ∉ line := fun member => h (List.mem_append_left _ member)
      have inRest : '\r' ∉ rest := fun member =>
        h (List.mem_append_right _ (List.mem_cons_of_mem _ member))
      have longer : '\n' ∉ line ++ ['\r'] := by
        simpa using notMem
      have spread : replaceEach '\n' ['\r', '\n'] (line ++ '\n' :: rest) =
          (line ++ ['\r']) ++ '\n' :: replaceEach '\n' ['\r', '\n'] rest := by
        rw [replaceEach_append, replaceEach_cons_self, replaceEach_of_notMem notMem]
        simp
      rw [spread, lines_ended longer, lines_ended notMem, dropReturn_append_return,
        dropReturn_of_notMem inLine, ih inRest]

end MagicRules.Text
