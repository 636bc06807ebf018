import MagicRules.Proofs.Field.Token

/-!
# The number of fields asked for

A line is cut into no more fields than are asked for, and the last of them takes all that is left.
So the number matters for this field only: those in front of it, and whether there are fewer, are
the same for every greater number (`split_up_to_last`).

Two runs for different numbers take the same steps as long as a field in front of the last one is
still to come in both (`group_step`), and the induction is on these steps.
-/

namespace MagicRules.Field

/-- Atoms without content have no field at all. The others have a field in front, and what follows
it does not depend on how many are asked for. -/
theorem group_step (as : List Atom) :
    (∀ more, group more as = []) ∨
      ∃ word last rest, word ≠ [] ∧ last ≠ [] ∧ group 0 as = [last] ∧
        ∀ more, group (more + 1) as = word :: group more rest := by
  cases front : as.dropWhile (!·.isContent) with
  | nil =>
      refine .inl fun more => ?_
      cases more <;> simp only [group, front]
  | cons a behind =>
      have content : a.isContent := by
        simpa using stop_dropWhile (!·.isContent) as a (by simp [front])
      refine .inr ⟨((a :: behind).takeWhile Atom.isContent).map Atom.char,
        (a :: behind).map Atom.char, (a :: behind).dropWhile Atom.isContent, ?_, ?_, ?_, ?_⟩
      · simp [List.takeWhile_cons_of_pos content]
      · simp
      · simp only [group, front]
      · intro more
        simp only [group, front]

theorem ne_nil_of_mem_group {more : Nat} {as : List Atom} {field : Text}
    (h : field ∈ group more as) : field ≠ [] := by
  induction more generalizing as with
  | zero =>
      rcases group_step as with none | ⟨_, last, _, -, nonempty, whole, -⟩
      · rw [none] at h
        cases h
      · rw [whole] at h
        rwa [List.mem_singleton.mp h]
  | succ more ih =>
      rcases group_step as with none | ⟨word, _, rest, nonempty, -, -, step⟩
      · rw [none] at h
        cases h
      · rw [step] at h
        rcases List.mem_cons.mp h with rfl | later
        · exact nonempty
        · exact ih later

/-- There are as many fields as asked for, unless there are fewer whatever is asked for. -/
theorem length_group {more most : Nat} (le : more ≤ most) (as : List Atom) :
    (group more as).length = min (more + 1) (group most as).length := by
  induction more generalizing most as with
  | zero =>
      rcases group_step as with none | ⟨word, last, rest, -, -, whole, step⟩
      · simp [none]
      · -- The shorter run is at its end, and the longer one has a field here as well.
        have some : 1 ≤ (group most as).length := by
          cases most with
          | zero => simp [whole]
          | succ most => simp [step]
        rw [whole, List.length_singleton]
        omega
  | succ more ih =>
      obtain ⟨most, rfl⟩ : ∃ m, most = m + 1 := Nat.exists_eq_succ_of_ne_zero (by omega)
      rcases group_step as with none | ⟨word, _, rest, -, -, -, step⟩
      · simp [none]
      · rw [step, step, List.length_cons, List.length_cons, ih (Nat.le_of_succ_le_succ le) rest]
        omega

theorem length_split {fields most : Nat} (some : 1 ≤ fields) (le : fields ≤ most) (line : Text) :
    (split line fields).length = min fields (split line most).length := by
  have shorter := length_group (by omega : fields - 1 ≤ most - 1) (atoms line)
  rw [split, splitFrom_start, split, splitFrom_start, shorter]
  omega

/-- How many fields are asked for matters for the last of them only. The fields in front of it are
those of every greater number, and whether there are fewer than asked for is the same for every
greater number. If there are, so are all the fields. -/
theorem split_up_to_last {fields most : Nat} (some : 1 ≤ fields) (le : fields ≤ most)
    (line : Text) :
    (split line fields).length ≤ fields ∧
      (∀ field ∈ split line fields, field ≠ []) ∧
      (split line fields).take (fields - 1) = (split line most).take (fields - 1) ∧
      ((split line fields).length < fields ↔ (split line most).length < fields) ∧
      ((split line fields).length < fields → split line fields = split line most) := by
  have length := length_split some le line
  have front : (split line fields).take (fields - 1) = (split line most).take (fields - 1) := by
    rw [take_split (by omega), take_split (by omega)]
  refine ⟨by omega, ?_, front, by omega, ?_⟩
  · intro field member
    rw [split, splitFrom_start] at member
    exact ne_nil_of_mem_group member
  · intro fewer
    rwa [List.take_of_length_le (by omega), List.take_of_length_le (by omega)] at front

/-- A blank at the end makes no field, and an escaped one does not cut. -/
theorem split_up_to_last_short :
    let line := " 0 byte\\ x\t".toList
    (split line 3).length < 3 ∧ split line 3 = ["0", "byte x"].map String.toList ∧
      1 ≤ 3 ∧ 3 ≤ 4 ∧
      (split line 3).length ≤ 3 ∧ (∀ field ∈ split line 3, field ≠ []) ∧
      (split line 3).take 2 = (split line 4).take 2 ∧
      ((split line 3).length < 3 ↔ (split line 4).length < 3) ∧
      split line 3 = split line 4 := by
  intro line
  have fields : split line 3 = ["0", "byte x"].map String.toList := by decide +kernel
  have fewer : (split line 3).length < 3 := by
    rw [fields]
    decide
  obtain ⟨bound, nonempty, front, same, equal⟩ :=
    split_up_to_last (by decide : 1 ≤ 3) (by decide : 3 ≤ 4) line
  exact ⟨fewer, fields, by decide, by decide, bound, nonempty, front, same, equal fewer⟩

end MagicRules.Field
