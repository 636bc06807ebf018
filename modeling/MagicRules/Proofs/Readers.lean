/-!
# Readers one after the other

A reader that goes through several steps gives a result exactly if all of them do. These lemmas
open such a chain at its result, so that no proof has to look at where it could have stopped.
-/

namespace MagicRules

variable {ε α β : Type}

/-- A step that gives a result hands it to the next one. -/
theorem ok_bind (a : α) (f : α → Except ε β) : (Except.ok a >>= f) = f a := rfl

/-- What comes out of a chain of readers has gone through both of its parts. -/
theorem exists_ok_of_bind_eq_ok {x : Except ε α} {f : α → Except ε β} {b : β}
    (h : x >>= f = .ok b) : ∃ a, x = .ok a ∧ f a = .ok b := by
  cases x with
  | ok a => exact ⟨a, rfl, h⟩
  | error e => cases h

theorem exists_ok_of_map_eq_ok {x : Except ε α} {f : α → β} {b : β}
    (h : x.map f = .ok b) : ∃ a, x = .ok a ∧ f a = b := by
  cases x with
  | ok a => exact ⟨a, rfl, by cases h; rfl⟩
  | error e => cases h

theorem bind_eq_ok_iff {x : Except ε α} {f : α → Except ε β} {b : β} :
    x >>= f = .ok b ↔ ∃ a, x = .ok a ∧ f a = .ok b := by
  constructor
  · exact exists_ok_of_bind_eq_ok
  · rintro ⟨a, rfl, result⟩
    exact result

/-- A reader that goes through a list, and whose state is at any time a function of what it has gone
through, gives a result exactly if it accepts everything that is there. -/
theorem foldlM_eq_ok_iff {accepts : α → Prop} {result : List α → β} {step : β → α → Except ε β}
    {l : List α}
    (h : ∀ before, ∀ a ∈ l, ∀ b,
      step (result before) a = .ok b ↔ accepts a ∧ b = result (before ++ [a]))
    (before : List α) (b : β) :
    l.foldlM step (result before) = .ok b ↔ (∀ a ∈ l, accepts a) ∧ b = result (before ++ l) := by
  induction l generalizing before with
  | nil =>
      rw [List.append_nil]
      constructor
      · rintro ⟨⟩
        exact ⟨nofun, rfl⟩
      · rintro ⟨-, rfl⟩
        rfl
  | cons a l ih =>
      have first := h before a List.mem_cons_self
      have others := ih (fun before a member => h before a (List.mem_cons_of_mem _ member))
        (before ++ [a])
      rw [List.append_assoc, List.singleton_append] at others
      rw [List.foldlM_cons, bind_eq_ok_iff, List.forall_mem_cons]
      constructor
      · rintro ⟨middle, read, rest⟩
        obtain ⟨accepted, rfl⟩ := (first middle).mp read
        obtain ⟨all, same⟩ := others.mp rest
        exact ⟨⟨accepted, all⟩, same⟩
      · rintro ⟨⟨accepted, all⟩, same⟩
        exact ⟨_, (first _).mpr ⟨accepted, rfl⟩, others.mpr ⟨all, same⟩⟩

theorem bind_eq_error_iff {x : Except ε α} {f : α → Except ε β} {e : ε} :
    x >>= f = .error e ↔ x = .error e ∨ ∃ a, x = .ok a ∧ f a = .error e := by
  cases x with
  | ok a =>
      rw [ok_bind]
      constructor
      · intro later
        exact .inr ⟨a, rfl, later⟩
      · rintro (here | ⟨_, here, later⟩)
        · cases here
        · cases here
          exact later
  | error e' =>
      constructor
      · rintro ⟨⟩
        exact .inl rfl
      · rintro (here | ⟨_, here, _⟩)
        · cases here
          rfl
        · cases here

/-- A reader that goes through a list stops at the first element that it does not accept, with the
error that its step gives there. -/
theorem foldlM_eq_error_iff {accepts : α → Prop} {result : List α → β} {step : β → α → Except ε β}
    {l : List α}
    (h : ∀ before, ∀ a ∈ l, ∀ b,
      step (result before) a = .ok b ↔ accepts a ∧ b = result (before ++ [a]))
    (before : List α) (e : ε) :
    l.foldlM step (result before) = .error e ↔
      ∃ front a back, l = front ++ a :: back ∧ (∀ x ∈ front, accepts x) ∧
        step (result (before ++ front)) a = .error e := by
  induction l generalizing before with
  | nil =>
      constructor
      · rintro ⟨⟩
      · rintro ⟨front, a, back, shape, -⟩
        cases front <;> cases shape
  | cons a l ih =>
      have first := h before a List.mem_cons_self
      have others := ih (fun before a member => h before a (List.mem_cons_of_mem _ member))
        (before ++ [a])
      simp only [List.append_assoc, List.singleton_append] at others
      rw [List.foldlM_cons, bind_eq_error_iff]
      constructor
      · rintro (here | ⟨middle, read, later⟩)
        · exact ⟨[], a, l, rfl, nofun, by rwa [List.append_nil]⟩
        · obtain ⟨accepted, rfl⟩ := (first middle).mp read
          obtain ⟨front, a', back, rfl, all, stop⟩ := others.mp later
          exact ⟨a :: front, a', back, rfl, List.forall_mem_cons.mpr ⟨accepted, all⟩, stop⟩
      · rintro ⟨front, a', back, shape, all, stop⟩
        cases front with
        | nil =>
            obtain ⟨rfl, rfl⟩ := List.cons.inj shape
            rw [List.append_nil] at stop
            exact .inl stop
        | cons _ front =>
            obtain ⟨rfl, rfl⟩ := List.cons.inj shape
            obtain ⟨accepted, all⟩ := List.forall_mem_cons.mp all
            exact .inr ⟨_, (first _).mpr ⟨accepted, rfl⟩,
              others.mpr ⟨front, a', back, rfl, all, stop⟩⟩

theorem map_eq_error_iff {x : Except ε α} {f : α → β} {e : ε} :
    x.map f = .error e ↔ x = .error e := by
  cases x with
  | ok a => exact ⟨nofun, nofun⟩
  | error e' => constructor <;> (rintro ⟨⟩; rfl)

theorem mapError_eq_error_iff {ε' : Type} {x : Except ε α} {f : ε → ε'} {e : ε'} :
    x.mapError f = .error e ↔ ∃ cause, x = .error cause ∧ f cause = e := by
  cases x with
  | ok a => exact ⟨nofun, by rintro ⟨_, ⟨⟩, _⟩⟩
  | error cause =>
      constructor
      · rintro ⟨⟩
        exact ⟨cause, rfl, rfl⟩
      · rintro ⟨_, ⟨⟩, rfl⟩
        rfl

theorem mapError_eq_ok_iff {ε' : Type} {x : Except ε α} {f : ε → ε'} {a : α} :
    x.mapError f = .ok a ↔ x = .ok a := by
  cases x with
  | ok b => constructor <;> (rintro ⟨⟩; rfl)
  | error e => exact ⟨nofun, nofun⟩

end MagicRules
