import MagicRules.Proofs.Literal
import MagicRules.Proofs.Text
import MagicRules.Test.Number

/-!
# Integer tests, read and written

An operator is told from a number by its first character. Equality is written without a symbol,
and the number behind it begins with a digit or a minus, neither of which is one.
-/

namespace MagicRules

namespace Operator

theorem ofSymbol?_of_mem_symbol {op : Operator} {c : Char} (h : c ∈ op.symbol) :
    op.symbol = [c] ∧ ofSymbol? c = some op := by
  cases op <;> simp only [symbol, List.mem_singleton, List.not_mem_nil] at h <;> subst h <;>
    exact ⟨rfl, rfl⟩

/-- An operator is taken off where it is written, if nothing behind it could be one. -/
theorem split_symbol_append {allowed : Operator → Bool} {op : Operator} (isAllowed : allowed op)
    {t : Text} (number : ∀ c ∈ t.head?, ofSymbol? c = none) :
    split allowed (op.symbol ++ t) = (op, t) := by
  by_cases equality : op.symbol = []
  · have bare : op = equal := by
      cases op <;> first | rfl | cases equality
    rw [equality, bare, List.nil_append]
    cases t with
    | nil => rfl
    | cons c cs => rw [split, number c rfl]
  · obtain ⟨c, cs, shape⟩ := List.exists_cons_of_ne_nil equality
    obtain ⟨single, isSymbol⟩ := ofSymbol?_of_mem_symbol (shape ▸ List.mem_cons_self)
    rw [single, List.singleton_append, split, isSymbol]
    exact if_pos isAllowed

end Operator

namespace IntegerTest

theorem forall_mem_written {P : Char → Prop} (digits : ∀ d < 10, P d.digitChar)
    (marks : ∀ c ∈ "!<>&^~-".toList, P c) (test : IntegerTest) : ∀ c ∈ test.written, P c := by
  have symbols (op : Operator) : ∀ c ∈ op.symbol, c ∈ "!<>&^~-".toList := by
    cases op <;> exact Text.forall_mem_of_all (by decide)
  intro c member
  rcases List.mem_append.mp member with inSymbol | inNumber
  · exact marks c (symbols test.op c inSymbol)
  · exact forall_mem_ofInt digits (marks '-' (by decide)) test.value c inNumber

/-- A test is read back from what is written. -/
theorem read_written {test : IntegerTest} (fits : IntRange.signed64.Contains test.value) :
    read test.written = .ok test := by
  have bare : ∀ c ∈ Text.ofInt test.value, Operator.ofSymbol? c = none :=
    forall_mem_ofInt (by decide) (by decide) test.value
  have number : ∀ c ∈ (Text.ofInt test.value).head?, Operator.ofSymbol? c = none :=
    fun c first => bare c (List.mem_of_head? first)
  have cut : Operator.split (fun _ => true) test.written = (test.op, Text.ofInt test.value) :=
    Operator.split_symbol_append rfl number
  rw [read, cut]
  simp only [Literal.readWrapping_ofInt fits]

end IntegerTest

end MagicRules
