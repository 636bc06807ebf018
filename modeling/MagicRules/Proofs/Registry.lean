import MagicRules.Proofs.Field.Written
import MagicRules.Registry

/-!
# Names of the builtin types

A name of a builtin type can stand in the type field of a line as it is: it has no separator,
no backslash and no `&`, and none is another name with the mark `u` in front of it. So a name is
never taken for an unsigned type, and the name of an unsigned type never for one of its own.
-/

namespace MagicRules.Registry

theorem mem_of_resolve? {types : List MagicType} {name : Text} {type : MagicType}
    (h : (ofList types).resolve? name = some type) : type ∈ types ∧ type.name = name :=
  ⟨List.mem_of_find?_eq_some h, by simpa using List.find?_some h⟩

theorem mem_builtinKinds {name : Text} {type : MagicType}
    (h : builtin.resolve? name = some type) : ∃ e ∈ builtinKinds, e.1.toList = name := by
  obtain ⟨listed, rfl⟩ := mem_of_resolve? h
  obtain ⟨e, member, rfl⟩ := List.mem_map.mp listed
  exact ⟨e, member, rfl⟩

theorem builtin_ne_nil {name : Text} {type : MagicType} (h : builtin.resolve? name = some type) :
    name ≠ [] := by
  have all : ∀ e ∈ builtinKinds, e.1.toList ≠ [] := by decide
  obtain ⟨e, member, rfl⟩ := mem_builtinKinds h
  exact all e member

theorem builtin_plain {name : Text} {type : MagicType} (h : builtin.resolve? name = some type) :
    ∀ c ∈ name, Field.IsPlain c ∧ c ≠ '&' := by
  have all : ∀ e ∈ builtinKinds, e.1.toList.all fun c => decide (Field.IsPlain c ∧ c ≠ '&') := by
    decide +kernel
  obtain ⟨e, member, rfl⟩ := mem_builtinKinds h
  exact Text.forall_mem_of_all (all e member)

/-- The name of an unsigned type is not that of a type. -/
theorem builtin_unsigned {name : Text} {type : MagicType}
    (h : builtin.resolve? name = some type) : builtin.resolve? ('u' :: name) = none := by
  have all : ∀ e ∈ builtinKinds, ∀ e' ∈ builtinKinds, e'.1.toList ≠ 'u' :: e.1.toList := by
    decide +kernel
  obtain ⟨e, member, rfl⟩ := mem_builtinKinds h
  rw [Option.eq_none_iff_forall_ne_some]
  intro other found
  obtain ⟨e', member', same⟩ := mem_builtinKinds found
  exact all e member e' member' same

end MagicRules.Registry
