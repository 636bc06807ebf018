import MagicRules.Proofs.Line.Parts

/-!
# Names of types with modifiers

Behind a slash, the text of a type may have modifiers, which are no part of the name. A text that is
no name as a whole is looked up without them, but only if it does not begin with `u`: then this
letter is taken for the mark of an unsigned type, and the modifiers for a part of the name behind
it. So modifiers leave a type as it is exactly if its name begins with another letter
(`resolveType_suffixed`).
-/

namespace MagicRules.Line

variable {registry : Registry} {name suffix rest : Text} {type : MagicType}

/-- What `typeText` is resolved to if it is the name of an unsigned type, or of none. -/
def unsignedType (registry : Registry) (name typeText : Text) :
    Except LineError (MagicType × Bool) :=
  match registry.resolve? name with
  | some type => .ok (type, true)
  | none => .error (.unknownType typeText)

theorem unsignedType_ne_signed (name typeText : Text) :
    unsignedType registry name typeText ≠ .ok (type, false) := by
  rw [unsignedType]
  split <;> exact nofun

/-- Behind the mark, all that follows is taken for a name. -/
theorem resolveType_marked (other : registry.resolve? ('u' :: rest) = none) :
    resolveType registry ('u' :: rest) = unsignedType registry rest ('u' :: rest) := by
  cases found : registry.resolve? rest <;> simp [resolveType, unsignedType, other, found]

theorem resolveType_slash (other : registry.resolve? ('/' :: suffix) = none) :
    resolveType registry ('/' :: suffix) = .error (.unknownType ('/' :: suffix)) := by
  have cut : Text.cutAt? '/' ('/' :: suffix) = some ([], suffix) := rfl
  simp [resolveType, other, cut]

/-- Without the mark, a name ends at the first slash. -/
theorem resolveType_suffix {c : Char} (bare : '/' ∉ c :: name) (unmarked : c ≠ 'u')
    (found : registry.resolve? (c :: name) = some type)
    (other : registry.resolve? (c :: name ++ '/' :: suffix) = none) :
    resolveType registry (c :: name ++ '/' :: suffix) = .ok (type, false) := by
  have cut := Text.cutAt?_append bare suffix
  rw [List.cons_append] at other cut ⊢
  simp [resolveType, other, cut, found, unmarked]

/-- A text that is no name as a whole, but a name with modifiers, is resolved to the type of the
name exactly if the name begins with another letter than `u`. If it begins with `u`, all that
follows is looked up for an unsigned type, modifiers included. -/
theorem resolveType_suffixed (bare : '/' ∉ name) (found : registry.resolve? name = some type)
    (other : registry.resolve? (name ++ '/' :: suffix) = none) :
    (resolveType registry (name ++ '/' :: suffix) = .ok (type, false) ↔
      ∃ c ∈ name.head?, c ≠ 'u') ∧
    (∀ rest, name = 'u' :: rest →
      resolveType registry (name ++ '/' :: suffix) =
        unsignedType registry (rest ++ '/' :: suffix) (name ++ '/' :: suffix)) ∧
    (name = [] → resolveType registry (name ++ '/' :: suffix) =
      .error (.unknownType (name ++ '/' :: suffix))) := by
  have marked : ∀ rest, name = 'u' :: rest →
      resolveType registry (name ++ '/' :: suffix) =
        unsignedType registry (rest ++ '/' :: suffix) (name ++ '/' :: suffix) := by
    rintro rest rfl
    exact resolveType_marked other
  have nameless : name = [] → resolveType registry (name ++ '/' :: suffix) =
      .error (.unknownType (name ++ '/' :: suffix)) := by
    rintro rfl
    exact resolveType_slash other
  refine ⟨⟨fun resolved => ?_, ?_⟩, marked, nameless⟩
  · cases name with
    | nil =>
        rw [nameless rfl] at resolved
        cases resolved
    | cons c cs =>
        refine ⟨c, rfl, ?_⟩
        rintro rfl
        rw [marked cs rfl] at resolved
        exact unsignedType_ne_signed _ _ resolved
  · rintro ⟨c, first, unmarked⟩
    obtain ⟨cs, rfl⟩ := List.head?_eq_some_iff.mp first
    exact resolveType_suffix bare unmarked found other

/-- Two names with the same modifiers. Of the one that begins with `u`, another type is found. -/
theorem resolveType_suffixed_utf8 :
    let utf8 : MagicType := { name := "utf8".toList, kind := .string }
    let latin : MagicType := { name := "latin".toList, kind := .string }
    let taken : MagicType := { name := "tf8/c".toList, kind := .regex }
    let registry := Registry.ofList [utf8, latin, taken]
    ('/' ∉ latin.name ∧ registry.resolve? latin.name = some latin ∧
      registry.resolve? (latin.name ++ "/c".toList) = none ∧
      resolveType registry (latin.name ++ "/c".toList) = .ok (latin, false)) ∧
    ('/' ∉ utf8.name ∧ registry.resolve? utf8.name = some utf8 ∧
      registry.resolve? (utf8.name ++ "/c".toList) = none ∧
      resolveType registry (utf8.name ++ "/c".toList) = .ok (taken, true)) := by
  intro utf8 latin taken registry
  have bare : '/' ∉ latin.name ∧ '/' ∉ utf8.name := by decide
  have latinFound : registry.resolve? latin.name = some latin := by decide
  have utf8Found : registry.resolve? utf8.name = some utf8 := by decide
  have latinOther : registry.resolve? (latin.name ++ "/c".toList) = none := by decide
  have utf8Other : registry.resolve? (utf8.name ++ "/c".toList) = none := by decide
  refine ⟨⟨bare.1, latinFound, latinOther, ?_⟩, bare.2, utf8Found, utf8Other, ?_⟩
  · exact (resolveType_suffixed bare.1 latinFound latinOther).1.mpr ⟨'l', rfl, by decide⟩
  · exact (resolveType_suffixed bare.2 utf8Found utf8Other).2.1 "tf8".toList rfl

/-- The one builtin type whose name begins with `u` is not found with modifiers behind it. -/
theorem resolveType_use_suffixed :
    let useType : MagicType := { name := "use".toList, kind := .use }
    '/' ∉ useType.name ∧ Registry.builtin.resolve? useType.name = some useType ∧
    Registry.builtin.resolve? (useType.name ++ "/x".toList) = none ∧
    resolveType .builtin (useType.name ++ "/x".toList) ≠ .ok (useType, false) ∧
    read .builtin "0 use/x part".toList = .error (.unknownType "use/x".toList) := by
  decide +kernel

end MagicRules.Line
