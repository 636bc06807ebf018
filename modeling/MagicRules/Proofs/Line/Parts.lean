import MagicRules.Proofs.Field.Written
import MagicRules.Proofs.Line
import MagicRules.Proofs.Offset
import MagicRules.Proofs.Text

/-!
# Parts of a rule, from their texts

Each part of a rule is read back from a text that has the marks where they belong and no others:
`>` and `&` in front of an offset, `&` between a type and a mask, `u` in front of a type.
-/

namespace MagicRules

/-- The offsets that lines can have. -/
def Offset.IsReadable : Offset → Prop
  | .direct offset => IntRange.signed32.Contains offset
  | .indirect pointer => ∃ t, Indirect.ofText t = .ok pointer

theorem Offset.forall_mem_written {P : Char → Prop} (digits : ∀ d < 16, P d.digitChar)
    (marks : ∀ c ∈ "()+-.x".toList ++ "bsilBSILm".toList, P c) (o : Offset) :
    ∀ c ∈ o.written, P c := by
  cases o with
  | direct offset =>
      exact forall_mem_ofInt (fun d lt => digits d (by omega)) (marks '-' (by decide)) offset
  | indirect pointer => exact pointer.forall_mem_written digits marks

theorem Offset.written_ne_nil (o : Offset) : o.written ≠ [] := by
  cases o with
  | direct offset => exact ofInt_ne_nil offset
  | indirect pointer => exact List.cons_ne_nil _ _

namespace Line

theorem not_isExtension_of_notMem {line : Text} (h : '!' ∉ line.head?) : ¬ isExtension line := by
  intro extension
  unfold isExtension at extension
  split at extension
  · exact h rfl
  · cases extension

/-- What does not begin with a parenthesis is a fixed offset. -/
theorem readOffset_direct {t : Text} {n : Int} (nonempty : t ≠ []) (bare : '(' ∉ t.head?)
    (read : Literal.read32 t = .ok n) : readOffset t = .ok (.direct n) := by
  unfold readOffset
  split
  · exact absurd rfl nonempty
  · exact absurd rfl bare
  · rw [read]

/-- An offset is read back from what is written. -/
theorem readOffset_written {o : Offset} (h : o.IsReadable) : readOffset o.written = .ok o := by
  cases o with
  | direct offset =>
      have bare : ∀ c ∈ Text.ofInt offset, c ≠ '(' :=
        forall_mem_ofInt (by decide) (by decide) offset
      exact readOffset_direct (ofInt_ne_nil offset)
        (fun first => bare '(' (List.mem_of_head? first) rfl)
        (Literal.read_ofInt (by decide) h)
  | indirect pointer =>
      obtain ⟨t, read⟩ := h
      have written := Indirect.ofText_written (Indirect.bounded_of_ofText read)
      change (Indirect.ofText pointer.written).map _ = _
      rw [written]
      rfl

/-- A level of zero is not written, and `&` makes an offset a relative one. -/
theorem readPlace_unmarked (relative : Bool) {t : Text} {offset : Offset}
    (unmarked : '>' ∉ (if relative then ['&'] else []) ++ t) (absolute : '&' ∉ t.head?)
    (read : readOffset t = .ok offset) :
    readPlace ((if relative then ['&'] else []) ++ t) = .ok (0, relative, offset) := by
  rw [readPlace, Text.cutAtLast?_of_notMem unmarked]
  cases relative with
  | true =>
      change (readOffset t).bind (fun offset => .ok ((0 : UInt32), true, offset)) = _
      rw [read]
      rfl
  | false =>
      simp only [Bool.false_eq_true, if_false, List.nil_append]
      split
      · exact absurd rfl absolute
      · change (readOffset t).bind (fun offset => .ok ((0 : UInt32), false, offset)) = _
        rw [read]
        rfl

/-- Behind its last marker a place is read as if there were none. -/
theorem readPlace_append {before after : Text} (unmarked : '>' ∉ after) :
    readPlace (before ++ '>' :: after) =
      (readPlace after).map fun (_, rest) => (before.length.toUInt32 + 1, rest) := by
  rw [readPlace, readPlace, Text.cutAtLast?_append unmarked, Text.cutAtLast?_of_notMem unmarked]
  dsimp only
  split
  · rename_i rest
    cases readOffset rest <;> rfl
  · cases readOffset after <;> rfl

/-- The level is the number of markers. -/
theorem readPlace_marked (level : UInt32) (relative : Bool) {t : Text} {offset : Offset}
    (unmarked : '>' ∉ t) (absolute : '&' ∉ t.head?) (read : readOffset t = .ok offset) :
    readPlace (List.replicate level.toNat '>' ++ ((if relative then ['&'] else []) ++ t)) =
      .ok (level, relative, offset) := by
  have behind : '>' ∉ (if relative then ['&'] else []) ++ t := by
    cases relative <;> simpa using unmarked
  have place := readPlace_unmarked relative behind absolute read
  cases count : level.toNat with
  | zero =>
      have zero : level = 0 := UInt32.toNat_inj.mp count
      rw [List.replicate_zero, List.nil_append, place, zero]
  | succ n =>
      have marked : n.toUInt32 + 1 = level := calc
        n.toUInt32 + 1 = (n + 1).toUInt32 := (UInt32.ofNat_add n 1).symm
        _ = level.toNat.toUInt32 := by rw [count]
        _ = level := UInt32.ofNat_toNat
      rw [List.replicate_succ', List.append_assoc, List.singleton_append,
        readPlace_append behind, place, List.length_replicate, ← marked]
      rfl

theorem readMask_bare {typeText : Text} (nonempty : typeText ≠ []) (unmarked : '&' ∉ typeText) :
    readMask typeText = .ok (typeText, none) := by
  have named : ¬ typeText.isEmpty := by simpa using nonempty
  rw [readMask, Text.cutAt?_of_notMem unmarked]
  change (if typeText.isEmpty then _ else _) = _
  rw [if_neg named]
  rfl

theorem readMask_masked {typeText mask : Text} {value : Int} (nonempty : typeText ≠ [])
    (unmarked : '&' ∉ typeText) (read : Literal.read64 mask = .ok value) :
    readMask (typeText ++ '&' :: mask) = .ok (typeText, some value) := by
  have named : ¬ typeText.isEmpty := by simpa using nonempty
  rw [readMask, Text.cutAt?_append unmarked]
  simp only [read]
  change (if typeText.isEmpty then _ else _) = _
  rw [if_neg named]
  rfl

theorem resolveType_named {registry : Registry} {name : Text} {type : MagicType}
    (found : registry.resolve? name = some type) :
    resolveType registry name = .ok (type, false) := by
  simp only [resolveType, found]

theorem resolveType_unsigned {registry : Registry} {name : Text} {type : MagicType}
    (other : registry.resolve? ('u' :: name) = none)
    (found : registry.resolve? name = some type) :
    resolveType registry ('u' :: name) = .ok (type, true) := by
  simp only [resolveType, other, found, Option.map_some]

/-- A type comes from the registry, by the name that is left of the type text. -/
theorem exists_resolve?_of_resolveType {registry : Registry} {typeText : Text} {type : MagicType}
    {isUnsigned : Bool} (h : resolveType registry typeText = .ok (type, isUnsigned)) :
    ∃ name, registry.resolve? name = some type := by
  have mark {name : Text} {mark : Bool}
      (found : (registry.resolve? name).map (·, mark) = some (type, isUnsigned)) :
      ∃ name, registry.resolve? name = some type := by
    obtain ⟨_, resolved, same⟩ := Option.map_eq_some_iff.mp found
    cases same
    exact ⟨name, resolved⟩
  simp only [resolveType] at h
  split at h
  · rename_i found
    obtain rfl := Except.ok.inj h
    split at found
    · rename_i type' resolved
      cases found
      exact ⟨typeText, resolved⟩
    · split at found
      · exact mark found
      · split at found
        · split_ifs at found
          exact mark found
        · cases found
  · cases h

/-- A line of three words is the rule of what the words are read as, in whatever way they are
written. -/
theorem read_of_words {registry : Registry} {t₁ t₂ t₃ place typeField testField typeText : Text}
    {level : UInt32} {relative : Bool} {offset : Offset} {mask : Option Int} {type : MagicType}
    {isUnsigned : Bool} {test : Option Test} (rule : '!' ∉ t₁.head?)
    (h₁ : Field.Writes t₁ place) (h₂ : Field.Writes t₂ typeField)
    (h₃ : Field.Writes t₃ testField) (n₁ : place ≠ []) (n₂ : typeField ≠ [])
    (n₃ : testField ≠ []) (hplace : readPlace place = .ok (level, relative, offset))
    (hmask : readMask typeField = .ok (typeText, mask))
    (htype : resolveType registry typeText = .ok (type, isUnsigned))
    (htest : readTest type typeText testField = .ok test) :
    read registry (t₁ ++ ' ' :: (t₂ ++ ' ' :: t₃)) =
      .ok (.rule (wordless level relative offset type mask isUnsigned test)) := by
  have fields : Field.split (t₁ ++ ' ' :: (t₂ ++ ' ' :: t₃)) 4 = [place, typeField, testField] :=
    Field.split_three h₁ h₂ h₃ n₁ n₂ n₃ rfl rfl (Nat.le_succ 3)
  refine read_of_parts (not_isExtension_of_notMem ?_) fields hplace hmask htype htest
  cases t₁ with
  | nil => simp
  | cons c cs => exact rule

end Line

end MagicRules
