import MagicRules.Proofs.Offset

/-!
# What comes of an indirect offset

A text that does not follow the grammar is refused as a whole. Of any other the longest parts
decide (`ofText_by_grammar`): first the number of the base, then that of the adjustment if it has
one, and if both can be read there is an offset.
-/

namespace MagicRules.Indirect

theorem mem_grammar_iff_longest {t : Text} :
    t ∈ grammar.matches' ↔ ∃ point parts, Longest t point parts := by
  rw [mem_grammar_iff]
  constructor
  · rintro ⟨_, _, derived⟩
    exact derived.exists_longest
  · rintro ⟨point, parts, longest⟩
    exact ⟨point, parts, longest.toDerives⟩

theorem Parts.ofText?_eq_none_iff {t : Text} : Parts.ofText? t = none ↔ t ∉ grammar.matches' := by
  rw [mem_grammar_iff_longest, Option.eq_none_iff_forall_ne_some, exists_comm, not_exists]
  exact forall_congr' fun parts => not_congr ofText?_eq_some_iff

/-- The adjustment that parts stand for: none without digits, and else their number with the sign
put to it. -/
def Adjusts (parts : Parts) (add : Int) : Prop :=
  parts.add = [] ∧ add = 0 ∨
    parts.add ≠ [] ∧ ∃ n, Literal.read32 parts.add = .ok n ∧
      add = if parts.sign = some '-' then -n else n

section Outcomes

variable {t : Text} {parts : Parts}

theorem readAdd_eq_ok_iff_adjusts (shape : Parts.ofText? t = some parts) {add : Int} :
    readAdd parts = .ok add ↔ Adjusts parts add := by
  rw [readAdd_eq_ok_iff, Adjusts]
  refine or_congr_right (and_congr_right fun _ => exists_congr fun n => and_congr_right ?_)
  intro read
  rw [wrap_neg_of_readAdd shape read]

theorem readAdd_eq_error_iff {cause : LineError} :
    readAdd parts = .error cause ↔
      parts.add ≠ [] ∧ ∃ source, Literal.read32 parts.add = .error source ∧
        cause = .indirectAdjustment parts.add source := by
  rw [readAdd]
  by_cases empty : parts.add = []
  · simp [empty]
  · rw [if_neg (by simpa using empty)]
    cases Literal.read32 parts.add <;> simp [empty, eq_comm]

/-- What is read of a text with these parts: an offset if both numbers can be read. -/
theorem ofText_eq_bind (shape : Parts.ofText? t = some parts) :
    ofText t = (do
      let base ← (Literal.read32 parts.base).mapError (.indirectBase t)
      let add ← readAdd parts
      let (size, order, synchsafe) := letterType parts.letter
      .ok { base, order, synchsafe, size, add }) := by
  rw [ofText, shape]
  dsimp only
  cases Literal.read32 parts.base <;> rfl

theorem ofText_eq_error_iff (shape : Parts.ofText? t = some parts) {e : LineError} :
    ofText t = .error e ↔
      (∃ cause, Literal.read32 parts.base = .error cause ∧ e = .indirectBase t cause) ∨
        (∃ base, Literal.read32 parts.base = .ok base) ∧ parts.add ≠ [] ∧
          ∃ cause, Literal.read32 parts.add = .error cause ∧
            e = .indirectAdjustment parts.add cause := by
  rw [ofText_eq_bind shape, bind_eq_error_iff, mapError_eq_error_iff]
  simp only [mapError_eq_ok_iff, bind_eq_error_iff, readAdd_eq_error_iff]
  -- Behind the two numbers nothing fails.
  simp [eq_comm]

theorem ofText_eq_ok_iff (shape : Parts.ofText? t = some parts) {p : Indirect} :
    ofText t = .ok p ↔ Literal.read32 parts.base = .ok p.base ∧ Adjusts parts p.add ∧
      (p.size, p.order, p.synchsafe) = letterType parts.letter := by
  rw [ofText_eq_bind shape, bind_eq_ok_iff]
  simp only [mapError_eq_ok_iff, bind_eq_ok_iff, readAdd_eq_ok_iff_adjusts shape]
  constructor
  · rintro ⟨base, hbase, add, hadd, made⟩
    cases made
    exact ⟨hbase, hadd, rfl⟩
  · rintro ⟨hbase, hadd, type⟩
    refine ⟨p.base, hbase, p.add, hadd, ?_⟩
    rw [← type]

end Outcomes

/-- A text is refused as it stands exactly if it does not follow the grammar, and else there are
longest parts. Of these the number of the base is read first. If that fails, the error is about it.
If it succeeds, and there is a number to adjust by that cannot be read, the error is about that
one. In all other cases there is an offset, from the two numbers, the sign and the letter. -/
theorem ofText_by_grammar (t : Text) :
    (∀ u, ofText t = .error (.offsetPattern u) ↔ u = t ∧ t ∉ grammar.matches') ∧
      (t ∈ grammar.matches' ↔ ∃ point parts, Longest t point parts) ∧
      ∀ point parts, Longest t point parts →
        (∀ u cause, ofText t = .error (.indirectBase u cause) ↔
          u = t ∧ Literal.read32 parts.base = .error cause) ∧
        (∀ u cause, ofText t = .error (.indirectAdjustment u cause) ↔
          u = parts.add ∧ (∃ base, Literal.read32 parts.base = .ok base) ∧ parts.add ≠ [] ∧
            Literal.read32 parts.add = .error cause) ∧
        ∀ p, ofText t = .ok p ↔ Literal.read32 parts.base = .ok p.base ∧ Adjusts parts p.add ∧
          (p.size, p.order, p.synchsafe) = letterType parts.letter := by
  refine ⟨?_, mem_grammar_iff_longest, ?_⟩
  · intro u
    rw [← Parts.ofText?_eq_none_iff]
    cases shape : Parts.ofText? t with
    | none => simp [ofText, shape, eq_comm]
    | some parts => simp [ofText_eq_error_iff shape]
  · intro point parts longest
    have shape := Parts.ofText?_of_longest longest
    refine ⟨?_, ?_, fun p => ofText_eq_ok_iff shape⟩
    · intro u cause
      rw [ofText_eq_error_iff shape]
      constructor
      · rintro (⟨_, base, same⟩ | ⟨_, _, _, _, same⟩) <;> cases same
        exact ⟨rfl, base⟩
      · rintro ⟨rfl, base⟩
        exact .inl ⟨cause, base, rfl⟩
    · intro u cause
      rw [ofText_eq_error_iff shape]
      constructor
      · rintro (⟨_, _, same⟩ | ⟨base, nonempty, _, add, same⟩) <;> cases same
        exact ⟨rfl, base, nonempty, add⟩
      · rintro ⟨rfl, base, nonempty, add⟩
        exact .inr ⟨base, nonempty, cause, add, rfl⟩

/-- Behind the point a `b` is the type and no digit. -/
theorem ofText_by_grammar_byte :
    ofText "(8.b4)".toList =
      .ok { base := 8, order := .little, synchsafe := false, size := 1, add := 4 } := by
  have longest : Longest "(8.b4)".toList (some '.')
      { base := ['8'], letter := some 'b', sign := none, add := ['4'] } := by
    refine ⟨⟨rfl, List.cons_ne_nil _ _, Text.forall_mem_of_all (by decide), ?_, ?_, nofun,
      Text.forall_mem_of_all (by decide)⟩, ?_, nofun⟩
    all_goals
      rintro _ ⟨⟩
      decide
  obtain ⟨_, _, offset⟩ := (ofText_by_grammar "(8.b4)".toList).2.2 _ _ longest
  refine (offset _).mpr ⟨rfl, .inr ⟨by decide, 4, rfl, rfl⟩, rfl⟩

end MagicRules.Indirect
