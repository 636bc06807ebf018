import MagicRules.Proofs.Line
import MagicRules.Proofs.Text

/-!
# Messages and names

The fourth field of a line is the message of its rule, but for a leading backspace or carriage
return, which is kept as a flag. So the field can be put together again from the rule
(`withMessage_parts`). The name of the rule is the first word of its message: what stands
between the low characters at both ends, up to the first blank in there. This is stated by the parts
of a message around its first word, which are unique (`WordParts.unique`).
-/

namespace MagicRules.Line

/-- The parts of a text around its first word: low characters at both ends, and between them the
word and what stands behind it from a blank on. -/
structure WordParts (t lead word rest trail : Text) : Prop where
  parts : t = lead ++ ((word ++ rest) ++ trail)
  lead_low : ∀ c ∈ lead, c ≤ ' '
  trail_low : ∀ c ∈ trail, c ≤ ' '
  begins : ∃ c ∈ word.head?, ' ' < c
  ends : ∃ c ∈ (word ++ rest).getLast?, ' ' < c
  unbroken : ∀ c ∈ word, c ≠ ' ' ∧ c ≠ '\t'
  stop : ∀ c ∈ rest.head?, c = ' ' ∨ c = '\t'

/-- Whether a text has a first word, and it is this one. -/
def IsFirstWord (t word : Text) : Prop := ∃ lead rest trail, WordParts t lead word rest trail

namespace WordParts

variable {t lead word rest trail lead' word' rest' trail' : Text}

theorem ne_nil (h : WordParts t lead word rest trail) : word ≠ [] := by
  rintro rfl
  obtain ⟨_, first, _⟩ := h.begins
  cases first

theorem stop_lead (h : WordParts t lead word rest trail) :
    ∀ c ∈ (word ++ rest ++ trail).head?, decide (c ≤ ' ') = false := by
  obtain ⟨first, begins, high⟩ := h.begins
  rw [List.append_assoc, List.head?_append_of_ne_nil _ h.ne_nil]
  intro c member
  obtain rfl := Option.mem_unique member begins
  simpa using high

theorem stop_trail (h : WordParts t lead word rest trail) :
    ∀ c ∈ (word ++ rest).reverse.head?, decide (c ≤ ' ') = false := by
  obtain ⟨last, ends, high⟩ := h.ends
  rw [List.head?_reverse]
  intro c member
  obtain rfl := Option.mem_unique member ends
  simpa using high

theorem stop_word (h : WordParts t lead word rest trail) :
    ∀ c ∈ rest.head?, (c != ' ' && c != '\t') = false := by
  intro c member
  rcases h.stop c member with rfl | rfl <;> rfl

theorem unique (h : WordParts t lead word rest trail)
    (h' : WordParts t lead' word' rest' trail') : word = word' := by
  have behind : word ++ rest ++ trail = word' ++ rest' ++ trail' :=
    (run_unique (by simpa using h.lead_low) (by simpa using h'.lead_low) h.stop_lead h'.stop_lead
      (h.parts.symm.trans h'.parts)).2
  have reversed : trail.reverse ++ (word ++ rest).reverse =
      trail'.reverse ++ (word' ++ rest').reverse := by
    rw [← List.reverse_append, ← List.reverse_append, behind]
  have core : (word ++ rest).reverse = (word' ++ rest').reverse :=
    (run_unique (by simpa using h.trail_low) (by simpa using h'.trail_low) h.stop_trail
      h'.stop_trail reversed).2
  exact (run_unique (by simpa using h.unbroken) (by simpa using h'.unbroken) h.stop_word
    h'.stop_word (List.reverse_injective core)).1

theorem tail_cases (h : WordParts t lead word rest trail) :
    (∀ c ∈ rest ++ trail, c ≤ ' ') ∨ ∃ c ∈ (rest ++ trail).head?, c = ' ' ∨ c = '\t' := by
  cases rest with
  | nil => exact .inl h.trail_low
  | cons c rest => exact .inr ⟨c, rfl, h.stop c rfl⟩

end WordParts

/-- Where there is nothing but low characters, there is no word. -/
theorem nameOf_of_low {t : Text} (h : ∀ c ∈ t, c ≤ ' ') : nameOf t = unknownName := by
  have nothing : t.dropWhile (fun c => decide (c ≤ ' ')) = [] :=
    List.dropWhile_eq_nil_iff.mpr (by simpa using h)
  rw [nameOf, nothing]
  rfl

/-- Any other text has a first word, which is the name. -/
theorem isFirstWord_nameOf {t : Text} (h : ¬ ∀ c ∈ t, c ≤ ' ') : IsFirstWord t (nameOf t) := by
  obtain ⟨lead, core, trail, parts, trimmed, lead_low, trail_low, ⟨first, begins, high⟩, last⟩ :=
    Text.trimmed_parts (p := fun c => decide (c ≤ ' ')) (by simpa using h)
  have whole := List.takeWhile_append_dropWhile (p := fun c => c != ' ' && c != '\t') (l := core)
  have high : ' ' < first := by simpa using high
  obtain ⟨core, rfl⟩ := List.head?_eq_some_iff.mp begins
  have unbroken : first ≠ ' ' ∧ first ≠ '\t' := by
    constructor <;> (rintro rfl; exact absurd high (by decide))
  have name : nameOf t = (first :: core).takeWhile fun c => c != ' ' && c != '\t' := by
    rw [nameOf, trimmed]
  rw [name]
  refine ⟨lead, (first :: core).dropWhile fun c => c != ' ' && c != '\t', trail, ?_⟩
  constructor
  · rw [whole, parts]
  · simpa using lead_low
  · simpa using trail_low
  · rw [List.takeWhile_cons_of_pos (by simpa using unbroken)]
    exact ⟨first, rfl, high⟩
  · rw [whole]
    simpa using last
  · intro c member
    simpa using List.mem_takeWhile_imp member
  · intro c member
    exact or_iff_not_imp_left.mpr (by simpa using stop_dropWhile _ _ c member)

/-- A name is a word: it begins with no low character and has no blank. -/
theorem nameOf_isWord (t : Text) :
    (∃ c ∈ (nameOf t).head?, ' ' < c) ∧ ∀ c ∈ nameOf t, c ≠ ' ' ∧ c ≠ '\t' := by
  by_cases low : ∀ c ∈ t, c ≤ ' '
  · rw [nameOf_of_low low]
    exact ⟨⟨'u', rfl, by decide⟩, Text.forall_mem_of_all (by decide)⟩
  · obtain ⟨_, _, _, parts⟩ := isFirstWord_nameOf low
    exact ⟨parts.begins, parts.unbroken⟩

theorem nameOf_eq_unknownName_iff {t : Text} :
    nameOf t = unknownName ↔ (∀ c ∈ t, c ≤ ' ') ∨ IsFirstWord t unknownName := by
  by_cases low : ∀ c ∈ t, c ≤ ' '
  · exact iff_of_true (nameOf_of_low low) (.inl low)
  · rw [or_iff_right low]
    constructor
    · intro same
      exact same ▸ isFirstWord_nameOf low
    · rintro ⟨_, _, _, parts⟩
      obtain ⟨_, _, _, own⟩ := isFirstWord_nameOf low
      exact own.unique parts

/-- A field goes into the flags and the message of a rule without a loss. -/
theorem withMessage_parts {r : Rule} (spaced : r.spaced) (clears : r.clears = false)
    (field : Text) :
    ∃ t, (withMessage r field).message = some ⟨t⟩ ∧ (withMessage r field).name = nameOf t ∧
      ¬ ((withMessage r field).spaced = false ∧ (withMessage r field).clears) ∧
      field = (if (withMessage r field).spaced then [] else ['\x08']) ++
        ((if (withMessage r field).clears then ['\r'] else []) ++ t) := by
  unfold withMessage
  split
  · rename_i t
    exact ⟨t, rfl, rfl, by simp [clears], by simp [clears]⟩
  · rename_i t
    exact ⟨t, rfl, rfl, by simp [spaced], by simp [spaced]⟩
  · exact ⟨field, rfl, rfl, by simp [clears], by simp [spaced, clears]⟩

variable {registry : Registry} {line : Text}

/-- The message of a rule, its flags and its name, by the fourth field of its line. -/
theorem message_parts_of_read {r : Rule} (h : read registry line = .ok (.rule r)) :
    ¬ (r.spaced = false ∧ r.clears) ∧
      r.name = r.message.elim unknownName (fun m => nameOf m.source) ∧
      (Field.split line 4)[3]? = r.message.map fun m =>
        (if r.spaced then [] else ['\x08']) ++ ((if r.clears then ['\r'] else []) ++ m.source) := by
  obtain ⟨_, place, type, test, message, fields, ok⟩ := fields_of_read h
  obtain ⟨level, relative, offset, _, mask, type, isUnsigned, test, _, _, _, _, rfl⟩ :=
    parts_of_readRule ok
  rw [fields]
  cases message with
  | nil => exact ⟨by simp [wordless], rfl, rfl⟩
  | cons field rest =>
      obtain ⟨t, source, name, flags, whole⟩ :=
        withMessage_parts (r := wordless level relative offset type mask isUnsigned test) rfl rfl
          field
      rw [List.head?_cons, Option.elim_some, source, name]
      exact ⟨flags, rfl, congrArg some whole⟩

/-- Nothing of the fourth field of a line is lost: there is one exactly if the rule has a message,
and it is the message behind the character that the flags stand for, of which no more than one is
set. The name is the first word of the message, and a word of its own if there is none. -/
theorem message_of_read {r : Rule} (h : read registry line = .ok (.rule r)) :
    (Field.split line 4)[3]? = (r.message.map fun m =>
      (if r.spaced then [] else ['\x08']) ++ ((if r.clears then ['\r'] else []) ++ m.source)) ∧
    ¬ (r.spaced = false ∧ r.clears = true) ∧
    r.name ≠ [] ∧ ' ' ∉ r.name ∧ '\t' ∉ r.name ∧ (∀ c ∈ r.name.head?, ' ' < c) ∧
    (r.name = unknownName ↔ r.message = none ∨
      ∃ m ∈ r.message, (∀ c ∈ m.source, c ≤ ' ') ∨ IsFirstWord m.source unknownName) ∧
    ∀ m ∈ r.message, (∃ c ∈ m.source, ' ' < c) →
      IsFirstWord m.source r.name ∧
      ∃ lead tail, m.source = lead ++ (r.name ++ tail) ∧ (∀ c ∈ lead, c ≤ ' ') ∧
        ((∀ c ∈ tail, c ≤ ' ') ∨ ∃ c ∈ tail.head?, c = ' ' ∨ c = '\t') := by
  obtain ⟨flags, name, field⟩ := message_parts_of_read h
  have word : (∃ c ∈ r.name.head?, ' ' < c) ∧ ∀ c ∈ r.name, c ≠ ' ' ∧ c ≠ '\t' := by
    rw [name]
    cases r.message with
    | none => exact nameOf_isWord []
    | some m => exact nameOf_isWord m.source
  obtain ⟨⟨first, begins, high⟩, unbroken⟩ := word
  refine ⟨field, flags, ?_, fun blank => (unbroken _ blank).1 rfl,
    fun tab => (unbroken _ tab).2 rfl, ?_, ?_, ?_⟩
  · intro empty
    rw [empty] at begins
    cases begins
  · intro c member
    exact Option.mem_unique begins member ▸ high
  · rw [name]
    cases r.message with
    | none => simp
    | some m => simpa using nameOf_eq_unknownName_iff
  · intro m member some
    rw [Option.mem_def.mp member] at name
    change r.name = nameOf m.source at name
    have firstWord : IsFirstWord m.source r.name := by
      rw [name]
      exact isFirstWord_nameOf (by simpa using some)
    obtain ⟨lead, rest, trail, parts⟩ := firstWord
    refine ⟨⟨lead, rest, trail, parts⟩, lead, rest ++ trail, ?_, parts.lead_low, parts.tail_cases⟩
    rw [← List.append_assoc r.name]
    exact parts.parts

/-- A carriage return, low characters around the words, and one in front of a blank. -/
theorem message_of_read_return :
    let line := "0 byte x \\r\\v GIF\\v image\\a".toList
    let byteType : MagicType := { name := "byte".toList, kind := .integer 1 .native }
    let r := withMessage (wordless 0 false (.direct 0) byteType none false none)
      "\r\x0b GIF\x0b image\x07".toList
    read .builtin line = .ok (.rule r) ∧ r.name = "GIF\x0b".toList ∧
      (Field.split line 4)[3]? = (r.message.map fun m =>
        (if r.spaced then [] else ['\x08']) ++ ((if r.clears then ['\r'] else []) ++ m.source)) ∧
      IsFirstWord "\x0b GIF\x0b image\x07".toList r.name := by
  intro line byteType r
  have read : Line.read .builtin line = .ok (.rule r) := by decide +kernel
  obtain ⟨field, -, -, -, -, -, -, word⟩ := message_of_read read
  exact ⟨read, by decide +kernel, field, (word ⟨_⟩ rfl ⟨'G', by decide, by decide⟩).1⟩

end MagicRules.Line
