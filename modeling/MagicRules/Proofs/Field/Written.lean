import MagicRules.Proofs.Field.Grammar
import MagicRules.Proofs.Text

/-!
# Fields as they are written

A text writes a word if it comes to the characters of the word whatever stands behind it. Not
every text that comes to a word does so: a byte in fewer digits than an escape may have takes the
digits behind it in. What writes words can be put together, and so can the fields of a line.
-/

namespace MagicRules.Field

/-- A character that stands for itself. -/
def IsPlain (c : Char) : Prop := isSeparator c = false ∧ c ≠ '\\'

instance (c : Char) : Decidable (IsPlain c) := inferInstanceAs (Decidable (_ ∧ _))

/-- The text is decoded to the word, and what stands behind it as if it stood alone. -/
def Writes (t word : Text) : Prop :=
  ∀ rest, atoms (t ++ rest) = word.map .content ++ atoms rest

namespace Writes

theorem nil : Writes [] [] := fun _ => rfl

theorem append {t u v w : Text} (ht : Writes t v) (hu : Writes u w) :
    Writes (t ++ u) (v ++ w) := by
  intro rest
  rw [List.append_assoc, ht, hu, List.map_append, List.append_assoc]

theorem plain {t : Text} (h : ∀ c ∈ t, IsPlain c) : Writes t t := by
  intro rest
  induction t with
  | nil => rfl
  | cons c t ih =>
      obtain ⟨separator, backslash⟩ := h c List.mem_cons_self
      have behind := ih fun d member => h d (List.mem_cons_of_mem c member)
      rw [List.cons_append, atoms_content (by simp [separator]) backslash, behind]
      rfl

/-- An escape of two hexadecimal digits is complete. -/
theorem hex {high low : Char} {h l : Nat} (digit_high : digit? 16 high = some h)
    (digit_low : digit? 16 low = some l) :
    Writes ['\\', 'x', high, low] [Char.ofNat (h * 16 + l)] := by
  intro rest
  have escape : escape ('x' :: high :: low :: rest) = (Char.ofNat (h * 16 + l), rest) := by
    have control : control? 'x' = none := rfl
    have octal : digit? 8 'x' = none := rfl
    simp [Field.escape, control, octal, isHexDigit, digits, digit_high, digit_low]
  rw [List.cons_append, atoms_backslash]
  change .content (Field.escape ('x' :: high :: low :: rest)).1 ::
    atoms (Field.escape ('x' :: high :: low :: rest)).2 = _
  rw [escape]
  rfl

theorem octal {high mid low : Char} {h m l : Nat} (digit_high : digit? 8 high = some h)
    (digit_mid : digit? 8 mid = some m) (digit_low : digit? 8 low = some l) :
    Writes ['\\', high, mid, low] [Char.ofNat (((h * 8 + m) * 8 + l) % 256)] := by
  intro rest
  have escape : escape (high :: mid :: low :: rest) =
      (Char.ofNat (((h * 8 + m) * 8 + l) % 256), rest) := by
    have control : control? high = none := by
      unfold control?
      split <;> first | rfl | cases digit_high
    simp [Field.escape, control, digits, digit_high, digit_mid, digit_low]
  rw [List.cons_append, atoms_backslash]
  change .content (Field.escape (high :: mid :: low :: rest)).1 ::
    atoms (Field.escape (high :: mid :: low :: rest)).2 = _
  rw [escape]
  rfl

end Writes

theorem group_succ_content {word : Text} (nonempty : word ≠ []) {as : List Atom}
    (stop : ∀ a ∈ as.head?, a.isContent = false) (more : Nat) :
    group (more + 1) (word.map .content ++ as) = word :: group more as := by
  have content : ∀ a ∈ word.map Atom.content, a.isContent := by
    simp
  have chars : (word.map Atom.content).map Atom.char = word := by
    simp [Function.comp_def]
  obtain ⟨field, rest⟩ := span_append content stop
  obtain ⟨c, cs, rfl⟩ := List.exists_cons_of_ne_nil nonempty
  change ((((c :: cs).map Atom.content ++ as).takeWhile Atom.isContent).map Atom.char ::
    group more (((c :: cs).map Atom.content ++ as).dropWhile Atom.isContent)) = _
  rw [field, rest, chars]

theorem group_content {word : Text} (nonempty : word ≠ []) (more : Nat) :
    group more (word.map .content) = [word] := by
  cases more with
  | zero =>
      obtain ⟨c, cs, rfl⟩ := List.exists_cons_of_ne_nil nonempty
      change [((c :: cs).map Atom.content).map Atom.char] = _
      simp [Function.comp_def]
  | succ more =>
      have field : group (more + 1) (word.map .content ++ []) = word :: group more [] :=
        group_succ_content nonempty (by simp) more
      rwa [List.append_nil, group_nil] at field

@[simp] theorem atoms_nil : atoms [] = [] := by
  rw [atoms]

/-- Passing over separators is passing over the atoms that they are. -/
theorem group_dropWhile (more : Nat) (line : Text) :
    group more (atoms (line.dropWhile isSeparator)) = group more (atoms line) := by
  induction line with
  | nil => rfl
  | cons c cs ih =>
      by_cases separator : isSeparator c
      · rw [List.dropWhile_cons_of_pos separator, atoms_separator separator, group_separator, ih]
      · rw [List.dropWhile_cons_of_neg separator]

theorem group_run {run : Text} (h : ∀ c ∈ run, isSeparator c) (more : Nat) (rest : Text) :
    group more (atoms (run ++ rest)) = group more (atoms rest) := by
  rw [← group_dropWhile, List.dropWhile_append_of_pos h, group_dropWhile]

/-- What begins with a separator or is empty ends a run of content. -/
theorem stop_atoms {t : Text} (h : ∀ c ∈ t.head?, isSeparator c) :
    ∀ a ∈ (atoms t).head?, a.isContent = false := by
  cases t with
  | nil => simp
  | cons c cs =>
      rw [atoms_separator (h c rfl)]
      simp

/-- A word of a line, as it is written and with the separators in front of it. -/
structure Part where
  run : Text
  text : Text
  word : Text
  separators : ∀ c ∈ run, isSeparator c
  writes : Writes text word
  nonempty : word ≠ []

namespace Part

def line (p : Part) : Text := p.run ++ p.text

variable {parts : List Part} {back : Text}

theorem stop_flatMap_line (apart : ∀ p ∈ parts, p.run ≠ [])
    (separators : ∀ c ∈ back, isSeparator c) :
    ∀ c ∈ (parts.flatMap line ++ back).head?, isSeparator c := by
  intro c first
  cases parts with
  | nil => exact separators c (List.mem_of_head? first)
  | cons p parts =>
      rw [List.flatMap_cons, line, List.append_assoc, List.append_assoc,
        List.head?_append_of_ne_nil _ (apart p List.mem_cons_self)] at first
      exact p.separators c (List.mem_of_head? first)

theorem group_flatMap_line {more : Nat} (apart : ∀ p ∈ parts.tail, p.run ≠ [])
    (separators : ∀ c ∈ back, isSeparator c) (enough : parts.length ≤ more + 1)
    (room : back = [] ∨ parts.length < more + 1) :
    group more (atoms (parts.flatMap line ++ back)) = parts.map word := by
  induction parts generalizing more with
  | nil =>
      rw [List.flatMap_nil, List.nil_append, ← List.append_nil back, group_run separators,
        atoms_nil, group_nil, List.map_nil]
  | cons p parts ih =>
      rw [List.tail_cons] at apart
      rw [List.length_cons] at enough room
      have stop := stop_atoms (stop_flatMap_line apart separators)
      rw [List.flatMap_cons, line, List.append_assoc, List.append_assoc, group_run p.separators,
        p.writes]
      by_cases last : parts = [] ∧ back = []
      · obtain ⟨rfl, rfl⟩ := last
        simpa using group_content p.nonempty more
      · -- Something follows, so this is not the last field that there is room for.
        obtain ⟨more, rfl⟩ : ∃ m, more = m + 1 := by
          refine Nat.exists_eq_succ_of_ne_zero fun none => last ⟨?_, ?_⟩
          · exact List.length_eq_zero_iff.mp (by omega)
          · exact room.resolve_right (by omega)
        have others : ∀ p ∈ parts.tail, p.run ≠ [] :=
          fun p member => apart p (List.mem_of_mem_tail member)
        rw [group_succ_content p.nonempty stop, ih others (by omega) (room.imp_right (by omega)),
          List.map_cons]

/-- Words that are kept apart by separators are the fields of their line, if as many are asked for.
There may be separators behind them only if more are asked for, or they belong to the last one. -/
theorem split_flatMap_line {fields : Nat} (apart : ∀ p ∈ parts.tail, p.run ≠ [])
    (separators : ∀ c ∈ back, isSeparator c) (enough : parts.length ≤ fields)
    (room : back = [] ∨ parts.length < fields) :
    split (parts.flatMap line ++ back) fields = parts.map word := by
  rw [split, splitFrom_start]
  exact group_flatMap_line apart separators (by omega) (room.imp_right (by omega))

end Part

theorem split_three {t₁ t₂ t₃ w₁ w₂ w₃ : Text} (h₁ : Writes t₁ w₁) (h₂ : Writes t₂ w₂)
    (h₃ : Writes t₃ w₃) (n₁ : w₁ ≠ []) (n₂ : w₂ ≠ []) (n₃ : w₃ ≠ []) {s₁ s₂ : Char}
    (sep₁ : isSeparator s₁) (sep₂ : isSeparator s₂) {fields : Nat} (enough : 3 ≤ fields) :
    split (t₁ ++ s₁ :: (t₂ ++ s₂ :: t₃)) fields = [w₁, w₂, w₃] := by
  let parts : List Part := [⟨[], t₁, w₁, nofun, h₁, n₁⟩,
    ⟨[s₁], t₂, w₂, List.forall_mem_singleton.mpr sep₁, h₂, n₂⟩,
    ⟨[s₂], t₃, w₃, List.forall_mem_singleton.mpr sep₂, h₃, n₃⟩]
  have apart : ∀ p ∈ parts.tail, p.run ≠ [] := by
    simp [parts]
  have nothing : ∀ c ∈ ([] : Text), isSeparator c := nofun
  have fields := Part.split_flatMap_line apart nothing enough (.inl rfl)
  simpa [parts, Part.line] using fields

end MagicRules.Field
