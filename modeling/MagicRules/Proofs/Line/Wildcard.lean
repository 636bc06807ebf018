import MagicRules.Proofs.Field.Token
import MagicRules.Proofs.Line.Parts

/-!
# The test that always holds

A rule whose test is the letter `x` tests nothing and always matches. The letter is looked for in
the decoded field, which does not tell an escape from what it stands for. So there are four more
tokens of this meaning, the escapes for the letter (`decode_eq_x_iff`), and no line of type `string`
can test for this one byte. Any other token is a test (`test_of_token`).
-/

namespace MagicRules

namespace Field

/-- The tokens that are the letter `x` behind a backslash. -/
def escapedX : List Text := ["\\x", "\\x78", "\\170", "\\570"].map String.toList

theorem toNat_of_ofNat_eq {n : Nat} {c : Char} (byte : n < 256) (h : Char.ofNat n = c) :
    n = c.toNat := by
  have valid : n.isValidChar := .inl (by omega)
  rw [← h, Char.ofNat, dif_pos valid]
  rfl

theorem digitRun_eq_self {radix n : Nat} {t : Text}
    (h : t.drop (digitRun radix n t).length = []) :
    digitRun radix n t = t ∧ (∀ c ∈ t, (digit? radix c).isSome) ∧ t.length ≤ n := by
  have whole := digitRun_append_drop radix n t
  rw [h, List.append_nil] at whole
  have digits : ∀ c ∈ digitRun radix n t, (digit? radix c).isSome :=
    fun _ => isSome_of_mem_digitRun
  have short := length_digitRun_le radix n t
  rw [whole] at digits short
  exact ⟨whole, digits, short⟩

theorem exists_digit {radix : Nat} {c : Char} (h : (digit? radix c).isSome) :
    ∃ d < radix, digit? radix c = some d := by
  obtain ⟨d, value⟩ := Option.isSome_iff_exists.mp h
  exact ⟨d, (digit?_eq_some_iff.mp value).2, value⟩

/-- Octal digits for the letter. The third one from the right counts only by its low bits. -/
theorem octal_of_x {t : Text} (digits : ∀ c ∈ t, (digit? 8 c).isSome) (short : t.length ≤ 3)
    (h : Char.ofNat (numberOf 8 t % 256) = 'x') : t = "170".toList ∨ t = "570".toList := by
  have value : numberOf 8 t % 256 = 0x78 := toNat_of_ofNat_eq (Nat.mod_lt _ (by omega)) h
  match t, short with
  | [], _ => cases value
  | [a], _ =>
      obtain ⟨u, hu, ha⟩ := exists_digit (digits a (by simp))
      simp [numberOf, ha] at value
      omega
  | [a, b], _ =>
      obtain ⟨u, hu, ha⟩ := exists_digit (digits a (by simp))
      obtain ⟨v, hv, hb⟩ := exists_digit (digits b (by simp))
      simp [numberOf, ha, hb, Nat.ofDigits_cons] at value
      omega
  | [a, b, c], _ =>
      obtain ⟨u, hu, ha⟩ := exists_digit (digits a (by simp))
      obtain ⟨v, hv, hb⟩ := exists_digit (digits b (by simp))
      obtain ⟨w, hw, hc⟩ := exists_digit (digits c (by simp))
      simp [numberOf, ha, hb, hc, Nat.ofDigits_cons] at value
      rw [eq_digitChar_of_lt_ten ha (by omega), eq_digitChar_of_lt_ten hb (by omega),
        eq_digitChar_of_lt_ten hc (by omega)]
      obtain ⟨rfl, rfl⟩ : v = 7 ∧ w = 0 := by omega
      obtain rfl | rfl : u = 1 ∨ u = 5 := by omega
      · exact .inl rfl
      · exact .inr rfl

theorem hex_of_x {t : Text} (digits : ∀ c ∈ t, (digit? 16 c).isSome) (short : t.length ≤ 2)
    (h : Char.ofNat (numberOf 16 t) = 'x') : t = "78".toList := by
  match t, short with
  | [], _ => cases h
  | [a], _ =>
      obtain ⟨u, hu, ha⟩ := exists_digit (digits a (by simp))
      simp [numberOf, ha] at h
      have value := toNat_of_ofNat_eq (by omega) h
      change u = 0x78 at value
      omega
  | [a, b], _ =>
      obtain ⟨u, hu, ha⟩ := exists_digit (digits a (by simp))
      obtain ⟨v, hv, hb⟩ := exists_digit (digits b (by simp))
      simp [numberOf, ha, hb, Nat.ofDigits_cons] at h
      have value := toNat_of_ofNat_eq (by omega) h
      change v + 16 * u = 0x78 at value
      obtain ⟨rfl, rfl⟩ : u = 7 ∧ v = 8 := by omega
      rw [eq_digitChar_of_lt_ten ha (by omega), eq_digitChar_of_lt_ten hb (by omega)]
      rfl

theorem mem_escapedX_of_spelled {u : Text} (h : spelled u = ('x', [])) : '\\' :: u ∈ escapedX := by
  cases u with
  | nil => cases h
  | cons c cs =>
      rw [spelled] at h
      split at h
      · rename_i control letter
        rw [← control?_eq_lookup] at letter
        cases h
        unfold control? at letter
        split at letter <;> cases letter
      · split_ifs at h with octal hex
        · obtain ⟨value, rest⟩ := Prod.mk.inj h
          obtain ⟨run, digits, short⟩ := digitRun_eq_self rest
          rcases octal_of_x digits short (run ▸ value) with same | same <;> simp [escapedX, same]
        · obtain ⟨rfl, _⟩ := hex
          obtain ⟨value, rest⟩ := Prod.mk.inj h
          obtain ⟨run, digits, short⟩ := digitRun_eq_self rest
          simp [escapedX, hex_of_x digits short (run ▸ value)]
        · cases h
          decide

theorem spelled_eq_x_iff {u : Text} : spelled u = ('x', []) ↔ '\\' :: u ∈ escapedX := by
  have all : ∀ t ∈ escapedX, spelled t.tail = ('x', []) := by decide
  exact ⟨mem_escapedX_of_spelled, all ('\\' :: u)⟩

/-- A token for the letter alone is the letter, or one of four escapes. -/
theorem decode_eq_x_iff {t : Text} : decode t = ['x'] ↔ t = ['x'] ∨ t ∈ escapedX := by
  cases t with
  | nil => simp [escapedX, decode]
  | cons c cs =>
      by_cases raw : c = '\\'
      · subst raw
        have spelling : decode ('\\' :: cs) = (spelled cs).1 :: decode (spelled cs).2 :=
          congrArg (List.map Atom.char) (atoms_escape cs)
        rw [spelling, ← spelled_eq_x_iff, Prod.ext_iff, List.cons.injEq, decode_eq_nil_iff]
        exact (or_iff_right (by simp)).symm
      · have plain : decode (c :: cs) = c :: decode cs := by
          rw [decode, decode, atoms, if_neg raw]
          split <;> rfl
        have other : c :: cs ∉ escapedX := by
          have all : ∀ t ∈ escapedX, t.head? = some '\\' := by decide
          exact fun member => raw (Option.some.inj (all _ member))
        rw [plain, List.cons.injEq, decode_eq_nil_iff, or_iff_left other, List.cons.injEq]

end Field

namespace Line

variable {registry : Registry} {line : Text}

def stringType : MagicType := { name := "string".toList, kind := .string }

/-- A rule tests nothing if the third token of its line is the letter `x`, or the letter behind a
backslash in one of four ways. Any other token, and so any other escape, is a test of the type that
the second field names. -/
theorem test_of_token {r : Rule} (h : read registry line = .ok (.rule r)) :
    ∃ place typeField token typeText,
      Field.tokens 3 line = [place, typeField, token] ∧
      readMask (Field.decode typeField) = .ok (typeText, r.mask) ∧
      resolveType registry typeText = .ok (r.type, r.isUnsigned) ∧
      (r.test = none ↔ token = ['x'] ∨ token ∈ Field.escapedX) ∧
      ∀ test ∈ r.test, r.type.kind.readTest typeText (Field.decode token) = .ok test := by
  obtain ⟨_, _, _, typeText, fields, -, hmask, htype, htest⟩ := parts_of_read h
  obtain ⟨place, typeField, token, tokens, rfl, rfl, rfl⟩ := Field.tokens_of_take_split fields
  refine ⟨place, typeField, token, typeText, tokens, hmask, htype, ?_⟩
  rw [← Field.decode_eq_x_iff]
  unfold readTest at htest
  split_ifs at htest with letter
  · have none : r.test = none := (Except.ok.inj htest).symm
    exact ⟨iff_of_true none letter, by simp [none]⟩
  · split at htest
    · rename_i test ok
      have some : r.test = some test := (Except.ok.inj htest).symm
      exact ⟨iff_of_false (by simp [some]) letter, by simpa [some] using ok⟩
    · cases htest

/-- A line of the type `string`, in whatever way its test is written. -/
theorem read_string {t word : Text} {test : Option Test} (writes : Field.Writes t word)
    (nonempty : word ≠ []) (read : readTest stringType "string".toList word = .ok test) :
    Line.read .builtin ("0 string ".toList ++ t) =
      .ok (.rule (wordless 0 false (.direct 0) stringType none false test)) := by
  have zero : Field.Writes ['0'] ['0'] := .plain (List.forall_mem_singleton.mpr (by decide))
  have name : Field.Writes "string".toList "string".toList :=
    .plain (Text.forall_mem_of_all (by decide))
  have rule : '!' ∉ (['0'] : Text).head? := by decide
  have found : Registry.builtin.resolve? "string".toList = some stringType := by decide
  exact read_of_words rule zero name writes (List.cons_ne_nil _ _) (by decide) nonempty rfl rfl
    (resolveType_named found) read

theorem writes_x : Field.Writes "\\x78".toList "x".toList :=
  .hex (show digit? 16 '7' = some 7 from rfl) (show digit? 16 '8' = some 8 from rfl)

/-- A digit behind the escape for the letter, and there is a test again. -/
theorem test_of_token_escape :
    let line := "0 string \\x780".toList
    let r := wordless 0 false (.direct 0) stringType none false
      (some (.bytes { pattern := [0x78, 0x30] }))
    read .builtin line = .ok (.rule r) ∧
      ∃ place typeField token typeText,
        Field.tokens 3 line = [place, typeField, token] ∧
        readMask (Field.decode typeField) = .ok (typeText, r.mask) ∧
        resolveType .builtin typeText = .ok (r.type, r.isUnsigned) ∧
        (r.test = none ↔ token = ['x'] ∨ token ∈ Field.escapedX) ∧
        ∀ test ∈ r.test, r.type.kind.readTest typeText (Field.decode token) = .ok test := by
  have zero : Field.Writes ['0'] ['0'] := .plain (List.forall_mem_singleton.mpr (by decide))
  have writes : Field.Writes "\\x780".toList "x0".toList := writes_x.append zero
  have line := read_string writes (by decide) rfl
  exact ⟨line, test_of_token line⟩

/-- The byte of the letter, asked for in hexadecimal digits, is not tested for. -/
theorem read_escaped_x :
    Field.tokens 3 "0 string \\x78".toList = ["0", "string", "\\x78"].map String.toList ∧
    read .builtin "0 string \\x78".toList =
      .ok (.rule (wordless 0 false (.direct 0) stringType none false none)) :=
  ⟨by decide +kernel, read_string writes_x (by decide) rfl⟩

end Line

end MagicRules
