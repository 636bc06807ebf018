import MagicRules.Proofs.Field.Token
import MagicRules.Proofs.RuleSet.Attachment
import MagicRules.Proofs.Test.Modifier
import MagicRules.Proofs.Text.Latin
import MagicRules.Proofs.Text.Lines

/-!
# Files of raw bytes

A magic file may be given as bytes, each of which is one character. Decoding a line puts nothing but
bytes in: a character of a field is one of the line, or it is a byte that was written with a
backslash (`char_of_mem_split`). So all characters of the fields are bytes, and the pattern of a
test has the bytes of its field, one for each character, from which the field is shown again.
-/

namespace MagicRules

namespace Field

theorem numberOf_digitRun_lt {radix : Nat} (two : 1 < radix) (n : Nat) (t : Text) :
    numberOf radix (digitRun radix n t) < radix ^ n := by
  have digits : ∀ d ∈ ((digitRun radix n t).map fun c => (digit? radix c).getD 0).reverse,
      d < radix := by
    intro d member
    obtain ⟨c, inRun, rfl⟩ := List.mem_map.mp (List.mem_reverse.mp member)
    obtain ⟨d, digit⟩ := Option.isSome_iff_exists.mp (isSome_of_mem_digitRun inRun)
    rw [digit]
    exact (digit?_eq_some_iff.mp digit).2
  have bound := Nat.ofDigits_lt_base_pow_length two digits
  rw [List.length_reverse, List.length_map] at bound
  exact bound.trans_le (Nat.pow_le_pow_right (by omega) (length_digitRun_le radix n t))

/-- What a backslash stands for is a character behind it, or a byte. -/
theorem char_of_spelled (cs : Text) : (spelled cs).1 ∈ cs ∨ (spelled cs).1.toNat ≤ 0xff := by
  cases cs with
  | nil => exact .inr (by decide)
  | cons c cs =>
      rw [spelled]
      split
      · rename_i control letter
        have all : ∀ entry ∈ controlLetters, entry.2.toNat ≤ 0xff := by decide
        exact .inr (all (c, control) (mem_of_lookup letter))
      · split_ifs
        · exact .inr (Text.toNat_ofNat_le (by omega))
        · have value := numberOf_digitRun_lt (by omega : 1 < 16) 2 cs
          exact .inr (Text.toNat_ofNat_le (by omega))
        · exact .inl List.mem_cons_self

theorem spelled_isSuffix (cs : Text) : (spelled cs).2 <:+ cs := by
  cases cs with
  | nil => exact List.suffix_rfl
  | cons c cs =>
      obtain ⟨digits, -, shape⟩ := exists_spelled_cons c cs
      exact ⟨c :: digits, by rw [List.cons_append, ← shape]⟩

theorem char_of_mem_atoms {line : Text} {a : Atom} (h : a ∈ atoms line) :
    a.char ∈ line ∨ a.char.toNat ≤ 0xff := by
  fun_induction atoms line with
  | case1 => cases h
  | case2 cs ih =>
      rcases List.mem_cons.mp h with rfl | later
      · exact (char_of_spelled cs).imp_left (List.mem_cons_of_mem _)
      · exact (ih later).imp_left fun member =>
          List.mem_cons_of_mem _ ((spelled_isSuffix cs).mem member)
  | case3 c cs raw separator ih =>
      rcases List.mem_cons.mp h with rfl | later
      · exact .inl List.mem_cons_self
      · exact (ih later).imp_left (List.mem_cons_of_mem _)
  | case4 c cs raw word ih =>
      rcases List.mem_cons.mp h with rfl | later
      · exact .inl List.mem_cons_self
      · exact (ih later).imp_left (List.mem_cons_of_mem _)

theorem exists_atom_of_mem_group {more : Nat} {as : List Atom} {field : Text} {c : Char}
    (h : field ∈ group more as) (member : c ∈ field) : ∃ a ∈ as, a.char = c := by
  induction more generalizing as with
  | zero =>
      rw [group] at h
      split at h
      · cases h
      · rename_i front
        rw [List.mem_singleton.mp h] at member
        obtain ⟨a, inside, same⟩ := List.mem_map.mp member
        exact ⟨a, (List.dropWhile_suffix _).mem inside, same⟩
  | succ more ih =>
      rw [group] at h
      split at h
      · cases h
      · rcases List.mem_cons.mp h with rfl | later
        · obtain ⟨a, inside, same⟩ := List.mem_map.mp member
          exact ⟨a, (List.dropWhile_suffix _).mem ((List.takeWhile_prefix _).mem inside), same⟩
        · obtain ⟨a, inside, same⟩ := ih later
          exact ⟨a, (List.dropWhile_suffix _).mem ((List.dropWhile_suffix _).mem inside), same⟩

/-- A character of a field is one of the line, or a byte. -/
theorem char_of_mem_split {line field : Text} {fields : Nat} {c : Char}
    (h : field ∈ split line fields) (member : c ∈ field) : c ∈ line ∨ c.toNat ≤ 0xff := by
  rw [split, splitFrom_start] at h
  obtain ⟨a, inside, rfl⟩ := exists_atom_of_mem_group h member
  exact char_of_mem_atoms inside

end Field

/-- A test of bytes has those of its text for a pattern. -/
theorem Kind.pattern_of_readTest {k : Kind} {typeText t : Text} {test : BytesTest}
    (h : k.readTest typeText t = .ok (.bytes test)) : test.pattern = t.toBytes := by
  cases k with
  | string =>
      obtain ⟨_, read, same⟩ := exists_ok_of_map_eq_ok h
      cases same
      rw [(BytesTest.readString_eq_ok_iff.mp read).2.2, BytesTest.flagged]
  | search =>
      obtain ⟨_, read, same⟩ := exists_ok_of_map_eq_ok h
      cases same
      rw [(BytesTest.readSearch_eq_ok_iff.mp read).2.2, BytesTest.flagged]
  | pstring =>
      obtain ⟨_, read, same⟩ := exists_ok_of_map_eq_ok h
      cases same
      rw [(BytesTest.readCounted_eq_ok_iff.mp read).2.2, BytesTest.counted]
  | string16 _ =>
      cases h
      rfl
  | integer _ _ | synchsafe _ | date _ _ _ | float _ _ | regex =>
      obtain ⟨_, _, same⟩ := exists_ok_of_map_eq_ok h
      cases same
  | default | clear | name | use | indirect | offset | der | guid => cases h

theorem Line.pattern_of_read {registry : Registry} {line : Text} {r : Rule} {test : BytesTest}
    (h : read registry line = .ok (.rule r)) (bytes : r.test = some (.bytes test)) :
    ∃ field, (Field.split line 4)[2]? = some field ∧ test.pattern = field.toBytes := by
  obtain ⟨_, _, field, typeText, fields, -, -, -, read⟩ := parts_of_read h
  refine ⟨field, ?_, ?_⟩
  · rw [← List.getElem?_take_of_lt (Nat.lt_succ_self 2), fields]
    rfl
  · rw [readTest, bytes] at read
    split_ifs at read
    · cases read
    · split at read
      · rename_i ok
        cases read
        exact Kind.pattern_of_readTest ok
      · cases read

namespace RuleSet

/-- In a file of raw bytes the characters of a field are bytes. The pattern of a test of bytes has
the bytes of the third field of its own line, one for each character and of the same value, and it
is shown as that field. So tests are shown alike exactly if they have the same pattern. -/
theorem bytes_survive (bytes : Bytes) :
    let run := empty.ledger .builtin (Text.ofBytes bytes).lines
    (∀ (i : Nat) (r : Rule) (test : BytesTest),
      (ofBytes bytes).1.rules[i]? = some r → r.test = some (.bytes test) →
      ∃ (k : Nat) (line field : Text), run[k]? = some (line, .added i) ∧
        (Field.split line 4)[2]? = some field ∧ (∀ c ∈ field, c.toNat ≤ 0xff) ∧
        test.pattern.map UInt8.toNat = field.map Char.toNat ∧ test.written = field) ∧
    (∀ test test' : BytesTest, test.written = test'.written ↔ test.pattern = test'.pattern) ∧
    (∀ (line : Text) (fields : Nat), (∀ c ∈ line, c.toNat ≤ 0xff) →
      ∀ field ∈ Field.split line fields, ∀ c ∈ field, c.toNat ≤ 0xff) := by
  have decoded (line : Text) (fields : Nat) (low : ∀ c ∈ line, c.toNat ≤ 0xff) :
      ∀ field ∈ Field.split line fields, ∀ c ∈ field, c.toNat ≤ 0xff :=
    fun _ inside c member => (Field.char_of_mem_split inside member).elim (low c) id
  refine ⟨?_, fun _ _ => Text.ofBytes_inj, decoded⟩
  intro i r test at_i bytesTest
  obtain ⟨k, line, own, added, read, rfl⟩ := exists_line_of_rule at_i
  obtain ⟨field, third, pattern⟩ := Line.pattern_of_read read bytesTest
  have ofFile : line ∈ (Text.ofBytes bytes).lines := by
    rw [← ledger_lines empty (Text.ofBytes bytes).lines]
    exact List.mem_map_of_mem (List.mem_of_getElem? added)
  have low : ∀ c ∈ field, c.toNat ≤ 0xff :=
    decoded line 4
      (fun c member => Text.toNat_le_of_mem_ofBytes (Text.mem_of_mem_lines ofFile member))
      field (List.mem_of_getElem? third)
  refine ⟨k, line, field, added, third, low, ?_, ?_⟩
  · rw [pattern, Text.map_toNat_toBytes low]
  · rw [BytesTest.written, pattern, Text.ofBytes_toBytes low]

/-- The same byte as it is and in octal digits. -/
theorem bytes_survive_mixture :
    let bytes := Text.toBytes "# raw\n0 string ".toList ++ [0xe9] ++ Text.toBytes "\\351 e".toList
    let r := Line.withMessage (Line.wordless 0 false (.direct 0)
      { name := "string".toList, kind := .string } none false
      (some (.bytes { pattern := [0xe9, 0xe9] }))) "e".toList
    (ofBytes bytes).1.rules[0]? = some r ∧
    (∃ (k : Nat) (line field : Text),
      (empty.ledger .builtin (Text.ofBytes bytes).lines)[k]? = some (line, .added 0) ∧
      (Field.split line 4)[2]? = some field ∧ (∀ c ∈ field, c.toNat ≤ 0xff) ∧
      [0xe9, 0xe9].map UInt8.toNat = field.map Char.toNat ∧
      BytesTest.written { pattern := [0xe9, 0xe9] } = field) := by
  intro bytes r
  have rule : (ofBytes bytes).1.rules[0]? = some r := by decide +kernel
  exact ⟨rule, (bytes_survive bytes).1 0 r _ rule rfl⟩

end RuleSet

end MagicRules
