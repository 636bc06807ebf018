import MagicRules.Proofs.Literal
import MagicRules.Proofs.Text
import MagicRules.Test
import Mathlib.Data.List.Forall2
import Mathlib.Data.List.Perm.Basic
import Mathlib.Data.List.TakeWhile

/-!
# What modifiers say

The modifiers of a type are read group by group and letter by letter, and reading stops at the first
thing that is not known. What they come to can be said at once from the letters of all groups and
from their numbers: a flag is set if its letter is among the letters, and of several numbers or
length letters the last one counts. The pattern is that of the test text alone.

Each reader is a fold, and after some letters or groups its state is a function of what has been
read so far. That function is the invariant (`foldlM_eq_ok_iff`). It depends on the order only where
the last of several counts, so a type with at most one number may have its groups and letters in any
order.
-/

namespace MagicRules

open MagicRules.Field (numberOf)

namespace ModifierGroup

def number? (g : ModifierGroup) : Option Nat :=
  if g.digits.isEmpty then none else some (numberOf 10 g.digits)

def lettersOf (groups : List ModifierGroup) : Text := groups.flatMap letters

/-- The numbers of the groups that have one. -/
def numbersOf (groups : List ModifierGroup) : List Nat := groups.filterMap number?

theorem lettersOf_append_singleton (groups : List ModifierGroup) (g : ModifierGroup) :
    lettersOf (groups ++ [g]) = lettersOf groups ++ g.letters := by
  simp [lettersOf]

theorem getLast?_numbersOf_append_singleton (groups : List ModifierGroup) (g : ModifierGroup) :
    (numbersOf (groups ++ [g])).getLast? = (g.number? <|> (numbersOf groups).getLast?) := by
  rw [numbersOf, List.filterMap_append]
  cases number : g.number? <;> simp [number, numbersOf]

theorem decimal_of_mem_all {typeText : Text} {g : ModifierGroup} (h : g ∈ all typeText) :
    ∀ c ∈ g.digits, isDecimalDigit c := by
  obtain ⟨piece, -, rfl⟩ := List.mem_map.mp h
  exact fun c member => List.mem_takeWhile_imp member

theorem range_eq_ok_iff {kind : String} {g : ModifierGroup}
    (decimal : ∀ c ∈ g.digits, isDecimalDigit c) {range : Option Nat} :
    g.range kind = .ok range ↔
      (∀ n ∈ g.number?, IntRange.unsigned64.Contains n) ∧ range = g.number? := by
  have read (n : Int) : readDigits 10 false .unsigned64 0 g.digits = .ok n ↔
      n = numberOf 10 g.digits ∧ IntRange.unsigned64.Contains n := by
    rw [readDigits_eq_ok_iff (by decide)]
    exact and_iff_right decimal
  rw [ModifierGroup.range, number?]
  split_ifs
  · simp [eq_comm]
  · cases result : readDigits 10 false .unsigned64 0 g.digits with
    | ok n =>
        obtain ⟨rfl, fits⟩ := (read n).mp result
        simp [fits, eq_comm]
    | error cause =>
        have large : ¬ IntRange.unsigned64.Contains (numberOf 10 g.digits) := by
          intro fits
          rw [(read _).mpr ⟨rfl, fits⟩] at result
          cases result
        simp [large]

/-- What holds of the letters and the numbers of each group holds of those of all. -/
theorem forall_mem_groups_iff {P : Char → Prop} {Q : Nat → Prop} {groups : List ModifierGroup} :
    (∀ g ∈ groups, (∀ c ∈ g.letters, P c) ∧ ∀ n ∈ g.number?, Q n) ↔
      (∀ c ∈ lettersOf groups, P c) ∧ ∀ n ∈ numbersOf groups, Q n := by
  rw [lettersOf, numbersOf, List.forall_mem_flatMap, List.forall_mem_filterMap]
  exact forall₂_and

namespace Rearranged

variable {groups groups' : List ModifierGroup}

end Rearranged

end ModifierGroup


open ModifierGroup

def StringFlags.ofLetters (letters : Text) : StringFlags where
  compactBlanks := 'W' ∈ letters
  optionalBlanks := 'w' ∈ letters
  ignoreLower := 'c' ∈ letters
  ignoreUpper := 'C' ∈ letters
  text := 't' ∈ letters
  binary := 'b' ∈ letters
  trim := 'T' ∈ letters
  fullWord := 'f' ∈ letters

def StringFlags.alphabet : Text := ['W', 'w', 'c', 'C', 't', 'b', 'T', 'f']

def RegexFlags.ofLetters (letters : Text) : RegexFlags where
  ignoreCase := 'c' ∈ letters
  startOffset := 's' ∈ letters
  lines := 'l' ∈ letters

def RegexFlags.alphabet : Text := ['c', 's', 'l']

/-- The length that the last length letter names; without any it is a byte. -/
def LengthField.ofLetters (letters : Text) : LengthField :=
  (letters.filterMap ofLetter?).getLast?.getD byte

def LengthField.alphabet : Text := ['B', 'H', 'h', 'L', 'l', 'J']

theorem StringFlags.set?_ofLetters (before : Text) (c : Char) :
    (ofLetters before).set? c =
      if c ∈ alphabet then some (ofLetters (before ++ [c])) else none := by
  rw [set?.eq_def]
  split <;> simp_all [alphabet, ofLetters]

theorem RegexFlags.set?_ofLetters (before : Text) (c : Char) :
    (ofLetters before).set? c =
      if c ∈ alphabet then some (ofLetters (before ++ [c])) else none := by
  rw [set?.eq_def]
  split <;> simp_all [alphabet, ofLetters]

theorem LengthField.ofLetters_append_singleton (before : Text) (c : Char) :
    ofLetters (before ++ [c]) = (ofLetter? c).getD (ofLetters before) := by
  rw [ofLetters, List.filterMap_append]
  cases letter : ofLetter? c <;> simp [letter, ofLetters]

theorem LengthField.mem_alphabet {c : Char} :
    c ∈ alphabet ↔ (ofLetter? c).isSome ∨ c = 'J' := by
  rw [ofLetter?.eq_def]
  split <;> simp_all [alphabet]

namespace BytesTest

/-- The test for a pattern after these letters, with this range. -/
def flagged (pattern : Bytes) (range : Option Nat) (letters : Text) : BytesTest :=
  { pattern, flags := .ofLetters letters, range }

/-- The test for a pattern after these groups. -/
def ofGroups (pattern : Bytes) (groups : List ModifierGroup) : BytesTest :=
  flagged pattern (numbersOf groups).getLast? (lettersOf groups)

theorem setFlag_flagged_eq_ok_iff {kind : String} {pattern : Bytes} {range : Option Nat}
    {before : Text} {c : Char} {test : BytesTest} :
    setFlag kind (flagged pattern range before) c = .ok test ↔
      c ∈ StringFlags.alphabet ∧ test = flagged pattern range (before ++ [c]) := by
  simp only [setFlag, flagged, StringFlags.set?_ofLetters]
  by_cases known : c ∈ StringFlags.alphabet
  · simp [known, eq_comm]
  · simp [known]

/-- One more group adds its letters, and its number, if it has one, becomes the last one. -/
theorem addGroup_ofGroups_eq_ok_iff {search : Bool} {kind : String} {typeText : Text}
    {pattern : Bytes} {before : List ModifierGroup} {g : ModifierGroup}
    (decimal : ∀ c ∈ g.digits, isDecimalDigit c) {test : BytesTest} :
    addGroup search kind typeText (ofGroups pattern before) g = .ok test ↔
      ((∀ c ∈ g.letters, c ∈ StringFlags.alphabet) ∧
        ∀ n ∈ g.number?, search ∧ IntRange.unsigned64.Contains n) ∧
      test = ofGroups pattern (before ++ [g]) := by
  have letters (range : Option Nat) :
      g.letters.foldlM (setFlag kind) (flagged pattern range (lettersOf before)) = .ok test ↔
        (∀ c ∈ g.letters, c ∈ StringFlags.alphabet) ∧
          test = flagged pattern range (lettersOf before ++ g.letters) :=
    foldlM_eq_ok_iff (fun _ _ _ _ => setFlag_flagged_eq_ok_iff) _ _
  rw [addGroup, bind_eq_ok_iff, ofGroups, ofGroups, lettersOf_append_singleton,
    getLast?_numbersOf_append_singleton]
  simp only [range_eq_ok_iff decimal]
  constructor
  · rintro ⟨range, ⟨fits, rfl⟩, read⟩
    split_ifs at read with misplaced
    · cases read
    · obtain ⟨known, rfl⟩ := (letters _).mp read
      refine ⟨⟨known, fun n number => ⟨?_, fits n number⟩⟩, rfl⟩
      simpa [Option.mem_def.mp number] using misplaced
  · rintro ⟨⟨known, numbers⟩, rfl⟩
    refine ⟨g.number?, ⟨fun n number => (numbers n number).2, rfl⟩, ?_⟩
    rw [if_neg]
    · exact (letters _).mpr ⟨known, rfl⟩
    · rintro ⟨given, absent⟩
      obtain ⟨n, number⟩ := Option.isSome_iff_exists.mp given
      simp [(numbers n number).1] at absent

/-- The tests of `string` and of `search`, which alone has a range. -/
theorem foldlM_addGroup_eq_ok_iff {search : Bool} {kind : String} {typeText t : Text}
    {test : BytesTest} :
    (all typeText).foldlM (addGroup search kind typeText) (ofText t) = .ok test ↔
      (∀ c ∈ lettersOf (all typeText), c ∈ StringFlags.alphabet) ∧
      (∀ n ∈ numbersOf (all typeText), search ∧ IntRange.unsigned64.Contains n) ∧
      test = ofGroups t.toBytes (all typeText) := by
  rw [← and_assoc, ← forall_mem_groups_iff]
  change (all typeText).foldlM _ (ofGroups t.toBytes []) = _ ↔ _
  exact foldlM_eq_ok_iff
    (fun _ _ member _ => addGroup_ofGroups_eq_ok_iff (decimal_of_mem_all member)) [] test

theorem readString_eq_ok_iff {typeText t : Text} {test : BytesTest} :
    readString typeText t = .ok test ↔
      (∀ c ∈ lettersOf (all typeText), c ∈ StringFlags.alphabet) ∧ numbersOf (all typeText) = [] ∧
      test = flagged t.toBytes none (lettersOf (all typeText)) := by
  rw [readString, foldlM_addGroup_eq_ok_iff, ofGroups]
  refine and_congr_right fun _ => ?_
  constructor
  · rintro ⟨numbers, rfl⟩
    have bare : numbersOf (all typeText) = [] :=
      List.eq_nil_iff_forall_not_mem.mpr fun n member => nomatch (numbers n member).1
    exact ⟨bare, by rw [bare]; rfl⟩
  · rintro ⟨bare, rfl⟩
    exact ⟨by simp [bare], by rw [bare]; rfl⟩

theorem readSearch_eq_ok_iff {typeText t : Text} {test : BytesTest} :
    readSearch typeText t = .ok test ↔
      (∀ c ∈ lettersOf (all typeText), c ∈ StringFlags.alphabet) ∧
      (∀ n ∈ numbersOf (all typeText), IntRange.unsigned64.Contains n) ∧
      test = flagged t.toBytes (numbersOf (all typeText)).getLast? (lettersOf (all typeText)) := by
  rw [readSearch, foldlM_addGroup_eq_ok_iff, ofGroups]
  simp only [true_and]

def counted (pattern : Bytes) (letters : Text) : BytesTest :=
  { pattern, length := .ofLetters letters, lengthCountsItself := 'J' ∈ letters }

theorem setLength_counted_eq_ok_iff {pattern : Bytes} {before : Text} {c : Char}
    {test : BytesTest} :
    setLength (counted pattern before) c = .ok test ↔
      c ∈ LengthField.alphabet ∧ test = counted pattern (before ++ [c]) := by
  rw [setLength, counted, counted, LengthField.ofLetters_append_singleton, LengthField.mem_alphabet]
  cases letter : LengthField.ofLetter? c with
  | some length =>
      have other : c ≠ 'J' := by
        rintro rfl
        cases letter
      simp [Ne.symm other, eq_comm]
  | none => by_cases itself : c = 'J' <;> simp [itself, eq_comm]

theorem addLengthGroup_counted_eq_ok_iff (typeText : Text) (pattern : Bytes)
    (before : List ModifierGroup) (g : ModifierGroup) (test : BytesTest) :
    addLengthGroup typeText (counted pattern (lettersOf before)) g = .ok test ↔
      ((∀ c ∈ g.letters, c ∈ LengthField.alphabet) ∧ ∀ n ∈ g.number?, False) ∧
        test = counted pattern (lettersOf (before ++ [g])) := by
  rw [addLengthGroup, number?, lettersOf_append_singleton]
  split_ifs
  · simpa using foldlM_eq_ok_iff (fun _ _ _ _ => setLength_counted_eq_ok_iff) _ _
  · simp

/-- The tests of `pstring`, which takes no number. -/
theorem readCounted_eq_ok_iff {typeText t : Text} {test : BytesTest} :
    readCounted typeText t = .ok test ↔
      (∀ c ∈ lettersOf (all typeText), c ∈ LengthField.alphabet) ∧ numbersOf (all typeText) = [] ∧
      test = counted t.toBytes (lettersOf (all typeText)) := by
  rw [List.eq_nil_iff_forall_not_mem, ← and_assoc, ← forall_mem_groups_iff]
  change (all typeText).foldlM _ ((fun groups => counted t.toBytes (lettersOf groups)) []) = _ ↔ _
  exact foldlM_eq_ok_iff
    (fun before g _ test => addLengthGroup_counted_eq_ok_iff typeText t.toBytes before g test)
    [] test

end BytesTest

namespace RegexModifiers

/-- The modifiers after these letters, with this count. -/
def flagged (count : Option Nat) (letters : Text) : RegexModifiers :=
  { flags := .ofLetters letters, count }

/-- The modifiers after these groups. -/
def ofGroups (groups : List ModifierGroup) : RegexModifiers :=
  flagged (numbersOf groups).getLast? (lettersOf groups)

theorem setFlag_flagged_eq_ok_iff {count : Option Nat} {before : Text} {c : Char}
    {m : RegexModifiers} :
    setFlag (flagged count before) c = .ok m ↔
      c ∈ RegexFlags.alphabet ∧ m = flagged count (before ++ [c]) := by
  simp only [setFlag, flagged, RegexFlags.set?_ofLetters]
  by_cases known : c ∈ RegexFlags.alphabet
  · simp [known, eq_comm]
  · simp [known]

theorem addGroup_ofGroups_eq_ok_iff {before : List ModifierGroup} {g : ModifierGroup}
    (decimal : ∀ c ∈ g.digits, isDecimalDigit c) {m : RegexModifiers} :
    addGroup (ofGroups before) g = .ok m ↔
      ((∀ c ∈ g.letters, c ∈ RegexFlags.alphabet) ∧
        ∀ n ∈ g.number?, IntRange.unsigned64.Contains n) ∧ m = ofGroups (before ++ [g]) := by
  have letters (count : Option Nat) :
      g.letters.foldlM setFlag (flagged count (lettersOf before)) = .ok m ↔
        (∀ c ∈ g.letters, c ∈ RegexFlags.alphabet) ∧
          m = flagged count (lettersOf before ++ g.letters) :=
    foldlM_eq_ok_iff (fun _ _ _ _ => setFlag_flagged_eq_ok_iff) _ _
  rw [addGroup, bind_eq_ok_iff, ofGroups, ofGroups, lettersOf_append_singleton,
    getLast?_numbersOf_append_singleton]
  simp only [range_eq_ok_iff decimal]
  constructor
  · rintro ⟨range, ⟨fits, rfl⟩, read⟩
    obtain ⟨known, rfl⟩ := (letters _).mp read
    exact ⟨⟨known, fits⟩, rfl⟩
  · rintro ⟨⟨known, fits⟩, rfl⟩
    exact ⟨_, ⟨fits, rfl⟩, (letters _).mpr ⟨known, rfl⟩⟩

theorem read_eq_ok_iff {typeText : Text} {m : RegexModifiers} :
    read typeText = .ok m ↔
      (∀ c ∈ lettersOf (all typeText), c ∈ RegexFlags.alphabet) ∧
      (∀ n ∈ numbersOf (all typeText), IntRange.unsigned64.Contains n) ∧
      m = ofGroups (all typeText) := by
  rw [← and_assoc, ← forall_mem_groups_iff]
  change (all typeText).foldlM _ (ofGroups []) = _ ↔ _
  exact foldlM_eq_ok_iff
    (fun _ _ member _ => addGroup_ofGroups_eq_ok_iff (decimal_of_mem_all member)) [] m

end RegexModifiers

/-- A regular expression is a test if its modifiers can be read and its pattern is well formed under
the flag of the case, and then with these modifiers. -/
theorem RegexTest.read_eq_ok_iff {typeText t : Text} {test : RegexTest} :
    read typeText t = .ok test ↔ ∃ modifiers, RegexModifiers.read typeText = .ok modifiers ∧
      ∃ node, Regex.Node.ofText? modifiers.flags.ignoreCase (Regex.bytePattern t) = some node ∧
        test = { source := t, modifiers, node } := by
  rw [read, bind_eq_ok_iff]
  refine exists_congr fun modifiers => and_congr_right fun _ => ?_
  cases Regex.Node.ofText? modifiers.flags.ignoreCase (Regex.bytePattern t) with
  | none => exact ⟨nofun, nofun⟩
  | some node =>
      constructor
      · rintro ⟨⟩
        exact ⟨node, rfl, rfl⟩
      · rintro ⟨_, ⟨⟩, rfl⟩
        rfl

end MagicRules
