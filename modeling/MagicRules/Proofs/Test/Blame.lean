import MagicRules.Proofs.Test.Modifier

/-!
# The modifier that an error names

Reading stops at the first group that the type does not take. If a letter of that group is unknown,
the error names this letter. If its number is misplaced, the error names the first character behind
the name of the type. That is the first digit of the number as long as no other group stands in
front. Behind another group it is a letter that the type takes, or the slash behind an empty group.
-/

namespace MagicRules

open ModifierGroup

/-- The letter that is reported of these letters, the first one that is not in the alphabet. -/
def FirstUnknown (alphabet letters : Text) (flag : Char) : Prop :=
  flag ∉ alphabet ∧ ∃ front back, letters = front ++ flag :: back ∧ ∀ c ∈ front, c ∈ alphabet

/-- The types whose tests take modifiers. -/
inductive Modified where
  | string
  | search
  | pstring
  | regex
  deriving DecidableEq, Repr

namespace Modified

def kind : Modified → String
  | string => "string"
  | search => "search"
  | pstring => "pstring"
  | regex => "regex"

def alphabet : Modified → Text
  | string | search => StringFlags.alphabet
  | pstring => LengthField.alphabet
  | regex => RegexFlags.alphabet

def Takes : Modified → Nat → Prop
  | string, _ | pstring, _ => False
  | search, n | regex, n => IntRange.unsigned64.Contains n

/-- The numbers that are reported as wrong modifiers of the type. One that is too large for
`string`, `search` or `regex` is reported as such, wherever it stands. -/
def Misplaces : Modified → Nat → Prop
  | string, n => IntRange.unsigned64.Contains n
  | pstring, _ => True
  | search, _ | regex, _ => False

/-- The test of the type cannot be read, for this reason. -/
def Fails : Modified → Text → Text → TestError → Prop
  | string, typeText, t, e => BytesTest.readString typeText t = .error e
  | search, typeText, t, e => BytesTest.readSearch typeText t = .error e
  | pstring, typeText, t, e => BytesTest.readCounted typeText t = .error e
  | regex, typeText, t, e => RegexTest.read typeText t = .error e

variable {m : Modified} {g : ModifierGroup} {flag : Char} {typeText t : Text} {kind : String}

/-- The group is one that the type takes. -/
def Accepts (m : Modified) (g : ModifierGroup) : Prop :=
  (∀ c ∈ g.letters, c ∈ m.alphabet) ∧ ∀ n ∈ g.number?, m.Takes n

/-- The type takes the number of the group, if there is one, but not this letter, which is the first
that it does not take. -/
def WrongLetter (m : Modified) (g : ModifierGroup) (flag : Char) : Prop :=
  (∀ n ∈ g.number?, m.Takes n) ∧ FirstUnknown m.alphabet g.letters flag

def WrongNumber (m : Modified) (g : ModifierGroup) : Prop :=
  ∃ n ∈ g.number?, m.Misplaces n

/-- What is reported of a group that the type does not take because of a modifier. -/
def Blames (m : Modified) (typeText : Text) (g : ModifierGroup) (kind : String) (flag : Char) :
    Prop :=
  kind = m.kind ∧ (m.WrongLetter g flag ∨ m.WrongNumber g ∧ flag = misplaced typeText)

theorem WrongNumber.exists_digit (h : m.WrongNumber g) : ∃ digit, digit ∈ g.digits.head? := by
  obtain ⟨n, number, -⟩ := h
  rw [number?] at number
  split_ifs at number with empty
  · cases number
  · cases digits : g.digits with
    | nil => simp [digits] at empty
    | cons digit _ => exact ⟨digit, rfl⟩

theorem notMem_alphabet_of_digit (m : Modified) {c : Char} (h : isDecimalDigit c) :
    c ∉ m.alphabet := by
  have letters : ∀ c ∈ m.alphabet, isDecimalDigit c = false := by
    cases m <;> exact Text.forall_mem_of_all (by decide)
  intro member
  rw [letters c member] at h
  cases h

/-- A type that reports a number as misplaced takes none at all. -/
theorem not_takes_of_misplaces {n : Nat} (h : m.Misplaces n) (n' : Nat) : ¬ m.Takes n' := by
  cases m with
  | string | pstring => exact id
  | search | regex => exact h.elim

theorem WrongLetter.not_wrongNumber (h : m.WrongLetter g flag) : ¬ m.WrongNumber g := by
  rintro ⟨n, number, misplaces⟩
  exact not_takes_of_misplaces misplaces n (h.1 n number)

/-- A group in front of a misplaced number has letters alone. -/
theorem WrongNumber.digits_eq_nil {g' : ModifierGroup} (h : m.WrongNumber g)
    (accepted : m.Accepts g') : g'.digits = [] := by
  obtain ⟨n, -, misplaces⟩ := h
  by_contra digits
  have number : g'.number? = some (Field.numberOf 10 g'.digits) := by
    rw [number?, if_neg (by simpa using digits)]
  exact not_takes_of_misplaces misplaces _ (accepted.2 _ number)

end Modified

section Letters

variable {α : Type} {alphabet : Text} {kind kind' : String} {flag : Char}

theorem foldlM_letters_eq_modifier_iff {step : α → Char → Except TestError α} (result : Text → α)
    (known : ∀ before c a,
      step (result before) c = .ok a ↔ c ∈ alphabet ∧ a = result (before ++ [c]))
    (unknown : ∀ before c e,
      step (result before) c = .error e ↔ c ∉ alphabet ∧ e = .modifier kind c)
    (before letters : Text) :
    letters.foldlM step (result before) = .error (.modifier kind' flag) ↔
      kind' = kind ∧ FirstUnknown alphabet letters flag := by
  rw [foldlM_eq_error_iff (fun before c _ a => known before c a)]
  simp only [unknown, TestError.modifier.injEq]
  constructor
  · rintro ⟨front, c, back, rfl, all, wrong, rfl, rfl⟩
    exact ⟨rfl, wrong, front, back, rfl, all⟩
  · rintro ⟨rfl, wrong, front, back, rfl, all⟩
    exact ⟨front, flag, back, rfl, all, wrong, rfl, rfl⟩

end Letters

namespace ModifierGroup

theorem range_ne_modifier (g : ModifierGroup) (kind kind' : String) (flag : Char) :
    g.range kind ≠ .error (.modifier kind' flag) := by
  rw [ModifierGroup.range]
  intro failed
  split_ifs at failed
  cases read : readDigits 10 false .unsigned64 0 g.digits <;> (rw [read] at failed; cases failed)

theorem exists_behind {typeText : Text} (some : all typeText ≠ []) :
    ∃ name behind, typeText = name ++ '/' :: behind ∧ '/' ∉ name ∧
      all typeText = (behind.splitOn '/').map ofText := by
  have cut : '/' ∈ typeText := by
    by_contra uncut
    apply some
    rw [all, Text.splitAt_eq_splitOn, List.splitOn_eq_singleton uncut]
    rfl
  obtain ⟨name, behind, rfl, first⟩ := List.eq_append_cons_of_mem cut
  refine ⟨name, behind, rfl, first, ?_⟩
  rw [all, Text.splitAt_eq_splitOn, List.splitOn_append_cons_self_of_not_mem first]
  rfl

theorem mem_behind {typeText behind : Text} {g : ModifierGroup} {c : Char}
    (h : all typeText = (behind.splitOn '/').map ofText) (member : g ∈ all typeText)
    (inside : c ∈ g.digits ++ g.letters) : c ∈ behind := by
  rw [h] at member
  obtain ⟨piece, cut, rfl⟩ := List.mem_map.mp member
  rw [ofText, List.takeWhile_append_dropWhile] at inside
  exact Text.mem_of_mem_splitOn cut inside

/-- What stands for a misplaced number is the first character of the first group. -/
theorem misplaced_of_all {typeText : Text} {g : ModifierGroup} {rest : List ModifierGroup}
    (h : all typeText = g :: rest) :
    misplaced typeText = (g.digits ++ g.letters).head?.getD '/' := by
  rw [all] at h
  rw [misplaced]
  cases pieces : (typeText.splitAt '/').drop 1 with
  | nil => simp [pieces] at h
  | cons piece _ =>
      rw [pieces] at h
      obtain ⟨rfl, -⟩ := List.cons.inj h
      rw [ofText, List.takeWhile_append_dropWhile]
      rfl

end ModifierGroup

namespace BytesTest

theorem setFlag_flagged_eq_error_iff {kind : String} {pattern : Bytes} {range : Option Nat}
    {before : Text} {c : Char} {e : TestError} :
    setFlag kind (flagged pattern range before) c = .error e ↔
      c ∉ StringFlags.alphabet ∧ e = .modifier kind c := by
  simp only [setFlag, flagged, StringFlags.set?_ofLetters]
  by_cases known : c ∈ StringFlags.alphabet
  · simp [known]
  · simp [known, eq_comm]

/-- A group of `string` or `search` is refused for a number that can be read but may not be there,
or else for its first unknown letter. -/
theorem addGroup_ofGroups_eq_modifier_iff {search : Bool} {kind kind' : String} {typeText : Text}
    {pattern : Bytes} {before : List ModifierGroup} {g : ModifierGroup}
    (decimal : ∀ c ∈ g.digits, isDecimalDigit c) {flag : Char} :
    addGroup search kind typeText (ofGroups pattern before) g = .error (.modifier kind' flag) ↔
      kind' = kind ∧
        (((∀ n ∈ g.number?, search ∧ IntRange.unsigned64.Contains n) ∧
            FirstUnknown StringFlags.alphabet g.letters flag) ∨
          (∃ n ∈ g.number?, ¬ search ∧ IntRange.unsigned64.Contains n) ∧
            flag = misplaced typeText) := by
  have letters (range : Option Nat) :
      g.letters.foldlM (setFlag kind) (flagged pattern range (lettersOf before)) =
          .error (.modifier kind' flag) ↔
        kind' = kind ∧ FirstUnknown StringFlags.alphabet g.letters flag :=
    foldlM_letters_eq_modifier_iff (flagged pattern range)
      (fun _ _ _ => setFlag_flagged_eq_ok_iff) (fun _ _ _ => setFlag_flagged_eq_error_iff) _ _
  rw [addGroup, bind_eq_error_iff, ofGroups, or_iff_right (range_ne_modifier g kind kind' flag)]
  simp only [range_eq_ok_iff decimal]
  constructor
  · rintro ⟨range, ⟨fits, rfl⟩, read⟩
    split_ifs at read with wrong
    · obtain ⟨n, number⟩ := Option.isSome_iff_exists.mp wrong.1
      cases read
      exact ⟨rfl, .inr ⟨⟨n, number, by simpa using wrong.2, fits n number⟩, rfl⟩⟩
    · obtain ⟨rfl, found⟩ := (letters _).mp read
      refine ⟨rfl, .inl ⟨fun n number => ⟨?_, fits n number⟩, found⟩⟩
      simpa [Option.mem_def.mp number] using wrong
  · rintro ⟨rfl, ⟨numbers, found⟩ | ⟨⟨n, number, absent, fits⟩, rfl⟩⟩
    · refine ⟨g.number?, ⟨fun n number => (numbers n number).2, rfl⟩, ?_⟩
      rw [if_neg]
      · exact (letters _).mpr ⟨rfl, found⟩
      · rintro ⟨given, absent⟩
        obtain ⟨n, number⟩ := Option.isSome_iff_exists.mp given
        simp [(numbers n number).1] at absent
    · have only : ∀ n' ∈ g.number?, IntRange.unsigned64.Contains n' := by
        intro n' number'
        rwa [Option.mem_unique number' number]
      refine ⟨g.number?, ⟨only, rfl⟩, ?_⟩
      rw [if_pos ⟨Option.isSome_iff_exists.mpr ⟨n, number⟩, by simpa using absent⟩]
      rfl

theorem setLength_counted_eq_error_iff {pattern : Bytes} {before : Text} {c : Char}
    {e : TestError} :
    setLength (counted pattern before) c = .error e ↔
      c ∉ LengthField.alphabet ∧ e = .modifier "pstring" c := by
  rw [setLength, LengthField.mem_alphabet]
  cases letter : LengthField.ofLetter? c with
  | some length => simp
  | none => by_cases itself : c = 'J' <;> simp [itself, eq_comm]

theorem addLengthGroup_counted_eq_modifier_iff {typeText : Text} {pattern : Bytes}
    {before : List ModifierGroup} {g : ModifierGroup} {kind : String} {flag : Char} :
    addLengthGroup typeText (counted pattern (lettersOf before)) g =
        .error (.modifier kind flag) ↔
      kind = "pstring" ∧
        (((∀ n ∈ g.number?, False) ∧ FirstUnknown LengthField.alphabet g.letters flag) ∨
          (∃ n ∈ g.number?, True) ∧ flag = misplaced typeText) := by
  rw [addLengthGroup, number?]
  split_ifs
  · rw [foldlM_letters_eq_modifier_iff (counted pattern)
      (fun _ _ _ => setLength_counted_eq_ok_iff) (fun _ _ _ => setLength_counted_eq_error_iff)]
    simp
  · simp [eq_comm]

end BytesTest

namespace RegexModifiers

theorem setFlag_flagged_eq_error_iff {count : Option Nat} {before : Text} {c : Char}
    {e : TestError} :
    setFlag (flagged count before) c = .error e ↔
      c ∉ RegexFlags.alphabet ∧ e = .modifier "regex" c := by
  simp only [setFlag, flagged, RegexFlags.set?_ofLetters]
  by_cases known : c ∈ RegexFlags.alphabet
  · simp [known]
  · simp [known, eq_comm]

theorem addGroup_ofGroups_eq_modifier_iff {before : List ModifierGroup} {g : ModifierGroup}
    (decimal : ∀ c ∈ g.digits, isDecimalDigit c) {kind : String} {flag : Char} :
    addGroup (ofGroups before) g = .error (.modifier kind flag) ↔
      kind = "regex" ∧ (∀ n ∈ g.number?, IntRange.unsigned64.Contains n) ∧
        FirstUnknown RegexFlags.alphabet g.letters flag := by
  have letters (count : Option Nat) :
      g.letters.foldlM setFlag (flagged count (lettersOf before)) = .error (.modifier kind flag) ↔
        kind = "regex" ∧ FirstUnknown RegexFlags.alphabet g.letters flag :=
    foldlM_letters_eq_modifier_iff (flagged count)
      (fun _ _ _ => setFlag_flagged_eq_ok_iff) (fun _ _ _ => setFlag_flagged_eq_error_iff) _ _
  rw [addGroup, bind_eq_error_iff, ofGroups, or_iff_right (range_ne_modifier g "regex" kind flag)]
  simp only [range_eq_ok_iff decimal]
  constructor
  · rintro ⟨range, ⟨fits, rfl⟩, read⟩
    obtain ⟨rfl, found⟩ := (letters _).mp read
    exact ⟨rfl, fits, found⟩
  · rintro ⟨rfl, fits, found⟩
    exact ⟨_, ⟨fits, rfl⟩, (letters _).mpr ⟨rfl, found⟩⟩

end RegexModifiers

namespace Modified

variable {m : Modified} {typeText t : Text} {kind : String} {flag : Char}

/-- A reader that goes through the groups stops at the first one that its type does not take. -/
theorem foldlM_eq_modifier_iff {α : Type} {step : α → ModifierGroup → Except TestError α}
    (result : List ModifierGroup → α)
    (taken : ∀ before, ∀ g ∈ all typeText, ∀ a,
      step (result before) g = .ok a ↔ m.Accepts g ∧ a = result (before ++ [g]))
    (refused : ∀ before, ∀ g ∈ all typeText,
      step (result before) g = .error (.modifier kind flag) ↔ m.Blames typeText g kind flag) :
    (all typeText).foldlM step (result []) = .error (.modifier kind flag) ↔
      ∃ front g back, all typeText = front ++ g :: back ∧ (∀ g' ∈ front, m.Accepts g') ∧
        m.Blames typeText g kind flag := by
  rw [foldlM_eq_error_iff taken]
  refine exists_congr fun front => exists_congr fun g => exists_congr fun back =>
    and_congr_right fun groups => and_congr_right fun _ => ?_
  exact refused _ g (groups ▸ List.mem_append_right front List.mem_cons_self)

/-- `string` and `search` are read in one way. -/
theorem foldlM_addGroup_eq_modifier_iff (search : Bool) :
    let m : Modified := if search then .search else .string
    (all typeText).foldlM (BytesTest.addGroup search m.kind typeText) (BytesTest.ofText t) =
        .error (.modifier kind flag) ↔
      ∃ front g back, all typeText = front ++ g :: back ∧ (∀ g' ∈ front, m.Accepts g') ∧
        m.Blames typeText g kind flag := by
  intro m
  refine foldlM_eq_modifier_iff (BytesTest.ofGroups t.toBytes) (fun _ g member _ => ?_)
    (fun _ g member => ?_)
  · rw [BytesTest.addGroup_ofGroups_eq_ok_iff (decimal_of_mem_all member)]
    cases search <;> simp [m, Accepts, Takes, alphabet]
  · rw [BytesTest.addGroup_ofGroups_eq_modifier_iff (decimal_of_mem_all member)]
    cases search <;> simp [m, Blames, WrongLetter, WrongNumber, Takes, Misplaces, alphabet]

/-- The modifiers of `regex` are read before its pattern, which has none. -/
theorem fails_regex_iff :
    regex.Fails typeText t (.modifier kind flag) ↔
      RegexModifiers.read typeText = .error (.modifier kind flag) := by
  rw [Fails, RegexTest.read, bind_eq_error_iff]
  refine or_iff_left ?_
  rintro ⟨modifiers, -, wrong⟩
  split at wrong <;> cases wrong

/-- A modifier is reported exactly if a group has a wrong one and the type takes all groups in
front of it. -/
theorem fails_modifier_iff :
    m.Fails typeText t (.modifier kind flag) ↔
      ∃ front g back, all typeText = front ++ g :: back ∧ (∀ g' ∈ front, m.Accepts g') ∧
        m.Blames typeText g kind flag := by
  cases m with
  | string => exact foldlM_addGroup_eq_modifier_iff false
  | search => exact foldlM_addGroup_eq_modifier_iff true
  | pstring =>
      exact foldlM_eq_modifier_iff (fun groups => BytesTest.counted t.toBytes (lettersOf groups))
        (fun before g _ test => BytesTest.addLengthGroup_counted_eq_ok_iff typeText _ before g test)
        (fun _ _ _ => BytesTest.addLengthGroup_counted_eq_modifier_iff)
  | regex =>
      rw [fails_regex_iff]
      refine foldlM_eq_modifier_iff RegexModifiers.ofGroups
        (fun _ _ member _ => RegexModifiers.addGroup_ofGroups_eq_ok_iff (decimal_of_mem_all member))
        (fun _ _ member => ?_)
      rw [RegexModifiers.addGroup_ofGroups_eq_modifier_iff (decimal_of_mem_all member)]
      simp [Blames, WrongLetter, WrongNumber, Takes, Misplaces, alphabet, Modified.kind]

section misplaced

variable {g : ModifierGroup} {front back : List ModifierGroup}

theorem WrongNumber.misplaced_mem_head? (h : m.WrongNumber g) (groups : all typeText = g :: back) :
    misplaced typeText ∈ g.digits.head? := by
  obtain ⟨digit, first⟩ := h.exists_digit
  rw [misplaced_of_all groups, List.head?_append, Option.mem_def.mp first]
  rfl

/-- The number of a later group is reported by what the first group begins with, which is not a
digit. -/
theorem WrongNumber.misplaced_of_front (h : m.WrongNumber g)
    (groups : all typeText = front ++ g :: back) (accepted : ∀ g' ∈ front, m.Accepts g')
    (later : front ≠ []) : misplaced typeText ∈ m.alphabet ∨ misplaced typeText = '/' := by
  obtain ⟨first, rest, rfl⟩ := List.exists_cons_of_ne_nil later
  obtain ⟨firstAccepted, -⟩ := List.forall_mem_cons.mp accepted
  rw [misplaced_of_all groups, h.digits_eq_nil firstAccepted, List.nil_append]
  cases letters : first.letters with
  | nil => exact .inr rfl
  | cons c _ => exact .inl (firstAccepted.1 c (letters ▸ List.mem_cons_self))

/-- Whatever is reported stands behind the first slash. -/
theorem Blames.exists_behind (h : m.Blames typeText g kind flag)
    (groups : all typeText = front ++ g :: back) :
    ∃ name behind, typeText = name ++ '/' :: behind ∧ '/' ∉ name ∧ flag ∈ behind := by
  have member : g ∈ all typeText := groups ▸ List.mem_append_right front List.mem_cons_self
  obtain ⟨name, behind, cut, notMem, pieces⟩ :=
    ModifierGroup.exists_behind (List.ne_nil_of_mem member)
  refine ⟨name, behind, cut, notMem, ?_⟩
  obtain ⟨-, ⟨-, -, before, after, letters, -⟩ | ⟨wrong, rfl⟩⟩ := h
  · refine mem_behind pieces member (List.mem_append_right _ ?_)
    exact letters ▸ List.mem_append_right before List.mem_cons_self
  · obtain ⟨first, rest, start⟩ := List.exists_cons_of_ne_nil (List.ne_nil_of_mem member)
    rw [misplaced_of_all start]
    cases begins : (first.digits ++ first.letters).head? with
    | some c => exact mem_behind pieces (start ▸ List.mem_cons_self) (List.mem_of_head? begins)
    | none =>
        -- The empty group is not the one with the number, so a slash stands behind it.
        by_contra uncut
        change '/' ∉ behind at uncut
        rw [List.splitOn_eq_singleton uncut, start] at pieces
        obtain ⟨-, rfl⟩ := List.cons.inj pieces
        rw [start] at member
        have same : g = first := List.mem_singleton.mp member
        obtain ⟨digit, there⟩ := wrong.exists_digit
        rw [same, (List.append_eq_nil_iff.mp (List.head?_eq_none_iff.mp begins)).1] at there
        cases there

end misplaced

/-- An error that names a modifier names a character behind the first slash of the type. It is no
letter of the type, and the first digit of a misplaced number, unless it is reported for a misplaced
number that stands behind another group. -/
theorem flag_of_fails (failed : m.Fails typeText t (.modifier kind flag)) :
    kind = m.kind ∧
    (∃ name behind, typeText = name ++ '/' :: behind ∧ '/' ∉ name ∧ flag ∈ behind) ∧
    ∃ front g back, all typeText = front ++ g :: back ∧ (∀ g' ∈ front, m.Accepts g') ∧
      (m.WrongLetter g flag ∨ m.WrongNumber g) ∧
      (flag ∉ m.alphabet ∧ (m.WrongNumber g → flag ∈ g.digits.head?) ↔
        (m.WrongNumber g → front = [])) := by
  obtain ⟨front, g, back, groups, accepted, blamed⟩ := fails_modifier_iff.mp failed
  refine ⟨blamed.1, blamed.exists_behind groups, front, g, back, groups, accepted,
    blamed.2.imp_right And.left, ?_⟩
  have member : g ∈ all typeText := groups ▸ List.mem_append_right front List.mem_cons_self
  obtain ⟨-, letter | ⟨wrong, rfl⟩⟩ := blamed
  · have fine := letter.not_wrongNumber
    exact ⟨fun _ wrong => (fine wrong).elim, fun _ => ⟨letter.2.1, fun wrong => (fine wrong).elim⟩⟩
  · constructor
    · rintro ⟨unknown, digit⟩ -
      by_contra later
      have slash := (wrong.misplaced_of_front groups accepted later).resolve_left unknown
      have decimal := decimal_of_mem_all member _ (List.mem_of_head? (digit wrong))
      rw [slash] at decimal
      cases decimal
    · intro first
      obtain rfl := first wrong
      have digit := wrong.misplaced_mem_head? groups
      have decimal := decimal_of_mem_all member _ (List.mem_of_head? digit)
      exact ⟨notMem_alphabet_of_digit m decimal, fun _ => digit⟩

/-- A letter that is not known, behind others that are. -/
theorem flag_of_fails_unknown_letter :
    string.Fails "string//cx/16".toList "PK".toList (.modifier "string" 'x') ∧
      'x' ∉ string.alphabet ∧
      ∃ name behind,
        "string//cx/16".toList = name ++ '/' :: behind ∧ '/' ∉ name ∧ 'x' ∈ behind := by
  have failed : string.Fails "string//cx/16".toList "PK".toList (.modifier "string" 'x') := rfl
  exact ⟨failed, by decide, (flag_of_fails failed).2.1⟩

/-- A misplaced number behind another group is reported by a letter that the type takes, or by a
slash. -/
theorem fails_for_later_number :
    string.Fails "string/c/16".toList "abc".toList (.modifier "string" 'c') ∧
      'c' ∈ string.alphabet ∧
      all "string/c/16".toList = [⟨[], ['c']⟩, ⟨['1', '6'], []⟩] ∧
      pstring.Fails "pstring//16".toList "abc".toList (.modifier "pstring" '/') ∧
      all "pstring//16".toList = [⟨[], []⟩, ⟨['1', '6'], []⟩] := by
  refine ⟨rfl, by decide, by decide, rfl, by decide⟩

end Modified

end MagicRules
