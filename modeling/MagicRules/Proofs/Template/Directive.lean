import MagicRules.Template
import MagicRules.Proofs.Literal
import MagicRules.Proofs.Text

/-!
# Directives as they are written

A directive is known by its parts: its flags, its width, its precision, its length letters and the
letter of its conversion. The parts follow one another without separators, so one part ends where a
character stands that it cannot have. Only a zero may be a flag as well as a digit of the width. In
front of the width it is taken for a flag, and no directive is lost by that (`exists_longest`).

The scanner reads exactly the directives that are written so (`scan?_eq_some_iff`), and no text
begins with two of them (`append_inj`).
-/

namespace MagicRules

open MagicRules.Field (numberOf)

namespace Conversion

def letters : List (Char × Conversion) :=
  [('d', decimal), ('i', decimal), ('u', unsigned), ('x', hexadecimal false),
    ('X', hexadecimal true), ('o', octal), ('c', character), ('s', text), ('e', scientific false),
    ('E', scientific true), ('f', fixed false), ('F', fixed true), ('g', general false),
    ('G', general true)]

theorem ofLetter?_eq_some_iff {c : Char} {conversion : Conversion} :
    ofLetter? c = some conversion ↔ (c, conversion) ∈ letters := by
  constructor
  · unfold ofLetter?
    split <;> rintro ⟨⟩ <;> decide
  · have all : ∀ entry ∈ letters, ofLetter? entry.1 = some entry.2 := by decide
    exact all (c, conversion)

end Conversion

namespace Directive

theorem isFlag_iff {c : Char} : isFlag c ↔ c ∈ "-0+ #".toList := List.contains_iff_mem

theorem isLength_iff {c : Char} : isLength c ↔ c ∈ "hlqLjzt".toList := List.contains_iff_mem

/-- Digits are counted from the left as they are from the right. -/
theorem count?_eq (t : Text) : count? t = if t = [] then none else some (numberOf 10 t) := by
  have fold : t.foldl (fun value c => value * 10 + (digit? 10 c).getD 0) 0 = numberOf 10 t := by
    induction t using List.reverseRecOn with
    | nil => rfl
    | append_singleton t c ih => rw [List.foldl_append, ih, numberOf_append_singleton]; rfl
  simp only [count?, fold, List.isEmpty_iff]

theorem getD_count? (t : Text) : (count? t).getD 0 = numberOf 10 t := by
  rw [count?_eq]
  split_ifs with empty
  · rw [empty]
    rfl
  · rfl

end Directive

/-- A directive as it is written behind its `%`. -/
@[ext]
structure WrittenDirective where
  flags : Text
  width : Text
  /-- The digits behind the point, if there is one. -/
  precision : Option Text
  lengths : Text
  letter : Char
  conversion : Conversion
  flags_all : ∀ c ∈ flags, c ∈ "-0+ #".toList
  width_all : ∀ c ∈ width, isDecimalDigit c
  width_le : numberOf 10 width ≤ 4096
  precision_all : ∀ digits ∈ precision, ∀ c ∈ digits, isDecimalDigit c
  precision_le : ∀ digits ∈ precision, numberOf 10 digits ≤ 4096
  lengths_all : ∀ c ∈ lengths, c ∈ "hlqLjzt".toList
  spelled : (letter, conversion) ∈ Conversion.letters

namespace WrittenDirective

def point (d : WrittenDirective) : Text := d.precision.elim [] ('.' :: ·)

/-- The text of a directive, without its `%`. -/
def body (d : WrittenDirective) : Text :=
  d.flags ++ (d.width ++ (d.point ++ (d.lengths ++ [d.letter])))

/-- No part could be longer, from the first to the last: a zero in front of the width would be one
more flag. For the other parts there is no choice. -/
def Longest (d : WrittenDirective) : Prop := d.width.head? ≠ some '0'

instance (d : WrittenDirective) : Decidable d.Longest := inferInstanceAs (Decidable (_ ≠ _))

/-- What a directive asks for. A width that is not written is none, and a precision of no digits
is zero. -/
def directive (d : WrittenDirective) : Directive where
  left := '-' ∈ d.flags
  zero := '0' ∈ d.flags
  plus := '+' ∈ d.flags
  space := ' ' ∈ d.flags
  alternate := '#' ∈ d.flags
  width := if d.width = [] then none else some (numberOf 10 d.width)
  precision := d.precision.map (numberOf 10)
  conversion := d.conversion

/-- Zeros in front of the width may be counted among the flags. -/
theorem exists_longest (d : WrittenDirective) :
    ∃ d' : WrittenDirective, d'.Longest ∧ d'.body = d.body := by
  have width_eq : d.width.takeWhile (· = '0') ++ d.width.dropWhile (· = '0') = d.width :=
    List.takeWhile_append_dropWhile
  have smaller : numberOf 10 (d.width.dropWhile (· = '0')) ≤ numberOf 10 d.width := by
    have le := numberOf_le_append 10 (d.width.takeWhile (· = '0')) (d.width.dropWhile (· = '0'))
    rwa [width_eq] at le
  refine ⟨{ d with
    flags := d.flags ++ d.width.takeWhile (· = '0')
    width := d.width.dropWhile (· = '0')
    flags_all := ?_
    width_all := ?_
    width_le := Nat.le_trans smaller d.width_le }, ?_, ?_⟩
  · intro c member
    rcases List.mem_append.mp member with flag | zero
    · exact d.flags_all c flag
    · obtain rfl : c = '0' := by simpa using List.mem_takeWhile_imp zero
      decide
  · intro c member
    exact d.width_all c ((List.dropWhile_suffix _).subset member)
  · intro first
    exact absurd (stop_dropWhile _ d.width '0' first) (by decide)
  · simp only [body, point, List.append_assoc]
    rw [← List.append_assoc (d.width.takeWhile _), width_eq]

variable (d : WrittenDirective) (rest : Text)

theorem body_append :
    d.body ++ rest = d.flags ++ (d.width ++ (d.point ++ (d.lengths ++ d.letter :: rest))) := by
  simp [body]

/-- What can stand behind the digits of a directive. -/
def letters : Text := "hlqLjzt".toList ++ Conversion.letters.map Prod.fst

theorem head?_lengths {c : Char} (h : c ∈ (d.lengths ++ d.letter :: rest).head?) : c ∈ letters := by
  have letter : d.letter ∈ Conversion.letters.map Prod.fst := List.mem_map_of_mem d.spelled
  cases lengths : d.lengths with
  | nil =>
      rw [lengths, List.nil_append, List.head?_cons, Option.mem_some_iff] at h
      exact List.mem_append_right _ (h ▸ letter)
  | cons l ls =>
      rw [lengths, List.cons_append, List.head?_cons, Option.mem_some_iff] at h
      have length := d.lengths_all l (lengths ▸ List.mem_cons_self)
      exact List.mem_append_left _ (h ▸ length)

theorem head?_point {c : Char} (h : c ∈ (d.point ++ (d.lengths ++ d.letter :: rest)).head?) :
    c ∈ '.' :: letters := by
  rw [point] at h
  cases precision : d.precision with
  | none =>
      rw [precision] at h
      exact List.mem_cons_of_mem _ (d.head?_lengths rest h)
  | some digits =>
      rw [precision] at h
      obtain rfl := Option.some.inj h
      exact List.mem_cons_self

theorem point_mem_iff :
    '.' ∈ (d.point ++ (d.lengths ++ d.letter :: rest)).head? ↔ d.precision.isSome := by
  rw [point]
  cases d.precision with
  | none =>
      have pointless : '.' ∉ (d.lengths ++ d.letter :: rest).head? := by
        intro first
        exact absurd (d.head?_lengths rest first) (by decide)
      simpa using pointless
  | some digits => simp

theorem stop_flags (longest : d.Longest) {c : Char}
    (h : c ∈ (d.width ++ (d.point ++ (d.lengths ++ d.letter :: rest))).head?) :
    Directive.isFlag c = false := by
  cases width : d.width with
  | nil =>
      rw [width, List.nil_append] at h
      have all : ∀ c ∈ '.' :: letters, Directive.isFlag c = false :=
        Text.forall_mem_of_all (by decide)
      exact all c (d.head?_point rest h)
  | cons w ws =>
      rw [width, List.cons_append, List.head?_cons, Option.mem_some_iff] at h
      subst h
      have digit := d.width_all w (width ▸ List.mem_cons_self)
      have leading : w ≠ '0' := by
        rintro rfl
        exact longest (by rw [width]; rfl)
      -- The zero is the only flag that is a digit.
      have all : ∀ f ∈ "-0+ #".toList, isDecimalDigit f → f = '0' :=
        Text.forall_mem_of_all (by decide)
      rw [← Bool.not_eq_true]
      intro flag
      exact leading (all w (List.contains_iff_mem.mp flag) digit)

theorem stop_width {c : Char} (h : c ∈ (d.point ++ (d.lengths ++ d.letter :: rest)).head?) :
    isDecimalDigit c = false := by
  have all : ∀ c ∈ '.' :: letters, isDecimalDigit c = false := Text.forall_mem_of_all (by decide)
  exact all c (d.head?_point rest h)

theorem stop_precision {c : Char} (h : c ∈ (d.lengths ++ d.letter :: rest).head?) :
    isDecimalDigit c = false := by
  have all : ∀ c ∈ letters, isDecimalDigit c = false := Text.forall_mem_of_all (by decide)
  exact all c (d.head?_lengths rest h)

theorem stop_lengths {c : Char} (h : c ∈ (d.letter :: rest).head?) :
    Directive.isLength c = false := by
  have all : ∀ entry ∈ Conversion.letters, Directive.isLength entry.1 = false := by decide
  obtain rfl := Option.some.inj h
  exact all _ d.spelled

theorem scanPrecision_point :
    Directive.scanPrecision (d.point ++ (d.lengths ++ d.letter :: rest)) =
      (d.precision.map (numberOf 10), d.lengths ++ d.letter :: rest) := by
  rw [point]
  cases precision : d.precision with
  | none =>
      rw [Option.elim_none, List.nil_append, Directive.scanPrecision]
      · rfl
      · intro t whole
        have pointless := mt (d.point_mem_iff rest).mp (by rw [precision]; decide)
        rw [point, precision] at pointless
        exact pointless (by rw [Option.elim_none, List.nil_append, whole]; rfl)
  | some digits =>
      obtain ⟨taken, left⟩ :=
        span_append (d.precision_all digits precision) fun _ => d.stop_precision rest
      rw [Option.elim_some, List.cons_append, Directive.scanPrecision, taken, left,
        Directive.getD_count?]
      rfl

theorem not_oversized : ¬ (Directive.Oversized (Directive.count? d.width) ∨
    Directive.Oversized (d.precision.map (numberOf 10))) := by
  rintro (width | precision)
  · rw [Directive.Oversized, Directive.getD_count?] at width
    exact absurd d.width_le (Nat.not_le_of_lt width)
  · cases digits : d.precision with
    | none =>
        rw [digits] at precision
        exact absurd precision (by decide)
    | some t =>
        rw [digits] at precision
        exact absurd (d.precision_le t digits) (Nat.not_le_of_lt precision)

theorem isFlag_of_mem {c : Char} (h : c ∈ d.flags) : Directive.isFlag c :=
  Directive.isFlag_iff.mpr (d.flags_all c h)

theorem isLength_of_mem {c : Char} (h : c ∈ d.lengths) : Directive.isLength c :=
  Directive.isLength_iff.mpr (d.lengths_all c h)

/-- The scanner reads a directive that is written, whatever follows it. -/
theorem scan?_body (longest : d.Longest) :
    Directive.scan? (d.body ++ rest) = some (d.directive, rest) := by
  have flags := span_append (fun _ => d.isFlag_of_mem) fun _ => d.stop_flags rest longest
  have width := span_append d.width_all fun _ => d.stop_width rest
  have lengths := span_append (fun _ => d.isLength_of_mem) fun _ => d.stop_lengths rest
  have conversion := Conversion.ofLetter?_eq_some_iff.mpr d.spelled
  rw [Directive.scan?, body_append]
  simp only [flags, width, lengths, scanPrecision_point, if_neg d.not_oversized, conversion]
  simp [directive, Directive.count?_eq]

variable {d rest} {d' : WrittenDirective} {rest' : Text}

theorem point_append_inj (same : d.point ++ (d.lengths ++ d.letter :: rest) =
    d'.point ++ (d'.lengths ++ d'.letter :: rest')) :
    d.precision = d'.precision ∧
      d.lengths ++ d.letter :: rest = d'.lengths ++ d'.letter :: rest' := by
  have both : d.precision.isSome ↔ d'.precision.isSome := by
    rw [← d.point_mem_iff rest, ← d'.point_mem_iff rest', same]
  rw [point, point] at same
  cases precision : d.precision with
  | none =>
      cases precision' : d'.precision with
      | none =>
          rw [precision, precision'] at same
          exact ⟨rfl, same⟩
      | some digits' => simp [precision, precision'] at both
  | some digits =>
      cases precision' : d'.precision with
      | none => simp [precision, precision'] at both
      | some digits' =>
          rw [precision, precision'] at same
          obtain ⟨rfl, follows⟩ := run_unique (d.precision_all digits precision)
            (d'.precision_all digits' precision') (fun _ => d.stop_precision rest)
            (fun _ => d'.stop_precision rest') (List.cons.inj same).2
          exact ⟨rfl, follows⟩

/-- No text begins with two directives. -/
theorem append_inj (longest : d.Longest) (longest' : d'.Longest)
    (same : d.body ++ rest = d'.body ++ rest') : d = d' ∧ rest = rest' := by
  rw [body_append, body_append] at same
  obtain ⟨flags, same⟩ := run_unique (fun _ => d.isFlag_of_mem) (fun _ => d'.isFlag_of_mem)
    (fun _ => d.stop_flags rest longest) (fun _ => d'.stop_flags rest' longest') same
  obtain ⟨width, same⟩ := run_unique d.width_all d'.width_all (fun _ => d.stop_width rest)
    (fun _ => d'.stop_width rest') same
  obtain ⟨precision, same⟩ := point_append_inj same
  obtain ⟨lengths, same⟩ := run_unique (fun _ => d.isLength_of_mem) (fun _ => d'.isLength_of_mem)
    (fun _ => d.stop_lengths rest) (fun _ => d'.stop_lengths rest') same
  obtain ⟨letter, rfl⟩ := List.cons.inj same
  have conversion : d.conversion = d'.conversion := by
    have spelled := Conversion.ofLetter?_eq_some_iff.mpr d.spelled
    have spelled' := Conversion.ofLetter?_eq_some_iff.mpr d'.spelled
    rw [letter, spelled'] at spelled
    exact (Option.some.inj spelled).symm
  exact ⟨WrittenDirective.ext flags width precision lengths letter conversion, rfl⟩

/-- A point and all digits behind it are taken, or else nothing is. -/
theorem scanPrecision_cases (t : Text) : ∃ (precision : Option Text) (tail : Text),
    t = precision.elim [] ('.' :: ·) ++ tail ∧
      (∀ digits ∈ precision, ∀ c ∈ digits, isDecimalDigit c) ∧
        Directive.scanPrecision t = (precision.map (numberOf 10), tail) := by
  unfold Directive.scanPrecision
  split
  · rename_i t
    refine ⟨some (t.takeWhile isDecimalDigit), t.dropWhile isDecimalDigit, ?_, ?_, ?_⟩
    · rw [Option.elim_some, List.cons_append, List.takeWhile_append_dropWhile]
    · rintro digits ⟨⟩
      exact fun c member => List.mem_takeWhile_imp member
    · rw [Directive.getD_count?]
      rfl
  · exact ⟨none, t, rfl, nofun, rfl⟩

/-- What the scanner reads is a directive that is written. -/
theorem exists_of_scan? {t : Text} {directive : Directive}
    (h : Directive.scan? t = some (directive, rest)) :
    ∃ d : WrittenDirective, d.Longest ∧ t = d.body ++ rest := by
  obtain ⟨precision, tail, point, digits, scanned⟩ :=
    scanPrecision_cases ((t.dropWhile Directive.isFlag).dropWhile isDecimalDigit)
  rw [Directive.scan?, scanned] at h
  dsimp only at h
  split at h
  · cases h
  · rename_i letter rest' lengths
    split_ifs at h with oversized
    obtain ⟨conversion, spelled, same⟩ := Option.map_eq_some_iff.mp h
    obtain ⟨_, rfl⟩ := Prod.mk.inj same
    obtain ⟨width_le, precision_le⟩ := not_or.mp oversized
    rw [Directive.Oversized, Directive.getD_count?, Nat.not_lt] at width_le
    rw [Directive.Oversized, Nat.not_lt] at precision_le
    refine ⟨{
      flags := t.takeWhile Directive.isFlag
      width := (t.dropWhile Directive.isFlag).takeWhile isDecimalDigit
      precision := precision
      lengths := tail.takeWhile Directive.isLength
      letter := letter
      conversion := conversion
      flags_all := fun c member => Directive.isFlag_iff.mp (List.mem_takeWhile_imp member)
      width_all := fun c member => List.mem_takeWhile_imp member
      width_le := width_le
      precision_all := digits
      precision_le := ?_
      lengths_all := fun c member => Directive.isLength_iff.mp (List.mem_takeWhile_imp member)
      spelled := Conversion.ofLetter?_eq_some_iff.mp spelled }, ?_, ?_⟩
    · rintro digits ⟨⟩
      exact precision_le
    · intro zero
      have first : '0' ∈ (t.dropWhile Directive.isFlag).head? := by
        dsimp only at zero
        rw [List.head?_takeWhile] at zero
        exact (Option.filter_eq_some_iff.mp zero).1
      exact absurd (stop_dropWhile Directive.isFlag t '0' first) (by decide)
    · rw [body_append]
      dsimp only [WrittenDirective.point]
      rw [← lengths, List.takeWhile_append_dropWhile, ← point, List.takeWhile_append_dropWhile,
        List.takeWhile_append_dropWhile]

theorem scan?_eq_some_iff {t : Text} {directive : Directive} :
    Directive.scan? t = some (directive, rest) ↔
      ∃ d : WrittenDirective, d.Longest ∧ t = d.body ++ rest ∧ directive = d.directive := by
  constructor
  · intro scanned
    obtain ⟨d, longest, rfl⟩ := exists_of_scan? scanned
    rw [d.scan?_body rest longest] at scanned
    obtain ⟨rfl, _⟩ := Prod.mk.inj (Option.some.inj scanned)
    exact ⟨d, longest, rfl, rfl⟩
  · rintro ⟨d, longest, rfl, rfl⟩
    exact d.scan?_body rest longest

/-- A percent sign has no place in a directive. -/
theorem body_ne_percent (longest : d.Longest) (t : Text) : d.body ++ rest ≠ '%' :: t := by
  intro same
  have scanned := d.scan?_body rest longest
  rw [same] at scanned
  have none : Directive.scan? ('%' :: t) = none := rfl
  rw [none] at scanned
  cases scanned

end WrittenDirective

end MagicRules
