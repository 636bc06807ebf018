import MagicRules.Proofs.Literal
import MagicRules.Proofs.Text

/-!
# The grammar of integer literals

A literal is a numeral behind an optional sign, and a numeral is digits in one of three notations.
The value of a literal does not depend on a width. A reader of some width gives exactly the values
of its range, and no other text than a literal gives one (`read_by_grammar`).

A text that is refused is empty, or has a sign where no sign may be, or else there is something
wrong with its digits.
-/

namespace MagicRules

open MagicRules.Field (numberOf)

namespace Literal

/-- The marks in front of hexadecimal digits. -/
def hexMarks : List Text := [['0', 'x'], ['0', 'X'], ['#']]

/-- A numeral, and its number. Decimal digits begin with a zero only if there is no other. -/
inductive Numeral : Text → Nat → Prop
  | hexadecimal {mark digits : Text} (marked : mark ∈ hexMarks) (nonempty : digits ≠ [])
      (all : ∀ c ∈ digits, (digit? 16 c).isSome) : Numeral (mark ++ digits) (numberOf 16 digits)
  | octal {digits : Text} (nonempty : digits ≠ []) (all : ∀ c ∈ digits, (digit? 8 c).isSome) :
      Numeral ('0' :: digits) (numberOf 8 digits)
  | decimal {digits : Text} (nonempty : digits ≠ []) (all : ∀ c ∈ digits, (digit? 10 c).isSome)
      (leading : digits.head? = some '0' → digits = ['0']) : Numeral digits (numberOf 10 digits)

/-- The text is a literal with this value. -/
def Denotes (t : Text) (n : Int) : Prop :=
  ∃ negative rest m, BehindSign t negative rest ∧ Numeral rest m ∧ n = signed negative m

/-- A sign stands right behind the sign and the mark of a text, either of which may be missing. -/
def MisplacesSign (t : Text) : Prop :=
  ∃ negative mark rest, BehindSign t negative (mark ++ rest) ∧
    mark ∈ [] :: ['0'] :: hexMarks ∧ IsSigned rest

theorem radixAndDigits_hex {mark : Text} (h : mark ∈ hexMarks) (digits : Text) :
    radixAndDigits (mark ++ digits) = (16, digits) := by
  simp only [hexMarks, List.mem_cons, List.not_mem_nil, or_false] at h
  rcases h with rfl | rfl | rfl <;> rfl

theorem radixAndDigits_octal {d : Char} (lower : d ≠ 'x') (upper : d ≠ 'X') (digits : Text) :
    radixAndDigits ('0' :: d :: digits) = (8, d :: digits) := by
  unfold radixAndDigits
  split <;> simp_all

/-- A text begins with a mark of radix sixteen, or with a zero that more follows, or is taken for
decimal as it is. -/
theorem radixAndDigits_cases (u : Text) :
    (∃ mark ∈ hexMarks, ∃ digits, u = mark ++ digits ∧ radixAndDigits u = (16, digits)) ∨
      (∃ digits, digits ≠ [] ∧ u = '0' :: digits ∧ radixAndDigits u = (8, digits)) ∨
        (u.head? = some '0' → u = ['0']) ∧ radixAndDigits u = (10, u) := by
  unfold radixAndDigits
  split
  · rename_i digits
    exact .inl ⟨['0', 'x'], by decide, digits, rfl, rfl⟩
  · rename_i digits
    exact .inl ⟨['0', 'X'], by decide, digits, rfl, rfl⟩
  · rename_i digits
    exact .inl ⟨['#'], by decide, digits, rfl, rfl⟩
  · rename_i d digits _ _
    exact .inr (.inl ⟨d :: digits, List.cons_ne_nil _ _, rfl, rfl⟩)
  · rename_i other
    refine .inr (.inr ⟨fun zero => ?_, rfl⟩)
    obtain ⟨cs, rfl⟩ := List.head?_eq_some_iff.mp zero
    cases cs with
    | nil => rfl
    | cons d digits => exact absurd rfl (other d digits)

/-- A numeral is a text whose digits, behind the mark of their radix, are digits of that radix. -/
theorem numeral_iff {u : Text} {m : Nat} :
    Numeral u m ↔ (radixAndDigits u).2 ≠ [] ∧
      (∀ c ∈ (radixAndDigits u).2, (digit? (radixAndDigits u).1 c).isSome) ∧
        m = numberOf (radixAndDigits u).1 (radixAndDigits u).2 := by
  constructor
  · intro numeral
    cases numeral with
    | hexadecimal marked nonempty all =>
        rw [radixAndDigits_hex marked]
        exact ⟨nonempty, all, rfl⟩
    | octal nonempty all =>
        obtain ⟨d, digits, rfl⟩ := List.exists_cons_of_ne_nil nonempty
        have first := all d List.mem_cons_self
        have lower : d ≠ 'x' := by
          rintro rfl
          cases first
        have upper : d ≠ 'X' := by
          rintro rfl
          cases first
        rw [radixAndDigits_octal lower upper]
        exact ⟨nonempty, all, rfl⟩
    | decimal nonempty all leading =>
        have mark : u.head? ≠ some '#' := by
          intro first
          cases all '#' (List.mem_of_head? first)
        rw [radixAndDigits_decimal mark leading]
        exact ⟨nonempty, all, rfl⟩
  · rintro ⟨nonempty, all, rfl⟩
    rcases radixAndDigits_cases u with ⟨mark, marked, digits, rfl, parts⟩ |
      ⟨digits, _, rfl, parts⟩ | ⟨leading, parts⟩ <;> rw [parts] at nonempty all ⊢
    · exact .hexadecimal marked nonempty all
    · exact .octal nonempty all
    · exact .decimal nonempty all leading

theorem Numeral.ne_nil {u : Text} {m : Nat} (h : Numeral u m) : u ≠ [] := by
  rintro rfl
  exact (numeral_iff.mp h).1 rfl

/-- Where a sign stands behind the mark, the digits begin with it. -/
theorem radixAndDigits_of_isSigned {mark rest : Text} (marked : mark ∈ [] :: ['0'] :: hexMarks)
    (signed : IsSigned rest) : (radixAndDigits (mark ++ rest)).2 = rest := by
  simp only [hexMarks, List.mem_cons, List.not_mem_nil, or_false] at marked
  rcases isSigned_iff_exists.mp signed with ⟨cs, rfl⟩ | ⟨cs, rfl⟩ <;>
    rcases marked with rfl | rfl | rfl | rfl | rfl <;> rfl

theorem isSigned_digits_iff {u : Text} :
    IsSigned (radixAndDigits u).2 ↔
      ∃ mark rest, u = mark ++ rest ∧ mark ∈ [] :: ['0'] :: hexMarks ∧ IsSigned rest := by
  constructor
  · intro signed
    rcases radixAndDigits_cases u with ⟨mark, marked, digits, rfl, parts⟩ |
      ⟨digits, _, rfl, parts⟩ | ⟨_, parts⟩ <;> rw [parts] at signed
    · exact ⟨mark, digits, rfl, List.mem_cons_of_mem _ (List.mem_cons_of_mem _ marked), signed⟩
    · exact ⟨['0'], digits, rfl, by decide, signed⟩
    · exact ⟨[], u, rfl, by decide, signed⟩
  · rintro ⟨mark, rest, rfl, marked, signed⟩
    rwa [radixAndDigits_of_isSigned marked signed]

/-- A text that is refused for its sign has one where none may be. -/
theorem ofText_eq_sign_iff {t : Text} : ofText t = .error .sign ↔ MisplacesSign t := by
  constructor
  · intro refused
    have nonempty : t ≠ [] := by
      rintro rfl
      cases refused
    obtain ⟨negative, u, behind⟩ := exists_behindSign t
    rw [ofText_of_behindSign nonempty behind] at refused
    split_ifs at refused with second
    obtain ⟨mark, rest, rfl, marked, signed⟩ := isSigned_digits_iff.mp second
    exact ⟨negative, mark, rest, behind, marked, signed⟩
  · rintro ⟨negative, mark, rest, behind, marked, signed⟩
    have second := isSigned_digits_iff.mpr ⟨mark, rest, rfl, marked, signed⟩
    have nonempty : t ≠ [] := by
      rintro rfl
      generalize whole : mark ++ rest = u at behind second
      cases behind
      exact absurd second (by decide)
    rw [ofText_of_behindSign nonempty behind, if_pos second]

theorem ofText_eq_empty_iff {t : Text} : ofText t = .error .empty ↔ t = [] := by
  constructor
  · intro refused
    by_contra nonempty
    obtain ⟨negative, u, behind⟩ := exists_behindSign t
    rw [ofText_of_behindSign nonempty behind] at refused
    split_ifs at refused
    cases refused
  · rintro rfl
    rfl

/-- A text with a value is one whose parts are digits of their radix and write the value. -/
theorem denotes_iff {t : Text} {n : Int} :
    Denotes t n ↔ ∃ l, ofText t = .ok l ∧ l.digits ≠ [] ∧
      (∀ c ∈ l.digits, (digit? l.radix c).isSome) ∧
        n = signed l.negative (numberOf l.radix l.digits) := by
  constructor
  · rintro ⟨negative, rest, m, behind, numeral, rfl⟩
    obtain ⟨nonempty, all, rfl⟩ := numeral_iff.mp numeral
    have text : t ≠ [] := by
      rintro rfl
      cases behind
      exact numeral.ne_nil rfl
    exact ⟨{ negative, radix := (radixAndDigits rest).1, digits := (radixAndDigits rest).2 },
      ofText_eq_ok_iff.mpr ⟨text, rest, behind, rfl, not_isSigned_of_digits all⟩,
      nonempty, all, rfl⟩
  · rintro ⟨l, literal, nonempty, all, rfl⟩
    obtain ⟨_, rest, behind, parts, _⟩ := ofText_eq_ok_iff.mp literal
    refine ⟨l.negative, rest, _, behind, numeral_iff.mpr ?_, rfl⟩
    rw [parts]
    exact ⟨nonempty, all, rfl⟩

theorem Denotes.unique {t : Text} {n n' : Int} (h : Denotes t n) (h' : Denotes t n') :
    n = n' := by
  obtain ⟨l, literal, _, _, rfl⟩ := denotes_iff.mp h
  obtain ⟨l', literal', _, _, rfl⟩ := denotes_iff.mp h'
  cases literal.symm.trans literal'
  rfl

/-- A reader gives exactly the values of its range. -/
theorem read_eq_ok_iff {range : IntRange} (zero : range.Contains 0) {t : Text} {n : Int} :
    read range t = .ok n ↔ Denotes t n ∧ range.Contains n := by
  rw [read, bind_eq_ok_iff, denotes_iff]
  simp only [mapError_eq_ok_iff, value_eq_ok_iff zero]
  constructor
  · rintro ⟨l, literal, nonempty, all, number, fits⟩
    exact ⟨⟨l, literal, nonempty, all, number⟩, fits⟩
  · rintro ⟨⟨l, literal, nonempty, all, number⟩, fits⟩
    exact ⟨l, literal, nonempty, all, number, fits⟩

/-- What is wrong before the digits is the same at every width. -/
theorem read_eq_error_iff {range : IntRange} {t : Text} {e : LiteralError}
    (other : ∀ cause, e ≠ .digits cause) : read range t = .error e ↔ ofText t = .error e := by
  rw [read, bind_eq_error_iff]
  constructor
  · rintro (refused | ⟨l, _, wrong⟩)
    · exact refused
    · obtain ⟨cause, _, rfl⟩ := mapError_eq_error_iff.mp wrong
      exact absurd rfl (other cause)
  · exact .inl

/-- Digits leave a range only on the side of their sign. -/
theorem readDigits_eq_error {radix : Nat} {negative : Bool} {range : IntRange}
    (zero : range.Contains 0) {t : Text} (all : ∀ c ∈ t, (digit? radix c).isSome) {m : Nat}
    {e : DigitsError} (h : readDigits radix negative range (signed negative m) t = .error e) :
    e = if negative then .tooSmall else .tooLarge := by
  obtain ⟨least, most⟩ := zero
  induction t generalizing m with
  | nil => cases h
  | cons c cs ih =>
      obtain ⟨digit, others⟩ := List.forall_mem_cons.mp all
      obtain ⟨d, digit⟩ := Option.isSome_iff_exists.mp digit
      simp only [readDigits, digit, signed_next] at h
      split_ifs at h with above below
      · cases negative with
        | false => exact (Except.error.inj h).symm
        | true =>
            simp only [signed, if_true] at above
            omega
      · cases negative with
        | false =>
            simp only [signed, Bool.false_eq_true, if_false] at below
            omega
        | true => exact (Except.error.inj h).symm
      · exact ih others h

/-- A literal whose value is beyond the greatest number of a range is too large for it. -/
theorem read_eq_tooLarge {range : IntRange} (zero : range.Contains 0) {t : Text} {n : Int}
    (denotes : Denotes t n) (above : range.most < n) :
    read range t = .error (.digits .tooLarge) := by
  obtain ⟨l, literal, nonempty, all, rfl⟩ := denotes_iff.mp denotes
  have positive : l.negative = false := by
    by_contra negative
    rw [Bool.not_eq_false] at negative
    have := zero.2
    simp only [negative, signed, if_true] at above
    omega
  have refused : l.value range = .error .tooLarge := by
    cases value : l.value range with
    | ok n =>
        obtain ⟨_, _, rfl, fits⟩ := (value_eq_ok_iff zero).mp value
        exact absurd fits.2 (by omega)
    | error e =>
        rw [Literal.value, if_neg (by simpa using nonempty), positive] at value
        exact congrArg _ (readDigits_eq_error zero all (m := 0) value)
  rw [read, literal]
  exact mapError_eq_error_iff.mpr ⟨_, refused, rfl⟩

/-- Only a literal that is too large for a signed value is read once more. -/
theorem readWrapping_of_tooLarge {t : Text} (h : read64 t = .error (.digits .tooLarge)) :
    readWrapping t = (read .unsigned64 t).map IntRange.signed64.wrap := by
  rw [readWrapping, h, read]
  cases ofText t <;> rfl

theorem readWrapping_of_ne_tooLarge {t : Text} (h : read64 t ≠ .error (.digits .tooLarge)) :
    readWrapping t = read64 t := by
  rw [readWrapping]
  split
  · contradiction
  · rfl

/-- The reader that wraps gives the value if it is one of 64 bits, and else takes the bits of a
larger one. -/
theorem readWrapping_eq_ok_iff {t : Text} {m : Int} :
    readWrapping t = .ok m ↔
      ∃ n, Denotes t n ∧ -0x8000000000000000 ≤ n ∧ n < 0x10000000000000000 ∧
        IntRange.signed64.Contains m ∧ m ≡ n [ZMOD 0x10000000000000000] := by
  have zero : IntRange.signed64.Contains 0 := by decide
  have proper : IntRange.signed64.least ≤ IntRange.signed64.most := by decide
  have wraps : ∀ n, IntRange.signed64.wrap n = m ↔
      IntRange.signed64.Contains m ∧ m ≡ n [ZMOD 0x10000000000000000] :=
    fun n => IntRange.wrap_eq_iff proper
  have unsigned : ∀ n, read .unsigned64 t = .ok n ↔ Denotes t n ∧ IntRange.unsigned64.Contains n :=
    fun n => read_eq_ok_iff (by decide)
  constructor
  · intro result
    by_cases large : read64 t = .error (.digits .tooLarge)
    · rw [readWrapping_of_tooLarge large] at result
      obtain ⟨n, again, wrapped⟩ := exists_ok_of_map_eq_ok result
      obtain ⟨denotes, least, most⟩ := (unsigned n).mp again
      simp only [IntRange.unsigned64] at least most
      exact ⟨n, denotes, by omega, by omega, (wraps n).mp wrapped⟩
    · rw [readWrapping_of_ne_tooLarge large] at result
      obtain ⟨denotes, fits⟩ := (read_eq_ok_iff zero).mp result
      have ⟨least, most⟩ := fits
      simp only [IntRange.signed64] at least most
      exact ⟨m, denotes, by omega, by omega, fits, Int.ModEq.refl m⟩
  · rintro ⟨n, denotes, least, most, same⟩
    by_cases fits : IntRange.signed64.Contains n
    · have read : read64 t = .ok n := (read_eq_ok_iff zero).mpr ⟨denotes, fits⟩
      rw [readWrapping, read, ← (wraps n).mpr same, IntRange.wrap_of_contains fits]
    · simp only [IntRange.Contains, IntRange.signed64] at fits
      have large : read64 t = .error (.digits .tooLarge) := by
        refine read_eq_tooLarge zero denotes ?_
        simp only [IntRange.signed64]
        omega
      have again : read .unsigned64 t = .ok n := by
        refine (unsigned n).mpr ⟨denotes, ?_⟩
        simp only [IntRange.Contains, IntRange.unsigned64]
        omega
      rw [readWrapping_of_tooLarge large, again, ← (wraps n).mpr same]
      rfl

theorem readWrapping_eq_error_iff {t : Text} {e : LiteralError}
    (other : ∀ cause, e ≠ .digits cause) : readWrapping t = .error e ↔ ofText t = .error e := by
  by_cases large : read64 t = .error (.digits .tooLarge)
  · rw [readWrapping_of_tooLarge large, map_eq_error_iff]
    exact read_eq_error_iff other
  · rw [readWrapping_of_ne_tooLarge large]
    exact read_eq_error_iff other

/-- Why a text is refused by a reader whose errors before the digits are those of the literal. -/
theorem refused_iff {reader : Text → Except LiteralError Int} {t : Text}
    (before : ∀ e, (∀ cause, e ≠ .digits cause) → (reader t = .error e ↔ ofText t = .error e)) :
    (reader t = .error .empty ↔ t = []) ∧ (reader t = .error .sign ↔ MisplacesSign t) ∧
      ((∃ cause, reader t = .error (.digits cause)) ↔
        t ≠ [] ∧ ¬ MisplacesSign t ∧ ∀ n, reader t ≠ .ok n) := by
  have empty : reader t = .error .empty ↔ t = [] :=
    (before .empty (fun _ => nofun)).trans ofText_eq_empty_iff
  have sign : reader t = .error .sign ↔ MisplacesSign t :=
    (before .sign (fun _ => nofun)).trans ofText_eq_sign_iff
  refine ⟨empty, sign, ?_⟩
  rw [ne_eq, ← empty, ← sign]
  cases reader t with
  | ok n => simp
  | error e => cases e <;> simp

/-- Integer literals are read exactly as their grammar has it: the readers give the values of
their ranges, and the one that wraps gives the signed value of the same 64 bits. A text is refused
as empty if it is, for a sign if one stands in a wrong place, and for its digits in all other
cases. -/
theorem read_by_grammar (t : Text) :
    (∀ n n', Denotes t n → Denotes t n' → n = n') ∧
      (∀ n, read32 t = .ok n ↔ Denotes t n ∧ -0x80000000 ≤ n ∧ n < 0x80000000) ∧
      (∀ n, read64 t = .ok n ↔ Denotes t n ∧ -0x8000000000000000 ≤ n ∧ n < 0x8000000000000000) ∧
      (∀ m, readWrapping t = .ok m ↔
        ∃ n, Denotes t n ∧ -0x8000000000000000 ≤ n ∧ n < 0x10000000000000000 ∧
          (-0x8000000000000000 ≤ m ∧ m < 0x8000000000000000) ∧
            m ≡ n [ZMOD 0x10000000000000000]) ∧
      ∀ reader ∈ [read32, read64, readWrapping],
        (reader t = .error .empty ↔ t = []) ∧ (reader t = .error .sign ↔ MisplacesSign t) ∧
          ((∃ cause, reader t = .error (.digits cause)) ↔
            t ≠ [] ∧ ¬ MisplacesSign t ∧ ∀ n, reader t ≠ .ok n) := by
  have fits32 : ∀ n, IntRange.signed32.Contains n ↔ -0x80000000 ≤ n ∧ n < 0x80000000 := by
    intro n
    simp only [IntRange.Contains, IntRange.signed32]
    omega
  have fits64 : ∀ n, IntRange.signed64.Contains n ↔
      -0x8000000000000000 ≤ n ∧ n < 0x8000000000000000 := by
    intro n
    simp only [IntRange.Contains, IntRange.signed64]
    omega
  refine ⟨fun n n' => Denotes.unique, ?_, ?_, ?_, ?_⟩
  · intro n
    rw [← fits32]
    exact read_eq_ok_iff (by decide)
  · intro n
    rw [← fits64]
    exact read_eq_ok_iff (by decide)
  · intro m
    rw [← fits64]
    exact readWrapping_eq_ok_iff
  · simp only [List.forall_mem_cons, List.not_mem_nil, false_imp_iff, implies_true, and_true]
    exact ⟨refused_iff fun e => read_eq_error_iff, refused_iff fun e => read_eq_error_iff,
      refused_iff fun e => readWrapping_eq_error_iff⟩

/-- The greatest value of 64 bits wraps to the number with the same bits, and a sign behind the
mark is refused. -/
theorem read_by_grammar_wraps_and_refuses :
    readWrapping "+0XffffffffffffffFF".toList = .ok (-1) ∧
      read64 "-#+1".toList = .error .sign := by
  have numeral : Numeral "0XffffffffffffffFF".toList 0xffffffffffffffff :=
    @Numeral.hexadecimal ['0', 'X'] "ffffffffffffffFF".toList (by decide) (by decide)
      (Text.forall_mem_of_all (by decide))
  have denotes : Denotes "+0XffffffffffffffFF".toList 0xffffffffffffffff :=
    ⟨false, _, _, .plus, numeral, rfl⟩
  have misplaces : MisplacesSign "-#+1".toList :=
    ⟨true, ['#'], "+1".toList, .minus, by decide, .inr rfl⟩
  obtain ⟨_, _, _, wrapping, _⟩ := read_by_grammar "+0XffffffffffffffFF".toList
  obtain ⟨_, _, _, _, refused⟩ := read_by_grammar "-#+1".toList
  obtain ⟨_, sign, _⟩ := refused read64 (by simp)
  exact ⟨(wrapping (-1)).mpr ⟨_, denotes, by decide⟩, sign.mpr misplaces⟩

end Literal

end MagicRules
