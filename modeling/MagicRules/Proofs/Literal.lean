import MagicRules.Literal
import MagicRules.Proofs.Field.Grammar
import MagicRules.Proofs.Readers
import Mathlib.Data.Int.ModEq
import Mathlib.Data.List.Induction

/-!
# The numbers that literals write

A run of digits can be read exactly if all its characters are digits and its number, with the
sign, lies in the range (`readDigits_eq_ok_iff`): a number of the range has no leading part beyond
the range. Numbers that are written in decimal are read back at any width that they fit, the least
number of a range too, since the sign stands with the digits from the first one on.
-/

namespace MagicRules

open MagicRules.Field (numberOf)

namespace IntRange

def Contains (r : IntRange) (n : Int) : Prop := r.least ≤ n ∧ n ≤ r.most

instance (r : IntRange) (n : Int) : Decidable (r.Contains n) := inferInstanceAs (Decidable (_ ∧ _))

/-- The number that an integer is wrapped to is the one in the range with the same remainder. -/
theorem wrap_eq_iff {r : IntRange} (proper : r.least ≤ r.most) {n m : Int} :
    r.wrap n = m ↔ r.Contains m ∧ m ≡ n [ZMOD r.most - r.least + 1] := by
  have positive : 0 < r.most - r.least + 1 := by omega
  rw [wrap, Contains]
  change (n - r.least) % (r.most - r.least + 1) + r.least = m ↔ _
  constructor
  · rintro rfl
    have nonneg := Int.emod_nonneg (n - r.least) (by omega : r.most - r.least + 1 ≠ 0)
    have small := Int.emod_lt_of_pos (n - r.least) positive
    refine ⟨⟨by omega, by omega⟩, ?_⟩
    have same := (Int.mod_modEq (n - r.least) (r.most - r.least + 1)).add_right r.least
    simpa using same
  · rintro ⟨⟨least, most⟩, same⟩
    have remainder : (m - r.least) % (r.most - r.least + 1) = m - r.least :=
      Int.emod_eq_of_lt (by omega) (by omega)
    have moved := same.sub_right r.least
    rw [← moved, remainder]
    omega

theorem wrap_of_contains {r : IntRange} {n : Int} (h : r.Contains n) : r.wrap n = n := by
  have proper : r.least ≤ r.most := Int.le_trans h.1 h.2
  exact (wrap_eq_iff proper).mpr ⟨h, Int.ModEq.refl n⟩

end IntRange

/-- The whole number with this sign and absolute value. -/
def signed (negative : Bool) (n : Nat) : Int := if negative then -(n : Int) else n

theorem signed_decide_natAbs (n : Int) : signed (decide (n < 0)) n.natAbs = n := by
  by_cases h : n < 0
  · simp only [signed, h, decide_true, if_true]
    omega
  · simp only [signed, h, decide_false, Bool.false_eq_true, if_false]
    exact Int.natAbs_of_nonneg (by omega)

/-- What is nearer to zero than a number of a range that has zero is a number of the range. -/
theorem IntRange.contains_signed_of_le (r : IntRange) (zero : r.Contains 0) {negative : Bool}
    {m n : Nat} (le : m ≤ n) (h : r.Contains (signed negative n)) :
    r.Contains (signed negative m) := by
  cases negative <;> simp only [Contains, signed] at zero h ⊢ <;> grind

/-- Digits of a radix are those of base sixteen that are small enough. -/
theorem digit?_eq_some_iff {radix d : Nat} {c : Char} :
    digit? radix c = some d ↔ digit? 16 c = some d ∧ d < radix := by
  simp only [digit?, Option.ite_none_right_eq_some, Option.some.injEq]
  constructor
  · rintro ⟨⟨lt, small⟩, rfl⟩
    exact ⟨⟨⟨small, small⟩, rfl⟩, lt⟩
  · rintro ⟨⟨⟨small, _⟩, rfl⟩, lt⟩
    exact ⟨⟨lt, small⟩, rfl⟩

theorem toNat_lt_of_digit? {radix d : Nat} {c : Char} (h : digit? radix c = some d) :
    c.toNat < 128 := by
  by_contra large
  have above (last : Char) (small : last.toNat < 128) : ¬ c ≤ last := by
    intro le
    have : c.toNat ≤ last.toNat := le
    omega
  have hex := (digit?_eq_some_iff.mp h).1
  simp [digit?, above '9' (by decide), above 'f' (by decide), above 'F' (by decide)] at hex

theorem eq_digitChar_of_lt_ten {radix d : Nat} {c : Char} (h : digit? radix c = some d)
    (decimal : d < 10) : c = d.digitChar := by
  have ascii : ∀ n < 128, ∀ d < 10, digit? 16 (Char.ofNat n) = some d →
      Char.ofNat n = d.digitChar := by
    decide +kernel
  have value := ascii c.toNat (toNat_lt_of_digit? h) d decimal
  rw [Char.ofNat_toNat] at value
  exact value (digit?_eq_some_iff.mp h).1

theorem digit?_digitChar {radix d : Nat} (h : radix ≤ 16) (lt : d < radix) :
    digit? radix d.digitChar = some d := by
  have hex : ∀ d < 16, digit? 16 d.digitChar = some d := by decide
  exact digit?_eq_some_iff.mpr ⟨hex d (by omega), lt⟩

theorem numberOf_append_singleton (radix : Nat) (t : Text) (c : Char) :
    numberOf radix (t ++ [c]) = numberOf radix t * radix + (digit? radix c).getD 0 := by
  simp only [numberOf, List.map_append, List.map_cons, List.map_nil, List.reverse_append,
    List.reverse_cons, List.reverse_nil, List.nil_append, List.cons_append, Nat.ofDigits_cons]
  rw [Nat.mul_comm, Nat.add_comm]

theorem numberOf_le_append (radix : Nat) (t u : Text) :
    numberOf radix u ≤ numberOf radix (t ++ u) := by
  simp only [numberOf, List.map_append, List.reverse_append, Nat.ofDigits_append]
  exact Nat.le_add_right _ _

theorem numberOf_le_of_isSome {radix : Nat} {c : Char} (digit : (digit? radix c).isSome)
    (t : Text) : numberOf radix t ≤ numberOf radix t * radix + (digit? radix c).getD 0 := by
  obtain ⟨d, some⟩ := Option.isSome_iff_exists.mp digit
  have positive : 0 < radix := Nat.zero_lt_of_lt (digit?_eq_some_iff.mp some).2
  exact Nat.le_add_right_of_le (Nat.le_mul_of_pos_right _ positive)

/-- A number is written in digits of the radix. -/
theorem exists_digitChar_of_mem_ofNat {radix n : Nat} (two : 2 ≤ radix) {c : Char}
    (h : c ∈ Text.ofNat radix n) : ∃ d < radix, c = d.digitChar := by
  induction n using Nat.strong_induction_on with
  | _ n ih =>
      rw [Text.ofNat, Nat.toDigits_eq_if (by omega)] at h
      split_ifs at h with small
      · exact ⟨n, small, List.mem_singleton.mp h⟩
      · rcases List.mem_append.mp h with front | last
        · exact ih (n / radix) (Nat.div_lt_self (by omega) (by omega)) front
        · exact ⟨n % radix, Nat.mod_lt n (by omega), List.mem_singleton.mp last⟩

/-- What holds of the digits of a radix holds of the characters of a number. -/
theorem forall_mem_ofNat {P : Char → Prop} {radix : Nat} (two : 2 ≤ radix)
    (digits : ∀ d < radix, P d.digitChar) (n : Nat) : ∀ c ∈ Text.ofNat radix n, P c := by
  intro c member
  obtain ⟨d, lt, rfl⟩ := exists_digitChar_of_mem_ofNat two member
  exact digits d lt

theorem forall_mem_ofInt {P : Char → Prop} (digits : ∀ d < 10, P d.digitChar) (minus : P '-')
    (n : Int) : ∀ c ∈ Text.ofInt n, P c := by
  have unsigned := forall_mem_ofNat (by omega : 2 ≤ 10) digits n.natAbs
  rw [Text.ofInt]
  split_ifs
  · exact List.forall_mem_cons.mpr ⟨minus, unsigned⟩
  · exact unsigned

theorem isSome_of_mem_ofNat {radix n : Nat} (two : 2 ≤ radix) (sixteen : radix ≤ 16) {c : Char}
    (h : c ∈ Text.ofNat radix n) : (digit? radix c).isSome := by
  obtain ⟨d, lt, rfl⟩ := exists_digitChar_of_mem_ofNat two h
  rw [digit?_digitChar sixteen lt]
  rfl

theorem numberOf_ofNat {radix : Nat} (two : 2 ≤ radix) (sixteen : radix ≤ 16) (n : Nat) :
    numberOf radix (Text.ofNat radix n) = n := by
  induction n using Nat.strong_induction_on with
  | _ n ih =>
      rw [Text.ofNat, Nat.toDigits_eq_if (by omega)]
      split_ifs with small
      · simp [numberOf, digit?_digitChar sixteen small]
      · have front := ih (n / radix) (Nat.div_lt_self (by omega) (by omega))
        have last := digit?_digitChar sixteen (Nat.mod_lt n (by omega : 0 < radix))
        rw [Text.ofNat] at front
        rw [numberOf_append_singleton, front, last, Option.getD_some]
        exact Nat.div_add_mod' n radix

theorem readDigits_append (radix : Nat) (negative : Bool) (range : IntRange) (value : Int)
    (t u : Text) :
    readDigits radix negative range value (t ++ u) =
      (readDigits radix negative range value t >>= fun next =>
        readDigits radix negative range next u) := by
  induction t generalizing value with
  | nil => rfl
  | cons c cs ih =>
      rw [List.cons_append, readDigits, readDigits]
      cases digit? radix c with
      | none => rfl
      | some d =>
          dsimp only
          generalize value * radix + (if negative then -(d : Int) else d) = next
          split_ifs
          · rfl
          · rfl
          · exact ih next

theorem signed_next (negative : Bool) (m radix d : Nat) :
    signed negative m * radix + (if negative then -(d : Int) else d) =
      signed negative (m * radix + d) := by
  cases negative <;> simp [signed]
  omega

theorem readDigits_singleton_eq_ok_iff {radix : Nat} {negative : Bool} {range : IntRange}
    {m : Nat} {c : Char} {n : Int} :
    readDigits radix negative range (signed negative m) [c] = .ok n ↔
      (digit? radix c).isSome ∧ n = signed negative (m * radix + (digit? radix c).getD 0) ∧
        range.Contains n := by
  cases digit : digit? radix c with
  | none => simp [readDigits, digit]
  | some d =>
      simp only [readDigits, digit, signed_next, Option.isSome_some, Option.getD_some, true_and,
        IntRange.Contains]
      split_ifs with above below
      · simp only [false_iff]
        omega
      · simp only [false_iff]
        omega
      · simp only [Except.ok.injEq]
        omega

/-- Digits can be read exactly if they are digits of the radix and their number fits. -/
theorem readDigits_eq_ok_iff {radix : Nat} {negative : Bool} {range : IntRange}
    (zero : range.Contains 0) {t : Text} {n : Int} :
    readDigits radix negative range 0 t = .ok n ↔
      (∀ c ∈ t, (digit? radix c).isSome) ∧ n = signed negative (numberOf radix t) ∧
        range.Contains n := by
  -- From the right: the number without its last digit is nearer to zero, so it fits as well.
  induction t using List.reverseRecOn generalizing n with
  | nil =>
      have nothing : signed negative (numberOf radix []) = 0 := by
        cases negative <;> rfl
      rw [nothing, readDigits]
      constructor
      · rintro ⟨⟩
        exact ⟨by simp, rfl, zero⟩
      · rintro ⟨_, rfl, _⟩
        rfl
  | append_singleton t c ih =>
      rw [readDigits_append, numberOf_append_singleton]
      constructor
      · intro read
        obtain ⟨front, readFront, readLast⟩ := exists_ok_of_bind_eq_ok read
        obtain ⟨digits, rfl, _⟩ := ih.mp readFront
        obtain ⟨digit, number, fits⟩ := readDigits_singleton_eq_ok_iff.mp readLast
        refine ⟨?_, number, fits⟩
        intro b member
        rcases List.mem_append.mp member with inFront | last
        · exact digits b inFront
        · exact List.mem_singleton.mp last ▸ digit
      · rintro ⟨digits, number, fits⟩
        have last := digits c (List.mem_append_right t List.mem_cons_self)
        have front : readDigits radix negative range 0 t = .ok (signed negative (numberOf radix t)) :=
          ih.mpr ⟨fun b member => digits b (List.mem_append_left [c] member), rfl,
            range.contains_signed_of_le zero (numberOf_le_of_isSome last t) (number ▸ fits)⟩
        rw [front]
        exact readDigits_singleton_eq_ok_iff.mpr ⟨last, number, fits⟩

theorem ofNat_ne_nil (radix n : Nat) : Text.ofNat radix n ≠ [] := Nat.toDigits_ne_nil

theorem ofInt_ne_nil (n : Int) : Text.ofInt n ≠ [] := by
  rw [Text.ofInt]
  split_ifs
  · exact List.cons_ne_nil _ _
  · exact ofNat_ne_nil 10 n.natAbs

/-- Decimal digits begin with a zero only if there is nothing else. -/
theorem ofNat_ten_eq_cons (n : Nat) :
    ∃ c cs, Text.ofNat 10 n = c :: cs ∧ (digit? 10 c).isSome ∧ (c = '0' → cs = []) := by
  induction n using Nat.strong_induction_on with
  | _ n ih =>
      rw [Text.ofNat, Nat.toDigits_eq_if (by omega)]
      split_ifs with small
      · exact ⟨_, [], rfl, by rw [digit?_digitChar (by omega) small]; rfl, fun _ => rfl⟩
      · obtain ⟨c, cs, front, digit, zero⟩ := ih (n / 10) (by omega)
        rw [Text.ofNat] at front
        refine ⟨c, cs ++ [(n % 10).digitChar], by rw [front]; rfl, digit, ?_⟩
        rintro rfl
        -- A first part that is zero would leave a number of one digit.
        have number := numberOf_ofNat (by omega : 2 ≤ 10) (by omega) (n / 10)
        rw [Text.ofNat, front, zero rfl] at number
        have : n / 10 = 0 := by rw [← number]; rfl
        omega

namespace Literal

/-- Whether a text begins with a sign. -/
def IsSigned (t : Text) : Prop := t.head? = some '-' ∨ t.head? = some '+'

theorem isSigned_iff_exists {t : Text} :
    IsSigned t ↔ (∃ rest, t = '-' :: rest) ∨ ∃ rest, t = '+' :: rest := by
  rw [IsSigned, List.head?_eq_some_iff, List.head?_eq_some_iff]

theorem not_isSigned_cons {c : Char} {cs : Text} :
    ¬ IsSigned (c :: cs) ↔ c ≠ '-' ∧ c ≠ '+' := by
  simp [IsSigned]

theorem not_isSigned_of_digits {radix : Nat} {t : Text}
    (digits : ∀ c ∈ t, (digit? radix c).isSome) : ¬ IsSigned t := by
  cases t with
  | nil => simp [IsSigned]
  | cons c cs =>
      obtain ⟨d, digit⟩ := Option.isSome_iff_exists.mp (digits c List.mem_cons_self)
      have hex := (digit?_eq_some_iff.mp digit).1
      rw [not_isSigned_cons]
      constructor <;> rintro rfl <;> cases hex

instance (t : Text) : Decidable (IsSigned t) := inferInstanceAs (Decidable (_ ∨ _))

/-- What stands behind the sign of a text, and whether the sign is a minus. A sign that is there is
taken for it. -/
inductive BehindSign : Text → Bool → Text → Prop
  | minus {rest : Text} : BehindSign ('-' :: rest) true rest
  | plus {rest : Text} : BehindSign ('+' :: rest) false rest
  | unsigned {rest : Text} (plain : ¬ IsSigned rest) : BehindSign rest false rest

theorem exists_behindSign (t : Text) : ∃ negative rest, BehindSign t negative rest := by
  by_cases signed : IsSigned t
  · rcases isSigned_iff_exists.mp signed with ⟨rest, rfl⟩ | ⟨rest, rfl⟩
    · exact ⟨true, rest, .minus⟩
    · exact ⟨false, rest, .plus⟩
  · exact ⟨false, t, .unsigned signed⟩

/-- A text that is not empty is a literal unless a second sign stands in front of its digits. -/
theorem ofText_of_behindSign {t rest : Text} {negative : Bool} (nonempty : t ≠ [])
    (h : BehindSign t negative rest) :
    ofText t = if IsSigned (radixAndDigits rest).2 then .error .sign else .ok
      { negative, radix := (radixAndDigits rest).1, digits := (radixAndDigits rest).2 } := by
  cases h with
  | minus =>
      simp only [ofText]
      generalize (radixAndDigits rest).2 = digits
      split <;> simp_all [isSigned_iff_exists]
  | plus =>
      simp only [ofText]
      generalize (radixAndDigits rest).2 = digits
      split <;> simp_all [isSigned_iff_exists]
  | unsigned plain =>
      obtain ⟨c, cs, rfl⟩ := List.exists_cons_of_ne_nil nonempty
      obtain ⟨minus, plus⟩ := not_isSigned_cons.mp plain
      simp only [ofText, minus, plus, List.cons.injEq, false_and, imp_self, implies_true]
      generalize (radixAndDigits (c :: cs)).2 = digits
      split <;> simp_all [isSigned_iff_exists]

theorem ofText_eq_ok_iff {t : Text} {l : Literal} :
    ofText t = .ok l ↔ t ≠ [] ∧ ∃ rest, BehindSign t l.negative rest ∧
      radixAndDigits rest = (l.radix, l.digits) ∧ ¬ IsSigned l.digits := by
  constructor
  · intro literal
    have nonempty : t ≠ [] := by
      rintro rfl
      cases literal
    obtain ⟨negative, rest, behind⟩ := exists_behindSign t
    rw [ofText_of_behindSign nonempty behind] at literal
    split_ifs at literal with signed
    cases literal
    exact ⟨nonempty, rest, behind, rfl, signed⟩
  · rintro ⟨nonempty, rest, behind, parts, plain⟩
    rw [ofText_of_behindSign nonempty behind, parts, if_neg plain]

/-- A text without a mark is decimal as it is, and so is a zero alone. -/
theorem radixAndDigits_decimal {u : Text} (mark : u.head? ≠ some '#')
    (leading : u.head? = some '0' → u = ['0']) : radixAndDigits u = (10, u) := by
  by_cases zero : u.head? = some '0'
  · rw [leading zero]
    rfl
  · cases u with
    | nil => rfl
    | cons c cs =>
        simp only [List.head?_cons, ne_eq, Option.some.injEq] at mark zero
        simp [radixAndDigits, mark, zero]

theorem radixAndDigits_ofNat_ten (n : Nat) :
    radixAndDigits (Text.ofNat 10 n) = (10, Text.ofNat 10 n) := by
  obtain ⟨c, cs, shape, digit, zero⟩ := ofNat_ten_eq_cons n
  rw [shape]
  apply radixAndDigits_decimal
  · intro mark
    obtain rfl := Option.some.inj mark
    exact absurd digit (by decide)
  · intro first
    obtain rfl := Option.some.inj first
    rw [zero rfl]

/-- A whole number written in decimal is the literal of its digits. -/
theorem ofText_ofInt (n : Int) : ofText (Text.ofInt n) = .ok
    { negative := decide (n < 0), radix := 10, digits := Text.ofNat 10 n.natAbs } := by
  have plain : ¬ IsSigned (Text.ofNat 10 n.natAbs) :=
    not_isSigned_of_digits fun c => isSome_of_mem_ofNat (by omega) (by omega : 10 ≤ 16)
  refine ofText_eq_ok_iff.mpr ⟨ofInt_ne_nil n, Text.ofNat 10 n.natAbs, ?_,
    radixAndDigits_ofNat_ten n.natAbs, plain⟩
  by_cases negative : n < 0
  · rw [Text.ofInt, if_pos negative, decide_eq_true negative]
    exact .minus
  · rw [Text.ofInt, if_neg negative, decide_eq_false negative]
    exact .unsigned plain

/-- A literal has its value if it has digits, all of its radix, and the range has their number. -/
theorem value_eq_ok_iff {l : Literal} {range : IntRange} (zero : range.Contains 0) {n : Int} :
    l.value range = .ok n ↔
      l.digits ≠ [] ∧ (∀ c ∈ l.digits, (digit? l.radix c).isSome) ∧
        n = signed l.negative (numberOf l.radix l.digits) ∧ range.Contains n := by
  rw [value]
  by_cases empty : l.digits = []
  · simp [empty]
  · rw [if_neg (by simpa using empty), readDigits_eq_ok_iff zero]
    simp [empty]

theorem read_eq_ok_of_ofText {range : IntRange} {t : Text} {l : Literal} {n : Int}
    (h : ofText t = .ok l) (value : l.value range = .ok n) : read range t = .ok n := by
  rw [read, h]
  exact mapError_eq_ok_iff.mpr value

/-- A number written in decimal is read back at every width that it fits. -/
theorem read_ofInt {range : IntRange} (zero : range.Contains 0) {n : Int}
    (fits : range.Contains n) : read range (Text.ofInt n) = .ok n := by
  have digits : ∀ c ∈ Text.ofNat 10 n.natAbs, (digit? 10 c).isSome :=
    fun c => isSome_of_mem_ofNat (by omega) (by omega)
  have number := numberOf_ofNat (by omega : 2 ≤ 10) (by omega) n.natAbs
  refine read_eq_ok_of_ofText (ofText_ofInt n) ?_
  refine (value_eq_ok_iff zero).mpr ⟨ofNat_ne_nil 10 n.natAbs, digits, ?_, fits⟩
  rw [number, signed_decide_natAbs]

theorem read_decimal {range : IntRange} (zero : range.Contains 0) {n : Nat}
    (fits : range.Contains n) : read range (Text.ofNat 10 n) = .ok (n : Int) :=
  read_ofInt zero fits

theorem read_hex {range : IntRange} (zero : range.Contains 0) {n : Nat}
    (fits : range.Contains n) : read range ('0' :: 'x' :: Text.ofNat 16 n) = .ok (n : Int) := by
  have digits : ∀ c ∈ Text.ofNat 16 n, (digit? 16 c).isSome :=
    fun c => isSome_of_mem_ofNat (by omega) (by omega)
  have number := numberOf_ofNat (by omega : 2 ≤ 16) (by omega) n
  have unsigned : ¬ IsSigned ('0' :: 'x' :: Text.ofNat 16 n) :=
    not_isSigned_cons.mpr (by decide)
  have literal : ofText ('0' :: 'x' :: Text.ofNat 16 n) = .ok
      { negative := false, radix := 16, digits := Text.ofNat 16 n } :=
    ofText_eq_ok_iff.mpr
      ⟨List.cons_ne_nil _ _, _, .unsigned unsigned, rfl, not_isSigned_of_digits digits⟩
  refine read_eq_ok_of_ofText literal ?_
  refine (value_eq_ok_iff zero).mpr ⟨ofNat_ne_nil 16 n, digits, ?_, fits⟩
  rw [number]
  rfl

/-- What is read without a minus in front is not negative. -/
theorem bounds_of_read {range : IntRange} (zero : range.Contains 0) {t : Text} {n : Int}
    (h : read range t = .ok n) (unsigned : t.head? ≠ some '-') : 0 ≤ n ∧ n ≤ range.most := by
  obtain ⟨l, literal, value⟩ := exists_ok_of_bind_eq_ok h
  obtain ⟨_, rest, behind, _⟩ := ofText_eq_ok_iff.mp literal
  have positive : l.negative = false := by
    generalize l.negative = negative at behind
    cases behind with
    | minus => exact absurd rfl unsigned
    | plus => rfl
    | unsigned => rfl
  have value := mapError_eq_ok_iff.mp value
  obtain ⟨_, _, number, fits⟩ := (value_eq_ok_iff zero).mp value
  refine ⟨?_, fits.2⟩
  rw [number, positive, signed]
  exact Int.natCast_nonneg _

/-- A value of 64 bits is read without wrapping. -/
theorem readWrapping_ofInt {n : Int} (fits : IntRange.signed64.Contains n) :
    readWrapping (Text.ofInt n) = .ok n := by
  have read : read64 (Text.ofInt n) = .ok n := read_ofInt (by decide) fits
  rw [readWrapping, read]

end Literal

end MagicRules
