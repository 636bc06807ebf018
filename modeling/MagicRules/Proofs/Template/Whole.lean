import MagicRules.Template.Render
import MagicRules.Proofs.Literal
import Mathlib.Data.Nat.Digits.Lemmas

/-!
# Whole numbers in messages

A conversion of whole numbers writes a magnitude in its radix. Without leading zeros the digits of
the magnitude are those that Mathlib gives for it (`Nat.digits`), and the number zero has none. All
the rest of the text is a sign, a mark of the radix, zeros in front of the digits and blanks. So a
rendered number is known from what leads it, the count of its zeros, and its digits
(`render_eq_layout`).
-/

namespace MagicRules

open MagicRules.Field (numberOf)

def digitLetter (upper : Bool) (d : Nat) : Char :=
  (if upper then "0123456789ABCDEF" else "0123456789abcdef").toList.getD d '0'

/-- The digits of a number without leading zeros. Zero has no digits. -/
def significantDigits (radix : Nat) (upper : Bool) (n : Nat) : Text :=
  ((Nat.digits radix n).map (digitLetter upper)).reverse

theorem significantDigits_eq_nil_iff {radix n : Nat} {upper : Bool} :
    significantDigits radix upper n = [] ↔ n = 0 := by
  rw [significantDigits, List.reverse_eq_nil_iff, List.map_eq_nil_iff, Nat.digits_eq_nil_iff_eq_zero]

theorem upperIf_digitChar {d : Nat} (lt : d < 16) (upper : Bool) :
    Directive.upperIf upper [d.digitChar] = [digitLetter upper d] := by
  have all : ∀ d < 16, ∀ upper, Directive.upperIf upper [d.digitChar] = [digitLetter upper d] := by
    decide
  exact all d lt upper

theorem upperIf_append (upper : Bool) (t u : Text) :
    Directive.upperIf upper (t ++ u) = Directive.upperIf upper t ++ Directive.upperIf upper u := by
  cases upper with
  | false => rfl
  | true => exact List.map_append

/-- A number other than zero is written with its significant digits. -/
theorem upperIf_ofNat {radix n : Nat} (two : 2 ≤ radix) (sixteen : radix ≤ 16) (upper : Bool)
    (positive : 0 < n) : Directive.upperIf upper (Text.ofNat radix n) =
      significantDigits radix upper n := by
  induction n using Nat.strong_induction_on with
  | _ n ih =>
      have last := upperIf_digitChar (by have := Nat.mod_lt n (by omega : 0 < radix); omega :
        n % radix < 16) upper
      rw [significantDigits, Nat.digits_def' (by omega) positive, List.map_cons, List.reverse_cons,
        ← last, Text.ofNat, Nat.toDigits_eq_if (by omega)]
      split_ifs with small
      · rw [Nat.div_eq_of_lt small, Nat.digits_zero, Nat.mod_eq_of_lt small]
        rfl
      · have front := ih (n / radix) (Nat.div_lt_self positive two)
          (Nat.div_pos (Nat.not_lt.mp small) (by omega))
        rw [Text.ofNat, significantDigits] at front
        rw [upperIf_append, front]

theorem digit?_digitLetter {radix d : Nat} (sixteen : radix ≤ 16) (lt : d < radix)
    (upper : Bool) : digit? radix (digitLetter upper d) = some d := by
  have hex : ∀ d < 16, ∀ upper, digit? 16 (digitLetter upper d) = some d := by decide
  exact digit?_eq_some_iff.mpr ⟨hex d (by omega) upper, lt⟩

section significantDigits

variable {radix : Nat} (two : 2 ≤ radix) (sixteen : radix ≤ 16) (upper : Bool) (n : Nat)
include two sixteen

theorem numberOf_significantDigits : numberOf radix (significantDigits radix upper n) = n := by
  have values : (Nat.digits radix n).map ((fun c => (digit? radix c).getD 0) ∘ digitLetter upper) =
      Nat.digits radix n := by
    rw [List.map_congr_left (g := id) ?_, List.map_id]
    intro d member
    have lt := Nat.digits_lt_base (by omega) member
    rw [Function.comp, digit?_digitLetter sixteen lt]
    rfl
  rw [numberOf, significantDigits, List.map_reverse, List.reverse_reverse, List.map_map, values,
    Nat.ofDigits_digits]

theorem isSome_of_mem_significantDigits {c : Char} (member : c ∈ significantDigits radix upper n) :
    (digit? radix c).isSome := by
  obtain ⟨d, digit, rfl⟩ := List.mem_map.mp (List.mem_reverse.mp member)
  rw [digit?_digitLetter sixteen (Nat.digits_lt_base (by omega) digit)]
  rfl

theorem head?_significantDigits : (significantDigits radix upper n).head? ≠ some '0' := by
  intro first
  rw [significantDigits, List.head?_reverse, List.getLast?_map, Option.map_eq_some_iff] at first
  obtain ⟨d, last, zero⟩ := first
  have member := List.mem_of_getLast? last
  -- The only digit that is written as a zero is zero, and that is not the last one.
  have digit := digit?_digitLetter sixteen (Nat.digits_lt_base (by omega) member) upper
  have null : digit? radix '0' = some 0 := digit?_digitChar sixteen (by omega : 0 < radix)
  rw [zero, null] at digit
  cases digit
  have nonzero : n ≠ 0 := by
    rintro rfl
    rw [Nat.digits_zero] at member
    cases member
  rw [List.getLast?_eq_some_getLast (Nat.digits_ne_nil_iff_ne_zero.mpr nonzero)] at last
  exact Nat.getLast_digit_ne_zero radix nonzero (Option.some.inj last)

end significantDigits

namespace Directive

/-- The radix in which a conversion writes whole numbers. -/
def radix (d : Directive) : Nat :=
  match d.conversion with
  | .hexadecimal _ => 16
  | .octal => 8
  | _ => 10

/-- Whether the letters among the digits are capitals. -/
def upper (d : Directive) : Bool :=
  match d.conversion with
  | .hexadecimal upper => upper
  | _ => false

/-- What the digits write of a number: its absolute value if the conversion has signs, and else the
number of the same 64 bits that is not negative. -/
def magnitude (d : Directive) (n : Int) : Nat :=
  if d.conversion = .decimal then n.natAbs else (n % 2 ^ 64).toNat

theorem two_le_radix {d : Directive} : 2 ≤ d.radix := by
  rw [radix]
  split <;> decide

theorem radix_le {d : Directive} : d.radix ≤ 16 := by
  rw [radix]
  split <;> decide

def digits (d : Directive) (n : Int) : Text := significantDigits d.radix d.upper (d.magnitude n)

def numberSign (d : Directive) (n : Int) : Text :=
  if d.conversion ≠ .decimal then []
  else if n < 0 then ['-'] else if d.plus then ['+'] else if d.space then [' '] else []

/-- The mark in front of hexadecimal digits. Zero has none. -/
def numberMark (d : Directive) (n : Int) : Text :=
  match d.conversion with
  | .hexadecimal upper =>
    if d.alternate ∧ d.magnitude n ≠ 0 then (if upper then ['0', 'X'] else ['0', 'x']) else []
  | _ => []

/-- How many zeros stand in front of the digits, padding apart: up to the precision, at least one
if there are no digits, and one more in front of octal digits in their alternate form. -/
def leadingZeros (d : Directive) (n : Int) : Nat :=
  max (d.precision.getD 1) 1 - (d.digits n).length +
    if d.conversion = .octal ∧ d.alternate ∧ d.magnitude n ≠ 0 then 1 else 0

/-- A number in the width of a directive: blanks behind it, or zeros in front of its digits, or
blanks in front of it. Zeros that are asked for by the precision are not padding. -/
def layout (d : Directive) (lead : Text) (zeros : Nat) (digits : Text) : Text :=
  let fill := d.width.getD 0 - (lead.length + zeros + digits.length)
  if d.left then lead ++ List.replicate zeros '0' ++ digits ++ List.replicate fill ' '
  else if d.zero ∧ d.precision = none then lead ++ List.replicate (zeros + fill) '0' ++ digits
  else List.replicate fill ' ' ++ lead ++ List.replicate zeros '0' ++ digits

variable {d : Directive}

/-- Digits that are put up to the precision. Zero is written with one digit at least. -/
theorem extend_eq {radix n : Nat} (two : 2 ≤ radix) (sixteen : radix ≤ 16) (upper : Bool) :
    d.extend (upperIf upper (Text.ofNat radix n)) =
      List.replicate (max (d.precision.getD 1) 1 - (significantDigits radix upper n).length) '0' ++
        significantDigits radix upper n := by
  -- The first digit is there whether the precision asks for it or not.
  have least : max (d.precision.getD 1) 1 = max (d.precision.getD 0) 1 := by
    cases d.precision <;> simp
  rw [extend, least]
  rcases Nat.eq_zero_or_pos n with rfl | positive
  · have zero : upperIf upper (Text.ofNat radix 0) = ['0'] := by
      rw [Text.ofNat, Nat.toDigits_zero]
      cases upper <;> rfl
    rw [zero, significantDigits_eq_nil_iff.mpr rfl, List.append_nil, List.length_nil,
      List.length_singleton, ← List.replicate_succ']
    congr 1
    omega
  · rw [upperIf_ofNat two sixteen upper positive]
    have some : 0 < (significantDigits radix upper n).length :=
      List.length_pos_iff.mpr (significantDigits_eq_nil_iff.not.mpr positive.ne')
    congr 2
    omega

theorem wrap_unsigned64 (n : Int) : IntRange.unsigned64.wrap n = n % 2 ^ 64 := by
  have size : (0xffffffffffffffff - 0 + 1 : Int) = 2 ^ 64 := by norm_num
  change (n - 0) % (0xffffffffffffffff - 0 + 1) + 0 = _
  rw [size, Int.sub_zero, Int.add_zero]

theorem pad_eq_layout (whole : d.isWhole) (sign mark : Text) (zeros : Nat) (digits : Text) :
    d.pad { sign, mark, body := List.replicate zeros '0' ++ digits } =
      d.layout (sign ++ mark) zeros digits := by
  simp only [pad, layout, whole, List.length_append, List.length_replicate, Nat.add_assoc,
    List.append_assoc, true_and, Bool.not_true, Bool.false_eq_true, or_false]
  split_ifs
  · rfl
  · congr 2
    rw [← List.append_assoc, List.replicate_append_replicate, Nat.add_comm]
  · rfl

/-- A zero at the end of what leads a number may be counted among its zeros. -/
theorem layout_zero (lead : Text) (zeros : Nat) (digits : Text) :
    d.layout (lead ++ ['0']) zeros digits = d.layout lead (zeros + 1) digits := by
  have length : (lead ++ ['0']).length + zeros + digits.length =
      lead.length + (zeros + 1) + digits.length := by
    rw [List.length_append, List.length_singleton]
    omega
  simp only [layout, length, List.append_assoc, List.cons_append, List.nil_append,
    Nat.add_right_comm zeros 1, List.replicate_succ]

theorem render_unsigned (whole : d.isWhole) {v : Value} {mark : Text}
    (unsigned : d.conversion ≠ .decimal)
    (parts : d.parts v = d.unsignedParts d.radix d.upper mark v.toInt) :
    d.render v = d.layout (if d.alternate ∧ d.magnitude v.toInt ≠ 0 then mark else [])
      (max (d.precision.getD 1) 1 - (d.digits v.toInt).length) (d.digits v.toInt) := by
  rw [render, parts, unsignedParts, wrap_unsigned64, extend_eq two_le_radix radix_le,
    pad_eq_layout whole, List.nil_append, digits, magnitude, if_neg unsigned]

/-- The text of a whole number, by its sign, mark, zeros and digits. -/
theorem render_eq_layout (whole : d.isWhole) (v : Value) :
    d.render v = d.layout (d.numberSign v.toInt ++ d.numberMark v.toInt)
      (d.leadingZeros v.toInt) (d.digits v.toInt) := by
  have zeros (h : d.conversion ≠ .octal) : d.leadingZeros v.toInt =
      max (d.precision.getD 1) 1 - (d.digits v.toInt).length := by
    rw [leadingZeros, if_neg fun all => h all.1, Nat.add_zero]
  cases kind : d.conversion with
  | decimal =>
      have lead : d.numberSign v.toInt ++ d.numberMark v.toInt = d.sign (v.toInt < 0) ++ [] := by
        simp [numberSign, numberMark, sign, kind]
      have digits : d.digits v.toInt = significantDigits 10 false v.toInt.natAbs := by
        rw [Directive.digits, radix, upper, magnitude, kind, if_pos rfl]
      have body := extend_eq (d := d) (n := v.toInt.natAbs) (by omega : 2 ≤ 10) (by omega) false
      rw [upperIf, if_neg Bool.false_ne_true] at body
      rw [lead, zeros (by simp [kind]), digits, ← pad_eq_layout whole, ← body, render, parts, kind]
  | unsigned =>
      have lead : d.numberSign v.toInt ++ d.numberMark v.toInt = [] := by
        simp [numberSign, numberMark, kind]
      have parts : d.parts v = d.unsignedParts d.radix d.upper [] v.toInt := by
        rw [Directive.parts, radix, upper, kind]
      rw [render_unsigned whole (by simp [kind]) parts, ite_self, lead, zeros (by simp [kind])]
  | hexadecimal capital =>
      have lead : d.numberSign v.toInt ++ d.numberMark v.toInt =
          if d.alternate ∧ d.magnitude v.toInt ≠ 0 then upperIf capital ['0', 'x'] else [] := by
        cases capital <;> simp [numberSign, numberMark, upperIf, kind]
      have parts : d.parts v =
          d.unsignedParts d.radix d.upper (upperIf capital ['0', 'x']) v.toInt := by
        rw [Directive.parts, radix, upper, kind]
      rw [render_unsigned whole (by simp [kind]) parts, lead, zeros (by simp [kind])]
  | octal =>
      have lead : d.numberSign v.toInt ++ d.numberMark v.toInt = [] := by
        simp [numberSign, numberMark, kind]
      have parts : d.parts v = d.unsignedParts d.radix d.upper ['0'] v.toInt := by
        rw [Directive.parts, radix, upper, kind]
      rw [render_unsigned whole (by simp [kind]) parts, lead, leadingZeros]
      -- The mark of octal digits is a zero, and it counts among the zeros.
      by_cases marked : d.alternate ∧ d.magnitude v.toInt ≠ 0
      · rw [if_pos marked, if_pos ⟨kind, marked⟩, ← layout_zero, List.nil_append]
      · rw [if_neg marked, if_neg fun all => marked all.2, Nat.add_zero]
  | character | text | fixed | scientific | general =>
      rw [isWhole, kind] at whole
      cases whole

end Directive

end MagicRules
