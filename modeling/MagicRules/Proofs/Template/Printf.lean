import MagicRules.Proofs.Template.Whole

/-!
# Whole numbers as printf writes them

Templates are in the style of printf. What printf writes for a 64-bit argument has the sign, the
mark, the digits and the padding that a rendered number has, and as many zeros in front of the
digits as the precision and the alternate octal form ask for. A rendered number differs from it in
two cases, and in those always: zero keeps a digit that a precision of zero takes away, and octal
digits in their alternate form get a zero on top of those that the precision has put in front.
-/

namespace MagicRules

namespace Directive

/-- The least number of digits that printf writes: the precision, and one without it. In the
alternate octal form it grows where it must, so that the first digit is a zero. -/
def leastDigits (d : Directive) (n : Int) : Nat :=
  let precision := d.precision.getD 1
  if d.conversion = .octal ∧ d.alternate then max precision ((d.digits n).length + 1)
  else precision

/-- What printf writes for a 64-bit argument. -/
def printf (d : Directive) (n : Int) : Text :=
  d.layout (d.numberSign n ++ d.numberMark n) (d.leastDigits n - (d.digits n).length) (d.digits n)

/-- Zero under a precision of zero has no digits in printf. The alternate octal form has one. -/
def KeepsZero (d : Directive) (n : Int) : Prop :=
  d.precision = some 0 ∧ d.magnitude n = 0 ∧ ¬(d.conversion = .octal ∧ d.alternate)

/-- The precision has put a zero in front of octal digits, and the alternate form another one. -/
def DoublesZero (d : Directive) (n : Int) : Prop :=
  (d.conversion = .octal ∧ d.alternate) ∧ d.magnitude n ≠ 0 ∧
    (d.digits n).length < d.precision.getD 1

instance (d : Directive) (n : Int) : Decidable (d.KeepsZero n) :=
  inferInstanceAs (Decidable (_ ∧ _))

instance (d : Directive) (n : Int) : Decidable (d.DoublesZero n) :=
  inferInstanceAs (Decidable (_ ∧ _))

variable {d : Directive} {n : Int}

theorem length_digits_eq_zero_iff : (d.digits n).length = 0 ↔ d.magnitude n = 0 :=
  List.length_eq_zero_iff.trans significantDigits_eq_nil_iff

/-- The zeros in front of the digits are those of printf, but for the two cases. -/
theorem leadingZeros_eq_iff : d.leadingZeros n = d.leastDigits n - (d.digits n).length ↔
    ¬(d.KeepsZero n ∨ d.DoublesZero n) := by
  have empty : d.precision = some 0 ↔ d.precision.getD 1 = 0 := by
    cases d.precision with
    | none => simp
    | some precision => simp
  have length := d.length_digits_eq_zero_iff (n := n)
  rw [leadingZeros, leastDigits, KeepsZero, DoublesZero, empty]
  by_cases octal : d.conversion = .octal ∧ d.alternate
  · rw [if_pos octal]
    by_cases zero : d.magnitude n = 0
    · rw [if_neg fun all => all.2.2 zero, length.mpr zero]
      simp [octal, zero]
    · rw [if_pos ⟨octal.1, octal.2, zero⟩]
      simp only [octal, zero, ne_eq, not_true, not_false_iff, and_false, true_and, false_or]
      omega
  · rw [if_neg octal, if_neg fun all => octal ⟨all.1, all.2.1⟩]
    simp only [octal, not_false_iff, false_and, or_false, and_true]
    omega

/-- Under a precision the zeros in front of the digits show, whatever pads them. -/
theorem layout_inj {lead digits : Text} {zeros zeros' : Nat} (given : d.precision ≠ none)
    (h : d.layout lead zeros digits = d.layout lead zeros' digits) : zeros = zeros' := by
  have count (zeros : Nat) : (d.layout lead zeros digits).count '0' =
      lead.count '0' + zeros + digits.count '0' := by
    have blanks (fill : Nat) : (List.replicate fill ' ').count '0' = 0 := by
      rw [List.count_replicate]
      rfl
    rw [layout, if_neg fun both : _ ∧ _ => given both.2]
    split_ifs
    · simp only [List.count_append, List.count_replicate_self, blanks, Nat.add_zero]
    · simp only [List.count_append, List.count_replicate_self, blanks, Nat.zero_add]
  have counts := congrArg (List.count '0') h
  rw [count, count] at counts
  omega

/-- What printf writes under another precision. Padding asks only whether there is one. -/
theorem printf_precision (given : d.precision ≠ none) (precision : Nat) :
    { d with precision := some precision }.printf n =
      d.layout (d.numberSign n ++ d.numberMark n)
        ((if d.conversion = .octal ∧ d.alternate then max precision ((d.digits n).length + 1)
          else precision) - (d.digits n).length) (d.digits n) := by
  have same (lead : Text) (zeros : Nat) (digits : Text) :
      { d with precision := some precision }.layout lead zeros digits =
        d.layout lead zeros digits := by
    simp only [layout, given, reduceCtorEq]
  exact same ..

theorem KeepsZero.precision_ne_none (h : d.KeepsZero n) : d.precision ≠ none := by
  rw [h.1]
  exact Option.some_ne_none 0

theorem DoublesZero.precision_ne_none (h : d.DoublesZero n) : d.precision ≠ none := by
  obtain ⟨-, nonzero, short⟩ := h
  intro none
  rw [none, Option.getD_none, Nat.lt_one_iff] at short
  exact nonzero (length_digits_eq_zero_iff.mp short)

/-- A kept zero is what printf writes under a precision of one. -/
theorem KeepsZero.layout_eq (h : d.KeepsZero n) :
    d.layout (d.numberSign n ++ d.numberMark n) (d.leadingZeros n) (d.digits n) =
      { d with precision := some 1 }.printf n := by
  rw [printf_precision h.precision_ne_none]
  obtain ⟨empty, zero, octal⟩ := h
  have length : (d.digits n).length = 0 := length_digits_eq_zero_iff.mpr zero
  rw [leadingZeros, empty, length, if_neg octal, if_neg fun all => all.2.2 zero]
  rfl

/-- A doubled zero is one that printf writes under a precision that is greater by one. -/
theorem DoublesZero.layout_eq (h : d.DoublesZero n) :
    d.layout (d.numberSign n ++ d.numberMark n) (d.leadingZeros n) (d.digits n) =
      { d with precision := d.precision.map (· + 1) }.printf n := by
  obtain ⟨precision, given⟩ := Option.ne_none_iff_exists'.mp h.precision_ne_none
  rw [given, Option.map_some, printf_precision h.precision_ne_none]
  obtain ⟨octal, nonzero, short⟩ := h
  have length := d.length_digits_eq_zero_iff (n := n)
  rw [given, Option.getD_some] at short
  rw [leadingZeros, given, if_pos octal, if_pos ⟨octal.1, octal.2, nonzero⟩]
  congr 1
  rw [Option.getD_some]
  omega

/-- Whole numbers are rendered as printf writes them, apart from two cases, in which they never
are. There zero is written as for a precision of one, and octal digits in their alternate form as
for a precision that is greater by one. -/
theorem render_eq_printf_iff (whole : d.isWhole) (v : Value) :
    (d.render v = d.printf v.toInt ↔ ¬(d.KeepsZero v.toInt ∨ d.DoublesZero v.toInt)) ∧
      (d.KeepsZero v.toInt → d.render v = { d with precision := some 1 }.printf v.toInt) ∧
      (d.DoublesZero v.toInt →
        d.render v = { d with precision := d.precision.map (· + 1) }.printf v.toInt) := by
  rw [render_eq_layout whole]
  refine ⟨⟨fun same => ?_, fun other => ?_⟩, KeepsZero.layout_eq, DoublesZero.layout_eq⟩
  · intro deviates
    have given : d.precision ≠ none :=
      deviates.elim KeepsZero.precision_ne_none DoublesZero.precision_ne_none
    exact leadingZeros_eq_iff.mp (layout_inj given same) deviates
  · rw [printf, leadingZeros_eq_iff.mpr other]

/-- A seven in three octal digits has the zero of the precision and that of the alternate form. -/
theorem render_eq_printf_iff_octal :
    let octal : Directive :=
      { left := false, zero := false, plus := false, space := false, alternate := true
        width := some 6, precision := some 3, conversion := .octal }
    octal.isWhole ∧ octal.render (.int 7) = { octal with precision := some 4 }.printf 7 ∧
      octal.render (.int 7) ≠ octal.printf 7 ∧ octal.render (.int 511) = octal.printf 511 := by
  intro octal
  have whole : octal.isWhole := rfl
  obtain ⟨seven, -, doubled⟩ := render_eq_printf_iff whole (.int 7)
  obtain ⟨full, -⟩ := render_eq_printf_iff whole (.int 511)
  have doubles : octal.DoublesZero 7 := by decide
  have filled : ¬(octal.KeepsZero 511 ∨ octal.DoublesZero 511) := by decide
  exact ⟨whole, doubled doubles, fun same => seven.mp same (.inr doubles), full.mpr filled⟩

/-- A zero under a precision of zero, and an eight in three octal digits. -/
theorem render_ne_printf :
    let decimal : Directive :=
      { left := false, zero := false, plus := false, space := false, alternate := false
        width := none, precision := some 0, conversion := .decimal }
    let octal : Directive :=
      { decimal with alternate := true, precision := some 3, conversion := .octal }
    (scan? ".0d".toList = some (decimal, []) ∧ decimal.render (.int 0) = "0".toList ∧
      decimal.printf 0 = "".toList) ∧
    (scan? "#.3o".toList = some (octal, []) ∧ octal.render (.int 8) = "0010".toList ∧
      octal.printf 8 = "010".toList) := by
  decide

end Directive

end MagicRules
