import MagicRules.Proofs.Template.Body
import MagicRules.Proofs.Text

/-!
# Padding, and numbers read back

A directive with a width writes what it writes without one, and pads it: with blanks on one side, or
with zeros between the sign and the mark in front and the body behind them. Whatever the padding,
a whole number is read back from its text: without blanks, sign, mark and leading zeros the digits
remain. So whole numbers that the program can hold are told apart by what a directive writes.
-/

namespace MagicRules

open MagicRules.Field (numberOf)

/-- A text made of what leads it and the rest, padded: with blanks on one side or, if the rest has
no sign of its own, with zeros in between. -/
inductive Padded (missing : Nat) (lead rest : Text) : Text → Prop
  | behind : Padded missing lead rest (lead ++ rest ++ List.replicate missing ' ')
  | before : Padded missing lead rest (List.replicate missing ' ' ++ (lead ++ rest))
  | zeros (unsigned : Unsigned rest) :
      Padded missing lead rest (lead ++ List.replicate missing '0' ++ rest)

theorem Padded.length_eq {missing : Nat} {lead rest t : Text} (h : Padded missing lead rest t) :
    t.length = (lead ++ rest).length + missing := by
  cases h <;> simp only [List.length_append, List.length_replicate] <;> omega

namespace Directive

def unpadded (d : Directive) : Directive := { d with width := none }

variable (d : Directive) (v : Value)

theorem render_unpadded :
    d.unpadded.render v = (d.parts v).sign ++ (d.parts v).mark ++ (d.parts v).body := by
  have parts : d.unpadded.parts v = d.parts v := rfl
  have missing (length : Nat) : d.unpadded.width.getD 0 - length = 0 := Nat.zero_sub length
  rw [render, parts, pad]
  simp only [missing, List.replicate_zero, List.append_nil, List.nil_append, ite_self]

theorem padded_render :
    Padded (d.width.getD 0 - (d.unpadded.render v).length)
      ((d.parts v).sign ++ (d.parts v).mark) (d.parts v).body (d.render v) := by
  rw [render_unpadded, render, pad, List.length_append, List.length_append]
  split_ifs with left zeros
  · exact .behind
  · exact .zeros (d.unsigned_body v zeros.2.1)
  · rw [List.append_assoc, List.append_assoc, ← List.append_assoc (d.parts v).sign]
    exact .before

theorem sign_mem : (d.parts v).sign ∈ [[], ['-'], ['+'], [' ']] := by
  have sign (negative : Bool) : d.sign negative ∈ [[], ['-'], ['+'], [' ']] := by
    rw [Directive.sign]
    split_ifs <;> simp
  unfold parts
  cases d.conversion with
  | decimal | fixed | scientific | general => exact sign _
  | unsigned | hexadecimal | octal | character | text => exact List.mem_cons_self

/-- The mark in front of digits is that of octal or of hexadecimal ones, if there is one. -/
theorem mark_mem : (d.parts v).mark ∈ [[], ['0'], ['0', 'x'], ['0', 'X']] := by
  have unsigned {mark : Text} (h : mark ∈ [[], ['0'], ['0', 'x'], ['0', 'X']]) (radix : Nat)
      (upper : Bool) : (d.unsignedParts radix upper mark v.toInt).mark ∈
        [[], ['0'], ['0', 'x'], ['0', 'X']] := by
    rw [unsignedParts]
    dsimp only
    split_ifs
    · exact h
    · exact List.mem_cons_self
  unfold parts
  cases d.conversion with
  | unsigned | octal => exact unsigned (by decide) _ _
  | hexadecimal upper => cases upper <;> exact unsigned (by decide) _ _
  | decimal | character | text | fixed | scientific | general => exact List.mem_cons_self

/-! ## Reading back -/

/-- Takes a sign away, and says whether it is a minus. -/
def cutSign : Text → Bool × Text
  | '-' :: t => (true, t)
  | '+' :: t => (false, t)
  | t => (false, t)

/-- Takes the mark of hexadecimal digits away. That of octal digits is a zero like others. -/
def cutMark (d : Directive) (t : Text) : Text :=
  match d.conversion, t with
  | .hexadecimal _, '0' :: 'x' :: digits => digits
  | .hexadecimal _, '0' :: 'X' :: digits => digits
  | _, _ => t

/-- Reads a whole number without regard to blanks, by its sign and by its digits behind the mark
and the leading zeros. -/
def readWhole? (d : Directive) (t : Text) : Option Int :=
  let (negative, unsigned) := cutSign (t.filter (· ≠ ' '))
  let digits := (d.cutMark unsigned).dropWhile (· = '0')
  if digits.all fun c => (digit? d.radix c).isSome then
    some (signed negative (numberOf d.radix digits))
  else none

/-- The number that a conversion writes, which is the one of the same 64 bits that is not negative
if it has no signs. -/
def writtenNumber (d : Directive) (n : Int) : Int :=
  if d.conversion = .decimal then n else n % 2 ^ 64

variable {d} {n : Int}

theorem isSome_of_mem_digits {c : Char} (h : c ∈ d.digits n) : (digit? d.radix c).isSome :=
  isSome_of_mem_significantDigits two_le_radix radix_le d.upper _ h

theorem isSome_of_mem_zeros_append {zeros : Nat} {c : Char}
    (h : c ∈ List.replicate zeros '0' ++ d.digits n) : (digit? 16 c).isSome := by
  rcases List.mem_append.mp h with zero | digit
  · rw [List.eq_of_mem_replicate zero]
    rfl
  · obtain ⟨value, digit⟩ := Option.isSome_iff_exists.mp (isSome_of_mem_digits digit)
    rw [(digit?_eq_some_iff.mp digit).1]
    rfl

/-- Without blanks a padded number is its sign, its mark, zeros and digits. -/
theorem filter_layout (lead : Text) (zeros : Nat) :
    ∃ zeros', (d.layout lead zeros (d.digits n)).filter (· ≠ ' ') =
      lead.filter (· ≠ ' ') ++ (List.replicate zeros' '0' ++ d.digits n) := by
  have blanks (fill : Nat) : (List.replicate fill ' ').filter (· ≠ ' ') = [] := by simp
  have nulls (fill : Nat) : (List.replicate fill '0').filter (· ≠ ' ') = List.replicate fill '0' := by
    simp
  have digits : (d.digits n).filter (· ≠ ' ') = d.digits n := by
    rw [List.filter_eq_self]
    intro c member
    have digit := isSome_of_mem_digits member
    simp only [ne_eq, decide_not, Bool.not_eq_true', decide_eq_false_iff_not]
    rintro rfl
    obtain ⟨value, digit⟩ := Option.isSome_iff_exists.mp digit
    cases (digit?_eq_some_iff.mp digit).1
  rw [layout]
  split_ifs
  all_goals
    simp only [List.filter_append, blanks, nulls, digits, List.append_nil, List.nil_append,
      List.append_assoc]
    exact ⟨_, rfl⟩

theorem cutSign_numberSign {t : Text} (plain : ¬ Literal.IsSigned t) :
    cutSign ((d.numberSign n).filter (· ≠ ' ') ++ t) =
      (decide (d.conversion = .decimal ∧ n < 0), t) := by
  have none : cutSign t = (false, t) := by
    rw [cutSign]
    · rintro rest rfl
      exact plain (.inl rfl)
    · rintro rest rfl
      exact plain (.inr rfl)
  rw [numberSign]
  split_ifs with other minus
  · simpa [other] using none
  · have decimal := not_not.mp other
    simp [decimal, minus, cutSign]
  · simp [minus, cutSign]
  · simpa [minus] using none
  · simpa [minus] using none

theorem numberMark_cases : d.numberMark n = [] ∨
    (∃ upper, d.conversion = .hexadecimal upper) ∧
      (d.numberMark n = ['0', 'x'] ∨ d.numberMark n = ['0', 'X']) := by
  rw [numberMark]
  split
  · rename_i upper hexadecimal
    split_ifs
    · exact .inr ⟨⟨upper, hexadecimal⟩, .inr rfl⟩
    · exact .inr ⟨⟨upper, hexadecimal⟩, .inl rfl⟩
    · exact .inl rfl
  · exact .inl rfl

theorem filter_numberMark : (d.numberMark n).filter (· ≠ ' ') = d.numberMark n := by
  rcases d.numberMark_cases (n := n) with none | ⟨-, lower | capital⟩
  · rw [none, List.filter_nil]
  · rw [lower]
    rfl
  · rw [capital]
    rfl

theorem not_isSigned_numberMark_append {t : Text} (digits : ∀ c ∈ t, (digit? 16 c).isSome) :
    ¬ Literal.IsSigned (d.numberMark n ++ t) := by
  rcases d.numberMark_cases (n := n) with none | ⟨-, lower | capital⟩
  · rw [none]
    exact Literal.not_isSigned_of_digits digits
  · rw [lower]
    exact Literal.not_isSigned_cons.mpr (by decide)
  · rw [capital]
    exact Literal.not_isSigned_cons.mpr (by decide)

theorem cutMark_numberMark {t : Text} (digits : ∀ c ∈ t, (digit? 16 c).isSome) :
    d.cutMark (d.numberMark n ++ t) = t := by
  rcases d.numberMark_cases (n := n) with none | ⟨⟨upper, hexadecimal⟩, lower | capital⟩
  · rw [none, List.nil_append, cutMark]
    · rintro upper rest - rfl
      cases digits 'x' (List.mem_cons_of_mem _ List.mem_cons_self)
    · rintro upper rest - rfl
      cases digits 'X' (List.mem_cons_of_mem _ List.mem_cons_self)
  · unfold cutMark
    rw [lower, hexadecimal]
    rfl
  · unfold cutMark
    rw [capital, hexadecimal]
    rfl

theorem dropWhile_zeros (zeros : Nat) :
    (List.replicate zeros '0' ++ d.digits n).dropWhile (· = '0') = d.digits n := by
  refine (span_append (fun c member => ?_) fun c first => ?_).2
  · rw [List.eq_of_mem_replicate member]
    rfl
  · rw [decide_eq_false_iff_not]
    rintro rfl
    exact head?_significantDigits two_le_radix radix_le d.upper _ first

theorem signed_magnitude :
    signed (decide (d.conversion = .decimal ∧ n < 0)) (d.magnitude n) = d.writtenNumber n := by
  rw [magnitude, writtenNumber]
  split_ifs with decimal
  · simp only [decimal, true_and]
    exact signed_decide_natAbs n
  · simp only [decimal, false_and, decide_false]
    exact Int.toNat_of_nonneg (Int.emod_nonneg n (by decide))

/-- A whole number is read back from what is written of it. -/
theorem readWhole?_render (whole : d.isWhole) :
    d.readWhole? (d.render v) = some (d.writtenNumber v.toInt) := by
  rw [render_eq_layout whole]
  generalize v.toInt = n
  obtain ⟨zeros, plain⟩ := d.filter_layout (n := n) (d.numberSign n ++ d.numberMark n)
    (d.leadingZeros n)
  have behind : ∀ c ∈ List.replicate zeros '0' ++ d.digits n, (digit? 16 c).isSome :=
    fun c => isSome_of_mem_zeros_append
  have read : (d.digits n).all fun c => (digit? d.radix c).isSome :=
    List.all_eq_true.mpr fun c => isSome_of_mem_digits
  rw [List.filter_append, filter_numberMark, List.append_assoc] at plain
  simp only [readWhole?, plain, cutSign_numberSign (not_isSigned_numberMark_append behind),
    cutMark_numberMark behind, dropWhile_zeros, read, if_true]
  rw [digits, numberOf_significantDigits two_le_radix radix_le, signed_magnitude]

/-- Numbers of 64 bits are told apart by what is written of them. -/
theorem writtenNumber_inj (d : Directive) {n m : Int} (hn : IntRange.signed64.Contains n)
    (hm : IntRange.signed64.Contains m) (h : d.writtenNumber n = d.writtenNumber m) : n = m := by
  rw [writtenNumber, writtenNumber] at h
  split_ifs at h
  · exact h
  · obtain ⟨least, most⟩ := hn
    obtain ⟨least', most'⟩ := hm
    simp only [IntRange.signed64] at least most least' most'
    omega

/-- What a directive writes is what it writes without its width, padded up to the width if that is
more: with blanks on one side, or with zeros behind the sign and the mark. A whole number is read
back from what is written of it, so no two numbers of 64 bits are written alike. -/
theorem render_padded_and_read_back (d : Directive) (v : Value) :
    (d.unpadded.render v = (d.parts v).sign ++ (d.parts v).mark ++ (d.parts v).body ∧
      (d.parts v).sign ∈ [[], ['-'], ['+'], [' ']] ∧
      (d.parts v).mark ∈ [[], ['0'], ['0', 'x'], ['0', 'X']]) ∧
    (d.render v).length = max (d.width.getD 0) (d.unpadded.render v).length ∧
    Padded (d.width.getD 0 - (d.unpadded.render v).length)
      ((d.parts v).sign ++ (d.parts v).mark) (d.parts v).body (d.render v) ∧
    (d.isWhole → d.readWhole? (d.render v) = some (d.writtenNumber v.toInt) ∧
      ∀ n m, IntRange.signed64.Contains n → IntRange.signed64.Contains m →
        d.render (.int n) = d.render (.int m) → n = m) := by
  refine ⟨⟨d.render_unpadded v, d.sign_mem v, d.mark_mem v⟩, ?_, d.padded_render v, ?_⟩
  · rw [(d.padded_render v).length_eq, ← render_unpadded]
    omega
  · intro whole
    refine ⟨readWhole?_render v whole, fun n m hn hm same => d.writtenNumber_inj hn hm ?_⟩
    have read := congrArg d.readWhole? same
    rw [readWhole?_render _ whole, readWhole?_render _ whole] at read
    exact Option.some.inj read

/-- All the bits of minus one, two zeros behind the mark. -/
theorem render_padded_and_read_back_ones :
    let d : Directive :=
      { left := false, zero := true, plus := false, space := false, alternate := true
        width := some 20, precision := none, conversion := .hexadecimal false }
    let ones := "0x00ffffffffffffffff".toList
    d.isWhole ∧ d.render (.int (-1)) = ones ∧ d.readWhole? ones = some 0xffffffffffffffff ∧
      IntRange.signed64.Contains (-1) ∧ IntRange.signed64.Contains 1 ∧
      d.render (.int (-1)) ≠ d.render (.int 1) := by
  intro d ones
  have least : IntRange.signed64.Contains (-1) := by decide
  have one : IntRange.signed64.Contains 1 := by decide
  have text : d.render (.int (-1)) = ones := by decide
  obtain ⟨-, -, -, whole⟩ := render_padded_and_read_back d (.int (-1))
  obtain ⟨read, apart⟩ := whole rfl
  rw [text] at read
  refine ⟨rfl, text, read, least, one, fun same => ?_⟩
  cases apart (-1) 1 least one same

end Directive

end MagicRules
