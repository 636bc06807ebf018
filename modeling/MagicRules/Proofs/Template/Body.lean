import MagicRules.Proofs.Template.Whole
import MagicRules.Proofs.Text

/-!
# Bodies of rendered numbers

Zeros that pad a number stand in front of its body, and that is between its sign and its digits only
if no sign is in the body. The body of a number begins with a digit, or with a letter where it is
not finite (`unsigned_body`). Of the floating-point forms the general one takes zeros and the point
away from the end, and the digits in front of the point remain.
-/

namespace MagicRules

/-- A text that is not empty and does not begin with a sign, of which a blank is one. -/
def Unsigned (t : Text) : Prop := ∃ c ∈ t.head?, c ≠ '-' ∧ c ≠ '+' ∧ c ≠ ' '

theorem Unsigned.append {t : Text} (h : Unsigned t) (u : Text) : Unsigned (t ++ u) := by
  obtain ⟨c, first, other⟩ := h
  exact ⟨c, List.mem_head?_append_of_mem_head? first, other⟩

theorem Unsigned.zeros {t : Text} (h : Unsigned t) (zeros : Nat) :
    Unsigned (List.replicate zeros '0' ++ t) := by
  cases zeros with
  | zero => exact h
  | succ zeros => exact ⟨'0', rfl, by decide⟩

theorem unsigned_of_digits {radix : Nat} {t : Text} (nonempty : t ≠ [])
    (digits : ∀ c ∈ t, (digit? radix c).isSome) : Unsigned t := by
  obtain ⟨c, cs, rfl⟩ := List.exists_cons_of_ne_nil nonempty
  obtain ⟨d, digit⟩ := Option.isSome_iff_exists.mp (digits c List.mem_cons_self)
  have hex := (digit?_eq_some_iff.mp digit).1
  refine ⟨c, rfl, ?_, ?_, ?_⟩ <;> rintro rfl <;> cases hex

/-- A floating-point magnitude as it is written: digits, and what follows them. A point stands right
behind the digits or nowhere. -/
inductive DecimalForm : Text → Prop
  | mk {whole tail : Text} (nonempty : whole ≠ []) (digits : ∀ c ∈ whole, isDecimalDigit c)
      (point : '.' ∈ tail → tail.head? = some '.') : DecimalForm (whole ++ tail)

namespace DecimalForm

theorem of_digits {t : Text} (nonempty : t ≠ []) (digits : ∀ c ∈ t, isDecimalDigit c) :
    DecimalForm t := by
  rw [← List.append_nil t]
  exact mk nonempty digits nofun

theorem point {whole : Text} (nonempty : whole ≠ []) (digits : ∀ c ∈ whole, isDecimalDigit c)
    (tail : Text) : DecimalForm (whole ++ '.' :: tail) :=
  mk nonempty digits fun _ => rfl

theorem unsigned {t : Text} (h : DecimalForm t) : Unsigned t := by
  obtain ⟨nonempty, digits, -⟩ := h
  exact (unsigned_of_digits nonempty digits).append _

end DecimalForm

theorem forall_digit_ofNat (n : Nat) : ∀ c ∈ Text.ofNat 10 n, isDecimalDigit c :=
  fun _ => isSome_of_mem_ofNat (by omega) (by omega)

theorem forall_digit_replicate (n : Nat) : ∀ c ∈ List.replicate n '0', isDecimalDigit c := by
  intro c member
  rw [List.eq_of_mem_replicate member]
  rfl

theorem point_notMem_digits {t : Text} (digits : ∀ c ∈ t, isDecimalDigit c) : '.' ∉ t := by
  intro member
  cases digits '.' member

namespace Binary64

theorem decimalForm_fixed (places : Nat) (x : Binary64) : DecimalForm (x.fixed places) := by
  unfold fixed
  extract_lets n digits padded whole
  have all : ∀ c ∈ padded, isDecimalDigit c :=
    List.forall_mem_append.mpr ⟨forall_digit_replicate _, forall_digit_ofNat n⟩
  have length : places + 1 ≤ padded.length := by
    rw [List.length_append, List.length_replicate]
    omega
  split_ifs
  · exact .of_digits (List.ne_nil_of_length_pos (by omega)) all
  · refine .point (List.ne_nil_of_length_pos ?_)
      (fun c member => all c (List.mem_of_mem_take member)) _
    rw [List.length_take]
    omega

/-- Significant digits are there, and they are digits. -/
theorem significant_digits {count : Nat} (positive : 0 < count) (x : Binary64) :
    (x.significant count).1 ≠ [] ∧ ∀ c ∈ (x.significant count).1, isDecimalDigit c := by
  rw [significant]
  split_ifs
  · exact ⟨by simpa using positive.ne', forall_digit_replicate count⟩
  · dsimp only
    split_ifs <;> exact ⟨ofNat_ne_nil 10 _, forall_digit_ofNat _⟩

end Binary64

namespace Directive

theorem decimalForm_scientificText (upper : Bool) (places : Nat) (x : Binary64) :
    DecimalForm (scientificText upper places x) := by
  obtain ⟨nonempty, digits⟩ := x.significant_digits (Nat.succ_pos places)
  unfold scientificText
  generalize x.significant (places + 1) = scaled at nonempty digits
  obtain ⟨whole, e⟩ := scaled
  dsimp only at nonempty digits ⊢
  rw [List.append_assoc]
  by_cases none : places = 0
  · rw [if_pos none]
    refine .mk nonempty digits fun point => absurd point ?_
    rw [List.mem_append, List.mem_cons, List.mem_cons]
    rintro ((letter | sign | zeros) | power)
    · split_ifs at letter <;> cases letter
    · split_ifs at sign <;> cases sign
    · exact point_notMem_digits (forall_digit_replicate _) zeros
    · exact point_notMem_digits (forall_digit_ofNat _) power
  · rw [if_neg none, List.append_assoc]
    exact .point (by simpa using nonempty) (fun c member => digits c (List.mem_of_mem_take member)) _

/-- Zeros are taken away up to the point, and the digits in front of it remain. -/
theorem head?_stripZeros {c : Char} {cs : Text} (digits : ∀ a ∈ c :: cs, isDecimalDigit a)
    (tail : Text) : (stripZeros (c :: cs ++ '.' :: tail)).head? = some c := by
  have pointed : (c :: cs ++ '.' :: tail).contains '.' := by simp
  unfold stripZeros
  rw [pointed, Bool.not_true, if_neg Bool.false_ne_true]
  extract_lets isExponent mantissa stripped
  have front : mantissa = c :: cs ++ '.' :: tail.takeWhile (!isExponent ·) := by
    have run : ∀ a ∈ c :: cs, !isExponent a := by
      intro a member
      rw [Bool.not_eq_true', Bool.eq_false_iff]
      intro exponent
      have letter : a = 'e' ∨ a = 'E' := by simpa [isExponent] using exponent
      rcases letter with rfl | rfl <;> cases digits _ member
    unfold mantissa
    rw [List.takeWhile_append_of_pos run, List.takeWhile_cons_of_pos (by decide)]
  -- The point stops the zeros, and the digits in front of it stop the point.
  have zeros : (Text.dropWhileEnd (· = '0') mantissa).head? = some c := by
    rw [Text.head?_dropWhileEnd ⟨'.', by rw [front]; simp, rfl⟩, front]
    rfl
  have first : stripped.head? = some c := by
    have other : c ≠ '.' := by
      rintro rfl
      cases digits '.' List.mem_cons_self
    unfold stripped
    rw [Text.head?_dropWhileEnd ⟨c, List.mem_of_head? zeros, by simpa using other⟩, zeros]
  exact List.mem_head?_append_of_mem_head? first

theorem unsigned_stripZeros {t : Text} (h : DecimalForm t) : Unsigned (stripZeros t) := by
  by_cases pointed : '.' ∈ t
  · obtain @⟨whole, tail, nonempty, digits, point⟩ := h
    obtain ⟨c, cs, rfl⟩ := List.exists_cons_of_ne_nil nonempty
    have behind := (List.mem_append.mp pointed).resolve_left (point_notMem_digits digits)
    obtain ⟨places, rfl⟩ := List.head?_eq_some_iff.mp (point behind)
    have first := head?_stripZeros digits places
    have digit : ∀ a ∈ [c], isDecimalDigit a :=
      List.forall_mem_singleton.mpr (digits c List.mem_cons_self)
    obtain ⟨rest, stripped⟩ := List.head?_eq_some_iff.mp first
    rw [stripped]
    exact (unsigned_of_digits (List.cons_ne_nil c []) digit).append rest
  · rw [stripZeros, if_pos (by simpa using pointed)]
    exact h.unsigned

theorem unsigned_generalText (d : Directive) (upper : Bool) (x : Binary64) :
    Unsigned (d.generalText upper x) := by
  unfold generalText
  extract_lets digits e t
  have form : DecimalForm t := by
    unfold t
    split_ifs
    · exact decimalForm_scientificText upper _ x
    · exact x.decimalForm_fixed _
  split_ifs
  · exact form.unsigned
  · exact unsigned_stripZeros form

theorem unsigned_floatParts (d : Directive) (upper : Bool) {finite : Binary64 → Text}
    (h : ∀ x, Unsigned (finite x)) (x : Binary64) : Unsigned (d.floatParts upper finite x).body := by
  change Unsigned (if x.isNaN then upperIf upper "nan".toList
    else if !x.isFinite then upperIf upper "inf".toList else finite x.abs)
  split_ifs
  · cases upper with
    | false => exact ⟨'n', rfl, by decide⟩
    | true => exact ⟨'N', rfl, by decide⟩
  · cases upper with
    | false => exact ⟨'i', rfl, by decide⟩
    | true => exact ⟨'I', rfl, by decide⟩
  · exact h x.abs

theorem unsigned_extend (d : Directive) (upper : Bool) {radix : Nat} (two : 2 ≤ radix)
    (sixteen : radix ≤ 16) (n : Nat) : Unsigned (d.extend (upperIf upper (Text.ofNat radix n))) := by
  refine Unsigned.zeros ?_ _
  rcases Nat.eq_zero_or_pos n with rfl | positive
  · rw [Text.ofNat, Nat.toDigits_zero]
    cases upper <;> exact ⟨'0', rfl, by decide⟩
  · rw [upperIf_ofNat two sixteen upper positive]
    exact unsigned_of_digits (significantDigits_eq_nil_iff.not.mpr positive.ne') fun _ =>
      isSome_of_mem_significantDigits two sixteen upper n

/-- The body of a number begins with a digit or a letter. -/
theorem unsigned_body (d : Directive) (v : Value) (numeric : (d.parts v).numeric) :
    Unsigned (d.parts v).body := by
  unfold parts at numeric ⊢
  generalize d.conversion = conversion at numeric ⊢
  cases conversion with
  | decimal => exact d.unsigned_extend false (by omega : 2 ≤ 10) (by omega) _
  | unsigned => exact d.unsigned_extend false (by omega : 2 ≤ 10) (by omega) _
  | hexadecimal upper => exact d.unsigned_extend upper (by omega : 2 ≤ 16) (by omega) _
  | octal => exact d.unsigned_extend false (by omega : 2 ≤ 8) (by omega) _
  | character | text => cases numeric
  | fixed upper => exact d.unsigned_floatParts upper (fun x => (x.decimalForm_fixed _).unsigned) _
  | scientific upper =>
      exact d.unsigned_floatParts upper (fun x => (decimalForm_scientificText upper _ x).unsigned) _
  | general upper => exact d.unsigned_floatParts upper (d.unsigned_generalText upper) _

end Directive

end MagicRules
