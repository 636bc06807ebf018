import MagicRules.Text.Digit

/-!
# Message templates

The message of a rule is a template: plain characters, `%%` for a percent sign, and
directives. A directive is `%`, flags, a width, a point with a precision, length letters and
the letter of a conversion, of which only the last must be there. What stands after the first
`%` that begins no directive is plain to the end, that `%` included.

A rule has one value, and every directive of its message prints that value.
-/

namespace MagicRules

/-- What a directive does with the value; `upper` asks for upper-case letters. -/
inductive Conversion where
  | decimal
  | unsigned
  | hexadecimal (upper : Bool)
  | octal
  | character
  | text
  | fixed (upper : Bool)
  | scientific (upper : Bool)
  | general (upper : Bool)
  deriving DecidableEq, Repr

namespace Conversion

def ofLetter? : Char → Option Conversion
  | 'd' | 'i' => some decimal
  | 'u' => some unsigned
  | 'x' => some (hexadecimal false)
  | 'X' => some (hexadecimal true)
  | 'o' => some octal
  | 'c' => some character
  | 's' => some text
  | 'f' => some (fixed false)
  | 'F' => some (fixed true)
  | 'e' => some (scientific false)
  | 'E' => some (scientific true)
  | 'g' => some (general false)
  | 'G' => some (general true)
  | _ => none

end Conversion

structure Directive where
  left : Bool
  zero : Bool
  plus : Bool
  space : Bool
  alternate : Bool
  width : Option Nat
  precision : Option Nat
  conversion : Conversion
  deriving DecidableEq, Repr

namespace Directive

/-- Widths and precisions beyond this make no directive. -/
def greatestWidth : Nat := 4096

def isFlag (c : Char) : Bool := "-0+ #".toList.contains c

/-- Length letters say nothing: every value has its full width. -/
def isLength (c : Char) : Bool := "hlqLjzt".toList.contains c

def count? (digits : Text) : Option Nat :=
  if digits.isEmpty then none
  else some (digits.foldl (fun value c => value * 10 + (digit? 10 c).getD 0) 0)

/-- The optional point and precision. A point alone asks for precision zero. -/
def scanPrecision : Text → Option Nat × Text
  | '.' :: t => (some ((count? (t.takeWhile isDecimalDigit)).getD 0), t.dropWhile isDecimalDigit)
  | t => (none, t)

def Oversized (n : Option Nat) : Prop := greatestWidth < n.getD 0

instance (n : Option Nat) : Decidable (Oversized n) := inferInstanceAs (Decidable (_ < _))

/-- Reads a directive from what follows its `%`, and returns the rest of the text. -/
def scan? (t : Text) : Option (Directive × Text) :=
  let flags := t.takeWhile isFlag
  let t := t.dropWhile isFlag
  let width := count? (t.takeWhile isDecimalDigit)
  let (precision, t) := scanPrecision (t.dropWhile isDecimalDigit)
  match t.dropWhile isLength with
  | [] => none
  | letter :: rest =>
    if Oversized width ∨ Oversized precision then none
    else (Conversion.ofLetter? letter).map fun conversion =>
      ({ left := flags.contains '-', zero := flags.contains '0', plus := flags.contains '+',
         space := flags.contains ' ', alternate := flags.contains '#',
         width, precision, conversion }, rest)

theorem length_dropWhile_le (p : Char → Bool) (t : Text) : (t.dropWhile p).length ≤ t.length :=
  (List.dropWhile_suffix p).length_le

theorem length_scanPrecision_le (t : Text) : (scanPrecision t).2.length ≤ t.length := by
  unfold scanPrecision
  split
  · exact Nat.le_succ_of_le (length_dropWhile_le ..)
  · exact Nat.le_refl _

theorem length_lt_of_scan? {t : Text} {d : Directive} {rest : Text}
    (h : scan? t = some (d, rest)) : rest.length < t.length := by
  unfold scan? at h
  dsimp only at h
  split at h
  · simp at h
  · rename_i letter tail split
    have flags := length_dropWhile_le isFlag t
    have width := length_dropWhile_le isDecimalDigit (t.dropWhile isFlag)
    have precision := length_scanPrecision_le ((t.dropWhile isFlag).dropWhile isDecimalDigit)
    have lengths := length_dropWhile_le isLength
      (scanPrecision ((t.dropWhile isFlag).dropWhile isDecimalDigit)).2
    rw [split, List.length_cons] at lengths
    split at h
    · simp at h
    · obtain ⟨_, _, same⟩ := Option.map_eq_some_iff.mp h
      obtain ⟨_, rfl⟩ := Prod.mk.inj same
      omega

end Directive

inductive Piece where
  | char (c : Char)
  | directive (d : Directive)
  deriving DecidableEq, Repr

namespace Piece

def ofText : Text → List Piece
  | [] => []
  | '%' :: '%' :: t => char '%' :: ofText t
  | '%' :: t =>
    match h : Directive.scan? t with
    | some (d, rest) =>
      have := Directive.length_lt_of_scan? h
      directive d :: ofText rest
    | none => ('%' :: t).map char
  | c :: t => char c :: ofText t
termination_by t => t.length
decreasing_by
  all_goals simp only [List.length_cons]
  all_goals omega

def isDirective : Piece → Bool
  | directive _ => true
  | char _ => false

end Piece

structure Template where
  source : Text
  deriving DecidableEq, Repr

namespace Template

def pieces (t : Template) : List Piece := Piece.ofText t.source

/-- Whether the message depends on the value. -/
def hasDirective (t : Template) : Bool := t.pieces.any Piece.isDirective

end Template

end MagicRules
