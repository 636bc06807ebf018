import MagicRules.Text.Blank
import MagicRules.Text.Digit

/-!
# Fields of a line

A line of a magic file is cut into fields at blanks. A backslash takes away the meaning of
the character after it, or stands with it for a control character or a byte:

* `\n \r \t \b \a \f \v` are the control characters of these names,
* up to three octal digits, and `x` with up to two hexadecimal digits, are a byte,
* anything else after a backslash stands for itself, also a blank.

The last field asked for takes the rest of the line as it is, blanks included. One pass
over the line does both: it decodes and cuts at the same time, so a blank that was written
with a backslash never cuts.
-/

namespace MagicRules.Field

/-- What ends a field: the blanks and the information separators, but none of the blanks
that forbid a line break, and not the next-line control. -/
def isSeparator (c : Char) : Bool :=
  if 0x1c ≤ c.toNat ∧ c.toNat ≤ 0x1f then true
  else if c.toNat ∈ [0x85, 0xa0, 0x2007, 0x202f] then false
  else isBlank c

/-- Reads at most `n` digits of `radix` onto `value`. -/
def digits (radix : Nat) : Nat → Nat → Text → Nat × Text
  | n + 1, value, c :: cs =>
    match digit? radix c with
    | some d => digits radix n (value * radix + d) cs
    | none => (value, c :: cs)
  | _, value, cs => (value, cs)

theorem length_digits_le (radix n value : Nat) (cs : Text) :
    (digits radix n value cs).2.length ≤ cs.length := by
  fun_induction digits radix n value cs with
  | case1 n value c cs d _ ih => exact Nat.le_succ_of_le ih
  | case2 => exact Nat.le_refl _
  | case3 => exact Nat.le_refl _

def control? : Char → Option Char
  | 'n' => some '\n'
  | 'r' => some '\r'
  | 't' => some '\t'
  | 'b' => some '\x08'
  | 'a' => some '\x07'
  | 'f' => some '\x0c'
  | 'v' => some '\x0b'
  | _ => none

/-- The character that a backslash stands for together with the text after it, and what
is left of that text. A backslash at the end of the line stands for itself. -/
def escape : Text → Char × Text
  | [] => ('\\', [])
  | c :: cs =>
    match control? c, digit? 8 c with
    | some control, _ => (control, cs)
    | none, some d =>
      let run := digits 8 2 d cs
      (Char.ofNat (run.1 % 256), run.2)
    | none, none =>
      if c = 'x' && cs.head?.any isHexDigit then
        let run := digits 16 2 0 cs
        (Char.ofNat run.1, run.2)
      else (c, cs)

theorem length_escape_le (cs : Text) : (escape cs).2.length ≤ cs.length := by
  unfold escape
  split
  · exact Nat.le_refl _
  · rename_i c cs
    have octal := fun d => length_digits_le 8 2 d cs
    have hex := length_digits_le 16 2 0 cs
    split
    · simp
    · exact Nat.le_succ_of_le (octal _)
    · split
      · exact Nat.le_succ_of_le hex
      · simp

/-- Cuts the rest of a line, when `complete` fields are out and `part` is what has been read
of the next one, its last character first. -/
def splitFrom (fields complete : Nat) (part : Text) : Text → List Text
  | [] => if part.isEmpty then [] else [part.reverse]
  | c :: cs =>
    if isSeparator c then
      if complete + 1 < fields then
        if part.isEmpty then splitFrom fields complete [] cs
        else part.reverse :: splitFrom fields (complete + 1) [] cs
      else splitFrom fields complete (if part.isEmpty then [] else c :: part) cs
    else if c = '\\' then
      splitFrom fields complete ((escape cs).1 :: part) (escape cs).2
    else splitFrom fields complete (c :: part) cs
termination_by cs => cs.length
decreasing_by
  all_goals simp only [List.length_cons]
  all_goals have := length_escape_le cs
  all_goals omega

/-- The fields of a line, at most `fields` of them and none empty. Fewer than asked for is
no fault here. -/
def split (line : Text) (fields : Nat) : List Text := splitFrom fields 0 [] line

end MagicRules.Field
