import MagicRules.Text

/-!
# Operators of tests

How the value that a rule reads is compared with the value of its test. A test text may begin
with the symbol of an operator; equality needs none.
-/

namespace MagicRules

inductive Operator where
  | equal
  | notEqual
  | less
  | greater
  /-- Every bit of the test value is set. -/
  | allSet
  /-- Some bit of the test value is clear. -/
  | anyClear
  /-- Equal to the test value with all bits inverted. -/
  | negated
  deriving DecidableEq, Repr

namespace Operator

def ofSymbol? : Char → Option Operator
  | '=' => some equal
  | '!' => some notEqual
  | '<' => some less
  | '>' => some greater
  | '&' => some allSet
  | '^' => some anyClear
  | '~' => some negated
  | _ => none

/-- The symbol of an operator as it is written back; equality is written without. -/
def symbol : Operator → Text
  | equal => []
  | notEqual => ['!']
  | less => ['<']
  | greater => ['>']
  | allSet => ['&']
  | anyClear => ['^']
  | negated => ['~']

/-- Whether the operator compares by order and equality only, as it must for floats. -/
def isOrder : Operator → Bool
  | equal | notEqual | less | greater => true
  | allSet | anyClear | negated => false

/-- Takes a leading operator off, if it is one of those allowed. -/
def split (allowed : Operator → Bool) (t : Text) : Operator × Text :=
  match t with
  | [] => (equal, [])
  | c :: cs =>
    match ofSymbol? c with
    | some op => if allowed op then (op, cs) else (equal, t)
    | none => (equal, t)

end Operator

end MagicRules
