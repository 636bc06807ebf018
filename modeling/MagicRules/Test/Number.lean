import MagicRules.Binary64.Decimal
import MagicRules.Binary64.Reader
import MagicRules.Test.Operator

/-!
# Numeric tests

The tests of the integer, date and floating-point types: an operator and a number.
-/

namespace MagicRules

structure IntegerTest where
  op : Operator
  value : Int
  deriving DecidableEq, Repr

namespace IntegerTest

def read (t : Text) : Except TestError IntegerTest :=
  let (op, number) := Operator.split (fun _ => true) t
  match Literal.readWrapping number with
  | .ok value => .ok { op, value }
  | .error cause => .error (.number t cause)

def written (test : IntegerTest) : Text := test.op.symbol ++ Text.ofInt test.value

end IntegerTest

structure FloatTest where
  op : Operator
  value : Binary64
  deriving DecidableEq, Repr

namespace FloatTest

def read (t : Text) : Except TestError FloatTest :=
  let (op, number) := Operator.split Operator.isOrder t
  match Binary64.ofText number with
  | .ok value => .ok { op, value }
  | .error cause => .error (.float t cause)

def written (test : FloatTest) : Text := test.op.symbol ++ test.value.written

end FloatTest

end MagicRules
