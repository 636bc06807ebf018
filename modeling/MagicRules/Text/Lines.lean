import MagicRules.Text

/-!
# Lines of a text

A line ends at a line feed, and a carriage return right in front of it belongs to the end. A
line feed at the end of the text begins no further line.
-/

namespace MagicRules.Text

def dropReturn (line : Text) : Text :=
  if line.getLast? = some '\r' then line.dropLast else line

def lines (t : Text) : List Text :=
  match (t.splitAt '\n').reverse with
  | [] => []
  | last :: ended =>
    (ended.map dropReturn).reverse ++ (if last.isEmpty then [] else [last])

end MagicRules.Text
