import MagicRules.Text.Width

/-!
# Elastic columns

Text whose lines are cut into cells by tabs is laid out in columns. A cell that a tab ends
belongs to a column with the cells above and below it that are ended by a tab as well; all of
them get the width of the widest. The last cell of a line belongs to no column.
-/

namespace MagicRules.Text

/-- Layout of columns: the least width of a cell, and how many blanks follow its column. -/
structure ColumnStyle where
  least : Nat := 2
  gap : Nat := 2
  deriving DecidableEq, Repr

namespace Columns

/-- For each width the greatest one from there to the end of its run. -/
def greatestBelow : List (Option Nat) → List (Option Nat)
  | [] => []
  | none :: widths => none :: greatestBelow widths
  | some w :: widths =>
    let below := greatestBelow widths
    some (max w ((below.head?.join).getD 0)) :: below

/-- Gives each member of a run the value of the first one. -/
def spread (first : Option Nat) : List (Option Nat) → List (Option Nat)
  | [] => []
  | none :: widths => none :: spread none widths
  | some w :: widths => some (first.getD w) :: spread (some (first.getD w)) widths

/-- The width of the column that each cell belongs to. A cell without a width ends a run. -/
def runWidths (widths : List (Option Nat)) : List (Option Nat) :=
  spread none (greatestBelow widths)

/-- The width that the first cell of a line asks for, if a tab ends it. -/
def cellWidth (style : ColumnStyle) : List Text → Option Nat
  | cell :: _ :: _ => some (max style.least cell.width)
  | _ => none

/-- Lays out lines of at most `columns + 1` cells. -/
def layOut (style : ColumnStyle) : Nat → List (List Text) → List Text
  | 0, lines => lines.map (·.headD [])
  | columns + 1, lines =>
    let widths := runWidths (lines.map (cellWidth style))
    let rest := layOut style columns
      (lines.map fun line => if (cellWidth style line).isSome then line.tail else line)
    (lines.zip (widths.zip rest)).map fun (line, width, rest) =>
      match width with
      | some width =>
        let cell := line.headD []
        cell ++ List.replicate (width - cell.width + style.gap) ' ' ++ rest
      | none => rest

end Columns

/-- Lays out a text whose cells are ended by tabs and whose lines by line feeds. -/
def alignColumns (style : ColumnStyle) (t : Text) : Text :=
  let lines := (t.splitAt '\n').map (·.splitAt '\t')
  let columns := (lines.map List.length).foldl max 1 - 1
  (Columns.layOut style columns lines).intersperse ['\n'] |>.flatten

end MagicRules.Text
