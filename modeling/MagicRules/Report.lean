import MagicRules.FileTree
import MagicRules.RuleSet.Forest
import MagicRules.Text.Columns
import MagicRules.Text.Visible

/-!
# Reports

What is printed about magic files that have been read: a table of their rules, one rule a line,
or a table of the files, one file a line. The first line of a table has the headings. Cells are
ended by tabs here; the tabs become columns when a table is printed.
-/

namespace MagicRules

structure Report where
  path : Text
  rules : RuleSet
  failures : List Failure
  deriving DecidableEq, Repr

namespace Report

def ofFile (file : SourceFile) : Report :=
  let (rules, failures) := RuleSet.ofBytes file.content
  { path := file.path, rules, failures }

def row (cells : List Text) : Text := (cells.intersperse ['\t']).flatten ++ ['\n']

/-- A rule in its cells. The test and the name are made visible; the rest stands as it is. -/
def ruleCells (r : Rule) : List Text :=
  [Text.ofNat 10 r.level,
   r.writtenOffset,
   (if r.isUnsigned then ['u'] else []) ++ r.type.name,
   match r.test with
   | some test => test.written.visible
   | none => ['x'],
   r.name.visible,
   r.mime.getD ['-']]

def ruleHeadings : List Text :=
  ["level", "offset", "type", "test", "name", "mime"].map String.toList

def ruleRows (reports : List Report) : List Text :=
  row ruleHeadings :: reports.flatMap fun report =>
    report.rules.rules.toList.map fun r => row (ruleCells r)

/-- A file in its cells: its path, and how many rules, trees and lines that failed it has. -/
def fileCells (report : Report) : List Text :=
  [report.path,
   Text.ofNat 10 report.rules.size,
   Text.ofNat 10 report.rules.roots.length,
   Text.ofNat 10 report.failures.length]

def fileHeadings : List Text := ["file", "rules", "roots", "failed"].map String.toList

def fileRows (reports : List Report) : List Text :=
  row fileHeadings :: reports.map fun report => row report.fileCells

def table (rows : List Text) : Text := Text.alignColumns {} rows.flatten

end Report

end MagicRules
