import MagicRules.Proofs.Line.Parts
import MagicRules.Proofs.Registry
import MagicRules.Proofs.RuleSet.Ledger
import MagicRules.Report

/-!
# Lines and cells of the table of rules

A row is one line of as many cells as it is made of if none of them has a tab or a line feed. Of the
cells of a rule only the last one may have: levels, offsets and names of types are written without
them, tests and names of rules are made visible, but a media type stands in the table as it was
attached. What lines a rule comes to is known from its media type (`ruleLines`), and the table is
made of these lines (`linesOf_ruleRows`).
-/

namespace MagicRules

/-- A character that ends neither a cell nor a line. -/
def StaysInCell (c : Char) : Prop := c ≠ '\t' ∧ c ≠ '\n'

instance (c : Char) : Decidable (StaysInCell c) := inferInstanceAs (Decidable (_ ∧ _))

def IsCell (t : Text) : Prop := ∀ c ∈ t, StaysInCell c

instance (t : Text) : Decidable (IsCell t) := List.decidableBAll StaysInCell t

theorem IsCell.append {t u : Text} (ht : IsCell t) (hu : IsCell u) : IsCell (t ++ u) :=
  List.forall_mem_append.mpr ⟨ht, hu⟩

theorem isCell_iff {t : Text} : IsCell t ↔ '\t' ∉ t ∧ '\n' ∉ t := by
  refine ⟨fun h => ⟨fun tab => (h _ tab).1 rfl, fun feed => (h _ feed).2 rfl⟩, ?_⟩
  rintro ⟨tab, feed⟩ c member
  exact ⟨fun same => tab (same ▸ member), fun same => feed (same ▸ member)⟩

theorem staysInCell_digit : ∀ d < 16, StaysInCell d.digitChar := by
  decide

theorem isCell_ofNat (n : Nat) : IsCell (Text.ofNat 10 n) :=
  forall_mem_ofNat (by omega) (fun d lt => staysInCell_digit d (by omega)) n

theorem isCell_visibleChar (c : Char) : IsCell (Text.visibleChar c) := by
  unfold Text.visibleChar
  split_ifs with null tab ret feed
  · decide
  · decide
  · decide
  · decide
  · exact List.forall_mem_cons.mpr ⟨by decide, List.forall_mem_singleton.mpr ⟨tab, feed⟩⟩
  · have digits : IsCell (Text.ofNat 16 c.toNat) :=
      forall_mem_ofNat (by omega) staysInCell_digit c.toNat
    exact .append (.append (by decide) digits) (by decide)
  · exact List.forall_mem_singleton.mpr ⟨tab, feed⟩

theorem isCell_visible (t : Text) : IsCell t.visible := by
  intro c member
  obtain ⟨d, _, inside⟩ := List.mem_flatMap.mp member
  exact isCell_visibleChar d c inside

theorem isCell_writtenOffset (r : Rule) : IsCell r.writtenOffset :=
  Text.forall_mem_marked r.relative (by decide)
    (r.offset.forall_mem_written staysInCell_digit (Text.forall_mem_of_all (by decide)))

/-- The type of a rule is one of the builtin types. -/
def Rule.IsBuiltin (r : Rule) : Prop := Registry.builtin.resolve? r.type.name = some r.type

theorem Line.isBuiltin_of_read {line : Text} {r : Rule}
    (h : read .builtin line = .ok (.rule r)) : r.IsBuiltin := by
  obtain ⟨_, _, _, _, _, _, _, htype, _⟩ := parts_of_read h
  obtain ⟨name, found⟩ := exists_resolve?_of_resolveType htype
  have same := (Registry.mem_of_resolve? found).2
  rwa [Rule.IsBuiltin, same]

theorem Extension.isBuiltin_apply (e : Extension) {r : Rule} (h : r.IsBuiltin) :
    (e.apply r).IsBuiltin := by
  cases e <;> exact h

theorem RuleSet.isBuiltin_of_mem_ofBytes {bytes : Bytes} :
    ∀ r ∈ (RuleSet.ofBytes bytes).1.rules, r.IsBuiltin :=
  forall_mem_pushAll (fun _ _ => Line.isBuiltin_of_read) (fun e _ => e.isBuiltin_apply)
    (by simp [empty]) _

theorem isCell_typeName {r : Rule} (h : r.IsBuiltin) :
    IsCell ((if r.isUnsigned then ['u'] else []) ++ r.type.name) := by
  refine Text.forall_mem_marked r.isUnsigned (by decide) fun c member => ?_
  have inside := (Registry.builtin_plain h c member).1.1
  refine ⟨?_, ?_⟩ <;> rintro rfl <;> cases inside

namespace Report

/-- The lines of rows, each in its cells. The last row ends the last line. -/
def linesOf (rows : List Text) : List (List Text) :=
  (Text.splitAt '\n' rows.flatten).dropLast.map (Text.splitAt '\t')

/-- The lines that a row comes to if only its last cell has tabs and line feeds. -/
def linesOfRow (front : List Text) (last : Text) : List (List Text) :=
  ((Text.splitAt '\n' last).map (Text.splitAt '\t')).modifyHead (front ++ ·)

theorem row_append_singleton (front : List Text) (last : Text) :
    row (front ++ [last]) = (front.map (· ++ ['\t'])).flatten ++ last ++ ['\n'] := by
  induction front with
  | nil => simp [row]
  | cons cell front ih =>
      have behind : row (cell :: (front ++ [last])) = cell ++ '\t' :: row (front ++ [last]) := by
        cases front <;> simp [row]
      rw [List.cons_append, behind, ih]
      simp

/-- The cells in front of the last one are in the first line. -/
theorem map_splitOn_row {front : List Text} (h : ∀ t ∈ front, IsCell t) (last : Text) :
    (((front.map (· ++ ['\t'])).flatten ++ last).splitOn '\n').map (Text.splitAt '\t') =
      linesOfRow front last := by
  have inside : '\n' ∉ (front.map (· ++ ['\t'])).flatten := by
    intro member
    obtain ⟨_, listed, feed⟩ := List.mem_flatten.mp member
    obtain ⟨t, cell, rfl⟩ := List.mem_map.mp listed
    rcases List.mem_append.mp feed with within | behind
    · exact (isCell_iff.mp (h t cell)).2 within
    · cases List.mem_singleton.mp behind
  have tabs : ∀ t ∈ front, '\t' ∉ t := fun t cell => (isCell_iff.mp (h t cell)).1
  obtain ⟨first, rest, lines⟩ := List.exists_cons_of_ne_nil (List.splitOn_ne_nil '\n' last)
  rw [linesOfRow, Text.splitAt_eq_splitOn, Text.splitOn_append_of_notMem inside, lines,
    List.modifyHead_cons, List.map_cons, List.map_cons, List.modifyHead_cons,
    Text.splitAt_eq_splitOn, Text.splitOn_flatten_append tabs, Text.splitAt_eq_splitOn]

/-- Rows are cut each for itself. -/
theorem linesOf_rows {rows : List (List Text × Text)}
    (h : ∀ row ∈ rows, ∀ t ∈ row.1, IsCell t) :
    linesOf (rows.map fun p => row (p.1 ++ [p.2])) = rows.flatMap fun p => linesOfRow p.1 p.2 := by
  have ended : (rows.map fun p => row (p.1 ++ [p.2])) =
      (rows.map fun p => (p.1.map (· ++ ['\t'])).flatten ++ p.2).map (· ++ ['\n']) := by
    rw [List.map_map]
    exact List.map_congr_left fun p _ => row_append_singleton p.1 p.2
  rw [linesOf, ended, Text.splitAt_eq_splitOn, Text.splitOn_flatten, List.dropLast_concat,
    List.map_flatMap, List.flatMap_map]
  exact List.flatMap_congr fun p member => map_splitOn_row (h p member) p.2

theorem length_linesOfRow (front : List Text) (last : Text) :
    (linesOfRow front last).length = (last.splitOn '\n').length := by
  rw [linesOfRow, List.length_modifyHead, List.length_map, Text.splitAt_eq_splitOn]

/-- A row is one line of its cells if the last of them is a cell, too. -/
theorem linesOfRow_of_isCell (front : List Text) {last : Text} (h : IsCell last) :
    linesOfRow front last = [front ++ [last]] := by
  obtain ⟨tab, feed⟩ := isCell_iff.mp h
  rw [linesOfRow, Text.splitAt_eq_splitOn, List.splitOn_eq_singleton feed, List.map_singleton,
    Text.splitAt_eq_splitOn, List.splitOn_eq_singleton tab]
  rfl

/-- Otherwise it has more lines, or one of more cells. -/
theorem isCell_of_linesOfRow {front : List Text} {last : Text}
    (one : (linesOfRow front last).length = 1)
    (cells : ∀ line ∈ linesOfRow front last, line.length = front.length + 1) : IsCell last := by
  rw [length_linesOfRow] at one
  have feed := Text.length_splitOn_eq_one_iff.mp one
  have line : linesOfRow front last = [front ++ last.splitOn '\t'] := by
    rw [linesOfRow, Text.splitAt_eq_splitOn, List.splitOn_eq_singleton feed, List.map_singleton,
      Text.splitAt_eq_splitOn]
    rfl
  rw [line] at cells
  have width := cells _ (List.mem_singleton_self _)
  rw [List.length_append] at width
  exact isCell_iff.mpr ⟨Text.length_splitOn_eq_one_iff.mp (by omega), feed⟩

theorem length_le_flatMap {α β : Type} {f : α → List β} {l : List α} (h : ∀ a ∈ l, f a ≠ []) :
    l.length ≤ (l.flatMap f).length := by
  induction l with
  | nil => exact Nat.le_refl 0
  | cons a l ih =>
      obtain ⟨first, others⟩ := List.forall_mem_cons.mp h
      have pos := List.length_pos_iff.mpr first
      have rest := ih others
      rw [List.flatMap_cons, List.length_append, List.length_cons]
      omega

/-- Lists none of which is empty have as many elements together as there are lists exactly if each
has one. -/
theorem length_flatMap_eq_iff {α β : Type} {f : α → List β} {l : List α}
    (h : ∀ a ∈ l, f a ≠ []) :
    (l.flatMap f).length = l.length ↔ ∀ a ∈ l, (f a).length = 1 := by
  induction l with
  | nil => simp
  | cons a l ih =>
      obtain ⟨first, others⟩ := List.forall_mem_cons.mp h
      have pos := List.length_pos_iff.mpr first
      have least := length_le_flatMap others
      have rest := ih others
      rw [List.forall_mem_cons, List.flatMap_cons, List.length_append, List.length_cons]
      constructor
      · exact fun total => ⟨by omega, rest.mp (by omega)⟩
      · rintro ⟨one, ones⟩
        have total := rest.mpr ones
        omega

def ruleFront (r : Rule) : List Text := (ruleCells r).dropLast

/-- The text of the last cell. -/
def ruleMime (r : Rule) : Text := r.mime.getD ['-']

def ruleLines (r : Rule) : List (List Text) := linesOfRow (ruleFront r) (ruleMime r)

theorem isCell_ruleMime_iff {r : Rule} : IsCell (ruleMime r) ↔ ∀ t ∈ r.mime, IsCell t := by
  rw [ruleMime]
  cases r.mime with
  | none => exact iff_of_true (by decide) nofun
  | some t => simp

theorem isCell_of_mem_ruleFront {r : Rule} (h : r.IsBuiltin) : ∀ t ∈ ruleFront r, IsCell t := by
  cases test : r.test <;>
    simp only [ruleFront, ruleCells, test, List.dropLast_cons_cons, List.dropLast_singleton,
      List.forall_mem_cons]
  case none =>
    exact ⟨isCell_ofNat _, isCell_writtenOffset r, isCell_typeName h, by decide, isCell_visible _,
      nofun⟩
  case some test =>
    exact ⟨isCell_ofNat _, isCell_writtenOffset r, isCell_typeName h, isCell_visible _,
      isCell_visible _, nofun⟩

/-- The lines of the table are those of the headings and of the rules, in this order. -/
theorem linesOf_ruleRows {reports : List Report}
    (h : ∀ report ∈ reports, ∀ r ∈ report.rules.rules, r.IsBuiltin) :
    linesOf (ruleRows reports) =
      ruleHeadings :: (reports.flatMap (·.rules.rules.toList)).flatMap ruleLines := by
  let rules := reports.flatMap (·.rules.rules.toList)
  let headings := (ruleHeadings.dropLast, "mime".toList)
  have rows : ruleRows reports = (headings :: rules.map fun r => (ruleFront r, ruleMime r)).map
      fun p => row (p.1 ++ [p.2]) := by
    rw [List.map_cons, List.map_map, List.map_flatMap]
    rfl
  have cells : ∀ row ∈ headings :: rules.map fun r => (ruleFront r, ruleMime r),
      ∀ t ∈ row.1, IsCell t := by
    refine List.forall_mem_cons.mpr ⟨by decide, ?_⟩
    intro row member
    obtain ⟨r, listed, rfl⟩ := List.mem_map.mp member
    obtain ⟨report, given, inside⟩ := List.mem_flatMap.mp listed
    exact isCell_of_mem_ruleFront (h report given r (Array.mem_toList_iff.mp inside))
  rw [rows, linesOf_rows cells, List.flatMap_cons, List.flatMap_map,
    linesOfRow_of_isCell _ (by decide)]
  rfl

theorem ruleLines_ne_nil (r : Rule) : ruleLines r ≠ [] := by
  have pos := List.length_pos_iff.mpr (List.splitOn_ne_nil '\n' (ruleMime r))
  rw [← length_linesOfRow (ruleFront r)] at pos
  exact List.length_pos_iff.mp pos

/-- A rule is one line of its cells exactly if the last of them is a cell, too. -/
theorem ruleLines_eq_singleton_iff {r : Rule} :
    ruleLines r = [ruleCells r] ↔ IsCell (ruleMime r) := by
  refine ⟨fun one => ?_, linesOfRow_of_isCell (ruleFront r)⟩
  rw [ruleLines] at one
  refine isCell_of_linesOfRow (congrArg List.length one) ?_
  rw [one]
  exact List.forall_mem_singleton.mpr rfl

/-- One line of six cells for each rule leaves no room for anything else. -/
theorem isCell_of_flatMap_ruleLines {rules : List Rule}
    (count : (rules.flatMap ruleLines).length = rules.length)
    (six : ∀ cells ∈ rules.flatMap ruleLines, cells.length = 6) :
    ∀ r ∈ rules, IsCell (ruleMime r) := by
  have ones := (length_flatMap_eq_iff fun r _ => ruleLines_ne_nil r).mp count
  intro r member
  exact isCell_of_linesOfRow (ones r member) fun line inside =>
    six line (List.mem_flatMap.mpr ⟨r, member, inside⟩)

theorem flatMap_ruleLines {rules : List Rule} (h : ∀ r ∈ rules, IsCell (ruleMime r)) :
    rules.flatMap ruleLines = rules.map ruleCells := by
  have one : ∀ r ∈ rules, ruleLines r = [ruleCells r] := fun r member =>
    ruleLines_eq_singleton_iff.mpr (h r member)
  rw [List.flatMap_congr one, List.map_eq_flatMap]

/-- The lines of the table are the headings and those of each rule, which is one line of its cells
exactly if its media type has neither a tab nor a line feed. So the table has one line for each
rule, and six cells in every line, exactly if no media type has one. No other text of a file can
add a line or a cell. -/
theorem table_wellFormed_iff (files : List SourceFile) :
    let reports := files.map ofFile
    let rules := reports.flatMap (·.rules.rules.toList)
    let lines := linesOf (ruleRows reports)
    lines = ruleHeadings :: rules.flatMap ruleLines ∧
    (∀ r ∈ rules, ruleLines r = [ruleCells r] ↔ ∀ t ∈ r.mime, '\t' ∉ t ∧ '\n' ∉ t) ∧
    (lines.length = 1 + rules.length ∧ (∀ cells ∈ lines, cells.length = 6) ↔
      ∀ r ∈ rules, ∀ t ∈ r.mime, '\t' ∉ t ∧ '\n' ∉ t) := by
  intro reports rules lines
  have builtin : ∀ report ∈ reports, ∀ r ∈ report.rules.rules, r.IsBuiltin := by
    intro report given
    obtain ⟨file, _, rfl⟩ := List.mem_map.mp given
    exact RuleSet.isBuiltin_of_mem_ofBytes
  have shape : lines = ruleHeadings :: rules.flatMap ruleLines := linesOf_ruleRows builtin
  simp only [← isCell_iff, ← isCell_ruleMime_iff]
  refine ⟨shape, fun r _ => ruleLines_eq_singleton_iff, ?_⟩
  constructor
  · rintro ⟨count, six⟩
    rw [shape, List.length_cons] at count
    rw [shape] at six
    exact isCell_of_flatMap_ruleLines (by omega) (List.forall_mem_cons.mp six).2
  · intro h
    rw [shape, flatMap_ruleLines h, List.length_cons, List.length_map]
    refine ⟨Nat.add_comm _ _, List.forall_mem_cons.mpr ⟨rfl, ?_⟩⟩
    intro cells member
    obtain ⟨r, _, rfl⟩ := List.mem_map.mp member
    rfl

/-- Two files, one of them with a tab in the media type. Its table is the one that is not as its
rules are. -/
theorem table_wellFormed_iff_tab :
    let plain : SourceFile :=
      { path := "p".toList, content := Text.toBytes "0 byte 1 a\n!:mime text/plain\n".toList }
    let tabbed : SourceFile :=
      { path := "t".toList, content := Text.toBytes "0 byte 1 a\n!:mime text/\\tplain\n".toList }
    let rules (file : SourceFile) : List Rule := (ofFile file).rules.rules.toList
    let lines (file : SourceFile) : List (List Text) := linesOf (ruleRows [ofFile file])
    ((∀ r ∈ rules plain, ∀ t ∈ r.mime, '\t' ∉ t ∧ '\n' ∉ t) ∧
      (lines plain).length = 1 + (rules plain).length ∧ ∀ cells ∈ lines plain, cells.length = 6) ∧
    (¬ (∀ r ∈ rules tabbed, ∀ t ∈ r.mime, '\t' ∉ t ∧ '\n' ∉ t) ∧
      ¬ ((lines tabbed).length = 1 + (rules tabbed).length ∧
        ∀ cells ∈ lines tabbed, cells.length = 6)) := by
  intro plain tabbed rules lines
  have clean : ∀ r ∈ rules plain, ∀ t ∈ r.mime, '\t' ∉ t ∧ '\n' ∉ t := by decide +kernel
  have tab : ¬ ∀ r ∈ rules tabbed, ∀ t ∈ r.mime, '\t' ∉ t ∧ '\n' ∉ t := by decide +kernel
  have one (file : SourceFile) : [ofFile file].flatMap (·.rules.rules.toList) = rules file := by
    rw [List.flatMap_singleton]
  obtain ⟨-, -, plainTable⟩ := table_wellFormed_iff [plain]
  obtain ⟨-, -, tabbedTable⟩ := table_wellFormed_iff [tabbed]
  rw [List.map_singleton, one] at plainTable tabbedTable
  exact ⟨⟨clean, plainTable.mpr clean⟩, tab, tabbedTable.not.mpr tab⟩

/-- A tab that is attached makes a cell more. -/
theorem table_of_tab :
    let file : SourceFile :=
      { path := "m".toList, content := Text.toBytes "0 byte 1 a\n!:mime a\\tb\n".toList }
    (linesOf (ruleRows [ofFile file])).map List.length = [6, 7] := by
  decide +kernel

end Report

end MagicRules
