import MagicRules.Text.Blank
import Mathlib.Data.List.DropRight
import Mathlib.Data.List.TakeWhile

/-!
# Pieces of a text

Cutting at every separator is `List.splitOn`, and a cut at the first or the last one is known from
a part that has none. What stands at one place of a text may be replaced without a look at the
rest, in a text as in bytes.
-/

namespace MagicRules

/-- A run of elements up to where it stops. -/
theorem span_append {α : Type} {p : α → Bool} {l rest : List α} (all : ∀ a ∈ l, p a)
    (stop : ∀ a ∈ rest.head?, p a = false) :
    (l ++ rest).takeWhile p = l ∧ (l ++ rest).dropWhile p = rest := by
  rw [List.takeWhile_append_of_pos all, List.dropWhile_append_of_pos all]
  cases rest with
  | nil => simp
  | cons a rest => simp [stop a rfl]

theorem stop_dropWhile {α : Type} (p : α → Bool) (l : List α) :
    ∀ a ∈ (l.dropWhile p).head?, p a = false := by
  intro a first
  have stop := List.head?_dropWhile_not p l
  rw [Option.mem_def.mp first] at stop
  exact stop

/-- Where a run stops is known from its elements and from what follows. -/
theorem run_unique {α : Type} {p : α → Bool} {l l' rest rest' : List α} (all : ∀ a ∈ l, p a)
    (all' : ∀ a ∈ l', p a) (stop : ∀ a ∈ rest.head?, p a = false)
    (stop' : ∀ a ∈ rest'.head?, p a = false) (same : l ++ rest = l' ++ rest') :
    l = l' ∧ rest = rest' := by
  obtain ⟨taken, left⟩ := span_append all stop
  obtain ⟨taken', left'⟩ := span_append all' stop'
  rw [same] at taken left
  exact ⟨taken.symm.trans taken', left.symm.trans left'⟩

section replaceEach

variable {α : Type} [DecidableEq α]

/-- The list with each `old` replaced by the elements of `new`. -/
def replaceEach (old : α) (new l : List α) : List α :=
  l.flatMap fun x => if x = old then new else [x]

theorem replaceEach_append (old : α) (new l m : List α) :
    replaceEach old new (l ++ m) = replaceEach old new l ++ replaceEach old new m :=
  List.flatMap_append

theorem replaceEach_cons_self (old : α) (new l : List α) :
    replaceEach old new (old :: l) = new ++ replaceEach old new l := by
  simp [replaceEach]

theorem replaceEach_cons_of_ne {x old : α} (h : x ≠ old) (new l : List α) :
    replaceEach old new (x :: l) = x :: replaceEach old new l := by
  simp [replaceEach, h]

theorem replaceEach_of_notMem {old : α} {new l : List α} (h : old ∉ l) :
    replaceEach old new l = l := by
  induction l with
  | nil => rfl
  | cons x l ih =>
      obtain ⟨first, rest⟩ : old ≠ x ∧ old ∉ l := by simpa using h
      rw [replaceEach_cons_of_ne (Ne.symm first), ih rest]

end replaceEach

namespace Text

/-- What holds of the characters of a fixed text is found by going through the text, and not through
all the characters there are. -/
theorem forall_mem_of_all {P : Char → Prop} [DecidablePred P] {t : Text}
    (h : t.all fun c => decide (P c)) : ∀ c ∈ t, P c := by
  simpa using h

/-- What holds of a mark and of a text holds of the text with the mark in front or without. -/
theorem forall_mem_marked {P : Char → Prop} (marked : Bool) {mark : Char} {t : Text}
    (hmark : P mark) (ht : ∀ c ∈ t, P c) : ∀ c ∈ (if marked then [mark] else []) ++ t, P c := by
  cases marked with
  | false => exact ht
  | true => exact List.forall_mem_cons.mpr ⟨hmark, ht⟩

theorem splitFrom_eq_splitOnPPrepend (sep : Char) (piece t : Text) :
    splitFrom sep piece t = t.splitOnPPrepend (· == sep) piece := by
  induction t generalizing piece with
  | nil => rfl
  | cons c cs ih =>
      by_cases h : c = sep
      · rw [splitFrom, if_pos h, ih, List.splitOnPPrepend_cons_pos (by simpa using h)]
        rfl
      · rw [splitFrom, if_neg h, ih, List.splitOnPPrepend_cons_neg (by simpa using h)]

theorem splitAt_eq_splitOn (sep : Char) (t : Text) : splitAt sep t = t.splitOn sep :=
  splitFrom_eq_splitOnPPrepend sep [] t

theorem notMem_of_mem_splitOn {sep : Char} {t piece : Text} (h : piece ∈ t.splitOn sep) :
    sep ∉ piece := by
  rw [List.splitOn_eq_splitOnP] at h
  induction t generalizing piece with
  | nil =>
      have empty : piece = [] := by simpa using h
      simp [empty]
  | cons c cs ih =>
      rw [List.splitOnP_cons_eq_if_modifyHead] at h
      by_cases hc : c = sep
      · rw [if_pos (by simpa using hc)] at h
        rcases List.mem_cons.mp h with rfl | later
        · exact List.not_mem_nil
        · exact ih later
      · rw [if_neg (by simpa using hc)] at h
        obtain ⟨first, rest, pieces⟩ := List.exists_cons_of_ne_nil (cs.splitOnP_ne_nil (· == sep))
        rw [pieces, List.modifyHead_cons] at h
        rw [pieces] at ih
        rcases List.mem_cons.mp h with rfl | later
        · simpa [Ne.symm hc] using ih List.mem_cons_self
        · exact ih (List.mem_cons_of_mem first later)

theorem mem_of_mem_splitOn {sep c : Char} {t piece : Text} (h : piece ∈ t.splitOn sep)
    (member : c ∈ piece) : c ∈ t := by
  obtain ⟨i, found⟩ := List.mem_iff_getElem?.mp h
  have kept : piece ∈ (t.splitOn sep).intersperse [sep] := by
    have place : ((t.splitOn sep).intersperse [sep])[2 * i]? = some piece := by
      rw [List.getElem?_intersperse_two_mul, found]
    exact List.mem_of_getElem? place
  have joined : [sep].intercalate (t.splitOn sep) = t := List.intercalate_splitOn sep
  rw [← joined]
  exact List.mem_flatten.mpr ⟨piece, kept, member⟩

theorem splitOn_append_of_notMem {sep : Char} {t : Text} (h : sep ∉ t) (rest : Text) :
    (t ++ rest).splitOn sep = (rest.splitOn sep).modifyHead (t ++ ·) := by
  simp only [List.splitOn_eq_splitOnP]
  induction t with
  | nil =>
      change rest.splitOnP (· == sep) = (rest.splitOnP (· == sep)).modifyHead id
      rw [List.modifyHead_id, id]
  | cons c t ih =>
      obtain ⟨first, behind⟩ : sep ≠ c ∧ sep ∉ t := by simpa using h
      have other : ¬ (c == sep) = true := by simpa using Ne.symm first
      rw [List.cons_append, List.splitOnP_cons_eq_if_modifyHead, if_neg other, ih behind,
        List.modifyHead_modifyHead]
      rfl

/-- Pieces that each have a separator behind them, and what follows the last of these. -/
theorem splitOn_flatten_append {sep : Char} {pieces : List Text} (h : ∀ t ∈ pieces, sep ∉ t)
    (rest : Text) :
    ((pieces.map (· ++ [sep])).flatten ++ rest).splitOn sep = pieces ++ rest.splitOn sep := by
  induction pieces with
  | nil => rfl
  | cons t pieces ih =>
      obtain ⟨first, others⟩ := List.forall_mem_cons.mp h
      rw [List.map_cons, List.flatten_cons, List.append_assoc, List.append_assoc,
        List.singleton_append, List.splitOn_append_cons_self_of_not_mem first, ih others]
      rfl

/-- Texts that each have a separator behind them are cut each for itself. -/
theorem splitOn_flatten (sep : Char) (ts : List Text) :
    (ts.map (· ++ [sep])).flatten.splitOn sep = ts.flatMap (·.splitOn sep) ++ [[]] := by
  induction ts with
  | nil => rfl
  | cons t ts ih =>
      rw [List.map_cons, List.flatten_cons, List.append_assoc, List.singleton_append,
        List.splitOn_append_cons_self, ih, List.flatMap_cons, List.append_assoc]

theorem length_splitOn_eq_one_iff {sep : Char} {t : Text} :
    (t.splitOn sep).length = 1 ↔ sep ∉ t := by
  constructor
  · intro one member
    obtain ⟨before, after, rfl⟩ := List.append_of_mem member
    have front := List.length_pos_iff.mpr (List.splitOn_ne_nil sep before)
    have back := List.length_pos_iff.mpr (List.splitOn_ne_nil sep after)
    rw [List.splitOn_append_cons_self, List.length_append] at one
    omega
  · intro h
    rw [List.splitOn_eq_singleton h, List.length_singleton]

theorem cutAt?_of_notMem {sep : Char} {t : Text} (h : sep ∉ t) : cutAt? sep t = none := by
  induction t with
  | nil => rfl
  | cons c cs ih =>
      obtain ⟨first, rest⟩ : sep ≠ c ∧ sep ∉ cs := by simpa using h
      rw [cutAt?, if_neg (Ne.symm first), ih rest]
      rfl

/-- The first separator is the one that has none in front of it. -/
theorem cutAt?_append {sep : Char} {before : Text} (h : sep ∉ before) (after : Text) :
    cutAt? sep (before ++ sep :: after) = some (before, after) := by
  induction before with
  | nil => exact if_pos rfl
  | cons c cs ih =>
      obtain ⟨first, rest⟩ : sep ≠ c ∧ sep ∉ cs := by simpa using h
      rw [List.cons_append, cutAt?, if_neg (Ne.symm first), ih rest]
      rfl

theorem cutAtLast?_of_notMem {sep : Char} {t : Text} (h : sep ∉ t) :
    cutAtLast? sep t = none := by
  induction t with
  | nil => rfl
  | cons c cs ih =>
      obtain ⟨first, rest⟩ : sep ≠ c ∧ sep ∉ cs := by simpa using h
      rw [cutAtLast?, ih rest]
      exact if_neg (Ne.symm first)

/-- The last separator is the one that has none behind it. -/
theorem cutAtLast?_append {sep : Char} {after : Text} (h : sep ∉ after) (before : Text) :
    cutAtLast? sep (before ++ sep :: after) = some (before, after) := by
  induction before with
  | nil =>
      rw [List.nil_append, cutAtLast?, cutAtLast?_of_notMem h]
      exact if_pos rfl
  | cons c cs ih => rw [List.cons_append, cutAtLast?, ih]

/-- A text without the separator, or a part without it behind the last one. -/
theorem eq_append_last (sep : Char) (t : Text) :
    sep ∉ t ∨ ∃ before after, t = before ++ sep :: after ∧ sep ∉ after := by
  refine or_iff_not_imp_left.mpr fun some => ?_
  have member : sep ∈ t.reverse := List.mem_reverse.mpr (not_not.mp some)
  obtain ⟨after, before, shape, first⟩ := List.eq_append_cons_of_mem member
  refine ⟨before.reverse, after.reverse, ?_, List.mem_reverse.not.mpr first⟩
  rw [← List.reverse_reverse t, shape, List.reverse_append, List.reverse_cons, List.append_assoc,
    List.singleton_append]

/-- Taking characters away from the end leaves the first one, if one of them has to stay. -/
theorem head?_dropWhileEnd {p : Char → Bool} {t : Text} (stays : ∃ c ∈ t, p c = false) :
    (dropWhileEnd p t).head? = t.head? := by
  have front : dropWhileEnd p t <+: t := List.rdropWhile_prefix p t
  have nonempty : dropWhileEnd p t ≠ [] := by
    intro empty
    obtain ⟨c, member, keeps⟩ := stays
    rw [List.rdropWhile_eq_nil_iff.mp empty c member] at keeps
    cases keeps
  obtain ⟨behind, whole⟩ := front
  rw [← List.head?_append_of_ne_nil _ nonempty, whole]

/-- Trimming a text at both ends leaves what begins and ends with a character that has to stay. -/
theorem trimmed_parts {p : Char → Bool} {t : Text} (stays : ∃ c ∈ t, p c = false) :
    ∃ lead core trail, t = lead ++ (core ++ trail) ∧ dropWhileEnd p (t.dropWhile p) = core ∧
      (∀ c ∈ lead, p c) ∧ (∀ c ∈ trail, p c) ∧
      (∃ c ∈ core.head?, p c = false) ∧ ∃ c ∈ core.getLast?, p c = false := by
  have front := stop_dropWhile p t
  have whole := List.takeWhile_append_dropWhile (p := p) (l := t)
  generalize t.dropWhile p = rest at front whole
  have staysBehind : ∃ c ∈ rest, p c = false := by
    obtain ⟨c, member, keeps⟩ := stays
    rw [← whole] at member
    rcases List.mem_append.mp member with inLead | behind
    · rw [List.mem_takeWhile_imp inLead] at keeps
      cases keeps
    · exact ⟨c, behind, keeps⟩
  have first := head?_dropWhileEnd staysBehind
  refine ⟨t.takeWhile p, rest.rdropWhile p, rest.rtakeWhile p, ?_, rfl,
    fun _ => List.mem_takeWhile_imp, fun _ => List.mem_rtakeWhile_imp, ?_, ?_⟩
  · rw [List.rdropWhile_append_rtakeWhile, whole]
  · obtain ⟨c, member, _⟩ := staysBehind
    cases rest with
    | nil => cases member
    | cons c rest => exact ⟨c, first, front c rfl⟩
  · have nonempty : rest.rdropWhile p ≠ [] := by
      rintro empty
      obtain ⟨c, member, keeps⟩ := staysBehind
      rw [List.rdropWhile_eq_nil_iff.mp empty c member] at keeps
      cases keeps
    exact ⟨_, List.getLast?_eq_getLast_of_ne_nil nonempty,
      by simpa using List.rdropWhile_last_not p rest nonempty⟩

end Text

end MagicRules
