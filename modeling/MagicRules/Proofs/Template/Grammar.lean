import MagicRules.Template.Render
import MagicRules.Proofs.Template.Directive

/-!
# The grammar of templates

A template is a sequence of segments: characters other than `%`, pairs of `%`, and directives. No
text begins with two different segments, so a template comes apart in one way only. It may end in a
tail from a `%` on that begins no segment (`render_by_grammar`).
-/

namespace MagicRules

namespace Template

/-- A part of a template that stands for something of its own. -/
inductive Segment where
  | plain (c : Char) (other : c ≠ '%')
  | percent
  | directive (d : WrittenDirective) (longest : d.Longest)

namespace Segment

def text : Segment → Text
  | plain c _ => [c]
  | percent => ['%', '%']
  | directive d _ => '%' :: d.body

def render (v : Value) : Segment → Text
  | plain c _ => [c]
  | percent => ['%']
  | directive d _ => d.directive.render v

def piece : Segment → Piece
  | plain c _ => .char c
  | percent => .char '%'
  | directive d _ => .directive d.directive

theorem text_ne_nil (s : Segment) : s.text ≠ [] := by
  cases s <;> exact List.cons_ne_nil _ _

theorem render_piece (v : Value) (s : Segment) : s.piece.render v = s.render v := by
  cases s <;> rfl

theorem isDirective_piece {s : Segment} :
    s.piece.isDirective ↔ ∃ d longest, s = directive d longest := by
  cases s with
  | plain c other => simp [piece, Piece.isDirective]
  | percent => simp [piece, Piece.isDirective]
  | directive d longest => simp [piece, Piece.isDirective, longest]

/-- No text begins with two segments. -/
theorem append_inj {s s' : Segment} {rest rest' : Text} (same : s.text ++ rest = s'.text ++ rest') :
    s = s' ∧ rest = rest' := by
  cases s with
  | plain c other =>
      cases s' with
      | plain c' other' =>
          obtain ⟨rfl, rfl⟩ := List.cons.inj same
          exact ⟨rfl, rfl⟩
      | percent => exact absurd (List.cons.inj same).1 other
      | directive d' longest' => exact absurd (List.cons.inj same).1 other
  | percent =>
      cases s' with
      | plain c' other' => exact absurd (List.cons.inj same).1.symm other'
      | percent =>
          obtain ⟨_, same⟩ := List.cons.inj same
          exact ⟨rfl, (List.cons.inj same).2⟩
      | directive d' longest' =>
          exact absurd (List.cons.inj same).2.symm (d'.body_ne_percent longest' _)
  | directive d longest =>
      cases s' with
      | plain c' other' => exact absurd (List.cons.inj same).1.symm other'
      | percent => exact absurd (List.cons.inj same).2 (d.body_ne_percent longest _)
      | directive d' longest' =>
          have bodies := (List.cons.inj same).2
          obtain ⟨rfl, rfl⟩ := WrittenDirective.append_inj longest longest' bodies
          exact ⟨rfl, rfl⟩

end Segment

/-- A text from a `%` on that begins neither a pair nor a directive, whatever its parts may be. -/
structure Malformed (t : Text) : Prop where
  percent : t.head? = some '%'
  no_pair : ¬ ['%', '%'] <+: t
  no_directive : ∀ d : WrittenDirective, ¬ '%' :: d.body <+: t

theorem malformed_iff {t : Text} : Malformed t ↔ t ≠ [] ∧ ∀ s : Segment, ¬ s.text <+: t := by
  constructor
  · rintro ⟨percent, no_pair, no_directive⟩
    obtain ⟨rest, rfl⟩ := List.head?_eq_some_iff.mp percent
    refine ⟨List.cons_ne_nil _ _, ?_⟩
    intro s
    cases s with
    | plain c other =>
        rintro ⟨_, same⟩
        exact other (List.cons.inj same).1
    | percent => exact no_pair
    | directive d _ => exact no_directive d
  · rintro ⟨nonempty, none⟩
    obtain ⟨c, cs, rfl⟩ := List.exists_cons_of_ne_nil nonempty
    have percent : c = '%' := by
      by_contra other
      exact none (.plain c other) ⟨cs, rfl⟩
    refine ⟨congrArg some percent, none .percent, ?_⟩
    intro d first
    obtain ⟨d', longest, same⟩ := d.exists_longest
    rw [← same] at first
    exact none (.directive d' longest) first

/-- The text is made of the segments, and of a tail if it does not end with the last of them. -/
structure Decomposes (t : Text) (segments : List Segment) (tail : Text) : Prop where
  whole : segments.flatMap Segment.text ++ tail = t
  ends : tail = [] ∨ Malformed tail

theorem Decomposes.not_isPrefix {t tail : Text} {segments : List Segment}
    (h : Decomposes t segments tail) (s : Segment) : ¬ s.text <+: tail := by
  rcases h.ends with rfl | malformed
  · intro first
    exact s.text_ne_nil (List.prefix_nil.mp first)
  · exact (malformed_iff.mp malformed).2 s

theorem decomposes_cons {t tail : Text} {s : Segment} {segments : List Segment} :
    Decomposes t (s :: segments) tail ↔
      ∃ rest, t = s.text ++ rest ∧ Decomposes rest segments tail := by
  constructor
  · intro h
    exact ⟨_, by rw [← h.whole, List.flatMap_cons, List.append_assoc], rfl, h.ends⟩
  · rintro ⟨rest, rfl, h⟩
    exact ⟨by rw [List.flatMap_cons, List.append_assoc, h.whole], h.ends⟩

/-- A text in which no segment comes first is a tail. -/
theorem exists_decomposes (t : Text) : ∃ segments tail, Decomposes t segments tail := by
  induction length : t.length using Nat.strong_induction_on generalizing t with
  | _ n ih =>
      by_cases first : ∃ s : Segment, s.text <+: t
      · obtain ⟨s, rest, rfl⟩ := first
        have shorter : rest.length < n := by
          have positive := List.length_pos_iff.mpr s.text_ne_nil
          rw [← length, List.length_append]
          omega
        obtain ⟨segments, tail, h⟩ := ih rest.length shorter rest rfl
        exact ⟨s :: segments, tail, decomposes_cons.mpr ⟨rest, rfl, h⟩⟩
      · refine ⟨[], t, rfl, ?_⟩
        by_cases empty : t = []
        · exact .inl empty
        · exact .inr (malformed_iff.mpr ⟨empty, not_exists.mp first⟩)

theorem Decomposes.unique {t tail tail' : Text} {segments segments' : List Segment}
    (h : Decomposes t segments tail) (h' : Decomposes t segments' tail') :
    segments = segments' ∧ tail = tail' := by
  induction segments generalizing t segments' with
  | nil =>
      obtain rfl : tail = t := h.whole
      cases segments' with
      | nil =>
          obtain rfl : tail' = tail := h'.whole
          exact ⟨rfl, rfl⟩
      | cons s' segments' =>
          obtain ⟨rest, rfl, _⟩ := decomposes_cons.mp h'
          exact absurd (List.prefix_append s'.text rest) (h.not_isPrefix s')
  | cons s segments ih =>
      obtain ⟨rest, rfl, others⟩ := decomposes_cons.mp h
      cases segments' with
      | nil =>
          obtain rfl : tail' = s.text ++ rest := h'.whole
          exact absurd (List.prefix_append s.text rest) (h'.not_isPrefix s)
      | cons s' segments' =>
          obtain ⟨rest', same, others'⟩ := decomposes_cons.mp h'
          obtain ⟨rfl, rfl⟩ := Segment.append_inj same
          obtain ⟨rfl, rfl⟩ := ih others others'
          exact ⟨rfl, rfl⟩

theorem ofText_cons_of_ne {c : Char} (other : c ≠ '%') (t : Text) :
    Piece.ofText (c :: t) = .char c :: Piece.ofText t := by
  rw [Piece.ofText]
  · exact fun _ same => absurd same other
  · exact other

/-- A percent sign with no second one behind it begins a directive or nothing. -/
theorem ofText_percent {t : Text} (single : t.head? ≠ some '%') :
    Piece.ofText ('%' :: t) = match Directive.scan? t with
      | some (d, rest) => .directive d :: Piece.ofText rest
      | none => ('%' :: t).map Piece.char := by
  rw [Piece.ofText]
  · split <;> simp_all
  · rintro u ⟨⟩
    exact single rfl

/-- A segment is read as its piece, whatever follows it. -/
theorem ofText_append (s : Segment) (rest : Text) :
    Piece.ofText (s.text ++ rest) = s.piece :: Piece.ofText rest := by
  cases s with
  | plain c other => exact ofText_cons_of_ne other rest
  | percent =>
      change Piece.ofText ('%' :: '%' :: rest) = _
      rw [Piece.ofText]
      rfl
  | directive d longest =>
      have single : (d.body ++ rest).head? ≠ some '%' := by
        intro first
        obtain ⟨t, same⟩ := List.head?_eq_some_iff.mp first
        exact d.body_ne_percent longest t same
      change Piece.ofText ('%' :: (d.body ++ rest)) = _
      rw [ofText_percent single, d.scan?_body rest longest]
      rfl

/-- A percent sign begins no segment if there is no second one and the scanner gives up. -/
theorem malformed_cons_iff {t : Text} :
    Malformed ('%' :: t) ↔ t.head? ≠ some '%' ∧ Directive.scan? t = none := by
  constructor
  · rintro ⟨_, no_pair, no_directive⟩
    constructor
    · intro first
      obtain ⟨rest, rfl⟩ := List.head?_eq_some_iff.mp first
      exact no_pair ⟨rest, rfl⟩
    · by_contra some
      obtain ⟨⟨_, rest⟩, scanned⟩ := Option.ne_none_iff_exists'.mp some
      obtain ⟨d, _, rfl, _⟩ := WrittenDirective.scan?_eq_some_iff.mp scanned
      exact no_directive d ⟨rest, rfl⟩
  · rintro ⟨single, none⟩
    refine malformed_iff.mpr ⟨List.cons_ne_nil _ _, ?_⟩
    rintro s ⟨rest, same⟩
    cases s with
    | plain c other => exact other (List.cons.inj same).1
    | percent =>
        obtain ⟨_, rfl⟩ := List.cons.inj same
        exact single rfl
    | directive d longest =>
        obtain ⟨_, rfl⟩ := List.cons.inj same
        exact Option.some_ne_none _ ((d.scan?_body rest longest).symm.trans none)

theorem ofText_of_malformed {t : Text} (h : Malformed t) : Piece.ofText t = t.map Piece.char := by
  obtain ⟨rest, rfl⟩ := List.head?_eq_some_iff.mp h.percent
  obtain ⟨single, none⟩ := malformed_cons_iff.mp h
  rw [ofText_percent single, none]

/-- A template is read as the pieces of its segments, and the characters of its tail. -/
theorem Decomposes.pieces_eq {t : Template} {segments : List Segment} {tail : Text}
    (h : Decomposes t.source segments tail) :
    t.pieces = segments.map Segment.piece ++ tail.map Piece.char := by
  rw [pieces]
  generalize t.source = source at h
  induction segments generalizing source with
  | nil =>
      obtain rfl : tail = source := h.whole
      rcases h.ends with rfl | malformed
      · rw [Piece.ofText]
        rfl
      · exact ofText_of_malformed malformed
  | cons s segments ih =>
      obtain ⟨rest, rfl, others⟩ := decomposes_cons.mp h
      rw [ofText_append, ih rest others]
      rfl

theorem flatMap_render_char (v : Value) (t : Text) :
    (t.map Piece.char).flatMap (Piece.render v) = t := by
  rw [List.flatMap_map]
  exact List.flatMap_singleton' t

theorem Decomposes.render_eq {t : Template} {segments : List Segment} {tail : Text}
    (h : Decomposes t.source segments tail) (v : Value) :
    t.render v = segments.flatMap (Segment.render v) ++ tail := by
  rw [render, h.pieces_eq, List.flatMap_append, flatMap_render_char, List.flatMap_map]
  simp only [Segment.render_piece]

theorem Decomposes.hasDirective_iff {t : Template} {segments : List Segment} {tail : Text}
    (h : Decomposes t.source segments tail) :
    t.hasDirective ↔ ∃ d longest, .directive d longest ∈ segments := by
  rw [hasDirective, h.pieces_eq, List.any_eq_true]
  constructor
  · rintro ⟨p, member, directive⟩
    rcases List.mem_append.mp member with segment | char
    · obtain ⟨s, among, rfl⟩ := List.mem_map.mp segment
      obtain ⟨d, longest, rfl⟩ := Segment.isDirective_piece.mp directive
      exact ⟨d, longest, among⟩
    · obtain ⟨c, _, rfl⟩ := List.mem_map.mp char
      cases directive
  · rintro ⟨d, longest, member⟩
    exact ⟨_, List.mem_append_left _ (List.mem_map_of_mem member), rfl⟩

theorem render_doubled (t : Text) (v : Value) :
    render { source := replaceEach '%' ['%', '%'] t } v = t := by
  have chars : Piece.ofText (replaceEach '%' ['%', '%'] t) = t.map Piece.char := by
    induction t with
    | nil =>
        change Piece.ofText [] = []
        rw [Piece.ofText]
    | cons c cs ih =>
        by_cases percent : c = '%'
        · rw [percent, replaceEach_cons_self]
          exact (ofText_append .percent _).trans (congrArg _ ih)
        · rw [replaceEach_cons_of_ne percent, ofText_cons_of_ne percent, ih]
          rfl
  rw [render, pieces, chars, flatMap_render_char]

/-- Every template comes apart in one way only, into segments and at most one malformed tail. For
every value it is rendered segment by segment, with the tail as it stands, and it depends on the
value if a segment is a directive. A text with its percent signs doubled is rendered as itself. -/
theorem render_by_grammar (t : Template) :
    (∃! parts : List Segment × Text, Decomposes t.source parts.1 parts.2) ∧
      (∀ segments tail, Decomposes t.source segments tail →
        (∀ v, t.render v = segments.flatMap (Segment.render v) ++ tail) ∧
          (t.hasDirective ↔ ∃ d longest, .directive d longest ∈ segments)) ∧
      ∀ v, render { source := replaceEach '%' ['%', '%'] t.source } v = t.source := by
  refine ⟨?_, fun segments tail h => ⟨h.render_eq, h.hasDirective_iff⟩, render_doubled t.source⟩
  obtain ⟨segments, tail, h⟩ := exists_decomposes t.source
  refine ⟨(segments, tail), h, ?_⟩
  rintro ⟨segments', tail'⟩ h'
  obtain ⟨rfl, rfl⟩ := Decomposes.unique h' h
  rfl

/-- A directive, a pair, a blank, and a percent sign at the end. -/
theorem render_by_grammar_tail :
    render { source := "%05d%% %".toList } (.int 7) = "00007% %".toList := by
  let five : WrittenDirective :=
    { flags := ['0'], width := ['5'], precision := none, lengths := [], letter := 'd'
      conversion := .decimal, flags_all := Text.forall_mem_of_all (by decide)
      width_all := Text.forall_mem_of_all (by decide), width_le := by decide
      precision_all := nofun, precision_le := nofun
      lengths_all := nofun, spelled := by decide }
  have malformed : Malformed ['%'] := malformed_cons_iff.mpr (by decide)
  obtain ⟨_, rendered, _⟩ := render_by_grammar { source := "%05d%% %".toList }
  obtain ⟨written, _⟩ := rendered
    [.directive five (by decide), .percent, .plain ' ' (by decide)] ['%']
    ⟨by decide, .inr malformed⟩
  rw [written]
  decide

end Template

end MagicRules
