import MagicRules.Proofs.RuleSet.Ledger
import MagicRules.Proofs.Text.Latin
import MagicRules.Proofs.Text.Lines

/-!
# Magic files in parts

A magic file may be read as a whole or in parts that are cut between lines. What one part leaves
behind for the next is the set of rules and nothing else: the rule that an extension line belongs
to is the last of the set. So the rules and the reports are the same either way. They are also the
same if the lines end in a carriage return and a line feed.
-/

namespace MagicRules.RuleSet

variable {registry : Registry}

/-- Adds the lines of a text to the set that a run has come to, with its reports behind those
there have been. -/
def resume (registry : Registry) (run : RuleSet × List Failure) (t : Text) :
    RuleSet × List Failure :=
  ((run.1.extend registry t).1, run.2 ++ (run.1.extend registry t).2)

theorem pushAll_append (s : RuleSet) (front back : List Text) :
    s.pushAll registry (front ++ back) =
      (((s.pushAll registry front).1.pushAll registry back).1,
        (s.pushAll registry front).2 ++ ((s.pushAll registry front).1.pushAll registry back).2) := by
  induction front generalizing s with
  | nil => rfl
  | cons line rest ih =>
      ext1
      · rw [List.cons_append, pushAll_cons_fst, pushAll_cons_fst, ih]
      · rw [List.cons_append, pushAll_cons_snd, pushAll_cons_snd, pushAll_cons_fst, ih,
          List.append_assoc]

theorem extend_append (s : RuleSet) {a : Text} (h : a = [] ∨ a.getLast? = some '\n') (b : Text) :
    s.extend registry (a ++ b) = resume registry (s.extend registry a) b := by
  rw [extend, Text.lines_append h, pushAll_append]
  rfl

theorem extend_replaceEach (s : RuleSet) {t : Text} (h : '\r' ∉ t) :
    s.extend registry (replaceEach '\n' ['\r', '\n'] t) = s.extend registry t := by
  rw [extend, Text.lines_replaceEach h]
  rfl

/-- Reading goes on behind a part that is empty or ends in a line feed as if there had been one
text, and carriage returns in front of the line feeds of a text without any change nothing. Both
hold for every registry and every set to begin with, and for files given as bytes. -/
theorem parts_and_returns (registry : Registry) (s : RuleSet) :
    (∀ a b : Text, a = [] ∨ a.getLast? = some '\n' →
      s.extend registry (a ++ b) = resume registry (s.extend registry a) b) ∧
    (∀ t : Text, '\r' ∉ t →
      s.extend registry (replaceEach '\n' ['\r', '\n'] t) = s.extend registry t) ∧
    (∀ a b : Bytes, a = [] ∨ a.getLast? = some 0x0a →
      ofBytes (a ++ b) = resume .builtin (ofBytes a) (Text.ofBytes b)) ∧
    (∀ bytes : Bytes, 0x0d ∉ bytes →
      ofBytes (replaceEach 0x0a [0x0d, 0x0a] bytes) = ofBytes bytes) := by
  refine ⟨fun a b => s.extend_append (b := b), fun t => s.extend_replaceEach, ?_, ?_⟩
  · intro a b stops
    have stopsText : Text.ofBytes a = [] ∨ (Text.ofBytes a).getLast? = some '\n' := by
      rcases stops with rfl | feed
      · exact .inl rfl
      · rw [Text.getLast?_ofBytes, feed]
        exact .inr rfl
    rw [ofBytes, Text.ofBytes_append]
    exact empty.extend_append stopsText (Text.ofBytes b)
  · intro bytes notMem
    have notMemText : '\r' ∉ Text.ofBytes bytes := fun member =>
      notMem (Text.mem_ofBytes.mp member)
    rw [ofBytes, Text.ofBytes_replaceEach]
    exact empty.extend_replaceEach notMemText

/-- The second part begins with an extension line, whose rule is in the first part; also as bytes,
and with carriage returns between the two. -/
theorem parts_and_returns_of_attachment :
    ("0 byte 1\n".toList.getLast? = some '\n' ∧
      empty.extend .builtin ("0 byte 1\n".toList ++ "!:mime a/b".toList) =
        resume .builtin (empty.extend .builtin "0 byte 1\n".toList) "!:mime a/b".toList) ∧
    ('\r' ∉ "0 byte 1\n!:mime a/b".toList ∧
      empty.extend .builtin (replaceEach '\n' ['\r', '\n'] "0 byte 1\n!:mime a/b".toList) =
        empty.extend .builtin "0 byte 1\n!:mime a/b".toList) ∧
    (([0x30, 0x0a] : Bytes).getLast? = some 0x0a ∧
      ofBytes ([0x30, 0x0a] ++ [0x21, 0x3a]) =
        resume .builtin (ofBytes [0x30, 0x0a]) (Text.ofBytes [0x21, 0x3a])) ∧
    (0x0d ∉ ([0x30, 0x0a, 0x21] : Bytes) ∧
      ofBytes (replaceEach 0x0a [0x0d, 0x0a] [0x30, 0x0a, 0x21]) =
        ofBytes [0x30, 0x0a, 0x21]) := by
  obtain ⟨parts, returns, byteParts, byteReturns⟩ := parts_and_returns .builtin empty
  exact ⟨⟨by decide, parts _ _ (.inr (by decide))⟩, ⟨by decide, returns _ (by decide)⟩,
    ⟨by decide, byteParts _ _ (.inr (by decide))⟩, ⟨by decide, byteReturns _ (by decide)⟩⟩

end MagicRules.RuleSet
