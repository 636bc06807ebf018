import MagicRules.Proofs.RuleSet.Ledger

/-!
# Reading one line at a time

Lines can be read with no set at all, with only the rule at hand that the line before has left. A
reader does this and puts a rule away when the next one comes; extension lines change it until
then. A set keeps all rules and finds the last one for itself.

Both come to the same rules and the same reports. The reader is the set seen from its end
(`Reader.ofSet`): one line takes the reader of a set to the reader of the set behind that line
(`step_ofSet`), and so does a run. Only a set passes over blank lines and comments.
-/

namespace MagicRules

namespace Reading

variable {registry : Registry} {line : Text}

/-- An extension line without a rule before it is not even looked at. -/
theorem ofLine_orphan (extension : Line.isExtension line) :
    ofLine registry none line = ignored := by
  simp only [ofLine, extension]

theorem ofLine_rule {r : Rule} (h : Line.read registry line = .ok (.rule r))
    (previous : Option Rule) : ofLine registry previous line = rule r := by
  have other : Line.isExtension line = false := by simpa using (Line.fields_of_read h).1
  cases previous <;> simp only [ofLine, other, h]

theorem ofLine_extension {e : Extension} (h : Line.read registry line = .ok (.extension e))
    (r : Rule) : ofLine registry (some r) line = attached (e.apply r) := by
  simp only [ofLine, h]

theorem ofLine_error {cause : LineError} (h : Line.read registry line = .error cause)
    {previous : Option Rule} (seen : ¬ (previous = none ∧ Line.isExtension line)) :
    ofLine registry previous line = failed cause := by
  cases previous with
  | none =>
      have other : Line.isExtension line = false := by simpa using seen
      simp only [ofLine, other, h]
  | some r => simp only [ofLine, h]

end Reading

/-- What a reader has in hand between two lines. -/
structure Reader where
  /-- The rules that no line can change any more. -/
  done : List Rule
  /-- The rule of the last line that gave one. -/
  previous : Option Rule

namespace Reader

def start : Reader := { done := [], previous := none }

def rules (s : Reader) : List Rule := s.done ++ s.previous.toList

/-- Reads a line after the rule at hand, and says what is reported. -/
def step (registry : Registry) (s : Reader) (line : Text) : Reader × List Failure :=
  match Reading.ofLine registry s.previous line with
  | .rule r => ({ done := s.rules, previous := some r }, [])
  | .attached r => ({ s with previous := some r }, [])
  | .ignored => (s, [])
  | .failed cause => (s, [{ line, cause }])

/-- Reads lines one after the other. -/
def run (registry : Registry) : Reader → List Text → Reader × List Failure
  | s, [] => (s, [])
  | s, line :: rest =>
    let (next, reported) := s.step registry line
    let (last, failures) := next.run registry rest
    (last, reported ++ failures)

/-- The reader that has come to the rules of a set. -/
def ofSet (s : RuleSet) : Reader := { done := s.rules.pop.toList, previous := s.rules.back? }

theorem ofSet_empty : ofSet RuleSet.empty = start := rfl

theorem ofSet_push (front : Array Rule) (r : Rule) :
    ofSet { rules := front.push r } = { done := front.toList, previous := some r } := by
  simp [ofSet]

theorem previous_ofSet_eq_none {s : RuleSet} : (ofSet s).previous = none ↔ s.rules = #[] := by
  simp [ofSet]

theorem rules_ofSet (s : RuleSet) : (ofSet s).rules = s.rules.toList := by
  cases last : s.rules.back? with
  | none =>
      have empty : s.rules = #[] := by simpa using last
      simp [rules, ofSet, empty]
  | some r =>
      obtain ⟨front, shape⟩ := Array.back?_eq_some_iff.mp last
      simp [rules, ofSet, shape]

variable {registry : Registry} {line : Text}

/-- A line that is neither blank nor a comment does to the reader of a set what it does to the
set, and the same is reported. -/
theorem step_ofSet (s : RuleSet) (busy : ¬ RuleSet.isIdle line) :
    (ofSet s).step registry line =
      (ofSet (s.step registry line).set, (s.step registry line).reported) := by
  by_cases orphan : s.rules = #[] ∧ Line.isExtension line
  · have none := previous_ofSet_eq_none.mpr orphan.1
    rw [RuleSet.step_of_orphan orphan.1 orphan.2, step, none, Reading.ofLine_orphan orphan.2]
  have seen : ¬ ((ofSet s).previous = none ∧ Line.isExtension line) := by
    rwa [previous_ofSet_eq_none]
  rcases RuleSet.step_cases registry s line with
    ⟨r, ⟨_, read⟩, effect⟩ | ⟨e, front, r, read, last, effect⟩ | ⟨cause, effect⟩ |
      ⟨cause, ⟨_, _, read⟩, effect⟩ <;>
    rw [effect, step]
  · rw [Reading.ofLine_rule read, rules_ofSet, ofSet_push]
  · obtain ⟨_⟩ := s
    subst last
    rw [ofSet_push, ofSet_push, Reading.ofLine_extension read]
  · exact absurd cause (not_or.mpr ⟨busy, orphan⟩)
  · rw [Reading.ofLine_error read seen]

theorem run_ofSet (s : RuleSet) {lines : List Text}
    (busy : ∀ line ∈ lines, ¬ RuleSet.isIdle line) :
    (ofSet s).run registry lines =
      (ofSet (s.pushAll registry lines).1, (s.pushAll registry lines).2) := by
  induction lines generalizing s with
  | nil => rfl
  | cons line rest ih =>
      have here : ¬ RuleSet.isIdle line := busy line List.mem_cons_self
      have behind : ∀ line ∈ rest, ¬ RuleSet.isIdle line := fun line member =>
        busy line (List.mem_cons_of_mem _ member)
      rw [run, step_ofSet s here, RuleSet.pushAll_cons_fst, RuleSet.pushAll_cons_snd]
      dsimp only
      rw [ih (s.step registry line).set behind]

/-- The reader and the set agree. Over lines none of which is blank or a comment they come to the
same rules, and the same lines are reported with the same causes in the same order. In front of
all rules, an extension line goes without a report in both, whether it is well formed or not, and
changes nothing; behind a rule, a malformed one is reported once in both. -/
theorem reader_agrees_with_set (registry : Registry) :
    (∀ lines : List Text, (∀ line ∈ lines, ¬ RuleSet.isIdle line) →
      (start.run registry lines).1.rules =
        (RuleSet.empty.pushAll registry lines).1.rules.toList ∧
      (start.run registry lines).2 = (RuleSet.empty.pushAll registry lines).2) ∧
    (∀ line : Text, Line.isExtension line →
      start.step registry line = (start, []) ∧
      RuleSet.empty.step registry line =
        { set := RuleSet.empty, outcome := .skipped, reported := [] }) ∧
    (∀ (front : Array Rule) (r : Rule) (line : Text) (cause : LineError),
      Line.isExtension line → Line.read registry line = .error cause →
      step registry { done := front.toList, previous := some r } line =
        ({ done := front.toList, previous := some r }, [{ line, cause }]) ∧
      RuleSet.step registry { rules := front.push r } line =
        { set := { rules := front.push r }, outcome := .failed cause
          reported := [{ line, cause }] }) := by
  refine ⟨?_, ?_, ?_⟩
  · intro lines busy
    rw [← ofSet_empty, run_ofSet RuleSet.empty busy, rules_ofSet]
    exact ⟨rfl, rfl⟩
  · intro line extension
    refine ⟨?_, RuleSet.step_of_orphan rfl extension⟩
    rw [step, start, Reading.ofLine_orphan extension]
  · intro front r line cause extension read
    have busy : ¬ RuleSet.isIdle line := RuleSet.not_isIdle_of_isExtension extension
    have effect := RuleSet.step_of_error (s := { rules := front.push r }) read busy (by simp)
    refine ⟨?_, effect⟩
    have reader := @step_ofSet registry line { rules := front.push r } busy
    rw [effect, ofSet_push] at reader
    exact reader

/-- The same malformed extension line goes unseen in front of a rule and is reported behind it. -/
theorem reader_agrees_with_set_on_extensions :
    ((∀ line ∈ ["!:ext".toList, "0 byte 1".toList, "!:ext".toList], ¬ RuleSet.isIdle line) ∧
      (start.run .builtin ["!:ext".toList, "0 byte 1".toList, "!:ext".toList]).2 =
        (RuleSet.empty.pushAll .builtin
          ["!:ext".toList, "0 byte 1".toList, "!:ext".toList]).2) ∧
    (Line.isExtension "!:ext".toList ∧
      start.step .builtin "!:ext".toList = (start, [])) ∧
    (Line.read .builtin "!:ext".toList = .error .extensionFields ∧
      ∀ r : Rule, (RuleSet.step .builtin { rules := #[].push r } "!:ext".toList).reported =
        [{ line := "!:ext".toList, cause := .extensionFields }]) := by
  have busy : ∀ line ∈ ["!:ext".toList, "0 byte 1".toList, "!:ext".toList],
      ¬ RuleSet.isIdle line := by decide
  have extension : Line.isExtension "!:ext".toList := by decide
  have malformed : Line.read .builtin "!:ext".toList = .error .extensionFields := by cbv
  obtain ⟨runs, orphans, reports⟩ := reader_agrees_with_set .builtin
  refine ⟨⟨busy, (runs _ busy).2⟩, ⟨extension, (orphans _ extension).1⟩, malformed, ?_⟩
  intro r
  rw [(reports #[] r _ _ extension malformed).2]

end Reader

end MagicRules
