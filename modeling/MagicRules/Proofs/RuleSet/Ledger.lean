import MagicRules.Proofs.Line
import MagicRules.RuleSet
import Mathlib.Data.List.Basic

/-!
# What lines do to a rule set

`step_cases` lists all that a single line can do: add a rule behind the others, attach
something to the last one, or leave the set alone, with one report or without any. Everything
else about runs is derived from it, and no later proof opens `step`. Which of them it is depends
on the line and on whether there is a rule in front of it (`outcome_eq_iff`).

A run is kept in a ledger, each line with what became of it. The size of the set, the reports
and the lines that matter to the set can all be read off there. In particular a line that
fails is inert, also between a rule and the extension lines behind it.
-/

namespace MagicRules

/-- A rule without what extension lines have attached to it. -/
def Rule.bare (r : Rule) : Rule := { r with mime := none, extensions := [], apple := none }

@[simp] theorem Extension.bare_apply (e : Extension) (r : Rule) : (e.apply r).bare = r.bare := by
  cases e <;> rfl

namespace Outcome

def isAdded : Outcome → Bool
  | added _ => true
  | _ => false

def addedAt? : Outcome → Option Nat
  | added i => some i
  | _ => none

/-- Whether the line has changed the rules, or at least their last one. -/
def isChange : Outcome → Bool
  | added _ | attached _ => true
  | _ => false

/-- The failure that a line with this outcome is. -/
def failure? (line : Text) : Outcome → Option Failure
  | failed cause => some { line, cause }
  | _ => none

end Outcome

namespace RuleSet

/-- The lines of a run, each with what became of it. -/
def ledger (registry : Registry) : RuleSet → List Text → List (Text × Outcome)
  | _, [] => []
  | s, line :: rest =>
    (line, (s.step registry line).outcome) :: (s.step registry line).set.ledger registry rest

/-- The books of one line: what the outcome says about the set afterwards and the reports. -/
def Accounted (s : RuleSet) (line : Text) (step : Step) : Prop :=
  match step.outcome with
  | .added i => i = s.size ∧ (∃ r, step.set.rules = s.rules.push r) ∧ step.reported = []
  | .attached i =>
    i + 1 = s.size ∧ step.set.size = s.size ∧ (∀ j < i, step.set.rules[j]? = s.rules[j]?) ∧
      step.set.rules[i]?.map Rule.bare = s.rules[i]?.map Rule.bare ∧ step.reported = []
  | .skipped => step.set = s ∧ step.reported = []
  | .failed cause => step.set = s ∧ step.reported = [{ line, cause }]

/-- What is to become of a line. A rule is added if the line is neither blank nor a comment, and
extension lines in front of all rules are passed over, readable or not. -/
def Due (registry : Registry) (s : RuleSet) (line : Text) : Outcome → Prop
  | .added i => (¬ isIdle line ∧ ∃ r, Line.read registry line = .ok (.rule r)) ∧ i = s.size
  | .attached i => (∃ e, Line.read registry line = .ok (.extension e)) ∧ i + 1 = s.size
  | .skipped => isIdle line ∨ s.rules = #[] ∧ Line.isExtension line
  | .failed cause =>
    ¬ isIdle line ∧ ¬ (s.rules = #[] ∧ Line.isExtension line) ∧
      Line.read registry line = .error cause

/-- An extension line is neither blank nor a comment. -/
theorem not_isIdle_of_isExtension {line : Text} (h : Line.isExtension line) : ¬ isIdle line := by
  unfold Line.isExtension at h
  split at h
  · have mark : isBlank '!' = false := by decide
    simp [isIdle, Text.trimStart, mark]
  · cases h

/-- In front of all rules there is nothing to attach to, and nothing is reported. -/
theorem step_of_orphan {registry : Registry} {s : RuleSet} {line : Text} (empty : s.rules = #[])
    (extension : Line.isExtension line) :
    s.step registry line = { set := s, outcome := .skipped, reported := [] } := by
  rw [step, if_neg (not_isIdle_of_isExtension extension)]
  cases read : Line.read registry line with
  | ok content =>
      cases content with
      | rule r => exact absurd extension (Line.fields_of_read read).1
      | extension e => simp [attach, empty]
  | error cause => simp [empty, extension]

theorem step_of_idle {registry : Registry} {s : RuleSet} {line : Text} (idle : isIdle line) :
    s.step registry line = { set := s, outcome := .skipped, reported := [] } := if_pos idle

theorem step_of_rule {registry : Registry} {s : RuleSet} {line : Text} {r : Rule}
    (read : Line.read registry line = .ok (.rule r)) (busy : ¬ isIdle line) :
    s.step registry line =
      { set := { rules := s.rules.push r }, outcome := .added s.size, reported := [] } := by
  rw [step, if_neg busy, read]

theorem step_of_extension {registry : Registry} {s : RuleSet} {line : Text} {e : Extension}
    {front : Array Rule} {r : Rule} (read : Line.read registry line = .ok (.extension e))
    (last : s.rules = front.push r) :
    s.step registry line =
      { set := { rules := front.push (e.apply r) }
        outcome := .attached front.size, reported := [] } := by
  have busy := not_isIdle_of_isExtension (Line.isExtension_of_read read)
  simp only [step, busy, read, attach, size, last, Array.back?_push, Array.pop_push,
    Array.size_push, Nat.add_sub_cancel]
  rfl

theorem step_of_error {registry : Registry} {s : RuleSet} {line : Text} {cause : LineError}
    (read : Line.read registry line = .error cause) (busy : ¬ isIdle line)
    (seen : ¬ (s.rules = #[] ∧ Line.isExtension line)) :
    s.step registry line = { set := s, outcome := .failed cause, reported := [{ line, cause }] } := by
  have reports : ¬ (s.rules.isEmpty && Line.isExtension line) = true := by
    simpa using seen
  rw [step, if_neg busy, read]
  exact if_neg reports

/-- All that a line can do to a set of rules. -/
theorem step_cases (registry : Registry) (s : RuleSet) (line : Text) :
    (∃ r, (¬ isIdle line ∧ Line.read registry line = .ok (.rule r)) ∧
      s.step registry line =
        { set := { rules := s.rules.push r }, outcome := .added s.size, reported := [] }) ∨
    (∃ (e : Extension) (front : Array Rule) (r : Rule),
      Line.read registry line = .ok (.extension e) ∧ s.rules = front.push r ∧
      s.step registry line =
        { set := { rules := front.push (e.apply r) }
          outcome := .attached front.size, reported := [] }) ∨
    ((isIdle line ∨ s.rules = #[] ∧ Line.isExtension line) ∧
      s.step registry line = { set := s, outcome := .skipped, reported := [] }) ∨
    (∃ cause, (¬ isIdle line ∧ ¬ (s.rules = #[] ∧ Line.isExtension line) ∧
        Line.read registry line = .error cause) ∧
      s.step registry line =
        { set := s, outcome := .failed cause, reported := [{ line, cause }] }) := by
  by_cases idle : isIdle line
  · exact .inr (.inr (.inl ⟨.inl idle, step_of_idle idle⟩))
  by_cases orphan : s.rules = #[] ∧ Line.isExtension line
  · exact .inr (.inr (.inl ⟨.inr orphan, step_of_orphan orphan.1 orphan.2⟩))
  cases read : Line.read registry line with
  | ok content =>
      cases content with
      | rule r => exact .inl ⟨r, ⟨idle, rfl⟩, step_of_rule read idle⟩
      | extension e =>
          have nonempty : s.rules ≠ #[] := fun empty =>
            orphan ⟨empty, Line.isExtension_of_read read⟩
          obtain ⟨front, r, last⟩ := Array.eq_push_of_size_ne_zero (by simpa using nonempty)
          exact .inr (.inl ⟨e, front, r, rfl, last, step_of_extension read last⟩)
  | error cause =>
      exact .inr (.inr (.inr ⟨cause, ⟨idle, orphan, rfl⟩, step_of_error read idle orphan⟩))

/-- The line, and whether there is a rule in front of it, decide about the outcome. -/
theorem outcome_eq_iff {registry : Registry} {s : RuleSet} {line : Text} {outcome : Outcome} :
    (s.step registry line).outcome = outcome ↔ Due registry s line outcome := by
  constructor
  · rintro rfl
    rcases step_cases registry s line with
      ⟨r, added, effect⟩ | ⟨e, front, r, read, last, effect⟩ | ⟨passed, effect⟩ |
        ⟨cause, failed, effect⟩ <;>
      rw [effect]
    · exact ⟨⟨added.1, r, added.2⟩, rfl⟩
    · exact ⟨⟨e, read⟩, by simp [size, last]⟩
    · exact passed
    · exact failed
  · intro due
    cases outcome with
    | added i =>
        obtain ⟨⟨busy, r, read⟩, rfl⟩ := due
        rw [step_of_rule read busy]
    | attached i =>
        obtain ⟨⟨e, read⟩, size⟩ := due
        have nonempty : s.rules.size ≠ 0 := by
          rw [RuleSet.size] at size
          omega
        obtain ⟨front, r, last⟩ := Array.eq_push_of_size_ne_zero nonempty
        rw [RuleSet.size, last, Array.size_push] at size
        rw [step_of_extension read last, Nat.succ.inj size]
    | skipped =>
        rcases due with idle | orphan
        · rw [step_of_idle idle]
        · rw [step_of_orphan orphan.1 orphan.2]
    | failed cause =>
        obtain ⟨busy, seen, read⟩ := due
        rw [step_of_error read busy seen]

theorem step_accounted (registry : Registry) (s : RuleSet) (line : Text) :
    Accounted s line (s.step registry line) := by
  rcases step_cases registry s line with
    ⟨r, _, effect⟩ | ⟨e, front, r, _, last, effect⟩ | ⟨_, effect⟩ | ⟨cause, _, effect⟩
  · rw [effect]
    exact ⟨rfl, ⟨r, rfl⟩, rfl⟩
  · rw [effect]
    refine ⟨?_, ?_, ?_, ?_, rfl⟩
    · simp [size, last]
    · simp [size, last]
    · intro j hj
      simp [last, Array.getElem?_push, Nat.ne_of_lt hj]
    · simp [last]
  · rw [effect]
    exact ⟨rfl, rfl⟩
  · rw [effect]
    exact ⟨rfl, rfl⟩

theorem size_step (registry : Registry) (s : RuleSet) (line : Text) :
    (s.step registry line).set.size =
      s.size + if (s.step registry line).outcome.isAdded then 1 else 0 := by
  rcases step_cases registry s line with
    ⟨r, _, effect⟩ | ⟨e, front, r, _, last, effect⟩ | ⟨_, effect⟩ | ⟨cause, _, effect⟩ <;>
    rw [effect]
  · simp [size, Outcome.isAdded]
  · simp [size, Outcome.isAdded, last]
  · rfl
  · rfl

theorem reported_step (registry : Registry) (s : RuleSet) (line : Text) :
    (s.step registry line).reported =
      ((s.step registry line).outcome.failure? line).toList := by
  rcases step_cases registry s line with
    ⟨r, _, effect⟩ | ⟨e, front, r, _, last, effect⟩ | ⟨_, effect⟩ | ⟨cause, _, effect⟩ <;>
    rw [effect] <;> rfl

/-- A line that is skipped or fails is inert. -/
theorem set_step_of_not_isChange {registry : Registry} {s : RuleSet} {line : Text}
    (h : (s.step registry line).outcome.isChange = false) : (s.step registry line).set = s := by
  rcases step_cases registry s line with
    ⟨r, _, effect⟩ | ⟨e, front, r, _, last, effect⟩ | ⟨_, effect⟩ | ⟨cause, _, effect⟩ <;>
    rw [effect] at h ⊢
  · cases h
  · cases h

variable {registry : Registry}

@[simp] theorem pushAll_nil (s : RuleSet) : s.pushAll registry [] = (s, []) := rfl

@[simp] theorem pushAll_cons_fst (s : RuleSet) (line : Text) (rest : List Text) :
    (s.pushAll registry (line :: rest)).1 =
      ((s.step registry line).set.pushAll registry rest).1 := rfl

@[simp] theorem pushAll_cons_snd (s : RuleSet) (line : Text) (rest : List Text) :
    (s.pushAll registry (line :: rest)).2 =
      (s.step registry line).reported ++ ((s.step registry line).set.pushAll registry rest).2 :=
  rfl

@[simp] theorem ledger_nil (s : RuleSet) : s.ledger registry [] = [] := rfl

@[simp] theorem ledger_cons (s : RuleSet) (line : Text) (rest : List Text) :
    s.ledger registry (line :: rest) =
      (line, (s.step registry line).outcome) ::
        (s.step registry line).set.ledger registry rest := rfl

/-- What holds of rules as they are read, and stays when something is attached, stays true of all
rules of a set when a line is added. -/
theorem forall_mem_step {P : Rule → Prop}
    (read : ∀ line r, Line.read registry line = .ok (.rule r) → P r)
    (apply : ∀ (e : Extension) (r : Rule), P r → P (e.apply r)) {s : RuleSet}
    (h : ∀ r ∈ s.rules, P r) (line : Text) :
    ∀ r ∈ (s.step registry line).set.rules, P r := by
  rcases step_cases registry s line with
    ⟨r, ok, effect⟩ | ⟨e, front, r, _, last, effect⟩ | ⟨_, effect⟩ | ⟨cause, _, effect⟩ <;>
    rw [effect]
  · intro q member
    rcases Array.mem_push.mp member with old | rfl
    · exact h q old
    · exact read line q ok.2
  · rw [last] at h
    intro q member
    rcases Array.mem_push.mp member with old | rfl
    · exact h q (Array.mem_push_of_mem r old)
    · exact apply e r (h r Array.mem_push_self)
  · exact h
  · exact h

theorem forall_mem_pushAll {P : Rule → Prop}
    (read : ∀ line r, Line.read registry line = .ok (.rule r) → P r)
    (apply : ∀ (e : Extension) (r : Rule), P r → P (e.apply r)) {s : RuleSet}
    (h : ∀ r ∈ s.rules, P r) (lines : List Text) :
    ∀ r ∈ (s.pushAll registry lines).1.rules, P r := by
  induction lines generalizing s with
  | nil => exact h
  | cons line rest ih => exact ih (forall_mem_step read apply h line)

theorem size_pushAll (s : RuleSet) (lines : List Text) :
    (s.pushAll registry lines).1.size =
      s.size + (s.ledger registry lines).countP (·.2.isAdded) := by
  induction lines generalizing s with
  | nil => rfl
  | cons line rest ih =>
      rw [pushAll_cons_fst, ih, size_step, ledger_cons, List.countP_cons, Nat.add_assoc]
      congr 1
      exact Nat.add_comm _ _

theorem reported_pushAll (s : RuleSet) (lines : List Text) :
    (s.pushAll registry lines).2 =
      (s.ledger registry lines).filterMap fun entry => entry.2.failure? entry.1 := by
  induction lines generalizing s with
  | nil => rfl
  | cons line rest ih =>
      rw [pushAll_cons_snd, ih, reported_step, ledger_cons]
      cases h : (s.step registry line).outcome.failure? line with
      | none => simp [h]
      | some failure => simp [h]

/-- Only the lines that change something are needed to get the same set again. -/
theorem pushAll_changes (s : RuleSet) (lines : List Text) :
    (s.pushAll registry (((s.ledger registry lines).filter (·.2.isChange)).map (·.1))).1 =
      (s.pushAll registry lines).1 := by
  induction lines generalizing s with
  | nil => rfl
  | cons line rest ih =>
      cases h : (s.step registry line).outcome.isChange with
      | true => simpa [h] using ih (s.step registry line).set
      | false => simpa [h, set_step_of_not_isChange h] using ih s

/-- Every line is in the books: a rule is added behind the others, the last rule gets something
attached, or the set is left alone, and a line is reported exactly if it fails. Which of these it is
is known from the line and from whether there is a rule in front of it. So over a run the set grows
by the lines added, the reports are the failures in the order of their lines, and the lines that
changed something give the same set without the others. -/
theorem every_line_accounted_for (registry : Registry) (s : RuleSet) :
    (∀ line, Accounted s line (s.step registry line) ∧
      ∀ outcome, (s.step registry line).outcome = outcome ↔ Due registry s line outcome) ∧
    ∀ lines,
      (s.pushAll registry lines).1.size =
        s.size + (s.ledger registry lines).countP (·.2.isAdded) ∧
      (s.pushAll registry lines).2 =
        ((s.ledger registry lines).filterMap fun entry => entry.2.failure? entry.1) ∧
      (s.pushAll registry (((s.ledger registry lines).filter (·.2.isChange)).map (·.1))).1 =
        (s.pushAll registry lines).1 :=
  ⟨fun line => ⟨step_accounted registry s line, fun _ => outcome_eq_iff⟩,
    fun lines => ⟨size_pushAll s lines, reported_pushAll s lines, pushAll_changes s lines⟩⟩

/-- A run with each of the outcomes: the line that fails is the only one reported, and without it
and the comment the set is the same. -/
theorem every_line_accounted_for_gif :
    let gif := "0 string GIF8 GIF image".toList
    let mime := "!:mime image/gif".toList
    let comment := "# 0 byte 1".toList
    let bogus := "0 bogus 1".toList
    let cause : LineError := .unknownType "bogus".toList
    let s := (empty.step .builtin gif).set
    (Accounted empty gif (empty.step .builtin gif) ∧ Due .builtin empty gif (.added 0)) ∧
    (Accounted s mime (s.step .builtin mime) ∧ Due .builtin s mime (.attached 0)) ∧
    (Accounted s comment (s.step .builtin comment) ∧ Due .builtin s comment .skipped) ∧
    (Accounted s bogus (s.step .builtin bogus) ∧ Due .builtin s bogus (.failed cause)) ∧
    empty.ledger .builtin [gif, mime, comment, bogus] =
      [(gif, .added 0), (mime, .attached 0), (comment, .skipped), (bogus, .failed cause)] ∧
    (empty.pushAll .builtin [gif, mime, comment, bogus]).1.size = 1 ∧
    (empty.pushAll .builtin [gif, mime, comment, bogus]).2 = [{ line := bogus, cause }] ∧
    (empty.pushAll .builtin [gif, mime]).1 =
      (empty.pushAll .builtin [gif, mime, comment, bogus]).1 := by
  intro gif mime comment bogus cause s
  have ledger : empty.ledger .builtin [gif, mime, comment, bogus] =
      [(gif, .added 0), (mime, .attached 0), (comment, .skipped), (bogus, .failed cause)] := by
    decide +kernel
  have outcomes : (empty.step .builtin gif).outcome = .added 0 ∧
      (s.step .builtin mime).outcome = .attached 0 ∧
      (s.step .builtin comment).outcome = .skipped ∧
      (s.step .builtin bogus).outcome = .failed cause := by
    decide +kernel
  obtain ⟨first, run⟩ := every_line_accounted_for .builtin empty
  obtain ⟨behind, -⟩ := every_line_accounted_for .builtin s
  obtain ⟨added, attached, skipped, failed⟩ := outcomes
  obtain ⟨size, reported, changes⟩ := run [gif, mime, comment, bogus]
  rw [ledger] at size reported changes
  exact ⟨⟨(first gif).1, ((first gif).2 _).mp added⟩,
    ⟨(behind mime).1, ((behind mime).2 _).mp attached⟩,
    ⟨(behind comment).1, ((behind comment).2 _).mp skipped⟩,
    ⟨(behind bogus).1, ((behind bogus).2 _).mp failed⟩, ledger, size, reported, changes⟩

end RuleSet

end MagicRules
