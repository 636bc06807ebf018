import MagicRules.Line
import MagicRules.Text.Latin
import MagicRules.Text.Lines

/-!
# Rule sets

The rules of one or more magic files, in the order of their lines. Lines are added one by one.
A line that cannot be read changes nothing; it is reported with its cause, and reading goes on.
-/

namespace MagicRules

structure RuleSet where
  rules : Array Rule
  deriving DecidableEq, Repr

inductive Outcome where
  | added (index : Nat)
  | attached (index : Nat)
  | skipped
  | failed (cause : LineError)
  deriving DecidableEq, Repr

structure Failure where
  line : Text
  cause : LineError
  deriving DecidableEq, Repr

/-- What adding a line comes to: the rules afterwards, what became of the line, and what is
reported of it. -/
structure Step where
  set : RuleSet
  outcome : Outcome
  reported : List Failure
  deriving DecidableEq, Repr

namespace RuleSet

def empty : RuleSet := { rules := #[] }

def size (s : RuleSet) : Nat := s.rules.size

/-- Whether a line is blank or a comment. -/
def isIdle (line : Text) : Bool :=
  match line.trimStart with
  | [] => true
  | c :: _ => c = '#'

/-- Attaches an extension to the last rule; without one there is nothing to attach it to. -/
def attach (s : RuleSet) (e : Extension) : RuleSet × Outcome :=
  match s.rules.back? with
  | some r => ({ rules := s.rules.pop.push (e.apply r) }, .attached (s.size - 1))
  | none => (s, .skipped)

/-- Adds a line, and reports it if it cannot be read. Before the first rule extension lines are
skipped, and malformed ones are not reported there. -/
def step (registry : Registry) (s : RuleSet) (line : Text) : Step :=
  if isIdle line then { set := s, outcome := .skipped, reported := [] }
  else match Line.read registry line with
    | .ok (.rule r) =>
      { set := { rules := s.rules.push r }, outcome := .added s.size, reported := [] }
    | .ok (.extension e) =>
      let (set, outcome) := s.attach e
      { set, outcome, reported := [] }
    | .error cause =>
      if s.rules.isEmpty && Line.isExtension line then
        { set := s, outcome := .skipped, reported := [] }
      else { set := s, outcome := .failed cause, reported := [{ line, cause }] }

def push (registry : Registry) (s : RuleSet) (line : Text) : RuleSet × Outcome :=
  let step := s.step registry line
  (step.set, step.outcome)

/-- Adds lines, and collects what is reported of them. -/
def pushAll (registry : Registry) : RuleSet → List Text → RuleSet × List Failure
  | s, [] => (s, [])
  | s, line :: rest =>
    let step := s.step registry line
    let (s, failures) := step.set.pushAll registry rest
    (s, step.reported ++ failures)

def extend (registry : Registry) (s : RuleSet) (t : Text) : RuleSet × List Failure :=
  s.pushAll registry t.lines

def ofText (t : Text) : RuleSet × List Failure := empty.extend .builtin t

/-- The rules of a magic file that is given as bytes, each of them one character. -/
def ofBytes (bytes : Bytes) : RuleSet × List Failure := ofText (Text.ofBytes bytes)

end RuleSet

end MagicRules
