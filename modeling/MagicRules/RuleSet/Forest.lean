import MagicRules.RuleSet

/-!
# The trees of a rule set

Only the levels of the rules say how they belong together: a rule is below the nearest rule in
front of it that has a smaller level. If that level is smaller by more than one, a level is
missing between the two, and the rule is left without a parent.

The parents are found in one sweep, with the rules on a stack that may still get children:
their levels grow from the bottom to the top.
-/

namespace MagicRules

/-- A rule that may still get children. -/
structure Ancestor where
  level : UInt32
  index : Nat
  deriving DecidableEq, Repr

/-- A rule in the trees, with the rule above it. -/
structure Node where
  index : Nat
  parent : Option Nat
  deriving DecidableEq, Repr

/-- Trees by the indices of their rules; an edge goes from a parent to its child. -/
structure Graph where
  nodes : List Nat
  edges : List (Nat × Nat)
  deriving DecidableEq, Repr

namespace Forest

/-- What is left of a stack when a rule of this level comes, which ends those that are as deep. -/
def above (level : UInt32) (stack : List Ancestor) : List Ancestor :=
  stack.dropWhile (level ≤ ·.level)

/-- The parent of a rule of this level, if the rule that is left on top is one level up. -/
def parent? (level : UInt32) (stack : List Ancestor) : Option Nat :=
  match above level stack with
  | nearest :: _ => if nearest.level + 1 = level then some nearest.index else none
  | [] => none

def put (level : UInt32) (index : Nat) (stack : List Ancestor) : List Ancestor :=
  { level, index } :: above level stack

/-- The nodes of the rules with these levels, the first of which has index `next`. -/
def nodesFrom (next : Nat) (stack : List Ancestor) : List UInt32 → List Node
  | [] => []
  | level :: levels =>
    { index := next, parent := parent? level stack }
      :: nodesFrom (next + 1) (put level next stack) levels

end Forest

namespace RuleSet

def levels (s : RuleSet) : List UInt32 := s.rules.toList.map (·.level)

def nodes (s : RuleSet) : List Node := Forest.nodesFrom 0 [] s.levels

def parents (s : RuleSet) : List (Option Nat) := s.nodes.map (·.parent)

/-- Parent and child of each edge, in the order of the children. -/
def edges (s : RuleSet) : List (Nat × Nat) :=
  s.nodes.filterMap fun node => node.parent.map (·, node.index)

def graph (s : RuleSet) : Graph := { nodes := s.nodes.map (·.index), edges := s.edges }

/-- The rules of level zero. -/
def roots (s : RuleSet) : List Nat :=
  s.levels.zipIdx.filterMap fun (level, i) => if level = 0 then some i else none

def parentless (s : RuleSet) : List Nat :=
  s.nodes.filterMap fun node => if node.parent.isNone then some node.index else none

end RuleSet

end MagicRules
