import MagicRules.RuleSet.Forest
import Mathlib.Data.List.Basic

/-!
# The trees are those that the levels say

The sweep over the levels keeps a stack. `Represents` says what is on it: rules with their own
levels, which fall from the top to the bottom, and behind every rule one on the stack that is
no deeper. So the stack has just the rules that can be seen from the end, and the topmost one
of smaller level is the nearest such rule in front (`head?_above_iff`).

Levels are 32-bit words, and the sweep adds one to a level on the stack. It does so only to a
level that is smaller than another one, so the sum is never cut off.
-/

namespace MagicRules

namespace Forest

/-- The stack that is left when the sweep has gone over these levels. -/
def stackFrom (next : Nat) (stack : List Ancestor) : List UInt32 → List Ancestor
  | [] => stack
  | level :: levels => stackFrom (next + 1) (put level next stack) levels

/-- The stack behind the rules with these levels. -/
structure Represents (levels : List UInt32) (stack : List Ancestor) : Prop where
  own : ∀ a ∈ stack, levels[a.index]? = some a.level
  falling : stack.Pairwise fun a b => b.level < a.level ∧ b.index < a.index
  covering : ∀ i level, levels[i]? = some level → ∃ a ∈ stack, i ≤ a.index ∧ a.level ≤ level

/-- Rule `a` is the nearest one of smaller level that a rule of this level has in front of it. -/
structure Nearest (levels : List UInt32) (level : UInt32) (a : Ancestor) : Prop where
  own : levels[a.index]? = some a.level
  lt : a.level < level
  le : ∀ i between, a.index < i → levels[i]? = some between → level ≤ between

theorem toNat_succ_lt {a b : UInt32} (h : a < b) : a.toNat + 1 < UInt32.size := by
  have lt := UInt32.lt_iff_toNat_lt.mp h
  have bound := b.toNat_lt_size
  omega

/-- Below a greater level, counting up is exact. -/
theorem succ_eq_iff {a b : UInt32} (h : a < b) : a + 1 = b ↔ a.toNat + 1 = b.toNat := by
  rw [← UInt32.toNat_inj, UInt32.toNat_add, UInt32.toNat_one,
    Nat.mod_eq_of_lt (toNat_succ_lt h)]

theorem mem_above {level : UInt32} {stack : List Ancestor}
    (falling : stack.Pairwise fun a b => b.level < a.level ∧ b.index < a.index) {a : Ancestor} :
    a ∈ above level stack ↔ a ∈ stack ∧ a.level < level := by
  induction stack with
  | nil => simp [above]
  | cons top rest ih =>
      obtain ⟨below, tail⟩ := List.pairwise_cons.mp falling
      by_cases h : level ≤ top.level
      · have dropped : above level (top :: rest) = above level rest :=
          List.dropWhile_cons_of_pos (by simpa using h)
        rw [dropped, ih tail]
        constructor
        · rintro ⟨member, lt⟩
          exact ⟨List.mem_cons_of_mem top member, lt⟩
        · rintro ⟨member, lt⟩
          rcases List.mem_cons.mp member with rfl | member
          · exact absurd h (UInt32.not_le.mpr lt)
          · exact ⟨member, lt⟩
      · have kept : above level (top :: rest) = top :: rest :=
          List.dropWhile_cons_of_neg (by simpa using h)
        have top_lt : top.level < level := UInt32.not_le.mp h
        rw [kept]
        constructor
        · intro member
          refine ⟨member, ?_⟩
          rcases List.mem_cons.mp member with rfl | member
          · exact top_lt
          · exact UInt32.lt_trans (below a member).1 top_lt
        · exact And.left

namespace Represents

variable {levels : List UInt32} {stack : List Ancestor}

theorem nil : Represents [] [] := by
  refine ⟨?_, List.Pairwise.nil, ?_⟩
  · intro a member
    cases member
  · intro i level h
    cases h

theorem index_lt (h : Represents levels stack) {a : Ancestor} (member : a ∈ stack) :
    a.index < levels.length := (List.getElem?_eq_some_iff.mp (h.own a member)).1

theorem put (h : Represents levels stack) (level : UInt32) :
    Represents (levels ++ [level]) (put level levels.length stack) := by
  have left (a : Ancestor) (member : a ∈ above level stack) : a ∈ stack ∧ a.level < level :=
    (mem_above h.falling).mp member
  refine ⟨?_, ?_, ?_⟩
  · intro a member
    rcases List.mem_cons.mp member with rfl | member
    · simp
    · rw [List.getElem?_append_left (h.index_lt (left a member).1)]
      exact h.own a (left a member).1
  · refine List.pairwise_cons.mpr ⟨?_, h.falling.sublist (List.dropWhile_sublist _)⟩
    intro a member
    exact ⟨(left a member).2, h.index_lt (left a member).1⟩
  · intro i l found
    by_cases old : i < levels.length
    · rw [List.getElem?_append_left old] at found
      obtain ⟨a, member, behind, le⟩ := h.covering i l found
      by_cases kept : a.level < level
      · exact ⟨a, List.mem_cons_of_mem _ ((mem_above h.falling).mpr ⟨member, kept⟩), behind, le⟩
      · refine ⟨_, List.mem_cons_self, Nat.le_of_lt old, ?_⟩
        exact UInt32.le_trans (UInt32.not_lt.mp kept) le
    · have inside := (List.getElem?_eq_some_iff.mp found).1
      have last : i = levels.length := by
        simp only [List.length_append, List.length_singleton] at inside
        omega
      subst last
      refine ⟨_, List.mem_cons_self, Nat.le_refl _, ?_⟩
      have same : level = l := by simpa using found
      exact same ▸ UInt32.le_refl level

/-- What the stack represents is kept over any number of levels. -/
theorem stackFrom (h : Represents levels stack) (rest : List UInt32) :
    Represents (levels ++ rest) (stackFrom levels.length stack rest) := by
  induction rest generalizing levels stack with
  | nil => simpa [Forest.stackFrom] using h
  | cons level rest ih => simpa [Forest.stackFrom] using ih (h.put level)

theorem eq_of_index_eq (h : Represents levels stack) {a b : Ancestor} (ha : a ∈ stack)
    (hb : levels[b.index]? = some b.level) (same : a.index = b.index) : a = b := by
  have level : some a.level = some b.level := by rw [← h.own a ha, same, hb]
  cases a
  cases b
  cases same
  cases level
  rfl

/-- The rule that a new one finds on top is the nearest one of smaller level in front of it. -/
theorem head?_above_iff (h : Represents levels stack) {level : UInt32} {a : Ancestor} :
    (above level stack).head? = some a ↔ Nearest levels level a := by
  have falling : (above level stack).Pairwise fun a b => b.level < a.level ∧ b.index < a.index :=
    h.falling.sublist (List.dropWhile_sublist _)
  constructor
  · intro head
    obtain ⟨rest, shape⟩ := List.head?_eq_some_iff.mp head
    have member : a ∈ above level stack := shape ▸ List.mem_cons_self
    obtain ⟨inside, lt⟩ := (mem_above h.falling).mp member
    refine ⟨h.own a inside, lt, ?_⟩
    intro i between behind found
    obtain ⟨b, onStack, reach, le⟩ := h.covering i between found
    -- Nothing of smaller level stands above the head.
    by_cases smaller : b.level < level
    · have kept : b ∈ above level stack := (mem_above h.falling).mpr ⟨onStack, smaller⟩
      rw [shape] at kept falling
      rcases List.mem_cons.mp kept with rfl | below
      · omega
      · have := ((List.pairwise_cons.mp falling).1 b below).2
        omega
    · exact UInt32.le_trans (UInt32.not_lt.mp smaller) le
  · intro nearest
    obtain ⟨b, onStack, reach, le⟩ := h.covering a.index a.level nearest.own
    have smaller : b.level < level := UInt32.lt_of_le_of_lt le nearest.lt
    have notBehind (c : Ancestor) (inside : c ∈ stack) (lt : c.level < level) :
        c.index ≤ a.index := by
      by_contra behind
      have le := nearest.le c.index c.level (by omega) (h.own c inside)
      exact UInt32.not_le.mpr lt le
    have same : b = a :=
      h.eq_of_index_eq onStack nearest.own
        (Nat.le_antisymm (notBehind b onStack smaller) reach)
    have member : a ∈ above level stack := (mem_above h.falling).mpr ⟨same ▸ onStack, nearest.lt⟩
    cases shape : above level stack with
    | nil =>
        rw [shape] at member
        cases member
    | cons top rest =>
        rw [shape] at member falling
        rcases List.mem_cons.mp member with rfl | below
        · rfl
        · obtain ⟨inside, lt⟩ := (mem_above h.falling).mp (shape ▸ List.mem_cons_self)
          have above := ((List.pairwise_cons.mp falling).1 a below).2
          have := notBehind top inside lt
          omega

theorem parent?_iff (h : Represents levels stack) {level : UInt32} {p : Nat} :
    parent? level stack = some p ↔
      ∃ a, Nearest levels level a ∧ a.level.toNat + 1 = level.toNat ∧ a.index = p := by
  rw [parent?]
  constructor
  · intro parent
    split at parent
    · rename_i a rest shape
      have nearest : Nearest levels level a := h.head?_above_iff.mp (shape ▸ rfl)
      split_ifs at parent with up
      cases parent
      exact ⟨a, nearest, (succ_eq_iff nearest.lt).mp up, rfl⟩
    · cases parent
  · rintro ⟨a, nearest, up, rfl⟩
    obtain ⟨rest, shape⟩ := List.head?_eq_some_iff.mp (h.head?_above_iff.mpr nearest)
    rw [shape]
    exact if_pos ((succ_eq_iff nearest.lt).mpr up)

end Represents

theorem getElem?_nodesFrom (next : Nat) (stack : List Ancestor) (levels : List UInt32) (c : Nat) :
    (nodesFrom next stack levels)[c]? = levels[c]?.map fun level =>
      { index := next + c, parent := parent? level (stackFrom next stack (levels.take c)) } := by
  induction levels generalizing next stack c with
  | nil => rfl
  | cons level rest ih =>
      cases c with
      | zero => rfl
      | succ c =>
          rw [nodesFrom, List.getElem?_cons_succ, ih, List.getElem?_cons_succ,
            List.take_succ_cons, stackFrom, Nat.add_right_comm, Nat.add_assoc]

theorem indices_nodesFrom (next : Nat) (stack : List Ancestor) (levels : List UInt32) :
    (nodesFrom next stack levels).map (·.index) = List.range' next levels.length := by
  induction levels generalizing next stack with
  | nil => rfl
  | cons level rest ih =>
      rw [nodesFrom, List.map_cons, ih, List.length_cons, List.range'_succ]

theorem represents_take (levels : List UInt32) (c : Nat) :
    Represents (levels.take c) (stackFrom 0 [] (levels.take c)) :=
  Represents.nil.stackFrom (levels.take c)

end Forest

namespace RuleSet

open Forest

/-- Rule `p` is the nearest one in front of rule `c` that has a smaller level. -/
def IsNearestBelow (s : RuleSet) (p c : Nat) : Prop :=
  ∃ (_ : p < c) (_ : c < s.rules.size), s.rules[p].level < s.rules[c].level ∧
    ∀ (i : Nat) (_ : p < i) (_ : i < c), s.rules[c].level ≤ s.rules[i].level

theorem getElem?_levels (s : RuleSet) (i : Nat) : s.levels[i]? = s.rules[i]?.map (·.level) := by
  simp [levels]

theorem getElem?_levels_take {s : RuleSet} {i c : Nat} (hi : i < c) (hc : c < s.rules.size) :
    (s.levels.take c)[i]? = some s.rules[i].level := by
  rw [List.getElem?_take_of_lt hi, getElem?_levels, Array.getElem?_eq_getElem (by omega)]
  rfl

/-- In a set, what is nearest is a matter of the levels in front of a rule. -/
theorem nearest_take_iff {s : RuleSet} {p c : Nat} (hc : c < s.rules.size) {level : UInt32} :
    Nearest (s.levels.take c) s.rules[c].level { level, index := p } ↔
      ∃ _ : p < c, s.rules[p].level = level ∧ s.IsNearestBelow p c := by
  constructor
  · rintro ⟨own, lt, le⟩
    have hp : p < c := by
      have := (List.getElem?_eq_some_iff.mp own).1
      simp only [List.length_take] at this
      omega
    rw [getElem?_levels_take hp hc] at own
    cases own
    refine ⟨hp, rfl, hp, hc, lt, ?_⟩
    intro i hi hic
    exact le i s.rules[i].level hi (getElem?_levels_take hic hc)
  · rintro ⟨hp, rfl, _, _, lt, le⟩
    refine ⟨getElem?_levels_take hp hc, lt, ?_⟩
    intro i between hi found
    have hic : i < c := by
      have := (List.getElem?_eq_some_iff.mp found).1
      simp only [List.length_take] at this
      omega
    rw [getElem?_levels_take hic hc] at found
    cases found
    exact le i hi hic

theorem getElem?_nodes (s : RuleSet) {c : Nat} (hc : c < s.rules.size) :
    s.nodes[c]? = some
      { index := c
        parent := parent? s.rules[c].level (stackFrom 0 [] (s.levels.take c)) } := by
  rw [nodes, getElem?_nodesFrom, getElem?_levels, Array.getElem?_eq_getElem hc]
  simp

/-- The sweep gives a rule the nearest one below as its parent, if it is one level up. -/
theorem parent?_eq_some_iff {s : RuleSet} {p c : Nat} (hc : c < s.rules.size) :
    parent? s.rules[c].level (stackFrom 0 [] (s.levels.take c)) = some p ↔
      ∃ _ : p < c, s.rules[p].level.toNat + 1 = s.rules[c].level.toNat ∧
        s.IsNearestBelow p c := by
  rw [(represents_take s.levels c).parent?_iff]
  constructor
  · rintro ⟨⟨level, index⟩, nearest, up, rfl⟩
    obtain ⟨hp, rfl, below⟩ := (nearest_take_iff hc).mp nearest
    exact ⟨hp, up, below⟩
  · rintro ⟨hp, up, below⟩
    exact ⟨{ level := s.rules[p].level, index := p },
      (nearest_take_iff hc).mpr ⟨hp, rfl, below⟩, up, rfl⟩

theorem indices_nodes (s : RuleSet) : s.nodes.map (·.index) = List.range s.size := by
  rw [nodes, indices_nodesFrom, List.range_eq_range']
  simp [levels, size]

theorem mem_edges_iff {s : RuleSet} {p c : Nat} :
    (p, c) ∈ s.edges ↔ ∃ (_ : p < c) (_ : c < s.rules.size),
      s.rules[p].level.toNat + 1 = s.rules[c].level.toNat ∧ s.IsNearestBelow p c := by
  rw [edges, List.mem_filterMap]
  constructor
  · rintro ⟨node, member, edge⟩
    obtain ⟨i, found⟩ := List.getElem?_of_mem member
    have hi : i < s.rules.size := by
      have := (List.getElem?_eq_some_iff.mp found).1
      rw [← List.length_map, indices_nodes, List.length_range] at this
      exact this
    rw [getElem?_nodes s hi] at found
    cases found
    obtain ⟨parent, some_parent, same⟩ := Option.map_eq_some_iff.mp edge
    cases same
    obtain ⟨hp, up, below⟩ := (parent?_eq_some_iff hi).mp some_parent
    exact ⟨hp, hi, up, below⟩
  · rintro ⟨hp, hc, up, below⟩
    refine ⟨_, List.mem_of_getElem? (getElem?_nodes s hc), ?_⟩
    rw [(parent?_eq_some_iff hc).mpr ⟨hp, up, below⟩]
    rfl

theorem nodes_ordered (s : RuleSet) : s.nodes.Pairwise fun a b => a.index < b.index := by
  rw [← List.pairwise_map (R := (· < ·)), indices_nodes]
  exact List.pairwise_lt_range

/-- The edges come in the order of their children, so no child comes twice. -/
theorem edges_ordered (s : RuleSet) : s.edges.Pairwise fun a b => a.2 < b.2 := by
  refine List.pairwise_filterMap.mpr (s.nodes_ordered.imp ?_)
  intro a b lt edge ha other hb
  obtain ⟨_, _, rfl⟩ := Option.map_eq_some_iff.mp ha
  obtain ⟨_, _, rfl⟩ := Option.map_eq_some_iff.mp hb
  exact lt

/-- Adding one to the level on top of the stack is exact, since a rule of greater level comes. -/
theorem fits_of_head?_above {s : RuleSet} {c : Nat} (hc : c < s.rules.size) {a : Ancestor}
    (head : (above s.rules[c].level (stackFrom 0 [] (s.levels.take c))).head? = some a) :
    a.level.toNat + 1 < UInt32.size :=
  toNat_succ_lt ((represents_take s.levels c).head?_above_iff.mp head).lt

/-- The graph of a set is exactly what the levels say. There is one node for each rule, and no
edge comes twice. An edge leads to a rule from one in front of it that is one level up, if all
rules between them are at least as deep; in other words, from the nearest one of smaller level,
if that is one level up. The sweep finds this by adding one to the level on top of its stack,
and the sum is never cut off. -/
theorem graph_exact (s : RuleSet) :
    s.graph.nodes = List.range s.rules.size ∧
    s.graph.edges.Nodup ∧
    (∀ p c, (p, c) ∈ s.graph.edges ↔ ∃ (_ : p < c) (_ : c < s.rules.size),
      s.rules[p].level.toNat + 1 = s.rules[c].level.toNat ∧
        ∀ (i : Nat) (_ : p < i) (_ : i < c), s.rules[c].level ≤ s.rules[i].level) ∧
    (∀ p c, (p, c) ∈ s.graph.edges ↔ ∃ (_ : p < c) (_ : c < s.rules.size),
      s.rules[p].level.toNat + 1 = s.rules[c].level.toNat ∧ s.IsNearestBelow p c) ∧
    (∀ (c : Nat) (_ : c < s.rules.size),
      s.nodes[c]? = some
        { index := c
          parent := parent? s.rules[c].level (stackFrom 0 [] (s.levels.take c)) } ∧
      ∀ a, (above s.rules[c].level (stackFrom 0 [] (s.levels.take c))).head? = some a →
        a.level.toNat + 1 < UInt32.size) := by
  refine ⟨s.indices_nodes, ?_, ?_, fun p c => mem_edges_iff, ?_⟩
  · exact s.edges_ordered.imp fun lt same => absurd lt (by rw [same]; exact Nat.lt_irrefl _)
  · intro p c
    rw [graph, mem_edges_iff]
    constructor
    · rintro ⟨hp, hc, up, _, _, _, between⟩
      exact ⟨hp, hc, up, between⟩
    · rintro ⟨hp, hc, up, between⟩
      have lt : s.rules[p].level < s.rules[c].level := UInt32.lt_iff_toNat_lt.mpr (by omega)
      exact ⟨hp, hc, up, hp, hc, lt, between⟩
  · intro c hc
    exact ⟨getElem?_nodes s hc, fun a => fits_of_head?_above hc⟩

/-- The rule of level three has no parent, and the one of level two is not below it. -/
example : (nodesFrom 0 [] [0, 1, 3, 2, 1, 0]).map (·.parent) =
    [none, some 0, none, some 1, some 0, none] := by
  decide

end RuleSet

end MagicRules
