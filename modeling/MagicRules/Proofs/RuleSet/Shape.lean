import MagicRules.Proofs.RuleSet.Forest
import MagicRules.Proofs.RuleSet.Ledger

/-!
# The trees of a rule set are a forest

An edge leads one level down and only over rules that are as deep as its end (`edge_cases`). All
else about the trees follows from that: a rule has one parent at most, the level falls by one with
each edge of a path, and two edges are one inside the other or one after the other, but never
across each other (`edges_nested`).

Whether two rules are joined is a matter of the levels up to the second of them. Neither rules that
come behind nor what extension lines attach can change it (`mem_edges_of_isPrefix`).
-/

namespace MagicRules

/-- Rule `n` is so many edges below rule `t`. -/
inductive Graph.Path (g : Graph) : Nat → Nat → Nat → Prop
  | refl (t : Nat) : Path g t t 0
  | step {t c n k : Nat} (edge : (t, c) ∈ g.edges) (rest : Path g c n k) : Path g t n (k + 1)

@[simp] theorem Extension.level_apply (e : Extension) (r : Rule) : (e.apply r).level = r.level := by
  cases e <;> rfl

namespace RuleSet

open Forest

variable {s : RuleSet}

theorem length_levels (s : RuleSet) : s.levels.length = s.rules.size := by
  simp [levels]

/-- What an edge says about the levels. -/
theorem edge_cases {p c : Nat} (edge : (p, c) ∈ s.edges) :
    ∃ (_ : p < c) (_ : p < s.rules.size) (_ : c < s.rules.size),
      s.rules[p].level.toNat + 1 = s.rules[c].level.toNat ∧
        ∀ (i : Nat) (_ : i < s.rules.size), p < i → i < c →
          s.rules[c].level.toNat ≤ s.rules[i].level.toNat := by
  obtain ⟨lt, inside, up, _, _, _, between⟩ := mem_edges_iff.mp edge
  refine ⟨lt, Nat.lt_trans lt inside, inside, up, ?_⟩
  intro i _ above below
  exact UInt32.le_iff_toNat_le.mp (between i above below)

/-- No rule has two parents, or one parent twice. -/
theorem nodup_children (s : RuleSet) : (s.edges.map Prod.snd).Nodup := by
  have ordered : (s.edges.map Prod.snd).Pairwise (· < ·) :=
    List.pairwise_map.mpr s.edges_ordered
  exact ordered.imp Nat.ne_of_lt

theorem mem_graph_nodes {c : Nat} : c ∈ s.graph.nodes ↔ c < s.rules.size := by
  change c ∈ s.nodes.map (·.index) ↔ _
  rw [indices_nodes, List.mem_range, size]

theorem level_of_mem_roots {i : Nat} (h : i ∈ s.roots) :
    ∃ inside : i < s.rules.size, s.rules[i].level = 0 := by
  rw [roots, List.mem_filterMap] at h
  obtain ⟨⟨level, j⟩, member, found⟩ := h
  dsimp only at found
  split_ifs at found with zero
  cases found
  have here := List.mk_mem_zipIdx_iff_getElem?.mp member
  rw [getElem?_levels, Option.map_eq_some_iff] at here
  obtain ⟨r, there, same⟩ := here
  obtain ⟨inside, rfl⟩ := Array.getElem?_eq_some_iff.mp there
  exact ⟨inside, same.trans zero⟩

theorem not_mem_edges_of_mem_roots {i : Nat} (h : i ∈ s.roots) (p : Nat) : (p, i) ∉ s.edges := by
  obtain ⟨inside, zero⟩ := level_of_mem_roots h
  intro edge
  obtain ⟨_, _, _, up, _⟩ := edge_cases edge
  rw [zero] at up
  cases up

theorem mem_nodes_iff {node : Node} :
    node ∈ s.nodes ↔ ∃ _ : node.index < s.rules.size, node.parent =
      parent? s.rules[node.index].level (stackFrom 0 [] (s.levels.take node.index)) := by
  constructor
  · intro member
    obtain ⟨i, found⟩ := List.getElem?_of_mem member
    have inside : i < s.rules.size := by
      have lt := (List.getElem?_eq_some_iff.mp found).1
      rw [← List.length_map, indices_nodes, List.length_range] at lt
      exact lt
    rw [getElem?_nodes s inside] at found
    cases found
    exact ⟨inside, rfl⟩
  · rintro ⟨inside, parent⟩
    have found := List.mem_of_getElem? (getElem?_nodes s inside)
    rw [← parent] at found
    exact found

/-- The rules without a parent are those to which no edge leads. -/
theorem mem_parentless_iff {c : Nat} :
    c ∈ s.parentless ↔ c ∈ s.graph.nodes ∧ ∀ p, (p, c) ∉ s.edges := by
  rw [mem_graph_nodes, parentless, List.mem_filterMap]
  constructor
  · rintro ⟨node, member, found⟩
    split_ifs at found with none
    cases found
    obtain ⟨inside, parent⟩ := mem_nodes_iff.mp member
    refine ⟨inside, ?_⟩
    intro p edge
    obtain ⟨lt, _, up, below⟩ := mem_edges_iff.mp edge
    rw [parent, (parent?_eq_some_iff inside).mpr ⟨lt, up, below⟩] at none
    cases none
  · rintro ⟨inside, free⟩
    refine ⟨_, List.mem_of_getElem? (getElem?_nodes s inside), if_pos ?_⟩
    rw [Option.isNone_iff_eq_none, Option.eq_none_iff_forall_ne_some]
    intro p parent
    obtain ⟨lt, up, below⟩ := (parent?_eq_some_iff inside).mp parent
    exact free p (mem_edges_iff.mpr ⟨lt, inside, up, below⟩)

theorem nodup_parentless (s : RuleSet) : s.parentless.Nodup := by
  refine List.pairwise_filterMap.mpr (s.nodes_ordered.imp ?_)
  intro a b lt i ha j hb
  split_ifs at ha hb
  cases ha
  cases hb
  exact Nat.ne_of_lt lt

/-- Each rule either has no parent or is at the end of an edge. -/
theorem length_parentless_add (s : RuleSet) :
    s.parentless.length + s.graph.edges.length = s.graph.nodes.length := by
  have free : s.parentless.length = s.nodes.countP (·.parent.isNone) := by
    rw [parentless, List.length_filterMap_eq_countP]
    apply List.countP_congr
    intro node _
    split_ifs with none <;> simp [none]
  have joined : s.edges.length = s.nodes.countP (·.parent.isSome) := by
    rw [edges, List.length_filterMap_eq_countP]
    apply List.countP_congr
    intro node _
    rw [Option.isSome_map]
  change s.parentless.length + s.edges.length = (s.nodes.map (·.index)).length
  rw [free, joined, List.length_map, List.length_eq_countP_add_countP (·.parent.isNone)]
  congr 1
  apply List.countP_congr
  intro node _
  cases node.parent <;> simp

/-- On a path the levels fall by one with each edge. -/
theorem level_of_path {t n k : Nat} (path : s.graph.Path t n k) (ht : t < s.rules.size)
    (hn : n < s.rules.size) : s.rules[n].level.toNat = s.rules[t].level.toNat + k := by
  induction path with
  | refl t => rfl
  | step edge rest ih =>
      obtain ⟨_, _, inside, up, _⟩ := edge_cases edge
      rw [ih inside hn, ← up, Nat.add_assoc, Nat.add_comm 1]

/-- A path leads on to later rules, so it does not come back. -/
theorem add_le_of_path {t n k : Nat} (path : s.graph.Path t n k) : t + k ≤ n := by
  induction path with
  | refl t => exact Nat.le_refl t
  | step edge rest ih =>
      obtain ⟨lt, _⟩ := edge_cases edge
      omega

/-- An edge that begins under another one ends there too. -/
theorem edges_nested {a b c d : Nat} (outer : (a, b) ∈ s.edges) (inner : (c, d) ∈ s.edges)
    (behind : a < c) (below : c < b) : d < b := by
  obtain ⟨_, _, ends, _, deeper⟩ := edge_cases outer
  obtain ⟨_, starts, _, up, deeper'⟩ := edge_cases inner
  by_contra reaches
  have deep := deeper c starts behind below
  rcases Nat.eq_or_lt_of_le (Nat.not_lt.mp reaches) with rfl | beyond
  · omega
  · have := deeper' b ends below beyond
    omega

/-- The parent of a rule is found in the levels up to its own. -/
theorem mem_edges_iff_parent? {p c : Nat} :
    (p, c) ∈ s.edges ↔ ∃ level, s.levels[c]? = some level ∧
      parent? level (stackFrom 0 [] (s.levels.take c)) = some p := by
  rw [mem_edges_iff]
  constructor
  · rintro ⟨lt, inside, up, below⟩
    refine ⟨s.rules[c].level, ?_, (parent?_eq_some_iff inside).mpr ⟨lt, up, below⟩⟩
    rw [getElem?_levels, Array.getElem?_eq_getElem inside]
    rfl
  · rintro ⟨level, here, parent⟩
    rw [getElem?_levels, Option.map_eq_some_iff] at here
    obtain ⟨r, there, rfl⟩ := here
    obtain ⟨inside, rfl⟩ := Array.getElem?_eq_some_iff.mp there
    obtain ⟨lt, up, below⟩ := (parent?_eq_some_iff inside).mp parent
    exact ⟨lt, inside, up, below⟩

/-- Edges between the first rules of a set are known from the levels of these rules. -/
theorem mem_edges_of_isPrefix {s s' : RuleSet} (first : s.levels <+: s'.levels) {p c : Nat}
    (inside : c < s.rules.size) : (p, c) ∈ s'.edges ↔ (p, c) ∈ s.edges := by
  obtain ⟨more, whole⟩ := first
  have here : c < s.levels.length := by rwa [length_levels]
  rw [mem_edges_iff_parent?, mem_edges_iff_parent?, ← whole, List.getElem?_append_left here,
    List.take_append_of_le_length (Nat.le_of_lt here)]

theorem levels_push (rules : Array Rule) (r : Rule) :
    levels { rules := rules.push r } = levels { rules } ++ [r.level] := by
  simp [levels]

theorem levels_append (s : RuleSet) (more : Array Rule) :
    s.levels <+: levels { rules := s.rules ++ more } := by
  refine ⟨more.toList.map (·.level), ?_⟩
  simp [levels]

theorem levels_step (registry : Registry) (s : RuleSet) (line : Text) :
    s.levels <+: (s.step registry line).set.levels := by
  rcases step_cases registry s line with
    ⟨r, _, effect⟩ | ⟨e, front, r, _, last, effect⟩ | ⟨_, effect⟩ | ⟨_, _, effect⟩
  · rw [effect, levels_push]
    exact List.prefix_append _ _
  · have before : s.levels = levels { rules := front } ++ [r.level] := by
      rw [← levels_push, ← last]
    refine ⟨[], ?_⟩
    rw [effect, before, levels_push, Extension.level_apply, List.append_nil]
  · refine ⟨[], ?_⟩
    rw [effect, List.append_nil]
  · refine ⟨[], ?_⟩
    rw [effect, List.append_nil]

theorem levels_pushAll (registry : Registry) (s : RuleSet) (lines : List Text) :
    s.levels <+: (s.pushAll registry lines).1.levels := by
  induction lines generalizing s with
  | nil => exact List.prefix_rfl
  | cons line rest ih =>
      rw [pushAll_cons_fst]
      exact (levels_step registry s line).trans (ih _)

/-- The graph of a set is a forest whose trees lie side by side. No rule has two parents. Every
edge leads to a later rule, so no path comes back to where it began. No edge leads to a rule of
level zero. There are as many rules that no edge leads to as there are more rules than edges. A path
is as long as the difference of the levels at its ends. An edge that begins under another one ends
there too. What comes behind, be it rules or lines, leaves all edges between the rules that are
there. -/
theorem graph_shape (s : RuleSet) :
    (s.graph.edges.map Prod.snd).Nodup ∧
    (∀ p c, (p, c) ∈ s.graph.edges → p < c ∧ c ∈ s.graph.nodes) ∧
    (∀ t k, s.graph.Path t t k → k = 0) ∧
    (∀ i ∈ s.roots, ∀ p, (p, i) ∉ s.graph.edges) ∧
    (s.parentless.Nodup ∧
      (∀ c, c ∈ s.parentless ↔ c ∈ s.graph.nodes ∧ ∀ p, (p, c) ∉ s.graph.edges) ∧
      s.parentless.length + s.graph.edges.length = s.graph.nodes.length) ∧
    (∀ t n k (_ : t < s.rules.size) (_ : n < s.rules.size), s.graph.Path t n k →
      s.rules[n].level.toNat = s.rules[t].level.toNat + k) ∧
    (∀ a b c d, (a, b) ∈ s.graph.edges → (c, d) ∈ s.graph.edges → a < c → c < b → d < b) ∧
    (∀ more p c, c ∈ s.graph.nodes →
      ((p, c) ∈ (graph { rules := s.rules ++ more }).edges ↔ (p, c) ∈ s.graph.edges)) ∧
    ∀ registry lines p c, c ∈ s.graph.nodes →
      ((p, c) ∈ (s.pushAll registry lines).1.graph.edges ↔ (p, c) ∈ s.graph.edges) := by
  refine ⟨s.nodup_children, ?_, ?_, ?_, ⟨s.nodup_parentless, fun _ => mem_parentless_iff,
    s.length_parentless_add⟩, ?_, ?_, ?_, ?_⟩
  · intro p c edge
    obtain ⟨lt, _, inside, _⟩ := edge_cases edge
    exact ⟨lt, mem_graph_nodes.mpr inside⟩
  · intro t k path
    have := add_le_of_path path
    omega
  · intro i root p
    exact not_mem_edges_of_mem_roots root p
  · intro t n k ht hn path
    exact level_of_path path ht hn
  · intro a b c d outer inner behind below
    exact edges_nested outer inner behind below
  · intro more p c node
    exact mem_edges_of_isPrefix (s.levels_append more) (mem_graph_nodes.mp node)
  · intro registry lines p c node
    exact mem_edges_of_isPrefix (levels_pushAll registry s lines) (mem_graph_nodes.mp node)

/-- A tree of four rules, in which one edge spans another one, and a rule behind it that has no
parent. -/
theorem graph_shape_of_five :
    let s := (ofText "0 byte x\n>1 byte x\n>>2 byte x\n>1 byte x\n>>>3 byte x".toList).1
    ((0, 3) ∈ s.graph.edges ∧ 0 < 3 ∧ (1, 2) ∈ s.graph.edges ∧ 2 < 3) ∧
      (0 ∈ s.roots ∧ ∀ p, (p, 0) ∉ s.graph.edges) ∧
      (∃ (_ : 0 < s.rules.size) (_ : 2 < s.rules.size),
        s.graph.Path 0 2 2 ∧ s.rules[2].level.toNat = s.rules[0].level.toNat + 2) ∧
      (4 ∈ s.graph.nodes ∧ ∀ p, (p, 4) ∉ (graph { rules := s.rules ++ s.rules }).edges ∧
        (p, 4) ∉ (s.pushAll .builtin ["0 byte 1".toList]).1.graph.edges) := by
  intro s
  have levels : s.levels = [0, 1, 2, 1, 3] := by decide +kernel
  clear_value s
  have edges : s.graph.edges = [(0, 1), (1, 2), (0, 3)] := by
    rw [graph, RuleSet.edges, nodes, levels]
    rfl
  have root : 0 ∈ s.roots := by
    rw [RuleSet.roots, levels]
    decide
  have size : s.rules.size = 5 := by
    rw [← length_levels, levels]
    rfl
  have first : (0, 1) ∈ s.graph.edges := by simp [edges]
  have inner : (1, 2) ∈ s.graph.edges := by simp [edges]
  have outer : (0, 3) ∈ s.graph.edges := by simp [edges]
  have last : 4 ∈ s.graph.nodes := mem_graph_nodes.mpr (by omega)
  have free (p : Nat) : (p, 4) ∉ s.graph.edges := by simp [edges]
  obtain ⟨_, forward, _, roots, _, paths, nested, rules, lines⟩ := graph_shape s
  refine ⟨⟨outer, (forward 0 3 outer).1, inner, nested 0 3 1 2 outer inner ?_ ?_⟩,
    ⟨root, roots 0 root⟩, ⟨by omega, by omega, ?_⟩, last, ?_⟩
  · decide
  · decide
  · have path : s.graph.Path 0 2 2 := .step first (.step inner (.refl 2))
    exact ⟨path, paths 0 2 2 (by omega) (by omega) path⟩
  · intro p
    rw [rules _ p 4 last, lines .builtin _ p 4 last]
    exact ⟨free p, free p⟩

end RuleSet

end MagicRules
