import MagicRules.Proofs.RuleSet.Ledger
import MagicRules.Proofs.Text

/-!
# What extension lines attach, and to which rule

An extension line belongs to the rule that was added last. So a rule of a set is the rule that
its own line says, together with what is said by the lines behind it up to the next line that
adds a rule. `Rule.carrying` is that sum, stated on the texts of the lines alone: of several
media types or codes the last one counts, and file name extensions add up.

The invariant of a run is about the last rule only. Lines in front of the next added one change
it to what it carries (`getElem?_pushAll_last`); afterwards it is out of reach
(`getElem?_pushAll_of_lt`).
-/

namespace MagicRules

namespace Line

/-- The second field of an extension line with this key. -/
def valueFor? (key : String) (line : Text) : Option Text :=
  if isExtension line then
    match Field.split line 3 with
    | first :: value :: _ => if first = key.toList then some value else none
    | _ => none
  else none

/-- The value in the last of the lines that have this key. -/
def lastValue (key : String) (lines : List Text) : Option Text :=
  (lines.filterMap (valueFor? key)).getLast?

/-- The file name extensions in the lines that have any. -/
def extensionNames (lines : List Text) : List Text :=
  (lines.filterMap (valueFor? "!:ext")).flatMap fun value =>
    (value.splitOn '/').filter (!·.isEmpty)

theorem lastValue_nil (key : String) : lastValue key [] = none := rfl

theorem lastValue_cons (key : String) (line : Text) (rest : List Text) :
    lastValue key (line :: rest) = (lastValue key rest).or (valueFor? key line) := by
  rw [lastValue, List.filterMap_cons]
  cases valueFor? key line with
  | none => simp [lastValue]
  | some value =>
      rw [List.getLast?_cons]
      cases h : (rest.filterMap (valueFor? key)).getLast? <;> simp [lastValue, h]

theorem extensionNames_cons (line : Text) (rest : List Text) :
    extensionNames (line :: rest) = extensionNames [line] ++ extensionNames rest := by
  cases h : valueFor? "!:ext" line <;> simp [extensionNames, h]

theorem extensionNames_singleton (line : Text) :
    extensionNames [line] = (valueFor? "!:ext" line).toList.flatMap fun value =>
      (value.splitOn '/').filter (!·.isEmpty) := by
  cases h : valueFor? "!:ext" line <;> simp [extensionNames, h]

/-- No name is empty or has a slash. -/
theorem name_of_mem_extensionNames {lines : List Text} {name : Text}
    (h : name ∈ extensionNames lines) : name ≠ [] ∧ '/' ∉ name := by
  obtain ⟨value, _, member⟩ := List.mem_flatMap.mp h
  obtain ⟨piece, nonempty⟩ := List.mem_filter.mp member
  exact ⟨by simpa using nonempty, Text.notMem_of_mem_splitOn piece⟩

theorem valueFor?_of_not_isExtension {key : String} {line : Text}
    (h : ¬ isExtension line) : valueFor? key line = none := if_neg h

theorem valueFor?_of_fields {line first value : Text} {rest : List Text}
    (extension : isExtension line) (fields : Field.split line 3 = first :: value :: rest)
    (key : String) : valueFor? key line = if first = key.toList then some value else none := by
  rw [valueFor?, if_pos extension, fields]

end Line

/-- A rule with what these lines behind it attach to it. -/
def Rule.carrying (r : Rule) (lines : List Text) : Rule :=
  { r with
    mime := (Line.lastValue "!:mime" lines).or r.mime
    extensions := r.extensions ++ Line.extensionNames lines
    apple := (Line.lastValue "!:apple" lines).or r.apple }

namespace Rule

@[simp] theorem carrying_nil (r : Rule) : r.carrying [] = r := by
  simp [carrying, Line.lastValue, Line.extensionNames]

theorem carrying_cons (r : Rule) (line : Text) (rest : List Text) :
    r.carrying (line :: rest) = (r.carrying [line]).carrying rest := by
  rw [carrying, carrying, carrying]
  simp only [Line.lastValue_cons _ line, Line.lastValue_nil, Option.none_or, Option.or_assoc,
    Line.extensionNames_cons line rest, List.append_assoc]

theorem carrying_singleton (r : Rule) (line : Text) :
    r.carrying [line] =
      { r with
        mime := (Line.valueFor? "!:mime" line).or r.mime
        extensions := r.extensions ++ (Line.valueFor? "!:ext" line).toList.flatMap fun value =>
          (value.splitOn '/').filter (!·.isEmpty)
        apple := (Line.valueFor? "!:apple" line).or r.apple } := by
  simp only [carrying, Line.lastValue_cons, Line.lastValue_nil, Option.none_or,
    Line.extensionNames_singleton]

theorem carrying_eq_self {r : Rule} {line : Text}
    (h : ∀ key ∈ ["!:mime", "!:ext", "!:apple"], Line.valueFor? key line = none) :
    r.carrying [line] = r := by
  have mime := h "!:mime" (by simp)
  have ext := h "!:ext" (by simp)
  have apple := h "!:apple" (by simp)
  rw [carrying_singleton, mime, ext, apple]
  simp only [Option.none_or, Option.toList_none, List.flatMap_nil, List.append_nil]

end Rule

namespace Line

variable {registry : Registry} {line : Text}

/-- Attaching what an extension line says is carrying that line. -/
theorem apply_eq_carrying {e : Extension} (h : read registry line = .ok (.extension e))
    (r : Rule) : e.apply r = r.carrying [line] := by
  have extension := isExtension_of_read h
  have read := readExtension_of_read h
  rw [readExtension] at read
  split at read
  · rename_i key value rest fields
    rw [Rule.carrying_singleton]
    simp only [valueFor?_of_fields extension fields]
    split_ifs at read with mime ext apple
    · cases read
      rw [mime, if_pos rfl, if_neg (by decide), if_neg (by decide)]
      simp only [Extension.apply, Option.some_or, Option.none_or, Option.toList_none,
        List.flatMap_nil, List.append_nil]
    · cases read
      rw [ext, if_pos rfl, if_neg (by decide), if_neg (by decide)]
      simp only [Extension.apply, Option.none_or, Option.toList_some, List.flatMap_singleton,
        Text.splitAt_eq_splitOn]
    · cases read
      rw [apple, if_pos rfl, if_neg (by decide), if_neg (by decide)]
      simp only [Extension.apply, Option.some_or, Option.none_or, Option.toList_none,
        List.flatMap_nil, List.append_nil]
    · cases read
      rw [if_neg mime, if_neg ext, if_neg apple]
      simp only [Extension.apply, Option.none_or, Option.toList_none, List.flatMap_nil,
        List.append_nil]
  · cases read

theorem valueFor?_of_isIdle {key : String} (idle : RuleSet.isIdle line) :
    valueFor? key line = none :=
  valueFor?_of_not_isExtension fun extension =>
    RuleSet.not_isIdle_of_isExtension extension idle

theorem valueFor?_of_error {key : String} {cause : LineError}
    (h : read registry line = .error cause) : valueFor? key line = none := by
  by_cases extension : isExtension line
  · rw [read_of_isExtension extension, readExtension] at h
    rcases fields : Field.split line 3 with _ | ⟨first, _ | ⟨value, rest⟩⟩
    · rw [valueFor?, if_pos extension, fields]
    · rw [valueFor?, if_pos extension, fields]
    · rw [fields] at h
      dsimp only at h
      split_ifs at h <;> cases h
  · exact valueFor?_of_not_isExtension extension

end Line

namespace RuleSet

/-- The lines of a run in front of the first one that adds a rule. -/
def untilAdded (run : List (Text × Outcome)) : List Text :=
  (run.takeWhile (!·.2.isAdded)).map (·.1)

/-- The lines of a run behind its line `k` and in front of the next one that adds a rule. -/
def behind (run : List (Text × Outcome)) (k : Nat) : List Text := untilAdded (run.drop (k + 1))

/-- The outcomes of lines that attach nothing and add no rule. -/
def Inert (registry : Registry) (line : Text) : Outcome → Prop
  | .skipped | .failed _ => True
  | .attached _ => ∃ key, Line.read registry line = .ok (.extension (.unknown key))
  | .added _ => False

variable {registry : Registry}

/-- Behind a rule, a line either adds one more or is carried by it. -/
theorem step_push_cases (registry : Registry) (front : Array Rule) (r : Rule) (line : Text) :
    (∃ added, (step registry { rules := front.push r } line).outcome =
        .added (front.size + 1) ∧
      (step registry { rules := front.push r } line).set =
        { rules := (front.push r).push added }) ∨
    ((step registry { rules := front.push r } line).outcome.isAdded = false ∧
      (step registry { rules := front.push r } line).set =
        { rules := front.push (r.carrying [line]) }) := by
  rcases step_cases registry { rules := front.push r } line with
    ⟨added, _, effect⟩ | ⟨e, before, last, read, rules, effect⟩ | ⟨cause, effect⟩ |
      ⟨cause, ⟨_, _, read⟩, effect⟩
  · refine .inl ⟨added, ?_, ?_⟩ <;> rw [effect]
    simp [size]
  · obtain ⟨rfl, rfl⟩ := Array.push_eq_push.mp rules
    refine .inr ⟨?_, ?_⟩ <;> rw [effect]
    · rfl
    · rw [Line.apply_eq_carrying read]
  · have idle : isIdle line := by simpa using cause
    have carried : r.carrying [line] = r :=
      Rule.carrying_eq_self fun key _ => Line.valueFor?_of_isIdle idle
    refine .inr ⟨?_, ?_⟩ <;> rw [effect]
    · rfl
    · rw [carried]
  · have carried : r.carrying [line] = r :=
      Rule.carrying_eq_self fun key _ => Line.valueFor?_of_error read
    refine .inr ⟨?_, ?_⟩ <;> rw [effect]
    · rfl
    · rw [carried]

theorem getElem?_step_of_lt {s : RuleSet} {line : Text} {i : Nat} (h : i + 1 < s.size) :
    (s.step registry line).set.rules[i]? = s.rules[i]? := by
  rcases step_cases registry s line with
    ⟨r, _, effect⟩ | ⟨e, front, r, _, last, effect⟩ | ⟨_, effect⟩ | ⟨cause, _, effect⟩ <;>
    rw [effect]
  · have old : i < s.rules.size := Nat.lt_of_succ_lt h
    simp [Array.getElem?_push, Nat.ne_of_lt old]
  · have old : i < front.size := by simpa [size, last] using h
    simp [last, Array.getElem?_push, Nat.ne_of_lt old]

/-- A rule that is not the last one is out of reach. -/
theorem getElem?_pushAll_of_lt {s : RuleSet} {i : Nat} (h : i + 1 < s.size) (lines : List Text) :
    (s.pushAll registry lines).1.rules[i]? = s.rules[i]? := by
  induction lines generalizing s with
  | nil => rfl
  | cons line rest ih =>
      have grown : s.size ≤ (s.step registry line).set.size := by
        rw [size_step]
        exact Nat.le_add_right _ _
      rw [pushAll_cons_fst, ih (Nat.lt_of_lt_of_le h grown), getElem?_step_of_lt h]

/-- The last rule ends up with what the lines up to the next added one attach to it. -/
theorem getElem?_pushAll_last (front : Array Rule) (r : Rule) (lines : List Text) :
    (pushAll registry { rules := front.push r } lines).1.rules[front.size]? =
      some (r.carrying (untilAdded (ledger registry { rules := front.push r } lines))) := by
  -- The rule varies: the next line finds it with what the lines so far have attached.
  induction lines generalizing r with
  | nil => simp [untilAdded]
  | cons line rest ih =>
      rw [pushAll_cons_fst, ledger_cons, untilAdded]
      rcases step_push_cases registry front r line with
        ⟨added, outcome, set⟩ | ⟨outcome, set⟩
      · have reach : front.size + 1 < size { rules := (front.push r).push added } := by
          simp [size]
        have kept : ((front.push r).push added)[front.size]? = some r := by
          rw [Array.getElem?_push, if_neg (by simp), Array.getElem?_push, if_pos rfl]
        rw [outcome, set, getElem?_pushAll_of_lt reach, kept,
          List.takeWhile_cons_of_neg (by simp [Outcome.isAdded]), List.map_nil,
          Rule.carrying_nil]
      · rw [set, ih, List.takeWhile_cons_of_pos (by simp [outcome]), List.map_cons]
        exact congrArg some (Rule.carrying_cons r line _).symm

/-- The rule that a line adds carries the lines up to the next one that adds a rule. -/
theorem rule_of_added {s : RuleSet} {lines : List Text} {k i : Nat} {line : Text}
    (h : (s.ledger registry lines)[k]? = some (line, .added i)) :
    ∃ r, Line.read registry line = .ok (.rule r) ∧
      (s.pushAll registry lines).1.rules[i]? =
        some (r.carrying (behind (s.ledger registry lines) k)) := by
  induction lines generalizing s k with
  | nil => cases h
  | cons first rest ih =>
      rw [pushAll_cons_fst, ledger_cons, behind, List.drop_succ_cons]
      rw [ledger_cons] at h
      cases k with
      | succ k => exact ih (by simpa using h)
      | zero =>
          obtain ⟨rfl, outcome⟩ : first = line ∧ (s.step registry first).outcome = .added i := by
            simpa using h
          rcases step_cases registry s first with
            ⟨r, ⟨_, read⟩, effect⟩ | ⟨e, front, r, _, last, effect⟩ | ⟨_, effect⟩ |
              ⟨_, _, effect⟩ <;>
            rw [effect] at outcome
          · cases outcome
            refine ⟨r, read, ?_⟩
            rw [effect]
            exact getElem?_pushAll_last s.rules r rest
          · cases outcome
          · cases outcome
          · cases outcome

theorem addedIndices_ledger (s : RuleSet) (lines : List Text) :
    (s.ledger registry lines).filterMap (·.2.addedAt?) =
      List.range' s.size ((s.ledger registry lines).countP (·.2.isAdded)) := by
  induction lines generalizing s with
  | nil => rfl
  | cons line rest ih =>
      have grown := size_step registry s line
      rw [ledger_cons, List.filterMap_cons, List.countP_cons, ih]
      rcases step_cases registry s line with
        ⟨r, _, effect⟩ | ⟨e, front, r, _, last, effect⟩ | ⟨_, effect⟩ | ⟨_, _, effect⟩ <;>
        simp only [effect] at grown ⊢
      · simp [Outcome.addedAt?, Outcome.isAdded, grown, List.range'_succ]
      · simp [Outcome.addedAt?, Outcome.isAdded, grown]
      · simp [Outcome.addedAt?, Outcome.isAdded]
      · simp [Outcome.addedAt?, Outcome.isAdded]

theorem added_of_mem_indices {run : List (Text × Outcome)} {i : Nat}
    (h : i ∈ run.filterMap (·.2.addedAt?)) :
    ∃ (k : Nat) (line : Text), run[k]? = some (line, .added i) := by
  obtain ⟨⟨line, outcome⟩, member, index⟩ := List.mem_filterMap.mp h
  obtain ⟨k, entry⟩ := List.getElem?_of_mem member
  cases outcome with
  | added j =>
      cases index
      exact ⟨k, line, entry⟩
  | attached | skipped | failed => cases index

/-- A rule of a set that was empty comes from the line that has added it. -/
theorem exists_line_of_rule {lines : List Text} {i : Nat} {r : Rule}
    (h : (empty.pushAll registry lines).1.rules[i]? = some r) :
    ∃ (k : Nat) (line : Text) (own : Rule),
      (empty.ledger registry lines)[k]? = some (line, .added i) ∧
      Line.read registry line = .ok (.rule own) ∧
      r = own.carrying (behind (empty.ledger registry lines) k) := by
  have index : i ∈ (empty.ledger registry lines).filterMap (·.2.addedAt?) := by
    obtain ⟨bound, -⟩ := Array.getElem?_eq_some_iff.mp h
    change i < (empty.pushAll registry lines).1.size at bound
    rw [size_pushAll] at bound
    rw [addedIndices_ledger, List.mem_range'_1]
    exact ⟨Nat.zero_le i, bound⟩
  obtain ⟨k, line, added⟩ := added_of_mem_indices index
  obtain ⟨own, read, carried⟩ := rule_of_added added
  exact ⟨k, line, own, added, read, Option.some.inj (h.symm.trans carried)⟩

/-- A line that is blank, a comment, unreadable or of an unknown key leaves the set alone. -/
theorem set_step_of_inert {s : RuleSet} {line : Text}
    (h : Inert registry line (s.step registry line).outcome) :
    (s.step registry line).set = s := by
  rcases step_cases registry s line with
    ⟨r, _, effect⟩ | ⟨e, front, r, read, last, effect⟩ | ⟨_, effect⟩ | ⟨_, _, effect⟩ <;>
    rw [effect] at h ⊢
  · cases h
  · obtain ⟨key, unknown⟩ := h
    rw [read] at unknown
    cases unknown
    rw [Extension.apply, ← last]

/-- So the run comes to the same set without it. -/
theorem pushAll_eraseIdx_of_inert {s : RuleSet} {lines : List Text} {k : Nat} {line : Text}
    {outcome : Outcome} (h : (s.ledger registry lines)[k]? = some (line, outcome))
    (inert : Inert registry line outcome) :
    (s.pushAll registry (lines.eraseIdx k)).1 = (s.pushAll registry lines).1 := by
  induction lines generalizing s k with
  | nil => rfl
  | cons first rest ih =>
      rw [ledger_cons] at h
      cases k with
      | succ k =>
          rw [List.eraseIdx_cons_succ, pushAll_cons_fst, pushAll_cons_fst]
          exact ih (by simpa using h)
      | zero =>
          obtain ⟨rfl, rfl⟩ : first = line ∧ (s.step registry first).outcome = outcome := by
            simpa using h
          rw [List.eraseIdx_cons_zero, pushAll_cons_fst, set_step_of_inert inert]

theorem ledger_lines (s : RuleSet) (lines : List Text) :
    (s.ledger registry lines).map (·.1) = lines := by
  induction lines generalizing s with
  | nil => rfl
  | cons line rest ih => rw [ledger_cons, List.map_cons, ih]

/-- The rules of a set are those that its lines say, in their order, and each carries what the
extension lines behind it say, up to the next line that adds a rule. -/
theorem rules_from_lines (registry : Registry) (lines : List Text) :
    let run := empty.ledger registry lines
    let s := (empty.pushAll registry lines).1
    run.map (·.1) = lines ∧
    run.filterMap (·.2.addedAt?) = List.range s.size ∧
    (∀ k i line, run[k]? = some (line, .added i) →
      ∃ r, Line.read registry line = .ok (.rule r) ∧
        s.rules[i]? = some
          { r with
            mime := Line.lastValue "!:mime" (behind run k)
            extensions := Line.extensionNames (behind run k)
            apple := Line.lastValue "!:apple" (behind run k) }) ∧
    (∀ r ∈ s.rules, ∀ name ∈ r.extensions, name ≠ [] ∧ '/' ∉ name) ∧
    (∀ k line outcome, run[k]? = some (line, outcome) → Inert registry line outcome →
      (empty.pushAll registry (lines.eraseIdx k)).1 = s) := by
  intro run s
  have size : s.size = run.countP (·.2.isAdded) := by
    rw [size_pushAll]
    exact Nat.zero_add _
  have indices : run.filterMap (·.2.addedAt?) = List.range s.size := by
    rw [size, List.range_eq_range']
    exact addedIndices_ledger empty lines
  have rules (k i : Nat) (line : Text) (h : run[k]? = some (line, .added i)) :
      ∃ r, Line.read registry line = .ok (.rule r) ∧
        s.rules[i]? = some
          { r with
            mime := Line.lastValue "!:mime" (behind run k)
            extensions := Line.extensionNames (behind run k)
            apple := Line.lastValue "!:apple" (behind run k) } := by
    obtain ⟨r, read, carried⟩ := rule_of_added h
    obtain ⟨mime, extensions, apple⟩ := Line.attachments_of_read read
    refine ⟨r, read, ?_⟩
    rw [carried, Rule.carrying, mime, extensions, apple, Option.or_none, Option.or_none,
      List.nil_append]
  refine ⟨ledger_lines empty lines, indices, rules, ?_, ?_⟩
  · intro r member name inside
    obtain ⟨i, bound, rfl⟩ := Array.mem_iff_getElem.mp member
    obtain ⟨k, line, added⟩ := added_of_mem_indices (indices ▸ List.mem_range.mpr bound)
    obtain ⟨r, _, carried⟩ := rules k i line added
    obtain ⟨_, same⟩ := Array.getElem?_eq_some_iff.mp carried
    rw [same] at inside
    exact Line.name_of_mem_extensionNames inside
  · intro k line outcome h inert
    exact pushAll_eraseIdx_of_inert h inert

/-- What is attached to the first rule stands behind a blank line, a line that fails and one of an
unknown key. The second media type counts, and the second rule has none. -/
theorem rules_from_lines_gif :
    let gif := "0 string GIF8 GIF image".toList
    let newer := ">4 string 9a version 89a".toList
    let bogus := "0 bogus 1".toList
    let strength := "!:strength + 10".toList
    let lines := [gif, "!:mime image/gif".toList, [], bogus, strength, "!:ext gif//giff".toList,
      "!:apple 8BIMGIFf".toList, "!:mime image/x-gif".toList, newer]
    let run := empty.ledger .builtin lines
    let s := (empty.pushAll .builtin lines).1
    run = lines.zip [.added 0, .attached 0, .skipped, .failed (.unknownType "bogus".toList),
      .attached 0, .attached 0, .attached 0, .attached 0, .added 1] ∧
    (∃ r, Line.read .builtin gif = .ok (.rule r) ∧
      s.rules[0]? = some
        { r with
          mime := some "image/x-gif".toList
          extensions := ["gif", "giff"].map String.toList
          apple := some "8BIMGIFf".toList }) ∧
    (∃ r, Line.read .builtin newer = .ok (.rule r) ∧
      s.rules[1]? = some { r with mime := none, extensions := [], apple := none }) ∧
    (empty.pushAll .builtin (lines.eraseIdx 3)).1 = s ∧
    (empty.pushAll .builtin (lines.eraseIdx 4)).1 = s := by
  intro gif newer bogus strength lines run s
  obtain ⟨-, -, rules, -, inert⟩ := rules_from_lines .builtin lines
  have ledger : run = lines.zip [.added 0, .attached 0, .skipped,
      .failed (.unknownType "bogus".toList), .attached 0, .attached 0, .attached 0, .attached 0,
      .added 1] := by
    decide +kernel
  obtain ⟨gifAdded, failed, attached, newerAdded⟩ :
      run[0]? = some (gif, .added 0) ∧
      run[3]? = some (bogus, .failed (.unknownType "bogus".toList)) ∧
      run[4]? = some (strength, .attached 0) ∧ run[8]? = some (newer, .added 1) := by
    rw [ledger]
    exact ⟨rfl, rfl, rfl, rfl⟩
  have unknown : Line.read .builtin strength = .ok (.extension (.unknown "!:strength".toList)) := by
    decide +kernel
  obtain ⟨behindGif, behindNewer⟩ :
      behind run 0 = (lines.drop 1).take 7 ∧ behind run 8 = [] := by
    rw [ledger]
    exact ⟨rfl, rfl⟩
  have carried : Line.lastValue "!:mime" (behind run 0) = some "image/x-gif".toList ∧
      Line.extensionNames (behind run 0) = ["gif", "giff"].map String.toList ∧
      Line.lastValue "!:apple" (behind run 0) = some "8BIMGIFf".toList := by
    rw [behindGif]
    decide +kernel
  obtain ⟨first, readFirst, rule⟩ := rules 0 0 gif gifAdded
  obtain ⟨second, readSecond, bare⟩ := rules 8 1 newer newerAdded
  rw [carried.1, carried.2.1, carried.2.2] at rule
  rw [behindNewer] at bare
  exact ⟨ledger, ⟨first, readFirst, rule⟩, ⟨second, readSecond, bare⟩,
    inert 3 bogus _ failed trivial, inert 4 strength _ attached ⟨_, unknown⟩⟩

end RuleSet

end MagicRules
