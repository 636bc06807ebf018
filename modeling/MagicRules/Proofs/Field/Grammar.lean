import MagicRules.Field
import Mathlib.Data.Nat.Digits.Defs

/-!
# The grammar of fields

What a line means can be said in two steps. First it is decoded into atoms: a separator that
stands there as it is, or a character of some field, however it is written. Then the atoms are
grouped: each run of content is a field, and the last field takes all that is left.

`Field.split` does both in one pass. It agrees with the two steps for every line and every
number of fields (`split_eq_group_atoms`). The pass is at any time in the middle of a field, so
the invariant is about the grouping of the atoms to come behind a part that has been read.
-/

namespace MagicRules.Field

/-- What a line consists of, once backslashes have been taken away. -/
inductive Atom where
  | separator (c : Char)
  | content (c : Char)
  deriving DecidableEq, Repr

namespace Atom

def char : Atom → Char
  | separator c | content c => c

def isContent : Atom → Bool
  | content _ => true
  | separator _ => false

@[simp] theorem char_separator (c : Char) : (separator c).char = c := rfl

@[simp] theorem char_content (c : Char) : (content c).char = c := rfl

@[simp] theorem isContent_separator (c : Char) : (separator c).isContent = false := rfl

@[simp] theorem isContent_content (c : Char) : (content c).isContent = true := rfl

end Atom

/-- The letters that stand for a control character behind a backslash. -/
def controlLetters : List (Char × Char) :=
  [('a', '\x07'), ('b', '\x08'), ('f', '\x0c'), ('n', '\n'), ('r', '\r'), ('t', '\t'),
   ('v', '\x0b')]

/-- The digits at the start of a text, but at most `n` of them. -/
def digitRun (radix n : Nat) (t : Text) : Text :=
  (t.take n).takeWhile fun c => (digit? radix c).isSome

def numberOf (radix : Nat) (run : Text) : Nat :=
  Nat.ofDigits radix (run.map fun c => (digit? radix c).getD 0).reverse

/-- The character that the text behind a backslash begins with, and the text behind it. -/
def spelled : Text → Char × Text
  | [] => ('\\', [])
  | c :: cs =>
    let octal := digitRun 8 3 (c :: cs)
    let hex := digitRun 16 2 cs
    match controlLetters.lookup c with
    | some control => (control, cs)
    | none =>
      if octal ≠ [] then (Char.ofNat (numberOf 8 octal % 256), (c :: cs).drop octal.length)
      else if c = 'x' ∧ hex ≠ [] then (Char.ofNat (numberOf 16 hex), cs.drop hex.length)
      else (c, cs)

theorem length_spelled_le (cs : Text) : (spelled cs).2.length ≤ cs.length := by
  unfold spelled
  split
  · exact Nat.le_refl _
  · dsimp only
    split
    · simp
    · split_ifs <;> simp only [List.length_drop, List.length_cons] <;> omega

/-- The atoms of a line. -/
def atoms : Text → List Atom
  | [] => []
  | c :: cs =>
    if c = '\\' then .content (spelled cs).1 :: atoms (spelled cs).2
    else if isSeparator c then .separator c :: atoms cs
    else .content c :: atoms cs
termination_by line => line.length
decreasing_by
  all_goals simp only [List.length_cons]
  all_goals have := length_spelled_le cs
  all_goals omega

/-- The fields of atoms, of which `more` may come in front of the last one. -/
def group : Nat → List Atom → List Text
  | 0, as =>
    match as.dropWhile (!·.isContent) with
    | [] => []
    | last => [last.map Atom.char]
  | more + 1, as =>
    match as.dropWhile (!·.isContent) with
    | [] => []
    | rest =>
      (rest.takeWhile Atom.isContent).map Atom.char :: group more (rest.dropWhile Atom.isContent)

/-- Counting digits off and reading their run are the same. -/
theorem digits_eq (radix n value : Nat) (cs : Text) :
    digits radix n value cs =
      (Nat.ofDigits radix
          (((digitRun radix n cs).map fun c => (digit? radix c).getD 0).reverse ++ [value]),
        cs.drop (digitRun radix n cs).length) := by
  fun_induction digits radix n value cs with
  | case1 n value c cs d digit ih =>
      have run : digitRun radix (n + 1) (c :: cs) = c :: digitRun radix n cs := by
        simp [digitRun, digit]
      rw [ih, run]
      simp only [digit, List.map_cons, List.reverse_cons, List.append_assoc, Option.getD_some,
        List.length_cons, List.drop_succ_cons, Prod.mk.injEq, and_true]
      rw [Nat.ofDigits_append, Nat.ofDigits_append]
      simp only [List.cons_append, List.nil_append, Nat.ofDigits_cons, Nat.ofDigits_nil,
        Nat.mul_zero, Nat.add_zero]
      rw [Nat.mul_comm value radix, Nat.add_comm d]
  | case2 n value c cs digit =>
      have run : digitRun radix (n + 1) (c :: cs) = [] := by simp [digitRun, digit]
      simp [run]
  | case3 n value cs stop =>
      have run : digitRun radix n cs = [] := by
        cases n with
        | zero => simp [digitRun]
        | succ n =>
            cases cs with
            | nil => simp [digitRun]
            | cons c cs => exact absurd rfl (stop n c cs rfl)
      simp [run]

theorem control?_eq_lookup (c : Char) : control? c = controlLetters.lookup c := by
  unfold control?
  split
  · rfl
  · rfl
  · rfl
  · rfl
  · rfl
  · rfl
  · rfl
  · rename_i n r t b a f v
    refine (List.lookup_eq_none_iff.mpr ?_).symm
    intro entry member
    simp only [controlLetters, List.mem_cons, List.not_mem_nil, or_false] at member
    rcases member with rfl | rfl | rfl | rfl | rfl | rfl | rfl <;> simpa using by assumption

theorem mem_of_lookup {c control : Char} (h : controlLetters.lookup c = some control) :
    (c, control) ∈ controlLetters := by
  obtain ⟨front, back, shape, -⟩ := List.lookup_eq_some_iff.mp h
  rw [shape]
  exact List.mem_append_right _ List.mem_cons_self

theorem digitRun_cons {radix n d : Nat} {c : Char} (h : digit? radix c = some d) (cs : Text) :
    digitRun radix (n + 1) (c :: cs) = c :: digitRun radix n cs := by
  simp [digitRun, h]

theorem digitRun_succ_ne_nil_iff {radix n : Nat} {cs : Text} :
    digitRun radix (n + 1) cs ≠ [] ↔ cs.head?.any fun c => (digit? radix c).isSome := by
  cases cs with
  | nil => simp [digitRun]
  | cons c cs => cases h : digit? radix c <;> simp [digitRun, h]

theorem escape_eq_spelled (cs : Text) : escape cs = spelled cs := by
  cases cs with
  | nil => rfl
  | cons c cs =>
      rw [escape, spelled, control?_eq_lookup]
      cases controlLetters.lookup c with
      | some control => rfl
      | none =>
          cases octal : digit? 8 c with
          | some d =>
              have run : digitRun 8 3 (c :: cs) = c :: digitRun 8 2 cs := digitRun_cons octal cs
              have number : (digits 8 2 d cs).1 = numberOf 8 (digitRun 8 3 (c :: cs)) := by
                rw [digits_eq, run]
                simp [numberOf, octal]
              have left : (digits 8 2 d cs).2 =
                  (c :: cs).drop (digitRun 8 3 (c :: cs)).length := by
                rw [digits_eq, run]
                rfl
              dsimp only
              rw [number, left, run, if_pos (List.cons_ne_nil _ _)]
          | none =>
              have noOctal : ¬ digitRun 8 3 (c :: cs) ≠ [] := by
                simp [digitRun_succ_ne_nil_iff, octal]
              have begins : digitRun 16 2 cs ≠ [] ↔ cs.head?.any isHexDigit :=
                digitRun_succ_ne_nil_iff
              have number : (digits 16 2 0 cs).1 = numberOf 16 (digitRun 16 2 cs) := by
                rw [digits_eq]
                simp [numberOf, Nat.ofDigits_append]
              have left : (digits 16 2 0 cs).2 = cs.drop (digitRun 16 2 cs).length := by
                rw [digits_eq]
              dsimp only
              rw [if_neg noOctal, number, left]
              simp only [begins, Bool.and_eq_true, decide_eq_true_eq]

@[simp] theorem group_nil (more : Nat) : group more [] = [] := by
  cases more <;> rfl

/-- Separators in front of a field are passed over. -/
@[simp] theorem group_separator (more : Nat) (c : Char) (as : List Atom) :
    group more (.separator c :: as) = group more as := by
  cases more <;> rfl

/-- The fields of atoms behind a part of a field that has been read, its last character first. -/
def groupBehind (more : Nat) (part : Text) (as : List Atom) : List Text :=
  if part.isEmpty then group more as
  else match more with
    | 0 => [part.reverse ++ as.map Atom.char]
    | more + 1 =>
      (part.reverse ++ (as.takeWhile Atom.isContent).map Atom.char)
        :: group more (as.dropWhile Atom.isContent)

theorem groupBehind_nil (more : Nat) (part : Text) :
    groupBehind more part [] = if part.isEmpty then [] else [part.reverse] := by
  cases more <;> simp [groupBehind]

theorem groupBehind_content (more : Nat) (part : Text) (c : Char) (as : List Atom) :
    groupBehind more part (.content c :: as) = groupBehind more (c :: part) as := by
  cases part with
  | nil => cases more <;> rfl
  | cons d part => cases more <;> simp [groupBehind, List.takeWhile_cons, List.dropWhile_cons]

/-- In front of the last field, a separator ends the part if there is one. -/
theorem groupBehind_succ_separator (more : Nat) (part : Text) (c : Char) (as : List Atom) :
    groupBehind (more + 1) part (.separator c :: as) =
      if part.isEmpty then groupBehind (more + 1) [] as
      else part.reverse :: groupBehind more [] as := by
  cases part <;> simp [groupBehind]

/-- In the last field, separators are kept but for those in front. -/
theorem groupBehind_zero_separator (part : Text) (c : Char) (as : List Atom) :
    groupBehind 0 part (.separator c :: as) =
      groupBehind 0 (if part.isEmpty then [] else c :: part) as := by
  cases part <;> simp [groupBehind]

theorem atoms_backslash (cs : Text) :
    atoms ('\\' :: cs) = .content (escape cs).1 :: atoms (escape cs).2 := by
  rw [atoms, if_pos rfl, escape_eq_spelled]

theorem atoms_separator {c : Char} (h : isSeparator c) (cs : Text) :
    atoms (c :: cs) = .separator c :: atoms cs := by
  have raw : c ≠ '\\' := by
    rintro rfl
    exact absurd h (by decide)
  rw [atoms, if_neg raw, if_pos h]

theorem atoms_content {c : Char} (h : ¬ isSeparator c) (raw : c ≠ '\\') (cs : Text) :
    atoms (c :: cs) = .content c :: atoms cs := by
  rw [atoms, if_neg raw, if_neg h]

/-- In the middle of a line, the pass goes on to group the atoms to come. -/
theorem splitFrom_eq_groupBehind (fields complete : Nat) (part cs : Text) :
    splitFrom fields complete part cs =
      groupBehind (fields - 1 - complete) part (atoms cs) := by
  fun_induction splitFrom fields complete part cs with
  | case1 complete part empty => rw [atoms, groupBehind_nil, if_pos empty]
  | case2 complete part started => rw [atoms, groupBehind_nil, if_neg started]
  | case3 complete part c cs sep more empty ih =>
      obtain ⟨left, hleft⟩ : ∃ left, fields - 1 - complete = left + 1 :=
        Nat.exists_eq_succ_of_ne_zero (by omega)
      rw [ih, hleft, atoms_separator sep, groupBehind_succ_separator, if_pos empty]
  | case4 complete part c cs sep more started ih =>
      obtain ⟨left, hleft⟩ : ∃ left, fields - 1 - complete = left + 1 :=
        Nat.exists_eq_succ_of_ne_zero (by omega)
      have next : fields - 1 - (complete + 1) = left := by omega
      rw [ih, next, hleft, atoms_separator sep, groupBehind_succ_separator, if_neg started]
  | case5 complete part c cs sep full ih =>
      have last : fields - 1 - complete = 0 := by omega
      rw [last] at ih ⊢
      rw [atoms_separator sep, groupBehind_zero_separator]
      exact ih
  | case6 complete part cs _ ih => rw [ih, atoms_backslash, groupBehind_content]
  | case7 complete part c cs sep raw ih =>
      rw [ih, atoms_content sep raw, groupBehind_content]

/-- At the start of a line, when nothing has been read yet, these are all its atoms. -/
theorem splitFrom_start (fields : Nat) (line : Text) :
    splitFrom fields 0 [] line = group (fields - 1) (atoms line) :=
  splitFrom_eq_groupBehind fields 0 [] line

/-- Cutting a line in one pass is decoding it into atoms and then grouping them: as long as
fewer fields are complete than come in front of the last one, each run of content is a field,
and the last one goes from the next content to the end of the line. -/
theorem split_eq_group_atoms (line : Text) (fields : Nat) :
    split line fields = group (fields - 1) (atoms line) := by
  rw [split, splitFrom_eq_groupBehind]
  rfl

/-- A blank that was written with a backslash does not end the first field. -/
example : group 1 (atoms "a\\ b\\78 c\\x d ".toList) =
    ["a b\x078".toList, "cx d ".toList] := by
  cbv

end MagicRules.Field
