import MagicRules.Offset.Parser
import MagicRules.Proofs.Literal
import MagicRules.Proofs.Text
import Mathlib.Computability.RegularExpressions

/-!
# The grammar of indirect offsets

The texts that are read as indirect offsets follow a regular expression, `grammar`. It is
ambiguous, since `b` and `B` are digits as well as type letters, and the reader follows it in one
way only: each part takes as much as it can, and nothing is tried twice (`Longest`). No text is
lost by that. A digit that the base takes from a later part, and a letter that is taken for the
type before the adjustment begins, leave parts that follow the expression again
(`Derives.exists_longest`).

What comes out is then a matter of the two numbers alone (`ofText_by_grammar`).
-/

namespace MagicRules.Indirect

def numberChars : Text := "0123456789abcdefABCDEFx".toList

def typeLetters : Text := "bsilBSILm".toList

def signs : Text := ['+', '-']

section Expressions

open RegularExpression

def oneOf (cs : Text) : RegularExpression Char := cs.foldr (fun c r => char c + r) 0

def oneOrMore (cs : Text) : RegularExpression Char := oneOf cs * star (oneOf cs)

def optional (cs : Text) : RegularExpression Char := 1 + oneOf cs

/-- `(`, number characters, perhaps a point, a type letter and a sign, perhaps number characters
again, and `)`. -/
def grammar : RegularExpression Char :=
  char '(' * (oneOrMore numberChars * (optional ['.'] * (optional typeLetters *
    (optional signs * (star (oneOf numberChars) * char ')')))))

theorem mem_oneOf {cs t : Text} : t ∈ (oneOf cs).matches' ↔ ∃ c ∈ cs, t = [c] := by
  induction cs with
  | nil => simp [oneOf, Language.notMem_zero]
  | cons c cs ih =>
      have step : (oneOf (c :: cs)).matches' = (char c).matches' + (oneOf cs).matches' := rfl
      rw [step, Language.mem_add, ih]
      simp
      rfl

theorem mem_optional {cs t : Text} :
    t ∈ (optional cs).matches' ↔ ∃ o : Option Char, (∀ c ∈ o, c ∈ cs) ∧ o.toList = t := by
  rw [optional, matches'_add, Language.mem_add, matches'_epsilon, Language.mem_one, mem_oneOf]
  constructor
  · rintro (rfl | ⟨c, member, rfl⟩)
    · exact ⟨none, nofun, rfl⟩
    · exact ⟨some c, by rintro _ ⟨⟩; exact member, rfl⟩
  · rintro ⟨o, member, rfl⟩
    cases o with
    | none => exact .inl rfl
    | some c => exact .inr ⟨c, member c rfl, rfl⟩

theorem mem_star_oneOf {cs t : Text} :
    t ∈ (star (oneOf cs)).matches' ↔ ∀ c ∈ t, c ∈ cs := by
  rw [matches'_star, Language.mem_kstar]
  constructor
  · rintro ⟨words, rfl, single⟩ c member
    obtain ⟨word, inWords, inWord⟩ := List.mem_flatten.mp member
    obtain ⟨d, inClass, rfl⟩ := mem_oneOf.mp (single word inWords)
    exact List.mem_singleton.mp inWord ▸ inClass
  · intro all
    refine ⟨t.map fun c => [c], by rw [← List.flatMap_def, List.flatMap_singleton'], ?_⟩
    intro word inWords
    obtain ⟨c, member, rfl⟩ := List.mem_map.mp inWords
    exact mem_oneOf.mpr ⟨c, all c member, rfl⟩

theorem mem_mul {p q : RegularExpression Char} {t : Text} :
    t ∈ (p * q).matches' ↔ ∃ u ∈ p.matches', ∃ v ∈ q.matches', u ++ v = t := by
  rw [matches'_mul, Language.mem_mul]

theorem mem_oneOrMore {cs t : Text} :
    t ∈ (oneOrMore cs).matches' ↔ t ≠ [] ∧ ∀ c ∈ t, c ∈ cs := by
  rw [oneOrMore, mem_mul]
  constructor
  · rintro ⟨first, one, rest, more, rfl⟩
    obtain ⟨c, member, rfl⟩ := mem_oneOf.mp one
    exact ⟨List.cons_ne_nil _ _, List.forall_mem_cons.mpr ⟨member, mem_star_oneOf.mp more⟩⟩
  · rintro ⟨nonempty, all⟩
    obtain ⟨c, cs, rfl⟩ := List.exists_cons_of_ne_nil nonempty
    obtain ⟨first, more⟩ := List.forall_mem_cons.mp all
    exact ⟨[c], mem_oneOf.mpr ⟨c, first, rfl⟩, cs, mem_star_oneOf.mpr more, rfl⟩

end Expressions

/-- The text follows the grammar with these parts, and with this point behind the base. -/
structure Derives (t : Text) (point : Option Char) (parts : Parts) : Prop where
  text_eq : t = '(' :: (parts.base ++ (point.toList ++ (parts.letter.toList ++
    (parts.sign.toList ++ (parts.add ++ [')'])))))
  base_ne_nil : parts.base ≠ []
  base_mem : ∀ c ∈ parts.base, c ∈ numberChars
  point_mem : ∀ c ∈ point, c ∈ ['.']
  letter_mem : ∀ c ∈ parts.letter, c ∈ typeLetters
  sign_mem : ∀ c ∈ parts.sign, c ∈ signs
  add_mem : ∀ c ∈ parts.add, c ∈ numberChars

/-- No part could be longer, from the first to the last: no number character stands behind the
base, and no type letter where one has been left out. For the point and the sign there is no
choice. -/
structure Longest (t : Text) (point : Option Char) (parts : Parts) : Prop
    extends Derives t point parts where
  base_stop : ∀ c ∈ (point.toList ++ (parts.letter.toList ++
    (parts.sign.toList ++ (parts.add ++ [')'])))).head?, c ∉ numberChars
  letter_stop : parts.letter = none →
    ∀ c ∈ (parts.sign.toList ++ (parts.add ++ [')'])).head?, c ∉ typeLetters

theorem not_mem_numberChars_of_mem_signs : ∀ c ∈ signs, c ∉ numberChars :=
  Text.forall_mem_of_all (by decide)

theorem not_mem_typeLetters_of_mem_signs : ∀ c ∈ signs, c ∉ typeLetters :=
  Text.forall_mem_of_all (by decide)

/-- The base may take the number characters behind it in: what is left of the parts they belonged to
is an adjustment, if anything. -/
theorem Derives.exists_base_stop {t : Text} {point : Option Char} {parts : Parts}
    (h : Derives t point parts) :
    ∃ point parts, Derives t point parts ∧ ∀ c ∈ (point.toList ++ (parts.letter.toList ++
      (parts.sign.toList ++ (parts.add ++ [')'])))).head?, c ∉ numberChars := by
  have derived := h
  obtain ⟨rfl, nonempty, hbase, hpoint, hletter, hsign, hadd⟩ := h
  obtain ⟨base, letter, sign, add⟩ := parts
  dsimp only at *
  have longer (more : Text) (hmore : ∀ c ∈ more, c ∈ numberChars) :
      base ++ more ≠ [] ∧ ∀ c ∈ base ++ more, c ∈ numberChars :=
    ⟨List.append_ne_nil_of_left_ne_nil nonempty more,
      List.forall_mem_append.mpr ⟨hbase, hmore⟩⟩
  cases point with
  | some c =>
      refine ⟨_, _, derived, ?_⟩
      rintro _ ⟨⟩
      rw [List.mem_singleton.mp (hpoint c rfl)]
      decide
  | none =>
      cases letter with
      | some l =>
          by_cases digit : l ∈ numberChars
          · cases sign with
            | some s =>
                obtain ⟨some, all⟩ := longer [l] (List.forall_mem_singleton.mpr digit)
                refine ⟨none, { base := base ++ [l], letter := none, sign := s, add },
                  ⟨by simp, some, all, nofun, nofun, hsign, hadd⟩, ?_⟩
                rintro _ ⟨⟩
                exact not_mem_numberChars_of_mem_signs s (hsign s rfl)
            | none =>
                obtain ⟨some, all⟩ := longer (l :: add) (List.forall_mem_cons.mpr ⟨digit, hadd⟩)
                refine ⟨none, { base := base ++ l :: add, letter := none, sign := none, add := [] },
                  ⟨by simp, some, all, nofun, nofun, nofun, nofun⟩, ?_⟩
                rintro _ ⟨⟩
                decide
          · refine ⟨_, _, derived, ?_⟩
            rintro _ ⟨⟩
            exact digit
      | none =>
          cases sign with
          | some s =>
              refine ⟨_, _, derived, ?_⟩
              rintro _ ⟨⟩
              exact not_mem_numberChars_of_mem_signs s (hsign s rfl)
          | none =>
              obtain ⟨some, all⟩ := longer add hadd
              refine ⟨none, { base := base ++ add, letter := none, sign := none, add := [] },
                ⟨by simp, some, all, nofun, nofun, nofun, nofun⟩, ?_⟩
              rintro _ ⟨⟩
              decide

/-- No text is lost when every part takes as much as it can. -/
theorem Derives.exists_longest {t : Text} {point : Option Char} {parts : Parts}
    (h : Derives t point parts) : ∃ point parts, Longest t point parts := by
  obtain ⟨point, ⟨base, letter, sign, add⟩, derived, stop⟩ := h.exists_base_stop
  cases letter with
  | some l => exact ⟨_, _, derived, stop, nofun⟩
  | none =>
      cases sign with
      | some s =>
          refine ⟨_, _, derived, stop, fun _ => ?_⟩
          rintro _ ⟨⟩
          exact not_mem_typeLetters_of_mem_signs s (derived.sign_mem s rfl)
      | none =>
          cases add with
          | nil =>
              refine ⟨_, _, derived, stop, fun _ => ?_⟩
              rintro _ ⟨⟩
              decide
          | cons c add =>
              by_cases tag : c ∈ typeLetters
              -- The first digit of the adjustment is taken for the type.
              · obtain ⟨_, inAdd⟩ := List.forall_mem_cons.mp derived.add_mem
                refine ⟨point, { base, letter := c, sign := none, add }, ⟨derived.text_eq,
                  derived.base_ne_nil, derived.base_mem, derived.point_mem, ?_, nofun, inAdd⟩,
                  stop, nofun⟩
                rintro _ ⟨⟩
                exact tag
              · refine ⟨_, _, derived, stop, fun _ => ?_⟩
                rintro _ ⟨⟩
                exact tag

theorem mem_grammar_iff {t : Text} :
    t ∈ grammar.matches' ↔ ∃ point parts, Derives t point parts := by
  simp only [grammar, mem_mul, mem_oneOrMore, mem_optional, mem_star_oneOf]
  constructor
  · rintro ⟨_, rfl, _, ⟨base, ⟨nonempty, hbase⟩, _, ⟨_, ⟨point, hpoint, rfl⟩, _,
      ⟨_, ⟨letter, hletter, rfl⟩, _, ⟨_, ⟨sign, hsign, rfl⟩, _, ⟨add, hadd, _, rfl, rfl⟩,
      rfl⟩, rfl⟩, rfl⟩, rfl⟩, rfl⟩
    exact ⟨point, { base, letter, sign, add }, rfl, nonempty, hbase, hpoint, hletter, hsign, hadd⟩
  · rintro ⟨point, parts, rfl, nonempty, hbase, hpoint, hletter, hsign, hadd⟩
    exact ⟨['('], rfl, _, ⟨_, ⟨nonempty, hbase⟩, _, ⟨_, ⟨point, hpoint, rfl⟩, _,
      ⟨_, ⟨_, hletter, rfl⟩, _, ⟨_, ⟨_, hsign, rfl⟩, _, ⟨_, hadd, [')'], rfl, rfl⟩,
      rfl⟩, rfl⟩, rfl⟩, rfl⟩, rfl⟩

theorem isNumberChar_iff {c : Char} : isNumberChar c ↔ c ∈ numberChars := by
  constructor
  · intro number
    have ascii : ∀ n < 128, isNumberChar (Char.ofNat n) → Char.ofNat n ∈ numberChars := by
      decide
    have small : c.toNat < 128 := by
      rcases (Bool.or_eq_true _ _).mp number with digit | x
      · obtain ⟨d, value⟩ := Option.isSome_iff_exists.mp digit
        exact toNat_lt_of_digit? value
      · rw [of_decide_eq_true x]
        decide
    have same := ascii c.toNat small
    rw [Char.ofNat_toNat] at same
    exact same number
  · intro member
    have all : numberChars.all isNumberChar := by decide
    exact List.all_eq_true.mp all c member

theorem isLetter_iff {c : Char} : isLetter c ↔ c ∈ typeLetters := List.contains_iff_mem

theorem isSign_iff {c : Char} : isSign c ↔ c ∈ signs := by
  simp [isSign, signs]

theorem not_isSign_of_isNumberChar {c : Char} (h : isNumberChar c) : ¬ isSign c := by
  intro sign
  rcases (by simpa [isSign] using sign : c = '+' ∨ c = '-') with rfl | rfl <;>
    exact absurd h (by decide)

theorem not_isSign_of_head? {add : Text} (h : ∀ c ∈ add, isNumberChar c) :
    ∀ c ∈ (add ++ [')']).head?, ¬ isSign c := by
  intro c first
  rcases List.mem_append.mp (List.mem_of_head? first) with digit | close
  · exact not_isSign_of_isNumberChar (h c digit)
  · rw [List.mem_singleton.mp close]
    decide

theorem ne_point_of_head? {letter sign : Option Char} {add : Text}
    (hletter : ∀ c ∈ letter, c ∈ typeLetters) (hsign : ∀ c ∈ sign, c ∈ signs)
    (hadd : ∀ c ∈ add, c ∈ numberChars) :
    ∀ c ∈ (letter.toList ++ (sign.toList ++ (add ++ [')']))).head?, c ≠ '.' := by
  intro c first
  have kinds : ∀ c ∈ typeLetters ++ (signs ++ (numberChars ++ [')'])), c ≠ '.' :=
    Text.forall_mem_of_all (by decide)
  have member := List.mem_of_head? first
  apply kinds c
  simp only [List.mem_append, Option.mem_toList] at member ⊢
  exact member.imp (hletter c) (Or.imp (hsign c) (Or.imp_left (hadd c)))

/-- Takes one character off that is there, and none that is not. -/
theorem takeOne_eq_iff {p : Char → Bool} {o : Option Char} {t rest : Text} :
    takeOne p t = (o, rest) ↔
      t = o.toList ++ rest ∧ (∀ c ∈ o, p c) ∧ (o = none → ∀ c ∈ rest.head?, ¬ p c) := by
  constructor
  · intro taken
    cases t with
    | nil =>
        cases taken
        exact ⟨rfl, nofun, fun _ => nofun⟩
    | cons c cs =>
        rw [takeOne] at taken
        split_ifs at taken with holds <;> cases taken
        · refine ⟨rfl, ?_, nofun⟩
          rintro _ ⟨⟩
          exact holds
        · refine ⟨rfl, nofun, fun _ => ?_⟩
          rintro _ ⟨⟩
          exact holds
  · rintro ⟨rfl, holds, stop⟩
    cases o with
    | some c => simp [takeOne, holds c rfl]
    | none =>
        cases rest with
        | nil => rfl
        | cons c cs => simpa [takeOne] using stop rfl c rfl

namespace Parts

/-- What is taken apart follows the grammar with its parts, each as long as it can be. -/
theorem longest_of_ofText? {t : Text} {parts : Parts} (h : ofText? t = some parts) :
    ∃ point, Longest t point parts := by
  unfold ofText? at h
  split at h
  · rename_i u
    obtain ⟨⟨point, u₁⟩, atPoint⟩ : ∃ r, takeOne (· = '.') (u.dropWhile isNumberChar) = r :=
      ⟨_, rfl⟩
    obtain ⟨⟨letter, u₂⟩, atLetter⟩ : ∃ r, takeOne isLetter u₁ = r := ⟨_, rfl⟩
    obtain ⟨⟨sign, u₃⟩, atSign⟩ : ∃ r, takeOne isSign u₂ = r := ⟨_, rfl⟩
    simp only [atPoint, atLetter, atSign] at h
    split_ifs at h with bad
    cases h
    obtain ⟨nonempty, close⟩ := not_or.mp bad
    obtain ⟨afterBase, hpoint, _⟩ := takeOne_eq_iff.mp atPoint
    obtain ⟨rfl, hletter, letterStop⟩ := takeOne_eq_iff.mp atLetter
    obtain ⟨rfl, hsign, _⟩ := takeOne_eq_iff.mp atSign
    have end_eq : u₃ = u₃.takeWhile isNumberChar ++ [')'] := by
      rw [← not_not.mp close, List.takeWhile_append_dropWhile]
    have text_eq : u = u.takeWhile isNumberChar ++ (point.toList ++ (letter.toList ++
        (sign.toList ++ (u₃.takeWhile isNumberChar ++ [')'])))) := by
      rw [← end_eq, ← afterBase, List.takeWhile_append_dropWhile]
    refine ⟨point, ⟨congrArg _ text_eq, by simpa using nonempty, ?_, ?_, ?_, ?_, ?_⟩, ?_, ?_⟩
    · intro c member
      exact isNumberChar_iff.mp (List.mem_takeWhile_imp member)
    · intro c member
      exact List.mem_singleton.mpr (of_decide_eq_true (hpoint c member))
    · intro c member
      exact isLetter_iff.mp (hletter c member)
    · intro c member
      exact isSign_iff.mp (hsign c member)
    · intro c member
      exact isNumberChar_iff.mp (List.mem_takeWhile_imp member)
    · intro c first
      dsimp only at first
      rw [← end_eq, ← afterBase] at first
      rw [← isNumberChar_iff, Bool.not_eq_true]
      exact stop_dropWhile isNumberChar u c first
    · intro left c first
      dsimp only at first
      rw [← end_eq] at first
      rw [← isLetter_iff]
      exact letterStop left c first
  · cases h

/-- A text that follows the grammar is taken apart into the longest parts. -/
theorem ofText?_of_longest {t : Text} {point : Option Char} {parts : Parts}
    (h : Longest t point parts) : ofText? t = some parts := by
  obtain ⟨⟨rfl, nonempty, hbase, hpoint, hletter, hsign, hadd⟩, baseStop, letterStop⟩ := h
  obtain ⟨base, letter, sign, add⟩ := parts
  dsimp only at *
  have number (cs : Text) (all : ∀ c ∈ cs, c ∈ numberChars) : ∀ c ∈ cs, isNumberChar c :=
    fun c member => isNumberChar_iff.mpr (all c member)
  obtain ⟨takeBase, dropBase⟩ := span_append (number base hbase) fun c first =>
    Bool.eq_false_iff.mpr fun digit => baseStop c first (isNumberChar_iff.mp digit)
  have close : ∀ c ∈ [')'].head?, isNumberChar c = false := by
    rintro _ ⟨⟩
    decide
  obtain ⟨takeAdd, dropAdd⟩ := span_append (number add hadd) close
  have atPoint : takeOne (· = '.') (point.toList ++ (letter.toList ++ (sign.toList ++
      (add ++ [')'])))) = (point, letter.toList ++ (sign.toList ++ (add ++ [')']))) := by
    refine takeOne_eq_iff.mpr ⟨rfl, by simpa using hpoint, fun _ c first => ?_⟩
    simpa using ne_point_of_head? hletter hsign hadd c first
  have atLetter : takeOne isLetter (letter.toList ++ (sign.toList ++ (add ++ [')']))) =
      (letter, sign.toList ++ (add ++ [')'])) := by
    refine takeOne_eq_iff.mpr ⟨rfl, ?_, ?_⟩
    · intro c member
      exact isLetter_iff.mpr (hletter c member)
    · intro left c first
      rw [isLetter_iff]
      exact letterStop left c first
  have atSign : takeOne isSign (sign.toList ++ (add ++ [')'])) = (sign, add ++ [')']) := by
    refine takeOne_eq_iff.mpr ⟨rfl, ?_, fun _ => not_isSign_of_head? (number add hadd)⟩
    intro c member
    exact isSign_iff.mpr (hsign c member)
  simp only [ofText?, takeBase, dropBase, atPoint, atLetter, atSign, takeAdd, dropAdd]
  simp [nonempty]

theorem ofText?_eq_some_iff {t : Text} {parts : Parts} :
    ofText? t = some parts ↔ ∃ point, Longest t point parts := by
  constructor
  · exact longest_of_ofText?
  · rintro ⟨point, longest⟩
    exact ofText?_of_longest longest

end Parts

end MagicRules.Indirect
