import MagicRules.Proofs.Field.Written
import MagicRules.Proofs.Literal
import Mathlib.Data.List.Infix

/-!
# Tokens of a line

A token is a field as it stands in the line, with its backslashes. Where it ends can be seen without
decoding anything: at the first separator that no backslash takes with it. Each field but the last
is its token, decoded alone (`take_split`). No escape reaches beyond the end of its token, since
nothing but digits may follow its first character, and a separator is no digit.
-/

namespace MagicRules.Field

/-- The token that a text begins with, and the text behind it. -/
def cutToken : Text → Text × Text
  | [] => ([], [])
  | c :: cs =>
    if isSeparator c then ([], c :: cs)
    else if c = '\\' then
      match cs with
      | [] => (['\\'], [])
      | d :: cs => let (token, rest) := cutToken cs; ('\\' :: d :: token, rest)
    else let (token, rest) := cutToken cs; (c :: token, rest)

/-- The tokens of a line, but at most `n` of them. -/
def tokens : Nat → Text → List Text
  | 0, _ => []
  | n + 1, line =>
    match line.dropWhile isSeparator with
    | [] => []
    | rest => let (token, rest) := cutToken rest; token :: tokens n rest

/-- The characters that a text stands for. -/
def decode (t : Text) : Text := (atoms t).map Atom.char

theorem cutToken_separator {c : Char} (h : isSeparator c) (cs : Text) :
    cutToken (c :: cs) = ([], c :: cs) := by
  rw [cutToken.eq_def]
  exact if_pos h

theorem cutToken_plain {c : Char} (h : IsPlain c) (cs : Text) :
    cutToken (c :: cs) = (c :: (cutToken cs).1, (cutToken cs).2) := by
  rw [cutToken.eq_def]
  dsimp only
  rw [if_neg (by simp [h.1]), if_neg h.2]

theorem cutToken_backslash (c : Char) (cs : Text) :
    cutToken ('\\' :: c :: cs) = ('\\' :: c :: (cutToken cs).1, (cutToken cs).2) := by
  rw [cutToken, if_neg (by decide), if_pos rfl]

theorem cutToken_append {t : Text} (h : ∀ c ∈ t, IsPlain c) (rest : Text) :
    cutToken (t ++ rest) = (t ++ (cutToken rest).1, (cutToken rest).2) := by
  induction t with
  | nil => rfl
  | cons c t ih =>
      have behind := ih fun d member => h d (List.mem_cons_of_mem c member)
      rw [List.cons_append, cutToken_plain (h c List.mem_cons_self), behind]
      rfl

theorem token_ne_nil {c : Char} (word : ¬ isSeparator c) (cs : Text) :
    (cutToken (c :: cs)).1 ≠ [] := by
  rw [cutToken.eq_def]
  dsimp only
  rw [if_neg word]
  split_ifs
  · split <;> exact List.cons_ne_nil _ _
  · exact List.cons_ne_nil _ _

theorem token_append_rest (t : Text) : (cutToken t).1 ++ (cutToken t).2 = t := by
  fun_induction cutToken t <;> simp_all

theorem stop_cutToken (t : Text) : ∀ c ∈ (cutToken t).2.head?, isSeparator c := by
  fun_induction cutToken t <;> simp_all

theorem isPlain_of_digit {radix : Nat} {c : Char} (h : (digit? radix c).isSome) : IsPlain c := by
  have ascii : ∀ n < 128, (digit? 16 (Char.ofNat n)).isSome → IsPlain (Char.ofNat n) := by
    decide +kernel
  obtain ⟨d, digit⟩ := Option.isSome_iff_exists.mp h
  have plain := ascii c.toNat (toNat_lt_of_digit? digit)
  rw [Char.ofNat_toNat] at plain
  exact plain (by rw [(digit?_eq_some_iff.mp digit).1]; rfl)

theorem digitRun_append {radix : Nat} {rest : Text} (stop : ∀ c ∈ rest.head?, isSeparator c)
    (n : Nat) (t : Text) : digitRun radix n (t ++ rest) = digitRun radix n t := by
  induction n generalizing t with
  | zero => simp [digitRun]
  | succ n ih =>
      cases t with
      | cons c t =>
          cases digit : digit? radix c with
          | some d => rw [List.cons_append, digitRun_cons digit, digitRun_cons digit, ih]
          | none => simp [digitRun, digit]
      | nil =>
          cases rest with
          | nil => rfl
          | cons c rest =>
              have separator := stop c rfl
              have other : digit? radix c = none := by
                by_contra digit
                have plain := isPlain_of_digit (Option.isSome_iff_ne_none.mpr digit)
                simp [plain.1] at separator
              simp [digitRun, other]

theorem digitRun_isPrefix (radix n : Nat) (t : Text) : digitRun radix n t <+: t :=
  (List.takeWhile_prefix _).trans (List.take_prefix n t)

theorem digitRun_append_drop (radix n : Nat) (t : Text) :
    digitRun radix n t ++ t.drop (digitRun radix n t).length = t :=
  List.prefix_iff_eq_append.mp (digitRun_isPrefix radix n t)

theorem length_digitRun_le (radix n : Nat) (t : Text) : (digitRun radix n t).length ≤ n :=
  (List.takeWhile_prefix _).length_le.trans (List.length_take_le n t)

theorem isSome_of_mem_digitRun {radix n : Nat} {t : Text} {c : Char}
    (h : c ∈ digitRun radix n t) : (digit? radix c).isSome := by
  simpa using List.mem_takeWhile_imp h

theorem digitRun_plain {radix n : Nat} {t : Text} : ∀ c ∈ digitRun radix n t, IsPlain c :=
  fun _ member => isPlain_of_digit (isSome_of_mem_digitRun member)

/-- Behind its first character an escape takes digits only. -/
theorem exists_spelled_cons (c : Char) (cs : Text) :
    ∃ digits, (∀ d ∈ digits, IsPlain d) ∧ cs = digits ++ (spelled (c :: cs)).2 := by
  have nothing : ∃ digits : Text, (∀ d ∈ digits, IsPlain d) ∧ cs = digits ++ cs := ⟨[], nofun, rfl⟩
  rw [spelled]
  split
  · exact nothing
  · split_ifs with octal hex
    · have begins : (digit? 8 c).isSome := by
        simpa using digitRun_succ_ne_nil_iff.mp octal
      obtain ⟨d, digit⟩ := Option.isSome_iff_exists.mp begins
      refine ⟨digitRun 8 2 cs, digitRun_plain, ?_⟩
      rw [digitRun_cons digit]
      exact (digitRun_append_drop 8 2 cs).symm
    · exact ⟨digitRun 16 2 cs, digitRun_plain, (digitRun_append_drop 16 2 cs).symm⟩
    · exact nothing

/-- What a separator follows is spelled as if nothing followed. -/
theorem spelled_append {rest : Text} (stop : ∀ c ∈ rest.head?, isSeparator c) (c : Char)
    (cs : Text) :
    spelled (c :: cs ++ rest) = ((spelled (c :: cs)).1, (spelled (c :: cs)).2 ++ rest) := by
  have octal : digitRun 8 3 (c :: (cs ++ rest)) = digitRun 8 3 (c :: cs) :=
    digitRun_append stop 3 (c :: cs)
  have inside (radix n : Nat) (t : Text) : (t ++ rest).drop (digitRun radix n t).length =
      t.drop (digitRun radix n t).length ++ rest :=
    List.drop_append_of_le_length (digitRun_isPrefix radix n t).length_le
  rw [List.cons_append, spelled, spelled, octal, digitRun_append stop]
  split
  · rfl
  · rw [← List.cons_append, inside, inside]
    split_ifs <;> rfl

@[simp] theorem decode_eq_nil_iff {t : Text} : decode t = [] ↔ t = [] := by
  cases t with
  | nil => simp [decode]
  | cons c cs =>
      rw [decode, atoms]
      split_ifs <;> simp

theorem atoms_escape (cs : Text) :
    atoms ('\\' :: cs) = .content (spelled cs).1 :: atoms (spelled cs).2 := by
  rw [atoms_backslash, escape_eq_spelled]

/-- A line is decoded token by token, and a token has no separator that cuts. -/
theorem atoms_cutToken (line : Text) :
    atoms line = atoms (cutToken line).1 ++ atoms (cutToken line).2 ∧
      ∀ a ∈ atoms (cutToken line).1, a.isContent := by
  fun_induction atoms line with
  | case1 => simp [cutToken]
  | case2 cs ih =>
      cases cs with
      | nil =>
          have token : cutToken ['\\'] = (['\\'], []) := rfl
          rw [token, atoms_escape]
          simp [spelled]
      | cons c cs =>
          -- The token takes the digits of the escape in and goes on in what the escape leaves.
          obtain ⟨digits, plain, shape⟩ := exists_spelled_cons c cs
          generalize hrest : (spelled (c :: cs)).2 = rest at ih shape
          obtain ⟨same, content⟩ := ih
          have token : cutToken ('\\' :: c :: cs) =
              ('\\' :: c :: (digits ++ (cutToken rest).1), (cutToken rest).2) := by
            rw [cutToken_backslash, shape, cutToken_append plain]
          have spelling : spelled (c :: (digits ++ (cutToken rest).1)) =
              ((spelled (c :: cs)).1, (cutToken rest).1) := by
            have far := spelled_append (stop_cutToken rest) c (digits ++ (cutToken rest).1)
            rw [List.cons_append, List.append_assoc, token_append_rest, ← shape] at far
            have left : (spelled (c :: (digits ++ (cutToken rest).1))).2 = (cutToken rest).1 := by
              have ends := congrArg Prod.snd far
              rw [hrest] at ends
              exact (List.append_cancel_right ((token_append_rest rest).trans ends)).symm
            exact Prod.ext (congrArg Prod.fst far).symm left
          rw [token, atoms_escape, spelling]
          exact ⟨congrArg _ same, List.forall_mem_cons.mpr ⟨rfl, content⟩⟩
  | case3 c cs raw separator ih =>
      rw [cutToken_separator separator, atoms_separator separator]
      simp
  | case4 c cs raw word ih =>
      obtain ⟨same, content⟩ := ih
      rw [cutToken_plain ⟨by simpa using word, raw⟩, atoms_content word raw, same]
      exact ⟨rfl, List.forall_mem_cons.mpr ⟨rfl, content⟩⟩

theorem map_content_char {as : List Atom} (h : ∀ a ∈ as, a.isContent) :
    (as.map Atom.char).map .content = as := by
  rw [List.map_map]
  refine (List.map_congr_left fun a member => ?_).trans (List.map_id as)
  cases a with
  | content c => rfl
  | separator c => cases h _ member

theorem group_token {c : Char} (word : ¬ isSeparator c) (cs : Text) (more : Nat) :
    group (more + 1) (atoms (c :: cs)) =
      decode (cutToken (c :: cs)).1 :: group more (atoms (cutToken (c :: cs)).2) := by
  obtain ⟨same, content⟩ := atoms_cutToken (c :: cs)
  have nonempty : decode (cutToken (c :: cs)).1 ≠ [] :=
    decode_eq_nil_iff.not.mpr (token_ne_nil word cs)
  have stop := stop_atoms (stop_cutToken (c :: cs))
  have field := group_succ_content nonempty stop more
  rwa [decode, map_content_char content, ← same] at field

/-- The first fields of a line are its first tokens, each decoded on its own. -/
theorem take_group (n : Nat) {more : Nat} (h : n ≤ more) (line : Text) :
    (group more (atoms line)).take n = (tokens n line).map decode := by
  induction n generalizing more line with
  | zero => rfl
  | succ n ih =>
      obtain ⟨more, rfl⟩ : ∃ m, more = m + 1 := Nat.exists_eq_succ_of_ne_zero (by omega)
      rw [← group_dropWhile, tokens]
      cases shape : line.dropWhile isSeparator with
      | nil => simp
      | cons c cs =>
          have word : ¬ isSeparator c := by
            simpa using stop_dropWhile isSeparator line c (by simp [shape])
          rw [group_token word, List.take_succ_cons, ih (by omega), List.map_cons]

/-- All fields but the last are the tokens of the line, each decoded on its own. -/
theorem take_split {n fields : Nat} (h : n < fields) (line : Text) :
    (split line fields).take n = (tokens n line).map decode := by
  rw [split, splitFrom_start]
  exact take_group n (by omega) line

/-- Three fields in front of a fourth are three tokens. -/
theorem tokens_of_take_split {line f₁ f₂ f₃ : Text}
    (h : (split line 4).take 3 = [f₁, f₂, f₃]) :
    ∃ t₁ t₂ t₃, tokens 3 line = [t₁, t₂, t₃] ∧ decode t₁ = f₁ ∧ decode t₂ = f₂ ∧
      decode t₃ = f₃ := by
  rw [take_split (by omega)] at h
  obtain ⟨t₁, behind₁, first, d₁, h₁⟩ := List.map_eq_cons_iff.mp h
  obtain ⟨t₂, behind₂, second, d₂, h₂⟩ := List.map_eq_cons_iff.mp h₁
  obtain ⟨t₃, behind₃, third, d₃, h₃⟩ := List.map_eq_cons_iff.mp h₂
  rw [List.map_eq_nil_iff.mp h₃] at third
  exact ⟨t₁, t₂, t₃, by rw [first, second, third], d₁, d₂, d₃⟩

end MagicRules.Field
