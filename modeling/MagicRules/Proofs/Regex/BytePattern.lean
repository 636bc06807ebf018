import MagicRules.Proofs.Literal
import MagicRules.Proofs.Text.Latin
import MagicRules.Regex.BytePattern

/-!
# Tokens of a pattern

A backslash in a pattern escapes the byte behind it, and a backslash that is escaped itself escapes
nothing. So a pattern consists of tokens, and spelling it in ASCII is spelling each token for itself
(`asciiFrom_eq`): the one bit that is carried along says whether the token at hand has begun with a
backslash. What is spelled is ASCII and stays as it is when it is spelled again.
-/

namespace MagicRules.Regex

/-- A byte of a pattern, alone or with an unescaped backslash in front of it. -/
inductive ByteToken where
  | single (b : UInt8)
  | escaped (b : UInt8)
  deriving DecidableEq, Repr

namespace ByteToken

def byte : ByteToken → UInt8
  | single b | escaped b => b

def bytes : ByteToken → Bytes
  | single b => [b]
  | escaped b => [0x5c, b]

/-- The token in ASCII. A byte beyond ASCII is two hexadecimal digits, whether it was escaped or
not. -/
def spelled (t : ByteToken) : Text :=
  if t.byte < 0x80 then Text.ofBytes t.bytes else '\\' :: 'x' :: Text.ofByte t.byte

end ByteToken

/-- The tokens of a pattern. A backslash at its end is one of them. -/
def byteTokens : Bytes → List ByteToken
  | [] => []
  | [b] => [.single b]
  | b :: c :: bs =>
    if b = 0x5c then .escaped c :: byteTokens bs else .single b :: byteTokens (c :: bs)

theorem flatMap_bytes_byteTokens (bs : Bytes) : (byteTokens bs).flatMap ByteToken.bytes = bs := by
  fun_induction byteTokens bs with
  | case1 => rfl
  | case2 b => rfl
  | case3 c bs ih => rw [List.flatMap_cons, ih]; rfl
  | case4 b c bs raw ih => rw [List.flatMap_cons, ih]; rfl

theorem ByteToken.byte_mem_bytes (t : ByteToken) : t.byte ∈ t.bytes := by
  cases t with
  | single b => exact List.mem_singleton_self b
  | escaped b => exact List.mem_cons_of_mem _ (List.mem_singleton_self b)

theorem asciiFrom_single {b : UInt8} (raw : b ≠ 0x5c) (bs : Bytes) :
    asciiFrom false (b :: bs) = (ByteToken.single b).spelled ++ asciiFrom false bs := by
  by_cases low : b < 0x80
  · simp [asciiFrom, ByteToken.spelled, ByteToken.byte, ByteToken.bytes, low, raw]
  · simp [asciiFrom, ByteToken.spelled, ByteToken.byte, low]

/-- The backslash is written at once, and the byte behind it escapes nothing. -/
theorem asciiFrom_escaped (b : UInt8) (bs : Bytes) :
    asciiFrom false (0x5c :: b :: bs) = (ByteToken.escaped b).spelled ++ asciiFrom false bs := by
  by_cases low : b < 0x80
  · simp [asciiFrom, ByteToken.spelled, ByteToken.byte, ByteToken.bytes, low]
  · simp [asciiFrom, ByteToken.spelled, ByteToken.byte, low]

theorem asciiFrom_eq (bs : Bytes) :
    asciiFrom false bs = (byteTokens bs).flatMap ByteToken.spelled := by
  fun_induction byteTokens bs with
  | case1 => rfl
  | case2 b =>
      -- Only at the end may the byte be a backslash that escapes nothing.
      by_cases raw : b = 0x5c
      · subst raw
        rfl
      · rw [asciiFrom_single raw]
        rfl
  | case3 c bs ih => rw [asciiFrom_escaped, ih, List.flatMap_cons]
  | case4 b c bs raw ih => rw [asciiFrom_single raw, ih, List.flatMap_cons]

theorem map_digit?_ofByte (b : UInt8) :
    (Text.ofByte b).map (digit? 16) = [some (b.toNat / 16), some (b.toNat % 16)] := by
  have byte : b.toNat < 256 := b.toNat_lt
  have high := digit?_digitChar (le_refl 16) (by omega : b.toNat / 16 < 16)
  have low := digit?_digitChar (le_refl 16) (by omega : b.toNat % 16 < 16)
  rw [Text.ofByte, List.map_cons, List.map_singleton, high, low]

theorem ByteToken.ascii_spelled (t : ByteToken) : ∀ c ∈ t.spelled, c.toNat < 0x80 := by
  have digits : ∀ d < 16, d.digitChar.toNat < 0x80 := by decide
  have byte : t.byte.toNat < 256 := t.byte.toNat_lt
  by_cases low : t.byte < 0x80
  · have small : ∀ b ∈ t.bytes, b.toNat < 0x80 := by
      have value : t.byte.toNat < 0x80 := low
      cases t with
      | single b => exact List.forall_mem_singleton.mpr value
      | escaped b => exact List.forall_mem_cons.mpr ⟨by decide, List.forall_mem_singleton.mpr value⟩
    intro c member
    rw [spelled, if_pos low] at member
    obtain ⟨b, inside, rfl⟩ := List.mem_map.mp member
    rw [Text.toNat_ofNat_byte]
    exact small b inside
  · rw [spelled, if_neg low, Text.ofByte]
    simp only [List.forall_mem_cons]
    exact ⟨by decide, by decide, digits _ (by omega), digits _ (by omega), nofun⟩

theorem ascii_bytePattern (t : Text) : ∀ c ∈ bytePattern t, c.toNat < 0x80 := by
  intro c member
  rw [bytePattern, asciiFrom_eq] at member
  obtain ⟨token, -, inside⟩ := List.mem_flatMap.mp member
  exact token.ascii_spelled c inside

/-- A pattern in ASCII is spelled as it is. -/
theorem bytePattern_of_ascii {t : Text} (h : ∀ c ∈ t, c.toNat < 0x80) : bytePattern t = t := by
  have latin : ∀ c ∈ t, c.toNat ≤ 0xff := fun c member => by
    have small := h c member
    omega
  have low : ∀ b ∈ t.toBytes, b < 0x80 := by
    intro b member
    have value : b.toNat ∈ t.map Char.toNat := by
      rw [← Text.map_toNat_toBytes latin]
      exact List.mem_map_of_mem member
    obtain ⟨c, inside, same⟩ := List.mem_map.mp value
    exact UInt8.lt_iff_toNat_lt.mpr (same ▸ h c inside)
  have copied : ∀ token ∈ byteTokens t.toBytes, token.spelled = Text.ofBytes token.bytes := by
    intro token member
    refine if_pos (low _ ?_)
    rw [← flatMap_bytes_byteTokens t.toBytes]
    exact List.mem_flatMap.mpr ⟨token, member, token.byte_mem_bytes⟩
  calc bytePattern t
      = (byteTokens t.toBytes).flatMap fun token => Text.ofBytes token.bytes := by
        rw [bytePattern, asciiFrom_eq, List.flatMap_congr copied]
    _ = Text.ofBytes ((byteTokens t.toBytes).flatMap ByteToken.bytes) := List.map_flatMap.symm
    _ = t := by rw [flatMap_bytes_byteTokens, Text.ofBytes_toBytes latin]

/-- A pattern is spelled token by token: a token of ASCII as it is, and any other byte as `\x` and
its two hexadecimal digits, with or without a backslash in front. So the spelled pattern is ASCII,
only a pattern in ASCII is spelled as it is, and a spelled pattern is spelled as it is. -/
theorem bytePattern_by_tokens (t : Text) :
    bytePattern t = (byteTokens t.toBytes).flatMap ByteToken.spelled ∧
      (byteTokens t.toBytes).flatMap ByteToken.bytes = t.toBytes ∧
      (∀ b : UInt8, (Text.ofByte b).map (digit? 16) =
        [some (b.toNat / 16), some (b.toNat % 16)]) ∧
      (∀ c ∈ bytePattern t, c.toNat < 0x80) ∧
      (bytePattern t = t ↔ ∀ c ∈ t, c.toNat < 0x80) ∧
      bytePattern (bytePattern t) = bytePattern t := by
  have ascii := ascii_bytePattern t
  refine ⟨asciiFrom_eq _, flatMap_bytes_byteTokens _, map_digit?_ofByte, ascii, ⟨?_, ?_⟩,
    bytePattern_of_ascii ascii⟩
  · intro same
    rwa [same] at ascii
  · exact bytePattern_of_ascii

/-- A byte beyond ASCII behind one backslash, behind two, and behind three. -/
theorem bytePattern_by_tokens_backslashes :
    let t := "\\\u00ff\\\\\u00ff\\\\\\\u00ff".toList
    bytePattern t = "\\xff\\\\\\xff\\\\\\xff".toList ∧
      'x' ∈ bytePattern t ∧ 'x'.toNat < 0x80 ∧ bytePattern (bytePattern t) = bytePattern t := by
  intro t
  obtain ⟨-, -, -, ascii, -, again⟩ := bytePattern_by_tokens t
  have letter : 'x' ∈ bytePattern t := by decide
  exact ⟨by decide, letter, ascii 'x' letter, again⟩

end MagicRules.Regex
