import MagicRules.Proofs.Text
import MagicRules.Text.Latin

/-!
# Bytes as text and text as bytes

A byte and its character have the same value, so text made of bytes is taken apart, joined and
searched as the bytes are, and each of its characters is one byte again.
-/

namespace MagicRules.Text

@[simp] theorem toNat_ofNat_byte (b : UInt8) : (Char.ofNat b.toNat).toNat = b.toNat := by
  have small : b.toNat < 256 := b.toNat_lt
  have valid : b.toNat.isValidChar := .inl (by omega)
  rw [Char.ofNat, dif_pos valid]
  rfl

@[simp] theorem ofNat_byte_inj {b b' : UInt8} :
    Char.ofNat b.toNat = Char.ofNat b'.toNat ↔ b = b' := by
  constructor
  · intro same
    have values := congrArg Char.toNat same
    rw [toNat_ofNat_byte, toNat_ofNat_byte] at values
    exact UInt8.toNat_inj.mp values
  · rintro rfl
    rfl

@[simp] theorem ofBytes_nil : ofBytes [] = [] := rfl

@[simp] theorem ofBytes_cons (b : UInt8) (bytes : Bytes) :
    ofBytes (b :: bytes) = Char.ofNat b.toNat :: ofBytes bytes := rfl

@[simp] theorem ofBytes_append (a b : Bytes) : ofBytes (a ++ b) = ofBytes a ++ ofBytes b :=
  List.map_append

theorem mem_ofBytes {b : UInt8} {bytes : Bytes} :
    Char.ofNat b.toNat ∈ ofBytes bytes ↔ b ∈ bytes := by
  simp [ofBytes]

theorem getLast?_ofBytes (bytes : Bytes) :
    (ofBytes bytes).getLast? = bytes.getLast?.map fun b => Char.ofNat b.toNat :=
  List.getLast?_map

@[simp] theorem toBytes_ofBytes (bytes : Bytes) : toBytes (ofBytes bytes) = bytes := by
  induction bytes with
  | nil => rfl
  | cons b bytes ih =>
      have small : b.toNat ≤ 0xff := Nat.le_of_lt_succ b.toNat_lt
      rw [ofBytes_cons, toBytes, List.flatMap_cons, charBytes, toNat_ofNat_byte, if_pos small]
      simpa [toBytes] using ih

@[simp] theorem ofBytes_inj {a b : Bytes} : ofBytes a = ofBytes b ↔ a = b :=
  (Function.LeftInverse.injective toBytes_ofBytes).eq_iff

theorem toNat_le_of_mem_ofBytes {bytes : Bytes} {c : Char} (h : c ∈ ofBytes bytes) :
    c.toNat ≤ 0xff := by
  obtain ⟨b, -, rfl⟩ := List.mem_map.mp h
  rw [toNat_ofNat_byte]
  exact Nat.le_of_lt_succ b.toNat_lt

theorem toNat_ofNat_le {n : Nat} (h : n ≤ 0xff) : (Char.ofNat n).toNat ≤ 0xff := by
  have value := toNat_ofNat_byte (UInt8.ofNat n)
  rw [UInt8.toNat_ofNat_of_lt' (Nat.lt_succ_of_le h)] at value
  exact value.le.trans h

/-- Characters up to `U+00FF` are one byte each, of the same value. -/
theorem map_toNat_toBytes {t : Text} (h : ∀ c ∈ t, c.toNat ≤ 0xff) :
    (toBytes t).map UInt8.toNat = t.map Char.toNat := by
  induction t with
  | nil => rfl
  | cons c t ih =>
      obtain ⟨first, rest⟩ := List.forall_mem_cons.mp h
      have value : (UInt8.ofNat c.toNat).toNat = c.toNat :=
        UInt8.toNat_ofNat_of_lt' (Nat.lt_succ_of_le first)
      rw [toBytes, List.flatMap_cons, charBytes, if_pos first, List.map_append, List.map_cons,
        value]
      exact congrArg _ (ih rest)

/-- The text of the bytes of such characters. -/
theorem ofBytes_toBytes {t : Text} (h : ∀ c ∈ t, c.toNat ≤ 0xff) : ofBytes (toBytes t) = t := by
  have values : (ofBytes (toBytes t)).map Char.toNat = t.map Char.toNat := by
    rw [← map_toNat_toBytes h, ofBytes, List.map_map]
    exact List.map_congr_left fun b _ => toNat_ofNat_byte b
  exact (List.map_inj_right fun _ _ => Char.toNat_inj.mp).mp values

/-- Replacing bytes is replacing their characters. -/
theorem ofBytes_replaceEach (old : UInt8) (new bytes : Bytes) :
    ofBytes (replaceEach old new bytes) =
      replaceEach (Char.ofNat old.toNat) (ofBytes new) (ofBytes bytes) := by
  induction bytes with
  | nil => rfl
  | cons b bytes ih =>
      by_cases same : b = old
      · subst same
        rw [replaceEach_cons_self, ofBytes_append, ih, ofBytes_cons, replaceEach_cons_self]
      · have other : Char.ofNat b.toNat ≠ Char.ofNat old.toNat := by
          simpa using same
        rw [replaceEach_cons_of_ne same, ofBytes_cons, ofBytes_cons, replaceEach_cons_of_ne other,
          ih]

end MagicRules.Text
