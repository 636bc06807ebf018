import MagicRules.Proofs.Field.Token
import MagicRules.Proofs.Line.Parts

/-!
# The level of a rule

The level is where the last marker of the first field stands. What is in front of that marker is
counted and not looked at, so the level is the number of markers exactly if there is nothing but
markers in front of the offset (`level_of_read`).
-/

namespace MagicRules

namespace Field

theorem length_le_of_mem_splitFrom {fields complete : Nat} {part cs f : Text}
    (h : f ∈ splitFrom fields complete part cs) : f.length ≤ part.length + cs.length := by
  fun_induction splitFrom fields complete part cs with
  | case1 => cases h
  | case2 part nonempty => simp [List.mem_singleton.mp h]
  | case3 complete part c cs separator more empty ih =>
      have behind := ih h
      simp only [List.length_nil, List.length_cons] at behind ⊢
      omega
  | case4 complete part c cs separator more nonempty ih =>
      rcases List.mem_cons.mp h with rfl | later
      · simp
      · have behind := ih later
        simp only [List.length_nil, List.length_cons] at behind ⊢
        omega
  | case5 complete part c cs separator last ih =>
      have behind := ih h
      split at behind <;> simp only [List.length_nil, List.length_cons] at behind ⊢ <;> omega
  | case6 complete part cs word ih =>
      have behind := ih h
      have left := length_escape_le cs
      simp only [List.length_cons] at behind ⊢
      omega
  | case7 complete part c cs word raw ih =>
      have behind := ih h
      simp only [List.length_cons] at behind ⊢
      omega

theorem length_le_of_mem_split {line f : Text} {fields : Nat} (h : f ∈ split line fields) :
    f.length ≤ line.length := by
  simpa using length_le_of_mem_splitFrom h

end Field

namespace Line

variable {registry : Registry} {line : Text}

/-- The type of one byte. -/
def byteType : MagicType := { name := "byte".toList, kind := .integer 1 .native }

/-- The documented form `[>...][&]offset` of a first field, with as many markers as the level of the
rule says. -/
def InForm (place : Text) (r : Rule) : Prop :=
  ∃ t, place = List.replicate r.level.toNat '>' ++ ((if r.relative then ['&'] else []) ++ t) ∧
    readOffset t = .ok r.offset

/-- What stands in front of an offset: nothing, or what ends with a marker. -/
def IsFront (front : Text) : Prop := front = [] ∨ ∃ before, front = before ++ ['>']

/-- The first field of a rule in its parts. Alone, what is behind the front is a place of level
zero. -/
structure Places (place front offset : Text) (r : Rule) : Prop where
  parts : place = front ++ ((if r.relative then ['&'] else []) ++ offset)
  marked : IsFront front
  unmarked : '>' ∉ offset
  read : readOffset offset = .ok r.offset
  alone : readPlace ((if r.relative then ['&'] else []) ++ offset) = .ok (0, r.relative, r.offset)

theorem toUInt32_length_front (before : Text) :
    (before ++ ['>']).length.toUInt32 = before.length.toUInt32 + 1 := by
  rw [List.length_append, List.length_singleton]
  exact UInt32.ofNat_add before.length 1

theorem readPlace_eq_ok_unmarked {place : Text} {level : UInt32} {relative : Bool}
    {offset : Offset} (unmarked : '>' ∉ place)
    (h : readPlace place = .ok (level, relative, offset)) :
    level = 0 ∧ ∃ t, place = (if relative then ['&'] else []) ++ t ∧ '>' ∉ t ∧
      readOffset t = .ok offset := by
  rw [readPlace, Text.cutAtLast?_of_notMem unmarked] at h
  dsimp only at h
  split at h
  · obtain ⟨o, ok, same⟩ := exists_ok_of_bind_eq_ok h
    cases same
    exact ⟨rfl, _, rfl, fun member => unmarked (List.mem_cons_of_mem _ member), ok⟩
  · obtain ⟨o, ok, same⟩ := exists_ok_of_bind_eq_ok h
    cases same
    exact ⟨rfl, _, rfl, unmarked, ok⟩

/-- The level that was read is the length of what is in front of the offset. -/
theorem places_of_readPlace {place : Text} {r : Rule}
    (h : readPlace place = .ok (r.level, r.relative, r.offset)) :
    ∃ front offset, Places place front offset r ∧ r.level = front.length.toUInt32 := by
  rcases Text.eq_append_last '>' place with unmarked | ⟨before, after, rfl, unmarked⟩
  · obtain ⟨zero, t, rfl, bare, read⟩ := readPlace_eq_ok_unmarked unmarked h
    exact ⟨[], t, ⟨rfl, .inl rfl, bare, read, zero ▸ h⟩, zero⟩
  · rw [readPlace_append unmarked] at h
    obtain ⟨⟨none, relative, offset⟩, behind, same⟩ := exists_ok_of_map_eq_ok h
    obtain ⟨level, rfl, rfl⟩ : before.length.toUInt32 + 1 = r.level ∧ relative = r.relative ∧
        offset = r.offset := by
      simpa using same
    obtain ⟨zero, t, rfl, bare, read⟩ := readPlace_eq_ok_unmarked unmarked behind
    refine ⟨before ++ ['>'], t, ⟨?_, .inr ⟨before, rfl⟩, bare, read, zero ▸ behind⟩, ?_⟩
    · rw [List.append_assoc, List.singleton_append]
    · rw [← level, toUInt32_length_front]

namespace Places

variable {place front offset : Text} {r : Rule}

theorem unmarked_behind (places : Places place front offset r) :
    '>' ∉ (if r.relative then ['&'] else []) ++ offset := by
  have unmarked := places.unmarked
  cases r.relative <;> simpa using unmarked

/-- The offset may have any other front. The level is the length of that. -/
theorem readPlace_front (places : Places place front offset r) {other : Text}
    (h : IsFront other) :
    readPlace (other ++ ((if r.relative then ['&'] else []) ++ offset)) =
      .ok (other.length.toUInt32, r.relative, r.offset) := by
  rcases h with rfl | ⟨before, rfl⟩
  · exact places.alone
  · rw [List.append_assoc, List.singleton_append, readPlace_append places.unmarked_behind,
      places.alone, toUInt32_length_front]
    rfl

/-- All markers of a place are in front of its offset. -/
theorem count_eq (places : Places place front offset r) : place.count '>' = front.count '>' := by
  rw [places.parts, List.count_append, List.count_eq_zero_of_not_mem places.unmarked_behind,
    Nat.add_zero]

theorem count_eq_level_iff (places : Places place front offset r)
    (level : r.level.toNat = front.length) :
    place.count '>' = r.level.toNat ↔ ∀ c ∈ front, c = '>' := by
  rw [places.count_eq, level, List.count_eq_length]
  exact forall₂_congr fun c _ => eq_comm

theorem inForm_iff (places : Places place front offset r)
    (level : r.level.toNat = front.length) : InForm place r ↔ ∀ c ∈ front, c = '>' := by
  constructor
  · rintro ⟨t, shape, -⟩
    have same := List.append_inj_left (places.parts.symm.trans shape) (by simp [level])
    rw [same]
    exact fun c member => List.eq_of_mem_replicate member
  · intro markers
    refine ⟨offset, ?_, places.read⟩
    rw [places.parts, level, ← List.eq_replicate_iff.mpr ⟨rfl, markers⟩]

end Places

/-- The level of a rule is the length of what is in front of its offset, and what is there may be
anything that ends with a marker. It is the number of markers, and the field has the documented
form, exactly if all that is there are markers. -/
theorem level_of_read {r : Rule} (short : line.length < UInt32.size)
    (h : read registry line = .ok (.rule r)) :
    ∃ place front offset,
      (Field.split line 4).head? = some place ∧
      Places place front offset r ∧
      r.level.toNat = front.length ∧
      (place.count '>' = r.level.toNat ↔ ∀ c ∈ front, c = '>') ∧
      (InForm place r ↔ ∀ c ∈ front, c = '>') ∧
      ∀ other, IsFront other →
        readPlace (other ++ ((if r.relative then ['&'] else []) ++ offset)) =
          .ok (other.length.toUInt32, r.relative, r.offset) := by
  obtain ⟨place, _, _, _, fields, hplace, -⟩ := parts_of_read h
  have first : (Field.split line 4).head? = some place := by
    have taken := congrArg List.head? fields
    rwa [List.head?_take, if_neg (Nat.succ_ne_zero 2)] at taken
  obtain ⟨front, offset, places, level⟩ := places_of_readPlace hplace
  have length : r.level.toNat = front.length := by
    have inside := Field.length_le_of_mem_split (List.mem_of_head? first)
    rw [places.parts, List.length_append] at inside
    rw [level]
    exact UInt32.toNat_ofNat_of_lt' (by omega)
  exact ⟨place, front, offset, first, places, length, places.count_eq_level_iff length,
    places.inForm_iff length, fun _ => places.readPlace_front⟩

/-- A byte that any value will do for. -/
theorem read_byte (t : Text) {level : UInt32} {relative : Bool} {offset : Offset}
    (plain : ∀ c ∈ t, Field.IsPlain c) (rule : '!' ∉ t.head?) (nonempty : t ≠ [])
    (place : readPlace t = .ok (level, relative, offset)) :
    read .builtin (t ++ " byte x".toList) = .ok (.rule (wordless level relative offset byteType
      none false none)) := by
  have found : Registry.builtin.resolve? "byte".toList = some byteType := by decide
  have name : Field.Writes "byte".toList "byte".toList :=
    .plain (Text.forall_mem_of_all (by decide))
  have any : Field.Writes ['x'] ['x'] := .plain (List.forall_mem_singleton.mpr (by decide))
  exact read_of_words rule (.plain plain) name any nonempty (by decide) (by decide) place rfl
    (resolveType_named found) rfl

/-- A mark among the markers counts as one of them. -/
theorem level_of_read_marked :
    let line := ">&>&-4 byte x".toList
    let r := wordless 3 true (.direct (-4)) byteType none false none
    line.length < UInt32.size ∧ read .builtin line = .ok (.rule r) ∧
    ∃ place front offset,
      (Field.split line 4).head? = some place ∧
      Places place front offset r ∧
      r.level.toNat = front.length ∧
      (place.count '>' = r.level.toNat ↔ ∀ c ∈ front, c = '>') ∧
      (InForm place r ↔ ∀ c ∈ front, c = '>') ∧
      ∀ other, IsFront other →
        readPlace (other ++ ((if r.relative then ['&'] else []) ++ offset)) =
          .ok (other.length.toUInt32, r.relative, r.offset) := by
  have short : ">&>&-4 byte x".toList.length < UInt32.size := by decide
  have line := read_byte ">&>&-4".toList (Text.forall_mem_of_all (by decide)) (by decide)
    (by decide) rfl
  exact ⟨short, line, level_of_read short line⟩

/-- A field that no marker begins is read as one of two markers. -/
theorem read_letter_before_marker :
    (Field.split "x>0 byte x".toList 4).head? = some "x>0".toList ∧ "x>0".toList.count '>' = 1 ∧
    read .builtin "x>0 byte x".toList =
      .ok (.rule (wordless 2 false (.direct 0) byteType none false none)) := by
  have line := read_byte "x>0".toList (Text.forall_mem_of_all (by decide)) (by decide)
    (by decide) rfl
  exact ⟨by decide +kernel, by decide, line⟩

end Line

end MagicRules
