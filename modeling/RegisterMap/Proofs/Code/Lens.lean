import Mathlib.Algebra.Group.Nat.Defs
import RegisterMap.Code.Accessor

/-!
# The accessors of a field are a lens on the register word

What the bodies of a getter and a setter of numbers compute is said bit by bit: the getter
moves the bits of its field to the lowest places (`getLsbD_fieldOf`), and the setter takes
the bits of its field from the value and all others from the word (`getLsbD_withField`). The
laws of a lens, and those for two fields that do not overlap, follow by comparing bits.

Words have any number of bits here, and fields may reach up to the highest one. Accessors of
truth values are not covered.
-/

namespace RegisterMap

/-! ## Bits of words -/

section Words

variable {bits : Nat}

/-- The word whose lowest bits are set, as many as a width says. -/
def lowestBits (bits width : Nat) : BitVec bits := BitVec.ofNat bits (2 ^ width - 1)

/-- A bit is set in the word of the lowest bits if it is one of them. -/
@[simp]
theorem getLsbD_lowestBits (width i : Nat) :
    (lowestBits bits width).getLsbD i = (decide (i < bits) && decide (i < width)) := by
  rw [lowestBits, BitVec.getLsbD_ofNat, Nat.testBit_two_pow_sub_one]

/-- The bits of a field, moved to the lowest places. -/
def fieldOf (lsb width : Nat) (x : BitVec bits) : BitVec bits :=
  (x >>> lsb) &&& lowestBits bits width

/-- A word with the bits of a field replaced by the lowest ones of a value. -/
def withField (lsb width : Nat) (x value : BitVec bits) : BitVec bits :=
  (x &&& ~~~(lowestBits bits width <<< lsb))
    ||| ((value <<< lsb) &&& (lowestBits bits width <<< lsb))

/-- The bits of a field, moved down, are those of the word from its position on. -/
theorem getLsbD_fieldOf (lsb width : Nat) (x : BitVec bits) (i : Nat) :
    (fieldOf lsb width x).getLsbD i = (decide (i < width) && x.getLsbD (lsb + i)) := by
  simp only [fieldOf, BitVec.getLsbD_and, BitVec.getLsbD_ushiftRight, getLsbD_lowestBits]
  by_cases inside : i < bits
  · simp only [inside, decide_true, Bool.true_and, Bool.and_comm]
  · have above : x.getLsbD (lsb + i) = false := BitVec.getLsbD_of_ge x _ (by omega)
    simp only [above, Bool.false_and, Bool.and_false]

/-- A written word has the bits of the value in the field and its own bits around it. -/
theorem getLsbD_withField (lsb width : Nat) (x value : BitVec bits) {i : Nat} (inside : i < bits) :
    (withField lsb width x value).getLsbD i =
      if lsb ≤ i ∧ i < lsb + width then value.getLsbD (i - lsb) else x.getLsbD i := by
  simp only [withField, BitVec.getLsbD_or, BitVec.getLsbD_and, BitVec.getLsbD_not,
    BitVec.getLsbD_shiftLeft, getLsbD_lowestBits, inside, decide_true, Bool.true_and]
  by_cases below : i < lsb
  · have outside : ¬ (lsb ≤ i ∧ i < lsb + width) := by omega
    simp only [below, outside, decide_true, Bool.not_true, Bool.false_and, Bool.not_false,
      Bool.and_true, Bool.or_false, if_false]
  · have valid : i - lsb < bits := by omega
    by_cases within : i < lsb + width
    · have own : lsb ≤ i ∧ i < lsb + width := by omega
      have low : i - lsb < width := by omega
      simp only [below, own, low, valid, and_self, decide_true, decide_false, Bool.not_false,
        Bool.not_true, Bool.and_true, Bool.and_false, Bool.true_and, Bool.false_or, if_true]
    · have outside : ¬ (lsb ≤ i ∧ i < lsb + width) := by omega
      have high : ¬ i - lsb < width := by omega
      simp only [outside, high, decide_false, Bool.and_false, Bool.not_false, Bool.and_true,
        Bool.or_false, if_false]

/-! ## The laws of a lens -/

/-- Reading what was written gives the lowest bits of it. -/
theorem fieldOf_withField {lsb width : Nat} (inside : lsb + width ≤ bits) (x value : BitVec bits) :
    fieldOf lsb width (withField lsb width x value) =
      BitVec.ofNat bits (value.toNat % 2 ^ width) := by
  apply BitVec.eq_of_getLsbD_eq
  intro i valid
  rw [getLsbD_fieldOf, BitVec.getLsbD_ofNat, Nat.testBit_mod_two_pow]
  by_cases low : i < width
  · have own : lsb ≤ lsb + i ∧ lsb + i < lsb + width := by omega
    rw [getLsbD_withField lsb width x value (by omega), if_pos own, Nat.add_sub_cancel_left]
    simp only [low, valid, decide_true, Bool.true_and, BitVec.testBit_toNat]
  · simp only [low, decide_false, Bool.false_and, Bool.and_false]

/-- Writing what was read changes nothing. -/
theorem withField_fieldOf (lsb width : Nat) (x : BitVec bits) :
    withField lsb width x (fieldOf lsb width x) = x := by
  apply BitVec.eq_of_getLsbD_eq
  intro i valid
  rw [getLsbD_withField lsb width _ _ valid]
  by_cases own : lsb ≤ i ∧ i < lsb + width
  · have low : i - lsb < width := by omega
    rw [if_pos own, getLsbD_fieldOf, Nat.add_sub_cancel' own.1]
    simp only [low, decide_true, Bool.true_and]
  · rw [if_neg own]

/-- The second of two writes to a field wins. -/
theorem withField_withField (lsb width : Nat) (x value later : BitVec bits) :
    withField lsb width (withField lsb width x value) later = withField lsb width x later := by
  apply BitVec.eq_of_getLsbD_eq
  intro i valid
  simp only [getLsbD_withField lsb width _ _ valid]
  by_cases own : lsb ≤ i ∧ i < lsb + width
  · rw [if_pos own, if_pos own]
  · rw [if_neg own, if_neg own, if_neg own]

end Words

/-! ## Bodies of accessors -/

/-- There is a mask for every width that is positive. -/
theorem fieldMask_eq_ok {width : Int} {mask : Nat} :
    fieldMask width = .ok mask ↔ 1 ≤ width ∧ mask = 2 ^ width.toNat - 1 := by
  unfold fieldMask
  by_cases empty : width < 1
  · have small : ¬ 1 ≤ width := by omega
    simp [empty, small]
  · have enough : 1 ≤ width := by omega
    simp [empty, enough, eq_comm]

/-- The mask of a field has as many bits set as the field is wide. -/
theorem fieldMask_of_pos {width : Nat} (positive : 1 ≤ width) :
    fieldMask width = .ok (2 ^ width - 1) := by
  refine fieldMask_eq_ok.mpr ⟨by omega, ?_⟩
  rw [Int.toNat_natCast]

/-- What the getter and the setter of numbers compute for fields of a width at a position, in
words of some bits whose type has a name. -/
structure AccessorsCompute (bits : Nat) (type : String) (lsb width : Nat)
    (get : BitVec bits → BitVec bits) (set : BitVec bits → BitVec bits → BitVec bits) : Prop where
  getter : ∃ body, Getter.ofField width type false = .ok body ∧
    ∀ x, body.eval x lsb = .number (get x)
  setter : ∃ body, Setter.ofField width type false = .ok body ∧
    ∀ x value, body.setNumber x value lsb = set x value

/-- The bodies read and replace the bits of their field. -/
theorem accessorsCompute_of_pos {width : Nat} (positive : 1 ≤ width) (bits : Nat) (type : String)
    (lsb : Nat) :
    AccessorsCompute bits type lsb width (fieldOf lsb width) (withField lsb width) where
  getter := by
    rw [Getter.ofField, if_neg Bool.false_ne_true, fieldMask_of_pos positive]
    exact ⟨_, rfl, fun _ => rfl⟩
  setter := by
    rw [Setter.ofField, if_neg Bool.false_ne_true, fieldMask_of_pos positive]
    exact ⟨_, rfl, fun _ _ => rfl⟩

/-- Reading and writing some bits of a word keep the laws of a lens, and a write leaves all
other bits. A written word is a word again. -/
structure WordLens (bits lsb width : Nat) (get : BitVec bits → BitVec bits)
    (set : BitVec bits → BitVec bits → BitVec bits) : Prop where
  get_set : ∀ x value, (get (set x value)).toNat = value.toNat % 2 ^ width
  set_get : ∀ x, set x (get x) = x
  set_set : ∀ x value later, set (set x value) later = set x later
  set_lt : ∀ x value, (set x value).toNat < 2 ^ bits
  outside : ∀ x value i, i < lsb ∨ lsb + width ≤ i → (set x value).getLsbD i = x.getLsbD i

/-- A field that ends within the word is read and written as by a lens. -/
theorem wordLens_fieldOf {bits lsb width : Nat} (inside : lsb + width ≤ bits) :
    WordLens bits lsb width (fieldOf lsb width) (withField lsb width) where
  get_set x value := by
    have small : value.toNat % 2 ^ width < 2 ^ bits :=
      Nat.lt_of_le_of_lt (Nat.mod_le _ _) value.isLt
    rw [fieldOf_withField inside, BitVec.toNat_ofNat, Nat.mod_eq_of_lt small]
  set_get := withField_fieldOf lsb width
  set_set := withField_withField lsb width
  set_lt x value := (withField lsb width x value).isLt
  outside x value i away := by
    by_cases valid : i < bits
    · have outside : ¬ (lsb ≤ i ∧ i < lsb + width) := by omega
      rw [getLsbD_withField lsb width x value valid, if_neg outside]
    · rw [BitVec.getLsbD_of_ge _ _ (by omega), BitVec.getLsbD_of_ge _ _ (by omega)]

end RegisterMap
