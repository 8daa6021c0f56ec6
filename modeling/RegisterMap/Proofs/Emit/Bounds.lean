import RegisterMap.Proofs.Emit.Accessors
import RegisterMap.Proofs.Registers

/-!
# The accessors of a register stay inside it

Whether fields end inside their register is checked field by field, while an accessor computes
a position from an index. Every index that is admitted is one of a field, so what was checked
for the fields holds of every position that can be computed
(`Register.inside_of_mem_accessors`). The check is about the highest bit only. That a range
begins at a bit and has at least one is a hypothesis here, which reading establishes.
-/

namespace RegisterMap

/-! ## Masks -/

/-- The numbers that are written in a word. -/
def Word.literals : Word → List Nat
  | .stored | .value | .mask => []
  | .one => [1]
  | .literal n => [n]
  | .complement w | .up w | .down w => w.literals
  | .both a b | .either a b => a.literals ++ b.literals

/-- The numbers that are written in the words of a statement. -/
def Step.literals : Step → List Nat
  | .bindMask _ w | .assign w | .addBits w | .keepBits w => w.literals
  | .choose yes no => yes.literals ++ no.literals

/-- The numbers that are written in the word of an answer. -/
def Result.literals : Result → List Nat
  | .number w | .hasBit w => w.literals

/-- The masks in the body of a getter. -/
def Getter.masks (body : Getter) : List Nat :=
  body.steps.flatMap Step.literals ++ body.result.literals

/-- The masks in the body of a setter. -/
def Setter.masks (body : Setter) : List Nat := body.steps.flatMap Step.literals

section Masks

variable {options : EmitOptions} {width : Int} {word : String} {mask : Nat}

/-- In a body that is one for truth values or made from a mask, every mask has the bits of the
field, at the lowest places. -/
theorem eq_of_mem_masks {β : Type} (masks : β → List Nat) {forFlag : β} {forMask : Nat → β}
    (flagMasks : ∀ mask ∈ masks forFlag, mask = 1)
    (ownMasks : ∀ own, ∀ mask ∈ masks (forMask own), mask = own) {body : β}
    (made : (if options.asFlag width then .ok forFlag else (fieldMask width).map forMask) =
      .ok body)
    (mem : mask ∈ masks body) : mask = 2 ^ width.toNat - 1 := by
  by_cases flag : options.asFlag width = true
  · rw [if_pos flag] at made
    cases made
    rw [eq_one_of_asFlag flag]
    exact flagMasks mask mem
  · rw [if_neg flag] at made
    obtain ⟨own, given, rfl⟩ := map_eq_ok.mp made
    rw [← (fieldMask_eq_ok.mp given).2]
    exact ownMasks own mask mem

/-- The mask of a getter is that of the width of its field. -/
theorem Getter.eq_of_mem_masks {body : Getter}
    (made : Getter.ofField width word (options.asFlag width) = .ok body)
    (mem : mask ∈ body.masks) : mask = 2 ^ width.toNat - 1 :=
  RegisterMap.eq_of_mem_masks Getter.masks
    (by simp [masks, Result.literals, Word.literals])
    (by simp [masks, Step.literals, Result.literals, Word.literals]) made mem

/-- The masks of a setter are that of the width of its field. -/
theorem Setter.eq_of_mem_masks {body : Setter}
    (made : Setter.ofField width word (options.asFlag width) = .ok body)
    (mem : mask ∈ body.masks) : mask = 2 ^ width.toNat - 1 :=
  RegisterMap.eq_of_mem_masks Setter.masks
    (by simp [masks, Step.literals, Word.literals])
    (by simp [masks, Step.literals, Word.literals]) made mem

end Masks

/-! ## Accessors in a word -/

/-- For every index that is admitted, bits of a width are inside words of a size, and so are
the masks, as they are written and shifted to the position. -/
structure FitsWord (size : Nat) (position : Position) (width : Int) (masks : List Nat) : Prop where
  one_le : 1 ≤ width
  inside : ∀ index, position.admits index = true →
    0 ≤ position.eval index ∧ position.eval index + width ≤ size
  mask_lt : ∀ mask ∈ masks, 1 ≤ mask ∧ mask < 2 ^ size
  shifted : ∀ index, position.admits index = true → ∀ mask ∈ masks,
    mask * 2 ^ (position.eval index).toNat < 2 ^ size

/-- A mask that ends inside a word does not lose bits when it is shifted to its place. -/
theorem mask_shifted_lt {lsb width size : Nat} (ends : lsb + width ≤ size) :
    (2 ^ width - 1) * 2 ^ lsb < 2 ^ size := by
  have below : 2 ^ width - 1 < 2 ^ width := Nat.sub_one_lt (Nat.two_pow_pos width).ne'
  calc
    (2 ^ width - 1) * 2 ^ lsb < 2 ^ width * 2 ^ lsb :=
      Nat.mul_lt_mul_of_pos_right below (Nat.two_pow_pos lsb)
    _ = 2 ^ (lsb + width) := by rw [← Nat.pow_add, Nat.add_comm]
    _ ≤ 2 ^ size := Nat.pow_le_pow_right (by decide) ends

/-- A function that reads or writes bits of words of a size stays inside them. -/
def Function.Fits (size : Nat) : Function → Prop
  | .get _ position _ width body => FitsWord size position width body.masks
  | .set _ position _ width body => FitsWord size position width body.masks
  | .wrap _ _ | .read _ _ _ | .write _ _ _ | .pointer _ _ _ _ => True

/-- Whether a function reads or writes bits of a word. -/
def Function.isAccessor : Function → Bool
  | .get _ _ _ _ _ | .set _ _ _ _ _ => true
  | .wrap _ _ | .read _ _ _ | .write _ _ _ | .pointer _ _ _ _ => false

namespace Register

variable {options : EmitOptions} {r : Register} {word : String}

/-- A register has a word when all its fields end inside it. -/
theorem msb_lt_of_wordType (found : r.wordType = .ok word) :
    ∀ f ∈ r.fieldList, f.bitRange.msb < r.size :=
  (faultOf_wordType_eq_none.mp (faultOf_eq_none.mpr ⟨word, found⟩)).inside

/-- What is checked for the fields holds of every position that an accessor computes. -/
theorem inside_of_mem_accessors (valid : r.Ranges BitRange.Valid)
    (found : r.wordType = .ok word) {a : AccessorSpec}
    (mem : a ∈ options.accessors r.fieldList) {index : Nat}
    (admitted : a.position.admits index = true) :
    1 ≤ a.width ∧ 0 ≤ a.position.eval index ∧ a.position.eval index + a.width ≤ r.size := by
  obtain ⟨f, memF, hits⟩ := (exists_hits mem).2 index admitted
  obtain ⟨zero_le, lsb_le⟩ := valid f memF
  have ends := msb_lt_of_wordType found f memF
  rw [hits.lsb, hits.width, Field.lsb, Field.width, BitRange.width]
  omega

/-- The bits that an accessor of a register arrives at, and their masks, are inside the word of the
register. -/
theorem fitsWord_of_mem_accessors (valid : r.Ranges BitRange.Valid)
    (found : r.wordType = .ok word) {a : AccessorSpec}
    (mem : a ∈ options.accessors r.fieldList) {masks : List Nat}
    (own : ∀ mask ∈ masks, mask = 2 ^ a.width.toNat - 1) :
    FitsWord r.size a.position a.width masks := by
  -- the width is that of the fields, of which there is one because some index is admitted
  obtain ⟨⟨sample, admitted⟩, _⟩ := exists_hits mem
  obtain ⟨one_le, zero_le, ends⟩ := inside_of_mem_accessors valid found mem admitted
  refine ⟨one_le, fun index admits => (inside_of_mem_accessors valid found mem admits).2, ?_, ?_⟩
  · intro mask memMask
    have two : 2 ^ 1 ≤ 2 ^ a.width.toNat := Nat.pow_le_pow_right (by decide) (by omega)
    have below := mask_shifted_lt (show 0 + a.width.toNat ≤ r.size by omega)
    rw [own mask memMask]
    omega
  · intro index admits mask memMask
    obtain ⟨_, _, here⟩ := inside_of_mem_accessors valid found mem admits
    rw [own mask memMask]
    exact mask_shifted_lt (by omega)

/-- A getter of a register stays inside it. -/
theorem fits_of_isGetter (valid : r.Ranges BitRange.Valid) (found : r.wordType = .ok word)
    {a : AccessorSpec} (mem : a ∈ options.accessors r.fieldList) {f : Function}
    (reads : a.IsGetter options word r.access f) : f.Fits r.size := by
  obtain ⟨_, body, made, rfl⟩ := reads
  exact fitsWord_of_mem_accessors valid found mem fun mask => Getter.eq_of_mem_masks made

/-- A setter of a register stays inside it. -/
theorem fits_of_isSetter (valid : r.Ranges BitRange.Valid) (found : r.wordType = .ok word)
    {a : AccessorSpec} (mem : a ∈ options.accessors r.fieldList) {f : Function}
    (writes : a.IsSetter options word r.access f) : f.Fits r.size := by
  obtain ⟨_, body, made, rfl⟩ := writes
  exact fitsWord_of_mem_accessors valid found mem fun mask => Setter.eq_of_mem_masks made

end Register

end RegisterMap
