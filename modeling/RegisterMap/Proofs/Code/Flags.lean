import RegisterMap.Proofs.Code.Lens

/-!
# A bit as a truth value and as a number

The accessors of a field of one bit come in two forms, for truth values and for numbers. The forms
compute in different ways: the one asks whether a bit is left, and sets or clears it in place, while
the other masks, shifts and merges. Both read and write one and the same bit (`GettersAgree`,
`SettersAgree`), in words of any number of bits and up to the highest one.
-/

namespace RegisterMap

section Words

variable {bits : Nat}

/-- The word that holds nothing but a bit in its lowest place. -/
def wordOfBit (bits : Nat) (b : Bool) : BitVec bits := BitVec.ofNat bits (if b then 1 else 0)

theorem getLsbD_wordOfBit (b : Bool) (i : Nat) :
    (wordOfBit bits b).getLsbD i = (decide (0 < bits ∧ i = 0) && b) := by
  cases b with
  | false => simp [wordOfBit]
  | true => simp [wordOfBit, BitVec.getLsbD_one]

/-- The word of a bit is one exactly where the bit is set. -/
theorem wordOfBit_eq_one (positive : 0 < bits) {b : Bool} :
    wordOfBit bits b = BitVec.ofNat bits 1 ↔ b = true := by
  constructor
  · intro same
    have lowest := @getLsbD_wordOfBit bits b 0
    rw [same, BitVec.getLsbD_one] at lowest
    simpa [positive] using lowest.symm
  · rintro rfl
    rfl

/-- Asking whether the word of a bit is not zero gives the bit. -/
theorem wordOfBit_bne_zero (positive : 0 < bits) (b : Bool) :
    (wordOfBit bits b != BitVec.zero bits) = b := by
  cases b with
  | false => simp [wordOfBit]
  | true =>
    refine bne_iff_ne.mpr fun none => ?_
    cases (wordOfBit_eq_one (b := false) positive).mp none.symm

/-- A field of one bit holds the bit at its position. -/
theorem fieldOf_one (lsb : Nat) (x : BitVec bits) :
    fieldOf lsb 1 x = wordOfBit bits (x.getLsbD lsb) := by
  apply BitVec.eq_of_getLsbD_eq
  intro i valid
  rw [getLsbD_fieldOf, getLsbD_wordOfBit]
  by_cases lowest : i = 0
  · subst lowest
    simp [valid]
  · have away : ¬ i < 1 := by omega
    simp only [away, lowest, and_false, decide_false, Bool.false_and]

/-- To write one bit is to set or to clear it in place. -/
theorem withField_one (lsb : Nat) (x : BitVec bits) (b : Bool) :
    withField lsb 1 x (wordOfBit bits b) =
      if b then x ||| BitVec.twoPow bits lsb else x &&& ~~~(BitVec.twoPow bits lsb) := by
  apply BitVec.eq_of_getLsbD_eq
  intro i valid
  rw [getLsbD_withField _ _ _ _ valid, getLsbD_wordOfBit]
  by_cases own : i = lsb
  · subst own
    cases b <;> simp [valid, Nat.zero_lt_of_lt valid]
  · have away : ¬ (lsb ≤ i ∧ i < lsb + 1) := by omega
    rw [if_neg away]
    cases b <;> simp [valid, own]

/-- A write of one bit changes that bit and no other. -/
theorem getLsbD_withField_one {lsb : Nat} (inside : lsb < bits) (x : BitVec bits) (b : Bool)
    (i : Nat) :
    (withField lsb 1 x (wordOfBit bits b)).getLsbD i = if i = lsb then b else x.getLsbD i := by
  by_cases own : i = lsb
  · have place : lsb ≤ i ∧ i < lsb + 1 := by omega
    have lowest : 0 < bits ∧ i - lsb = 0 := by omega
    rw [if_pos own, getLsbD_withField _ _ _ _ (by omega), if_pos place, getLsbD_wordOfBit,
      decide_eq_true lowest, Bool.true_and]
  · rw [if_neg own]
    exact (wordLens_fieldOf (by omega)).outside x _ i (by omega)

end Words

/-! ## Bodies of accessors -/

/-- Two getters answer for the same bit, one with a truth value and one with a number: the truth
value is true where the number is one. -/
structure GettersAgree (bits lsb : Nat) (flag number : Getter) : Prop where
  reads : ∀ x : BitVec bits, flag.eval x lsb = .flag (x.getLsbD lsb)
  agree : ∀ x : BitVec bits, flag.eval x lsb = .flag true ↔
    number.eval x lsb = .number (BitVec.ofNat bits 1)

/-- Two setters write the same bit, one from a truth value and one from a number, and leave all
others: they leave the same word when the number is one for the truth value that is true, and zero
for the other one. -/
structure SettersAgree (bits lsb : Nat) (flag number : Setter) : Prop where
  writes : ∀ (x : BitVec bits) (b : Bool) (i : Nat),
    (flag.setFlag x b lsb).getLsbD i = if i = lsb then b else x.getLsbD i
  agree : ∀ (x : BitVec bits) (b : Bool),
    flag.setFlag x b lsb = number.setNumber x (BitVec.ofNat bits (if b then 1 else 0)) lsb

section Bodies

variable {bits lsb : Nat} (inside : lsb < bits) {type : String}
include inside

/-- The getters for a width of one bit agree. -/
theorem gettersAgree_of_ofField {flag number : Getter}
    (asFlag : Getter.ofField 1 type true = .ok flag)
    (asNumber : Getter.ofField 1 type false = .ok number) : GettersAgree bits lsb flag number := by
  have positive : 0 < bits := by omega
  obtain ⟨body, made, computes⟩ := (accessorsCompute_of_pos (Nat.le_refl 1) bits type lsb).getter
  cases made.symm.trans asNumber
  have reads : ∀ x : BitVec bits, flag.eval x lsb = .flag (x.getLsbD lsb) := by
    intro x
    cases asFlag
    have left : x >>> lsb &&& BitVec.ofNat bits 1 = wordOfBit bits (x.getLsbD lsb) :=
      fieldOf_one lsb x
    exact congrArg Answer.flag
      ((congrArg (· != BitVec.zero bits) left).trans (wordOfBit_bne_zero positive _))
  refine ⟨reads, fun x => ?_⟩
  rw [reads, computes, fieldOf_one, Answer.flag.injEq, Answer.number.injEq,
    wordOfBit_eq_one positive]

/-- The setters for a width of one bit agree. -/
theorem settersAgree_of_ofField {flag number : Setter}
    (asFlag : Setter.ofField 1 type true = .ok flag)
    (asNumber : Setter.ofField 1 type false = .ok number) : SettersAgree bits lsb flag number := by
  obtain ⟨body, made, computes⟩ := (accessorsCompute_of_pos (Nat.le_refl 1) bits type lsb).setter
  cases made.symm.trans asNumber
  have sets : ∀ (x : BitVec bits) (b : Bool),
      flag.setFlag x b lsb = withField lsb 1 x (wordOfBit bits b) := by
    intro x b
    cases asFlag
    rw [withField_one]
    cases b <;> rfl
  refine ⟨fun x b i => ?_, fun x b => ?_⟩
  · rw [sets, getLsbD_withField_one inside]
  · rw [sets, computes, wordOfBit]

end Bodies

end RegisterMap
