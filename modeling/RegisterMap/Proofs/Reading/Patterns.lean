import Mathlib.Data.List.Forall2
import Mathlib.Data.List.Induction
import Mathlib.Data.Nat.Bitwise
import RegisterMap.Proofs.Reading.Accepted
import RegisterMap.Proofs.Text.Numeral

/-!
# Patterns of bits

A pattern stands for the numbers that have its digits, some of which are open. It is kept as two
numbers, one with the bits that have to be set and one with the open bits. Both are read off the
pattern digit by digit (`testBit_bitsWhere`), so a number has the digits of the pattern exactly when
nothing but open bits distinguishes it from the first one (`ldiff_openBits_eq_setBits_iff`). A
pattern without open digits is a binary numeral (`PatternWrites.scaled`).
-/

namespace RegisterMap

open Text

/-- Whether a digit of a pattern is open. -/
def isOpenDigit (c : Char) : Bool := c = 'x' || c = 'X'

/-- The number whose bits are set where a pattern asks for it. -/
def setBits (digits : List Char) : Nat := bitsWhere (· = '1') digits

/-- The number whose bits are set where a pattern is open. -/
def openBits (digits : List Char) : Nat := bitsWhere isOpenDigit digits

/-- A number has the digits of a pattern, the open ones apart. The first digit is the one of the
highest bit. -/
def HasDigits (digits : List Char) (n : Nat) : Prop :=
  ∀ (i : Nat) (inside : i < digits.length),
    (digits[i] = '0' → n.testBit (digits.length - 1 - i) = false) ∧
      (digits[i] = '1' → n.testBit (digits.length - 1 - i) = true)

/-! ## Bits where a condition holds -/

section Bits

variable {isOne : Char → Bool}

/-- The last digit is the lowest bit. -/
theorem bitsWhere_concat (front : List Char) (c : Char) :
    bitsWhere isOne (front ++ [c]) = Nat.bit (isOne c) (bitsWhere isOne front) := by
  rw [bitsWhere, List.foldl_append, ← bitsWhere]
  cases own : isOne c <;> simp [own, Nat.bit]

/-- The bits, from the lowest one on, come from the digits, from the last one on. -/
theorem testBit_bitsWhere (digits : List Char) (i : Nat) :
    (bitsWhere isOne digits).testBit i = (digits.reverse[i]?).any isOne := by
  induction digits using List.reverseRecOn generalizing i with
  | nil => simp [bitsWhere]
  | append_singleton front c ih =>
    rw [bitsWhere_concat, List.reverse_append, List.reverse_singleton, List.singleton_append]
    cases i with
    | zero => rw [Nat.testBit_bit_zero, List.getElem?_cons_zero, Option.any_some]
    | succ i => rw [Nat.testBit_bit_succ, ih, List.getElem?_cons_succ]

/-- Bits are counted from the last digit on. -/
theorem testBit_bitsWhere_of_lt {digits : List Char} {i : Nat} (inside : i < digits.length) :
    (bitsWhere isOne digits).testBit (digits.length - 1 - i) = isOne digits[i] := by
  have place : digits.length - 1 - i + i + 1 = digits.length := by omega
  rw [testBit_bitsWhere, List.getElem?_reverse' place, List.getElem?_eq_getElem inside,
    Option.any_some]

/-- There are no bits above the first digit. -/
theorem bitsWhere_lt (digits : List Char) : bitsWhere isOne digits < 2 ^ digits.length := by
  apply Nat.lt_pow_two_of_testBit
  intro i above
  rw [testBit_bitsWhere, List.getElem?_eq_none (by simpa using above), Option.any_none]

/-- Without digits that are asked for the number is zero. -/
theorem bitsWhere_eq_zero {digits : List Char} (none : ∀ c ∈ digits, isOne c = false) :
    bitsWhere isOne digits = 0 := by
  apply Nat.zero_of_testBit_eq_false
  intro i
  rw [testBit_bitsWhere, Option.any_eq_false]
  intro c found
  exact none c (List.mem_reverse.mp (List.mem_of_getElem? found))

end Bits

/-! ## Numbers with the digits of a pattern -/

/-- No bit is both open and asked for. -/
theorem setBits_and_openBits (digits : List Char) : setBits digits &&& openBits digits = 0 := by
  apply Nat.zero_of_testBit_eq_false
  intro i
  rw [Nat.testBit_and, setBits, openBits, testBit_bitsWhere, testBit_bitsWhere]
  cases digits.reverse[i]? with
  | none => rfl
  | some c =>
    by_cases one : c = '1'
    · subst one
      rfl
    · simp [one]

theorem setBits_or_openBits_lt (digits : List Char) :
    setBits digits ||| openBits digits < 2 ^ digits.length :=
  Nat.or_lt_two_pow (bitsWhere_lt digits) (bitsWhere_lt digits)

/-- A bit, taken as unset where the digit is open, is the one that the digit asks for exactly when
it is no other than the digit. -/
theorem maskedBit_eq_iff {c : Char} (allowed : c ∈ ['0', '1', 'x', 'X']) (bit : Bool) :
    (bit && !isOpenDigit c) = decide (c = '1') ↔
      (c = '0' → bit = false) ∧ (c = '1' → bit = true) := by
  simp only [List.mem_cons, List.not_mem_nil, or_false] at allowed
  rcases allowed with rfl | rfl | rfl | rfl <;> cases bit <;> decide

/-- **Which numbers a pattern stands for.** A number that is not too long has the digits of a
pattern exactly when, with the open bits cleared, it is the number of the bits that are asked
for. -/
theorem ldiff_openBits_eq_setBits_iff {digits : List Char}
    (allowed : ∀ c ∈ digits, c ∈ ['0', '1', 'x', 'X']) {n : Nat} (short : n < 2 ^ digits.length) :
    n.ldiff (openBits digits) = setBits digits ↔ HasDigits digits n := by
  have atDigit {i : Nat} (inside : i < digits.length) :
      (n.ldiff (openBits digits)).testBit (digits.length - 1 - i) =
          (setBits digits).testBit (digits.length - 1 - i) ↔
        (digits[i] = '0' → n.testBit (digits.length - 1 - i) = false) ∧
          (digits[i] = '1' → n.testBit (digits.length - 1 - i) = true) := by
    rw [Nat.testBit_ldiff, openBits, setBits, testBit_bitsWhere_of_lt inside,
      testBit_bitsWhere_of_lt inside]
    exact maskedBit_eq_iff (allowed _ (List.getElem_mem inside)) _
  constructor
  · intro same i inside
    exact (atDigit inside).mp (by rw [same])
  · intro has
    apply Nat.eq_of_testBit_eq
    intro place
    by_cases inside : place < digits.length
    · have own := (atDigit (i := digits.length - 1 - place) (by omega)).mpr (has _ (by omega))
      rwa [show digits.length - 1 - (digits.length - 1 - place) = place by omega] at own
    · -- above the highest digit neither number has bits
      have bound : 2 ^ digits.length ≤ 2 ^ place := Nat.pow_le_pow_right (by decide) (by omega)
      rw [Nat.testBit_ldiff, Nat.testBit_eq_false_of_lt (Nat.lt_of_lt_of_le short bound), setBits,
        Nat.testBit_eq_false_of_lt (Nat.lt_of_lt_of_le (bitsWhere_lt digits) bound), Bool.false_and]

/-- Two numbers stand for a pattern. No bit is in both, no bit is above the highest digit, and a
number that is not too long has the digits of the pattern exactly when it is the first of the two
once the bits of the second are cleared in it. -/
structure StandFor (digits : List Char) (value mask : Nat) : Prop where
  apart : value &&& mask = 0
  short : value ||| mask < 2 ^ digits.length
  selects : ∀ n < 2 ^ digits.length, n.ldiff mask = value ↔ HasDigits digits n

/-- The two numbers that are kept of a pattern stand for it. -/
theorem standFor_bits {digits : List Char} (allowed : ∀ c ∈ digits, c ∈ ['0', '1', 'x', 'X']) :
    StandFor digits (setBits digits) (openBits digits) where
  apart := setBits_and_openBits digits
  short := setBits_or_openBits_lt digits
  selects _ short := ldiff_openBits_eq_setBits_iff allowed short

/-! ## Patterns without open digits -/

/-- A pattern without open digits has no open bits. -/
theorem openBits_eq_zero {digits : List Char} (closed : ∀ c ∈ digits, c ≠ 'x' ∧ c ≠ 'X') :
    openBits digits = 0 := by
  apply bitsWhere_eq_zero
  intro c mem
  simp [isOpenDigit, closed c mem]

section Closed

variable {text digits : List Char} (writes : PatternWrites text digits)
  (closed : ∀ c ∈ digits, c ≠ 'x' ∧ c ≠ 'X')
include writes closed

theorem PatternWrites.binary : ∀ c ∈ digits, c = '0' ∨ c = '1' := by
  intro c mem
  have allowed := writes.digits c mem
  have own := closed c mem
  simp only [List.mem_cons, List.not_mem_nil, or_false] at allowed
  tauto

/-- The digits of a pattern of which none is open write a number in binary digits. -/
theorem PatternWrites.digitsWrite : DigitsWrite 2 digits (setBits digits) := by
  have binary := writes.binary closed
  refine ⟨writes.nonempty, digits.map fun c => if c = '1' then 1 else 0, ?_, ?_, ?_⟩
  · refine List.forall_mem_map.mpr fun c _ => ?_
    split <;> decide
  · rw [List.forall₂_map_left_iff, List.forall₂_same]
    intro c mem
    rcases binary c mem with rfl | rfl <;> decide
  · rw [← foldl_eq_ofDigits, List.foldl_map, setBits, bitsWhere]
    simp only [Nat.mul_comm, decide_eq_true_eq]

/-- Behind the mark of a binary numeral, they are read as this number. -/
theorem PatternWrites.scaled (marked : text = '#' :: digits) :
    Scaled (trimChars text) (setBits digits) := by
  have full : ∀ c ∈ text, isBlank c = false := by
    rw [marked]
    refine List.forall_mem_cons.mpr ⟨by decide, fun c mem => ?_⟩
    rcases writes.binary closed c mem with rfl | rfl <;> decide
  rw [trimChars_of_not_blank full, marked]
  exact .bare (.binary (writes.digitsWrite closed))

end Closed

end RegisterMap
