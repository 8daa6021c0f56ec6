import RegisterMap.Text.Stem
import Mathlib.Data.Nat.Digits.Defs

/-!
# A numbered name is its stem and its number

A name that ends in ASCII digits is its stem followed by these digits, and the number that is
read off it is the one the digits write in base ten (`isNumbered_of_endNumber?`). The other
way round, digits that are put behind a stem come off again (`isNumbered_stem_iff`), since a
stem does not end in a digit. Leading zeros are digits like others, so `CH1` and `CH01` are
different names with one stem and one number.
-/

namespace RegisterMap.Text

/-! ## Numbers in base ten -/

/-- The number that decimal digits write, the highest digit first. -/
def decimalValue (digits : List Char) : Nat :=
  Nat.ofDigits 10 (digits.reverse.map fun c => c.toNat - '0'.toNat)

/-- The first of some decimal digits counts most. -/
theorem decimalValue_cons (c : Char) (rest : List Char) :
    decimalValue (c :: rest) = (c.toNat - '0'.toNat) * 10 ^ rest.length + decimalValue rest := by
  simp only [decimalValue, List.reverse_cons, List.map_append, List.map_cons, List.map_nil,
    Nat.ofDigits_append, Nat.ofDigits_singleton, List.length_map, List.length_reverse]
  rw [Nat.mul_comm, Nat.add_comm]

/-- An ASCII digit has its distance from zero as its value. -/
theorem digitIn?_of_isAsciiDigit {c : Char} (digit : isAsciiDigit c = true) :
    digitIn? 10 c = some (c.toNat - '0'.toNat) := by
  have range : '0' ≤ c ∧ c ≤ '9' := by
    simpa only [isAsciiDigit, Bool.and_eq_true, decide_eq_true_eq] using digit
  have small : c.toNat - 48 < 10 := by
    have upper : c.toNat ≤ '9'.toNat := range.2
    have nine : '9'.toNat = 57 := rfl
    omega
  simp [digitIn?, digitValue?, range, small]

/-- Digits are read from the highest to the lowest, behind what was read before. -/
theorem digitsFrom?_of_digits {digits : List Char} (all : ∀ c ∈ digits, isAsciiDigit c = true)
    (read : Nat) :
    digitsFrom? 10 read digits = some (read * 10 ^ digits.length + decimalValue digits) := by
  induction digits generalizing read with
  | nil => simp [digitsFrom?, decimalValue]
  | cons c rest ih =>
    obtain ⟨first, others⟩ := List.forall_mem_cons.mp all
    rw [digitsFrom?, digitIn?_of_isAsciiDigit first]
    simp only [ih others, decimalValue_cons, List.length_cons, Nat.pow_succ]
    congr 1
    ring

/-- ASCII digits are read as the number that they write in base ten. -/
theorem ofDigits?_of_digits {digits : List Char} (all : ∀ c ∈ digits, isAsciiDigit c = true)
    (written : digits ≠ []) : ofDigits? 10 digits = some (decimalValue digits) := by
  cases digits with
  | nil => exact absurd rfl written
  | cons c rest => simpa [ofDigits?] using digitsFrom?_of_digits all 0

/-! ## Stems -/

/-- A name is what is in front of its last digits, and these. -/
theorem dropEndDigits_append_endDigits (name : List Char) :
    dropEndDigits name ++ endDigits name = name := by
  rw [dropEndDigits, endDigits, ← List.reverse_append, List.takeWhile_append_dropWhile,
    List.reverse_reverse]

theorem isAsciiDigit_of_mem_endDigits {name : List Char} {c : Char} (mem : c ∈ endDigits name) :
    isAsciiDigit c = true := by
  rw [endDigits, List.mem_reverse] at mem
  exact List.all_eq_true.mp List.all_takeWhile c mem

/-- Digits that are put behind a name come off again, with the digits in front of them. -/
theorem dropEndDigits_append {digits : List Char} (all : ∀ c ∈ digits, isAsciiDigit c = true)
    (front : List Char) : dropEndDigits (front ++ digits) = dropEndDigits front := by
  have reversed : ∀ c ∈ digits.reverse, isAsciiDigit c = true := by
    simpa only [List.mem_reverse] using all
  rw [dropEndDigits, dropEndDigits, List.reverse_append, List.dropWhile_append_of_pos reversed]

/-- Digits that are put behind a name are among the last ones. -/
theorem endDigits_append {digits : List Char} (all : ∀ c ∈ digits, isAsciiDigit c = true)
    (front : List Char) : endDigits (front ++ digits) = endDigits front ++ digits := by
  have reversed : ∀ c ∈ digits.reverse, isAsciiDigit c = true := by
    simpa only [List.mem_reverse] using all
  rw [endDigits, endDigits, List.reverse_append, List.takeWhile_append_of_pos reversed,
    List.reverse_append, List.reverse_reverse]

/-- A text without the digits at its end does not end in a digit. -/
theorem endDigits_dropEndDigits (name : List Char) : endDigits (dropEndDigits name) = [] := by
  rw [endDigits, dropEndDigits, List.reverse_reverse, List.reverse_eq_nil_iff]
  have first := List.head?_dropWhile_not isAsciiDigit name.reverse
  cases rest : name.reverse.dropWhile isAsciiDigit with
  | nil => rfl
  | cons c _ =>
    rw [rest] at first
    exact List.takeWhile_cons_of_neg (by simpa using first)

/-- There are no digits left at the end. -/
theorem dropEndDigits_dropEndDigits (name : List Char) :
    dropEndDigits (dropEndDigits name) = dropEndDigits name := by
  have whole := dropEndDigits_append_endDigits (dropEndDigits name)
  rwa [endDigits_dropEndDigits, List.append_nil] at whole

/-! ## Numbered names -/

/-- A name is a text followed by ASCII digits that write a number. -/
def IsNumbered (front : String) (number : Nat) (name : String) : Prop :=
  ∃ digits : List Char, digits ≠ [] ∧ (∀ c ∈ digits, isAsciiDigit c = true) ∧
    decimalValue digits = number ∧ name = front ++ String.ofList digits

/-- A name with a number is its stem and that number. -/
theorem isNumbered_of_endNumber? {name : String} {number : Nat}
    (h : endNumber? name = some number) : IsNumbered (stem name) number name := by
  have all : ∀ c ∈ endDigits name.toList, isAsciiDigit c = true :=
    fun _ => isAsciiDigit_of_mem_endDigits
  have written : endDigits name.toList ≠ [] := by
    intro none
    rw [endNumber?, none] at h
    cases h
  rw [endNumber?, ofDigits?_of_digits all written] at h
  refine ⟨endDigits name.toList, written, all, Option.some.inj h, ?_⟩
  rw [stem, ← String.ofList_append, dropEndDigits_append_endDigits, String.ofList_toList]

/-- What is behind a stem comes off it again. -/
theorem isNumbered_stem_iff {other name : String} {number : Nat} :
    IsNumbered (stem other) number name ↔
      stem name = stem other ∧ endNumber? name = some number := by
  constructor
  · rintro ⟨digits, written, all, rfl, rfl⟩
    have parts : (stem other ++ String.ofList digits).toList =
        dropEndDigits other.toList ++ digits := by
      rw [String.toList_append, stem, String.toList_ofList, String.toList_ofList]
    constructor
    · rw [stem, parts, dropEndDigits_append all, dropEndDigits_dropEndDigits, stem]
    · rw [endNumber?, parts, endDigits_append all, endDigits_dropEndDigits, List.nil_append,
        ofDigits?_of_digits all written]
  · rintro ⟨same, number⟩
    rw [← same]
    exact isNumbered_of_endNumber? number

end RegisterMap.Text
