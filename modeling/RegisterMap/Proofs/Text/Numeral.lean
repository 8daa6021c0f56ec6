import Mathlib.Data.List.Forall2
import RegisterMap.Proofs.Text.Scaled
import RegisterMap.Proofs.Text.Trim
import RegisterMap.Reading.Member

/-!
# Numerals that are written are read back

A number that is written in a base has the digits of the number, the highest first
(`digitsWrite_toDigits`). Leading zeros do not change the number, and letters may be in upper case
(`IsPadded.digitsWrite`). An address is written in hexadecimal digits behind `0x`, and that is one
of the forms in which a description may give a number. `readNumber_hex` says that reading gives the
address back, however large it is.
-/

namespace RegisterMap.Text

/-! ## Digits -/

/-- A number is written in digits whose values make it up, the highest first. -/
theorem exists_values_toDigits {base : Nat} (two : 1 < base) (n : Nat) :
    ∃ values : List Nat, values ≠ [] ∧ (∀ value ∈ values, value < base) ∧
      Nat.toDigits base n = values.map Nat.digitChar ∧ n = Nat.ofDigits base values.reverse := by
  induction n using Nat.strongRecOn with
  | ind n ih =>
    rw [Nat.toDigits_eq_if two]
    split
    next small =>
      exact ⟨[n], List.cons_ne_nil n [], List.forall_mem_singleton.mpr small, rfl,
        Nat.ofDigits_singleton.symm⟩
    next large =>
      obtain ⟨values, _, below, written, sum⟩ :=
        ih (n / base) (Nat.div_lt_self (by omega) two)
      refine ⟨values ++ [n % base], by simp, ?_, by simp [written], ?_⟩
      · exact List.forall_mem_append.mpr
          ⟨below, List.forall_mem_singleton.mpr (Nat.mod_lt n (by omega))⟩
      · rw [List.reverse_append, List.reverse_singleton, List.singleton_append, Nat.ofDigits_cons,
          ← sum, Nat.mod_add_div]

/-- Some characters are the digits of a number behind any number of zeros. Letters among them may be
in upper case. -/
def IsPadded (base n : Nat) (text : List Char) : Prop :=
  ∃ (zeros : Nat) (digits : List Char), text = List.replicate zeros '0' ++ digits ∧
    List.Forall₂ (fun digit c => c = digit ∨ c = digit.toUpper) (Nat.toDigits base n) digits

theorem isPadded_toDigits (base n : Nat) : IsPadded base n (Nat.toDigits base n) :=
  ⟨0, _, rfl, List.forall₂_same.mpr fun _ _ => .inl rfl⟩

theorem isDigitOf_zeros (count : Nat) :
    List.Forall₂ IsDigitOf (List.replicate count 0) (List.replicate count '0') := by
  induction count with
  | zero => exact .nil
  | succ count ih => exact .cons (.inl rfl) ih

/-- Leading zeros and upper case do not change the number. -/
theorem IsPadded.digitsWrite {base n : Nat} {text : List Char} (two : 1 < base)
    (padded : IsPadded base n text) : DigitsWrite base text n := by
  obtain ⟨zeros, digits, rfl, cased⟩ := padded
  obtain ⟨values, written, below, same, sum⟩ := exists_values_toDigits two n
  rw [same, List.forall₂_map_left_iff] at cased
  refine ⟨?_, List.replicate zeros 0 ++ values, ?_, ?_, ?_⟩
  · intro none
    have noDigits := (List.append_eq_nil_iff.mp none).2
    exact written (List.forall₂_nil_right_iff.mp (noDigits ▸ cased))
  · refine List.forall_mem_append.mpr ⟨fun value mem => ?_, below⟩
    rw [List.eq_of_mem_replicate mem]
    omega
  · exact List.rel_append (isDigitOf_zeros zeros) cased
  · rw [List.reverse_append, List.reverse_replicate, Nat.ofDigits_append_replicate_zero]
    exact sum

/-- A number is written by its own digits. -/
theorem digitsWrite_toDigits {base : Nat} (two : 1 < base) (n : Nat) :
    DigitsWrite base (Nat.toDigits base n) n :=
  (isPadded_toDigits base n).digitsWrite two

/-! ## Blank characters -/

/-- No digit is a blank character. -/
theorem isBlank_of_isDigitOf {n : Nat} {c : Char} (small : n < 16) (digit : IsDigitOf n c) :
    isBlank c = false := by
  have each : ∀ n < 16, isBlank (Nat.digitChar n) = false ∧
      isBlank (Nat.digitChar n).toUpper = false := by decide
  rcases digit with rfl | rfl
  · exact (each n small).1
  · exact (each n small).2

/-- No digits are blank characters. -/
theorem DigitsWrite.visible {base n : Nat} {text : List Char} (small : base ≤ 16)
    (written : DigitsWrite base text n) : ∀ c ∈ text, isBlank c = false := by
  intro c mem
  obtain ⟨value, below, digit⟩ := written.exists_of_mem c mem
  exact isBlank_of_isDigitOf (Nat.lt_of_lt_of_le below small) digit

/-- There are no blank characters in a numeral. -/
theorem Unsigned.visible {text : List Char} {n : Nat} (unsigned : Unsigned text n) :
    ∀ c ∈ text, isBlank c = false := by
  cases unsigned with
  | hexadecimal marked written =>
    refine List.forall_mem_cons.mpr ⟨rfl, List.forall_mem_cons.mpr ⟨?_, written.visible le_rfl⟩⟩
    rcases marked with rfl | rfl <;> rfl
  | binary written => exact List.forall_mem_cons.mpr ⟨rfl, written.visible (by decide)⟩
  | decimal written => exact written.visible (by decide)

/-- There is no blank character in a numeral. -/
theorem Scaled.visible {text : List Char} {n : Nat} (scaled : Scaled text n) :
    ∀ c ∈ text, isBlank c = false := by
  cases scaled with
  | bare unsigned => exact unsigned.visible
  | plus unsigned => exact List.forall_mem_cons.mpr ⟨rfl, unsigned.visible⟩

/-! ## Addresses -/

theorem toList_hex (n : Nat) : (hex n).toList = '0' :: 'x' :: Nat.toDigits 16 n := by
  simp [hex, hexDigits]

/-- An address as it is written is a numeral of its number. -/
theorem scaled_hex (n : Nat) : Scaled (hex n).toList n := by
  rw [toList_hex]
  exact .bare (.hexadecimal (.inl rfl) (digitsWrite_toDigits (by decide) n))

end RegisterMap.Text

namespace RegisterMap

open Text

/-- **An address is read back.** The hexadecimal form of a number is read as the number. -/
theorem readNumber_hex (n : Nat) : readNumber (hex n) = .ok n := by
  have scaled := scaled_hex n
  rw [readNumber, trimChars_of_not_blank scaled.visible, scaled?_eq_some.mpr scaled]

end RegisterMap
