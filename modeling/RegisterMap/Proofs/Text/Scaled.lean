import Mathlib.Data.Nat.Digits.Defs
import RegisterMap.Text.Numeral

/-!
# The grammar of numerals

Which texts are numerals, and of which number, is said here without a reader: digits one by one,
their number as the sum of their values in a base, and the marks in front of them. The readers
accept exactly these texts and answer these numbers (`scaled?_eq_some`).
-/

namespace RegisterMap.Text

/-! ## Digits -/

/-- A character is the digit of a number, in lower or in upper case. -/
def IsDigitOf (n : Nat) (c : Char) : Prop := c = Nat.digitChar n ∨ c = (Nat.digitChar n).toUpper

instance (n : Nat) (c : Char) : Decidable (IsDigitOf n c) :=
  inferInstanceAs (Decidable (_ ∨ _))

/-- One or more characters are the digits of a number in a base, the highest first. -/
structure DigitsWrite (base : Nat) (text : List Char) (n : Nat) : Prop where
  nonempty : text ≠ []
  values : ∃ values : List Nat, (∀ value ∈ values, value < base) ∧
    List.Forall₂ IsDigitOf values text ∧ n = Nat.ofDigits base values.reverse

/-- The digit of a number below sixteen has that value. -/
theorem digitValue?_of_isDigitOf {n : Nat} {c : Char} (small : n < 16) (digit : IsDigitOf n c) :
    digitValue? c = some n := by
  have each : ∀ n < 16, digitValue? (Nat.digitChar n) = some n ∧
      digitValue? (Nat.digitChar n).toUpper = some n := by decide
  rcases digit with rfl | rfl
  · exact (each n small).1
  · exact (each n small).2

/-- A character with a value below sixteen is the digit of it. -/
theorem isDigitOf_of_digitValue? {n : Nat} {c : Char} (small : n < 16)
    (valued : digitValue? c = some n) : IsDigitOf n c := by
  -- the three rows of digits begin at the codes 48, 97 and 65
  have written : ∀ n < 16, (n < 10 → Char.ofNat (n + 48) = Nat.digitChar n) ∧
      (10 ≤ n → Char.ofNat (n + 87) = Nat.digitChar n ∧
        Char.ofNat (n + 55) = (Nat.digitChar n).toUpper) := by decide
  obtain ⟨figures, letters⟩ := written n small
  have own : c = Char.ofNat c.toNat := (Char.ofNat_toNat c).symm
  unfold digitValue? at valued
  split at valued
  next within =>
    have low : 48 ≤ c.toNat := within.1
    have high : c.toNat ≤ 57 := within.2
    have code : c.toNat = n + 48 := by have := Option.some.inj valued; omega
    exact .inl (by rw [own, code, figures (by omega)])
  next =>
    split at valued
    next within =>
      have low : 97 ≤ c.toNat := within.1
      have code : c.toNat = n + 87 := by have := Option.some.inj valued; omega
      exact .inl (by rw [own, code, (letters (by omega)).1])
    next =>
      split at valued
      next within =>
        have low : 65 ≤ c.toNat := within.1
        have code : c.toNat = n + 55 := by have := Option.some.inj valued; omega
        exact .inr (by rw [own, code, (letters (by omega)).2])
      · cases valued

/-- A digit of a base is one of a number below the base. -/
theorem digitIn?_eq_some {base n : Nat} {c : Char} (small : base ≤ 16) :
    digitIn? base c = some n ↔ n < base ∧ IsDigitOf n c := by
  rw [digitIn?, Option.filter_eq_some_iff, decide_eq_true_eq, and_comm]
  refine and_congr_right fun below => ?_
  have within : n < 16 := Nat.lt_of_lt_of_le below small
  exact ⟨isDigitOf_of_digitValue? within, digitValue?_of_isDigitOf within⟩

/-! ## Digits in a row -/

/-- Behind a number that has been read, digits write what their values make of it. -/
theorem digitsFrom?_eq_some {base read n : Nat} {text : List Char} (small : base ≤ 16) :
    digitsFrom? base read text = some n ↔ ∃ values : List Nat, (∀ value ∈ values, value < base) ∧
      List.Forall₂ IsDigitOf values text ∧
      n = values.foldl (fun read value => read * base + value) read := by
  -- the number that was read so far is what the fold starts from
  induction text generalizing read with
  | nil =>
    constructor
    · rintro ⟨⟩
      exact ⟨[], nofun, .nil, rfl⟩
    · rintro ⟨values, _, digits, rfl⟩
      cases digits
      rfl
  | cons c rest ih =>
    constructor
    · intro found
      rw [digitsFrom?] at found
      split at found
      next value own =>
        obtain ⟨below, digit⟩ := (digitIn?_eq_some small).mp own
        obtain ⟨values, others, digits, same⟩ := ih.mp found
        exact ⟨value :: values, List.forall_mem_cons.mpr ⟨below, others⟩, .cons digit digits, same⟩
      · cases found
    · rintro ⟨values, each, digits, same⟩
      cases digits with
      | cons digit digits =>
        obtain ⟨below, others⟩ := List.forall_mem_cons.mp each
        rw [digitsFrom?, (digitIn?_eq_some small).mpr ⟨below, digit⟩]
        exact ih.mpr ⟨_, others, digits, same⟩

/-- The number of some digits, put together from the highest one on. -/
theorem foldl_eq_ofDigits (base : Nat) (values : List Nat) :
    values.foldl (fun read value => read * base + value) 0 = Nat.ofDigits base values.reverse := by
  rw [Nat.ofDigits_eq_foldr, List.foldr_reverse]
  congr 1
  funext read value
  simp [Nat.mul_comm, Nat.add_comm]

/-- Digits of a base are read as the number that they write. -/
theorem ofDigits?_eq_some {base n : Nat} {text : List Char} (small : base ≤ 16) :
    ofDigits? base text = some n ↔ DigitsWrite base text n := by
  cases text with
  | nil => exact ⟨nofun, fun written => absurd rfl written.nonempty⟩
  | cons c rest =>
    have read : ofDigits? base (c :: rest) = digitsFrom? base 0 (c :: rest) := rfl
    rw [read, digitsFrom?_eq_some small]
    simp only [foldl_eq_ofDigits]
    exact ⟨fun values => ⟨List.cons_ne_nil _ _, values⟩, DigitsWrite.values⟩

/-- Every character of a text that digits write is one. -/
theorem DigitsWrite.exists_of_mem {base n : Nat} {text : List Char}
    (written : DigitsWrite base text n) : ∀ c ∈ text, ∃ value < base, IsDigitOf value c := by
  obtain ⟨_, values, each, digits, _⟩ := written
  clear * - each digits
  induction digits with
  | nil => nofun
  | cons digit _ ih =>
    obtain ⟨below, others⟩ := List.forall_mem_cons.mp each
    exact List.forall_mem_cons.mpr ⟨⟨_, below, digit⟩, ih others⟩

/-- A character that is no digit of a base does not stand in what its digits write. -/
theorem DigitsWrite.not_mem {base n : Nat} {text : List Char} (written : DigitsWrite base text n)
    {c : Char} (other : ∀ value < base, ¬ IsDigitOf value c) : c ∉ text := fun mem => by
  obtain ⟨value, below, digit⟩ := written.exists_of_mem c mem
  exact other value below digit

/-- Decimal digits are ASCII digits. -/
theorem DigitsWrite.isAsciiDigit {n : Nat} {text : List Char} (written : DigitsWrite 10 text n) :
    ∀ c ∈ text, isAsciiDigit c = true := by
  intro c mem
  obtain ⟨value, below, digit⟩ := written.exists_of_mem c mem
  have each : ∀ value < 10, Text.isAsciiDigit (Nat.digitChar value) = true ∧
      Text.isAsciiDigit (Nat.digitChar value).toUpper = true := by decide
  rcases digit with rfl | rfl
  · exact (each value below).1
  · exact (each value below).2

/-! ## Numerals -/

/-- A text is a numeral without a sign: hexadecimal digits behind `0x` or `0X`, binary digits
behind `#`, or decimal digits. -/
inductive Unsigned : List Char → Nat → Prop
  | hexadecimal {mark : Char} {digits : List Char} {n : Nat} (marked : mark = 'x' ∨ mark = 'X')
      (written : DigitsWrite 16 digits n) : Unsigned ('0' :: mark :: digits) n
  | binary {digits : List Char} {n : Nat} (written : DigitsWrite 2 digits n) :
      Unsigned ('#' :: digits) n
  | decimal {digits : List Char} {n : Nat} (written : DigitsWrite 10 digits n) :
      Unsigned digits n

/-- A text is a scaled numeral: one without a sign, or one behind a plus sign. -/
inductive Scaled : List Char → Nat → Prop
  | bare {numeral : List Char} {n : Nat} (unsigned : Unsigned numeral n) : Scaled numeral n
  | plus {numeral : List Char} {n : Nat} (unsigned : Unsigned numeral n) :
      Scaled ('+' :: numeral) n

/-- A text is read without a sign exactly if it is a numeral without one. -/
theorem unsigned?_eq_some {text : List Char} {n : Nat} :
    unsigned? text = some n ↔ Unsigned text n := by
  constructor
  · intro read
    unfold unsigned? at read
    split at read
    · exact .hexadecimal (.inl rfl) ((ofDigits?_eq_some (by decide)).mp read)
    · exact .hexadecimal (.inr rfl) ((ofDigits?_eq_some (by decide)).mp read)
    · exact .binary ((ofDigits?_eq_some (by decide)).mp read)
    · exact .decimal ((ofDigits?_eq_some (by decide)).mp read)
  · intro unsigned
    cases unsigned with
    | hexadecimal marked written =>
      rcases marked with rfl | rfl
      · exact (ofDigits?_eq_some (by decide)).mpr written
      · exact (ofDigits?_eq_some (by decide)).mpr written
    | binary written => exact (ofDigits?_eq_some (by decide)).mpr written
    | decimal written =>
      -- none of the marks is a decimal digit
      unfold unsigned?
      split
      · exact absurd (by simp) (written.not_mem (c := 'x') (by decide))
      · exact absurd (by simp) (written.not_mem (c := 'X') (by decide))
      · exact absurd (by simp) (written.not_mem (c := '#') (by decide))
      · exact (ofDigits?_eq_some (by decide)).mpr written

theorem Unsigned.not_plus {rest : List Char} {n : Nat} : ¬ Unsigned ('+' :: rest) n := by
  intro unsigned
  cases unsigned with
  | decimal written => exact absurd (by simp) (written.not_mem (c := '+') (by decide))

/-- **Which texts are numbers.** The reader of numerals accepts the scaled numerals and answers
their numbers. -/
theorem scaled?_eq_some {text : List Char} {n : Nat} : scaled? text = some n ↔ Scaled text n := by
  constructor
  · intro read
    unfold scaled? at read
    split at read
    · exact .plus (unsigned?_eq_some.mp read)
    · exact .bare (unsigned?_eq_some.mp read)
  · intro scaled
    cases scaled with
    | plus unsigned => exact unsigned?_eq_some.mpr unsigned
    | bare unsigned =>
      unfold scaled?
      split
      · exact absurd unsigned Unsigned.not_plus
      · exact unsigned?_eq_some.mpr unsigned

end RegisterMap.Text
