import RegisterMap.Proofs.Text.CommonStart
import RegisterMap.Text.DocLiteral

/-!
# Names and plain texts

A name has letters, digits and underscores. A text is plain when it can stand in a line of code
without changing how the line is read: it has no line break, no quote and no brace. Names are plain
(`isPlain_of_isName`), numbers are written as names (`isName_hex`), and whatever is made of names by
taking numbers off, putting them behind or finding what several have in common is a name again.

The inside of a string literal is not plain, but it has no line break either
(`not_mem_docText`).
-/

namespace RegisterMap.Text

/-! ## Names -/

/-- Whether a character may stand in a name: it is a letter, a digit or an underscore. Outside of
ASCII no character is excluded, so the letters and digits of every script are among them. -/
def isNameChar (c : Char) : Bool := c.isAlphanum || c = '_' || 127 < c.toNat

/-- Whether a text is a name. -/
def isName (text : String) : Bool := text.toList.all isNameChar

/-- Whether a character is none of those that decide how a line is read. -/
def isPlainChar (c : Char) : Bool := c ≠ '\n' && c ≠ '\x22' && c ≠ '\x7b' && c ≠ '\x7d'

/-- Whether a text has no line break, no quote and no brace. -/
def isPlain (text : String) : Bool := text.toList.all isPlainChar

@[simp]
theorem isName_append (front back : String) :
    isName (front ++ back) = (isName front && isName back) := by
  rw [isName, String.toList_append, List.all_append, ← isName, ← isName]

@[simp]
theorem isPlain_append (front back : String) :
    isPlain (front ++ back) = (isPlain front && isPlain back) := by
  rw [isPlain, String.toList_append, List.all_append, ← isPlain, ← isPlain]

/-- What holds of a separator holds of a whole list when it holds of the parts. -/
theorem all_intercalate {keep : Char → Bool} {separator : List Char}
    (h : separator.all keep = true) (parts : List (List Char)) :
    (separator.intercalate parts).all keep = parts.all (·.all keep) := by
  induction parts with
  | nil => rfl
  | cons part rest ih =>
    cases rest with
    | nil => rw [List.intercalate_singleton, List.all_cons, List.all_nil, Bool.and_true]
    | cons next others =>
      rw [List.intercalate_cons_cons, List.append_assoc, List.all_append, List.all_append, ih, h,
        Bool.true_and]
      rfl

/-- Texts with plain ones between them are plain if each is. -/
theorem isPlain_intercalate {separator : String} (h : isPlain separator = true)
    (texts : List String) : isPlain (separator.intercalate texts) = texts.all isPlain := by
  rw [isPlain, String.toList_intercalate, all_intercalate h, List.all_map]
  rfl

/-- What has only characters of a name is a name. -/
theorem isName_of_subset {text other : String} (name : isName text = true)
    (subset : other.toList ⊆ text.toList) : isName other = true := by
  apply List.all_eq_true.mpr
  intro c mem
  exact List.all_eq_true.mp name c (subset mem)

/-- A character that is none of a name stands in no name. -/
theorem ne_of_isNameChar {c other : Char} (h : isNameChar c = true)
    (excluded : isNameChar other = false) : c ≠ other := by
  rintro rfl
  rw [h] at excluded
  cases excluded

/-- A name is plain. -/
theorem isPlain_of_isName {text : String} (name : isName text = true) : isPlain text = true := by
  apply List.all_eq_true.mpr
  intro c mem
  have own := List.all_eq_true.mp name c mem
  simp only [isPlainChar, Bool.and_eq_true, decide_eq_true_eq]
  exact ⟨⟨⟨ne_of_isNameChar own rfl, ne_of_isNameChar own rfl⟩, ne_of_isNameChar own rfl⟩,
    ne_of_isNameChar own rfl⟩

/-- A plain text has none of the characters that decide how a line is read. -/
theorem not_mem_of_isPlain {text : String} (plain : isPlain text = true) {c : Char}
    (excluded : isPlainChar c = false) : c ∉ text.toList := by
  intro mem
  rw [List.all_eq_true.mp plain c mem] at excluded
  cases excluded

/-! ## Numbers -/

/-- The digits of a number are those of its base. -/
theorem exists_digit_of_mem_toDigits {base : Nat} (two : 1 < base) (n : Nat) :
    ∀ c ∈ Nat.toDigits base n, ∃ digit < base, c = Nat.digitChar digit := by
  induction n using Nat.strongRecOn with
  | ind n ih =>
    rw [Nat.toDigits_eq_if two]
    split
    · next small => exact List.forall_mem_singleton.mpr ⟨n, small, rfl⟩
    · next large =>
      intro c mem
      rcases List.mem_append.mp mem with front | last
      · exact ih (n / base) (Nat.div_lt_self (by omega) two) c front
      · exact ⟨n % base, Nat.mod_lt n (by omega), List.mem_singleton.mp last⟩

theorem isNameChar_digitChar : ∀ digit < 16, isNameChar (Nat.digitChar digit) = true := by
  decide

/-- A number in a base up to sixteen is a name. -/
theorem isName_toDigits {base : Nat} (two : 1 < base) (sixteen : base ≤ 16) (n : Nat) :
    isName (String.ofList (Nat.toDigits base n)) = true := by
  rw [isName, String.toList_ofList]
  apply List.all_eq_true.mpr
  intro c mem
  obtain ⟨digit, small, rfl⟩ := exists_digit_of_mem_toDigits two n c mem
  exact isNameChar_digitChar digit (by omega)

@[simp]
theorem isName_decimal (n : Nat) : isName (decimal n) = true :=
  isName_toDigits (by decide) (by decide) n

@[simp]
theorem isName_hex (n : Nat) : isName (hex n) = true := by
  rw [hex, isName_append, hexDigits, isName_toDigits (by decide) (by decide)]
  decide

@[simp]
theorem isPlain_decimal (n : Nat) : isPlain (decimal n) = true :=
  isPlain_of_isName (isName_decimal n)

@[simp]
theorem isPlain_hex (n : Nat) : isPlain (hex n) = true :=
  isPlain_of_isName (isName_hex n)

/-- A number is plain, with a minus sign in front of it, too. -/
@[simp]
theorem isPlain_signedDecimal (n : Int) : isPlain (signedDecimal n) = true := by
  cases n with
  | ofNat n => exact isPlain_decimal n
  | negSucc n =>
    rw [signedDecimal, isPlain_append, isPlain_decimal]
    decide

/-! ## Names made of names -/

/-- The stem of a name is a name. -/
theorem isName_stem {name : String} (h : isName name = true) : isName (stem name) = true := by
  apply isName_of_subset h
  intro c mem
  rw [stem, String.toList_ofList, dropEndDigits, List.mem_reverse] at mem
  exact List.mem_reverse.mp (List.dropWhile_subset _ mem)

/-- The common start of names is a name. -/
theorem isName_commonStart {names : List String} (h : ∀ name ∈ names, isName name = true) :
    isName (commonStart names) = true := by
  cases names with
  | nil => rfl
  | cons name others =>
    exact isName_of_subset (h name List.mem_cons_self)
      (commonStart_begins List.mem_cons_self).subset

/-! ## Descriptions -/

/-- In a word there are no blank characters. -/
theorem not_isBlank_of_mem_words {text word : List Char} (memWord : word ∈ words text) {c : Char}
    (mem : c ∈ word) : isBlank c = false := by
  -- a character begins a word, belongs to the first word behind it, or is skipped
  induction text generalizing word with
  | nil => exact absurd memWord List.not_mem_nil
  | cons first rest ih =>
    rw [words] at memWord
    split at memWord
    · exact ih memWord mem
    · next visible =>
      have own : isBlank first = false := Bool.eq_false_iff.mpr visible
      split at memWord
      · rcases List.mem_cons.mp memWord with rfl | later
        · exact List.mem_singleton.mp mem ▸ own
        · exact ih later mem
      · split at memWord
        · next none =>
          rw [List.mem_singleton.mp memWord] at mem
          exact List.mem_singleton.mp mem ▸ own
        · next head later same =>
          rcases List.mem_cons.mp memWord with rfl | behind
          · rcases List.mem_cons.mp mem with rfl | inside
            · exact own
            · exact ih (same ▸ List.mem_cons_self) inside
          · exact ih (same ▸ List.mem_cons_of_mem _ behind) mem

/-- Escaping adds backslashes and nothing else. -/
theorem mem_of_mem_escape {text : List Char} {c : Char} (mem : c ∈ escape text) :
    c = '\x5c' ∨ c ∈ text := by
  induction text with
  | nil => exact .inr mem
  | cons first rest ih =>
    rw [escape] at mem
    split at mem
    · rcases List.mem_cons.mp mem with rfl | mem
      · exact .inl rfl
      · rcases List.mem_cons.mp mem with rfl | later
        · exact .inr List.mem_cons_self
        · exact (ih later).imp_right (List.mem_cons_of_mem _)
    · rcases List.mem_cons.mp mem with rfl | later
      · exact .inr List.mem_cons_self
      · exact (ih later).imp_right (List.mem_cons_of_mem _)

/-- A description has no blank characters but spaces when it stands in a literal. -/
theorem eq_space_of_mem_docText {text : String} {c : Char} (mem : c ∈ (docText text).toList)
    (blank : isBlank c = true) : c = ' ' := by
  have visible : (words text.toList).all (fun word => word.all fun c => !isBlank c || c = ' ') =
      true := by
    apply List.all_eq_true.mpr
    intro word memWord
    apply List.all_eq_true.mpr
    intro c mem
    rw [not_isBlank_of_mem_words memWord mem, Bool.not_false, Bool.true_or]
  have spaced : (singleSpaced text.toList).all (fun c => !isBlank c || c = ' ') = true :=
    (all_intercalate (by decide) _).trans visible
  rw [docText, String.toList_ofList] at mem
  rcases mem_of_mem_escape mem with rfl | inside
  · exact absurd blank (by decide)
  · simpa [blank] using List.all_eq_true.mp spaced c inside

/-- A description has no line break when it stands in a literal. -/
theorem not_mem_docText (text : String) : '\n' ∉ (docText text).toList := by
  intro mem
  exact absurd (eq_space_of_mem_docText mem (by decide)) (by decide)

end RegisterMap.Text
