import RegisterMap.Proofs.Reading.Accepted
import RegisterMap.Proofs.Text.Numeral

/-!
# Numbers in descriptions

A text is a number exactly when what is left of it without the blank characters at its ends is a
scaled numeral, and then it is the number of the numeral. Any other text is refused as it stands
(`readNumber_grammar`). So each way to spell a number is read as this number: in decimal, in
hexadecimal or in binary digits, with leading zeros, behind a plus sign and between blank
characters.
-/

namespace RegisterMap

open Text

/-- A number is spelled without a sign: in decimal digits, in hexadecimal ones behind `0x` or `0X`,
or in binary ones behind `#`. -/
inductive Spells (n : Nat) : List Char → Prop
  | decimal {digits : List Char} (padded : IsPadded 10 n digits) : Spells n digits
  | hexadecimal {mark : Char} {digits : List Char} (marked : mark = 'x' ∨ mark = 'X')
      (padded : IsPadded 16 n digits) : Spells n ('0' :: mark :: digits)
  | binary {digits : List Char} (padded : IsPadded 2 n digits) : Spells n ('#' :: digits)

/-- A number that is spelled without a sign is a numeral without one. -/
theorem Spells.unsigned {n : Nat} {numeral : List Char} (spells : Spells n numeral) :
    Unsigned numeral n := by
  cases spells with
  | decimal padded => exact .decimal (padded.digitsWrite (by decide))
  | hexadecimal marked padded => exact .hexadecimal marked (padded.digitsWrite (by decide))
  | binary padded => exact .binary (padded.digitsWrite (by decide))

/-- An address as it is written spells its number. -/
theorem spells_hex (n : Nat) : Spells n (hex n).toList := by
  rw [toList_hex]
  exact .hexadecimal (.inl rfl) (isPadded_toDigits 16 n)

/-- A text that is no number is refused as it stands. -/
theorem readNumber_eq_error {text : String} (other : ∀ n, ¬ Scaled (trimChars text.toList) n) :
    readNumber text = .error (.unexpected .number text) := by
  have none : scaled? (trimChars text.toList) = none :=
    Option.eq_none_iff_forall_ne_some.mpr fun n read => other n (scaled?_eq_some.mp read)
  rw [readNumber, none]

/-- Blank characters and a plus sign may stand around and in front of a number. -/
theorem readNumber_between {front sign numeral back : List Char} {n : Nat}
    (blankFront : ∀ c ∈ front, isBlank c = true) (signed : sign = [] ∨ sign = ['+'])
    (spells : Spells n numeral) (blankBack : ∀ c ∈ back, isBlank c = true) :
    readNumber (String.ofList (front ++ (sign ++ numeral ++ back))) = .ok n := by
  have scaled : Scaled (sign ++ numeral) n := by
    rcases signed with rfl | rfl
    · exact .bare spells.unsigned
    · exact .plus spells.unsigned
  rw [readNumber_eq_ok, String.toList_ofList,
    trimChars_between blankFront scaled.visible blankBack]
  exact scaled

/-- **Which texts are numbers.** Every text has one part that the blank characters at its ends stand
around. The text is read as a number exactly when this part is a scaled numeral of the number, and
if it is no scaled numeral, the text is refused as it stands. Every spelling of a number, behind a
plus sign or not and with blank characters around, is read as the number, and so is every
address that is written. -/
theorem readNumber_grammar :
    (∀ text : String, ∃ inner, (∀ other, TrimsTo text.toList other ↔ other = inner) ∧
        (∀ n, readNumber text = .ok n ↔ Scaled inner n) ∧
        ((∀ n, ¬ Scaled inner n) → readNumber text = .error (.unexpected .number text))) ∧
      (∀ (n : Nat) (front sign numeral back : List Char), (∀ c ∈ front, isBlank c = true) →
        sign = [] ∨ sign = ['+'] → Spells n numeral → (∀ c ∈ back, isBlank c = true) →
          readNumber (String.ofList (front ++ (sign ++ numeral ++ back))) = .ok n) ∧
      ∀ n, Spells n (hex n).toList ∧ readNumber (hex n) = .ok n := by
  refine ⟨fun text => ⟨trimChars text.toList, fun _ => trimsTo_iff, fun _ => readNumber_eq_ok,
    readNumber_eq_error⟩, ?_, fun n => ⟨spells_hex n, readNumber_hex n⟩⟩
  intro n front sign numeral back blankFront signed spells blankBack
  exact readNumber_between blankFront signed spells blankBack

/-- Capitals, leading zeros and blank characters of two kinds. Behind `0x` there must be a digit. -/
theorem readNumber_grammar_capitals :
    Spells 255 "0X0fF".toList ∧ isBlank '\t' = true ∧ isBlank '\u00a0' = true ∧
      readNumber "\t+0X0fF\u00a0" = .ok 255 ∧
      TrimsTo " 0x".toList "0x".toList ∧ (∀ n, ¬ Scaled "0x".toList n) ∧
      readNumber " 0x" = .error (.unexpected .number " 0x") := by
  obtain ⟨texts, spellings, _⟩ := readNumber_grammar
  have padded : IsPadded 16 255 "0fF".toList :=
    ⟨1, ['f', 'F'], rfl, .cons (.inl rfl) (.cons (.inr rfl) .nil)⟩
  have spells : Spells 255 "0X0fF".toList := .hexadecimal (.inr rfl) padded
  have read := spellings 255 ['\t'] ['+'] "0X0fF".toList ['\u00a0']
    (List.forall_mem_singleton.mpr rfl) (.inr rfl) spells (List.forall_mem_singleton.mpr rfl)
  obtain ⟨inner, trims, _, refused⟩ := texts " 0x"
  have trimmed : TrimsTo " 0x".toList "0x".toList := trimsTo_iff.mpr rfl
  have none : scaled? "0x".toList = none := rfl
  have other : ∀ n, ¬ Scaled "0x".toList n := by
    intro n scaled
    rw [← scaled?_eq_some, none] at scaled
    cases scaled
  cases (trims _).mp trimmed
  exact ⟨spells, by decide, by decide, read, trimmed, other, refused other⟩

end RegisterMap
