import RegisterMap.Proofs.Reading.Patterns

/-!
# Named values

An element that describes a named value is marked as the default, marked as not the default, or not
marked. Where it is not marked, its value is read from a text that is a pattern of bits or a number,
and what is kept of it stands for the same numbers (`EnumeratedValue.ofElement_of_value`). Where it
is marked, the value is not looked at, even if the mark says that this is not the default. So a
named value carries its data unless it has this mark (`EnumeratedValue.carriesData_iff`).
-/

namespace RegisterMap

open Text Xml

/-- A text without the digits of a pattern is no pattern. -/
theorem patternDigits?_eq_none {text : String} :
    patternDigits? text.toList = none ↔ ¬ IsPattern text := by
  rw [Option.eq_none_iff_forall_ne_some, IsPattern, not_exists]
  exact forall_congr' fun digits => not_congr patternDigits?_eq_some

namespace EnumeratedValue

section Element

variable {e : Element} {v : EnumeratedValue} {name text : String}

/-! ## Marked and unmarked elements -/

/-- Where there is a mark, nothing but the mark is read. -/
theorem ofElement_of_marked (named : e.member? "name" = some name)
    (marked : e.member? "isDefault" = some text) :
    ofElement e = if text = "true" ∨ text = "false" then
        .ok { name, description := e.member? "description", isDefault := text = "true" }
      else .error (.unexpected .truth text) := by
  simp only [ofElement, Element.required, named, marked, ok_bind]
  rfl

/-- A pattern is kept as its set bits and its open ones. -/
theorem ofElement_of_pattern {digits : List Char} (named : e.member? "name" = some name)
    (unmarked : e.member? "isDefault" = none) (valued : e.member? "value" = some text)
    (writes : PatternWrites text.toList digits) :
    ofElement e = .ok { name, description := e.member? "description"
                        value := some (setBits digits), doNotCare := openBits digits } := by
  simp only [ofElement, Element.required, named, unmarked, valued, ok_bind,
    patternDigits?_eq_some.mpr writes]
  rfl

/-- A text that is no pattern is read as a number. Where it is none, this is the fault. -/
theorem ofElement_of_not_pattern (named : e.member? "name" = some name)
    (unmarked : e.member? "isDefault" = none) (valued : e.member? "value" = some text)
    (other : ¬ IsPattern text) :
    ofElement e = (readNumber text).map fun n =>
      { name, description := e.member? "description", value := some n } := by
  simp only [ofElement, Element.required, named, unmarked, valued, ok_bind,
    patternDigits?_eq_none.mpr other]
  cases readNumber text <;> rfl

/-- A named value that was read has a name. -/
theorem exists_name_of_ofElement (read : ofElement e = .ok v) :
    ∃ name, e.member? "name" = some name := by
  obtain ⟨name, named, _⟩ := bind_eq_ok.mp read
  exact ⟨name, required_eq_ok.mp named⟩

/-- One that is not marked has a value. -/
theorem exists_text_of_ofElement (read : ofElement e = .ok v)
    (unmarked : e.member? "isDefault" = none) : ∃ text, e.member? "value" = some text := by
  obtain ⟨name, _, read⟩ := bind_eq_ok.mp read
  simp only [unmarked] at read
  obtain ⟨text, valued, _⟩ := bind_eq_ok.mp read
  exact ⟨text, required_eq_ok.mp valued⟩

/-! ## Values -/

/-- **A value is kept as what it matches.** Where an element is named and not marked, a value that
is a pattern of bits is kept as two numbers that stand for the pattern. If no digit is open, the
second of them is zero, and behind `#` the first is the one that the text is read as. Any other text
is kept as the number that it is read as, with no open bits, and where it is none, this is the
fault. -/
theorem ofElement_of_value (named : e.member? "name" = some name)
    (unmarked : e.member? "isDefault" = none) (valued : e.member? "value" = some text) :
    (∀ digits, PatternWrites text.toList digits → ∃ n mask,
      ofElement e = .ok { name, description := e.member? "description"
                          value := some n, doNotCare := mask } ∧
        StandFor digits n mask ∧
        ((∀ c ∈ digits, c ≠ 'x' ∧ c ≠ 'X') →
          mask = 0 ∧ (text.toList = '#' :: digits → readNumber text = .ok n))) ∧
      (¬ IsPattern text → ofElement e = (readNumber text).map fun n =>
        { name, description := e.member? "description", value := some n, doNotCare := 0 }) := by
  refine ⟨fun digits writes => ?_, ofElement_of_not_pattern named unmarked valued⟩
  refine ⟨setBits digits, openBits digits, ofElement_of_pattern named unmarked valued writes,
    standFor_bits writes.digits, fun closed => ⟨openBits_eq_zero closed, fun marked => ?_⟩⟩
  exact readNumber_eq_ok.mpr (writes.scaled closed marked)

/-- A named value of which two bits are open. -/
def halfOpen : Element := .branch "enumeratedValue" [.leaf "name" "A", .leaf "value" " 0B1x0X\n"]

/-- A named value that is a number, behind a plus sign. -/
def positive : Element := .branch "enumeratedValue" [.leaf "name" "B", .leaf "value" "+#101"]

/-- A plus sign does not stand in front of a pattern, only in front of a number. -/
theorem ofElement_of_value_halfOpen :
    halfOpen.member? "name" = some "A" ∧ halfOpen.member? "isDefault" = none ∧
      halfOpen.member? "value" = some "0B1x0X" ∧
      PatternWrites "0B1x0X".toList ['1', 'x', '0', 'X'] ∧
      (∃ n mask, ofElement halfOpen = .ok { name := "A", value := some n, doNotCare := mask } ∧
        StandFor ['1', 'x', '0', 'X'] n mask) ∧
      ¬ IsPattern "+#101" ∧ ofElement positive = .ok { name := "B", value := some 5 } := by
  have named : halfOpen.member? "name" = some "A" := by decide
  have unmarked : halfOpen.member? "isDefault" = none := by decide
  have valued : halfOpen.member? "value" = some "0B1x0X" := by decide
  have writes : PatternWrites "0B1x0X".toList ['1', 'x', '0', 'X'] :=
    patternDigits?_eq_some.mp (by decide)
  obtain ⟨n, mask, read, stand, _⟩ := (ofElement_of_value named unmarked valued).1 _ writes
  have named' : positive.member? "name" = some "B" := by decide
  have unmarked' : positive.member? "isDefault" = none := by decide
  have valued' : positive.member? "value" = some "+#101" := by decide
  have other : ¬ IsPattern "+#101" := patternDigits?_eq_none.mp (by decide)
  have number := (ofElement_of_value named' unmarked' valued').2 other
  exact ⟨named, unmarked, valued, writes, ⟨n, mask, read, stand⟩, other, number⟩

/-! ## Data -/

/-- A text gives a number and the bits of it that may hold either digit. -/
inductive GivesData (text : String) : Nat → Nat → Prop
  | pattern {digits : List Char} (writes : PatternWrites text.toList digits) :
      GivesData text (setBits digits) (openBits digits)
  | number {n : Nat} (other : ¬ IsPattern text) (reads : readNumber text = .ok n) :
      GivesData text n 0

/-- What was read from an element carries its data. It is the default, or it has a value. If the
element is not marked as the default and has a value, the data are those of its text. -/
structure CarriesData (e : Element) (v : EnumeratedValue) : Prop where
  present : v.isDefault = true ∨ ∃ n, v.value = some n
  own : e.member? "isDefault" = none ∨ e.member? "isDefault" = some "false" →
    ∀ text, e.member? "value" = some text → ∃ n, v.value = some n ∧ GivesData text n v.doNotCare

/-- A named value that is not marked carries its data. -/
theorem carriesData_of_unmarked (read : ofElement e = .ok v)
    (unmarked : e.member? "isDefault" = none) : CarriesData e v := by
  obtain ⟨name, named⟩ := exists_name_of_ofElement read
  obtain ⟨text, valued⟩ := exists_text_of_ofElement read unmarked
  have data : ∃ n, v.value = some n ∧ GivesData text n v.doNotCare := by
    by_cases pattern : IsPattern text
    · obtain ⟨digits, writes⟩ := pattern
      cases read.symm.trans (ofElement_of_pattern named unmarked valued writes)
      exact ⟨_, rfl, .pattern writes⟩
    · rw [ofElement_of_not_pattern named unmarked valued pattern] at read
      obtain ⟨n, reads, rfl⟩ := map_eq_ok.mp read
      exact ⟨n, rfl, .number pattern reads⟩
  refine ⟨.inr (data.imp fun _ => And.left), fun _ other has => ?_⟩
  cases valued.symm.trans has
  exact data

/-- **A named value carries its data** unless it is marked as not being the default. -/
theorem carriesData_iff (read : ofElement e = .ok v) :
    CarriesData e v ↔ e.member? "isDefault" ≠ some "false" := by
  cases marked : e.member? "isDefault" with
  | none => exact iff_of_true (carriesData_of_unmarked read marked) nofun
  | some mark =>
    obtain ⟨name, named⟩ := exists_name_of_ofElement read
    rw [ofElement_of_marked named marked] at read
    split at read
    next known =>
      cases read
      rcases known with rfl | rfl
      · refine iff_of_true ⟨.inl rfl, fun given => ?_⟩ (by decide)
        rw [marked] at given
        exact absurd given (by decide)
      · -- the value has been passed over
        refine iff_of_false (fun carries => ?_) (by decide)
        rcases carries.present with isDefault | ⟨_, value⟩
        · have same : "false" = "true" := of_decide_eq_true isDefault
          exact absurd same (by decide)
        · cases value
    next => cases read

/-- A pattern with two open digits, in upper and lower case and between blanks. -/
theorem carriesData_iff_halfOpen :
    ofElement halfOpen = .ok { name := "A", value := some 8, doNotCare := 5 } ∧
      CarriesData halfOpen { name := "A", value := some 8, doNotCare := 5 } := by
  have read : ofElement halfOpen = .ok { name := "A", value := some 8, doNotCare := 5 } := by decide
  exact ⟨read, (carriesData_iff read).mpr (by decide)⟩

/-- A named value that is marked as not being the default, and has a value. -/
def markedFalse : Element :=
  .branch "enumeratedValue" [.leaf "name" "A", .leaf "isDefault" "false", .leaf "value" "3"]

/-- A mark that says that this is not the default makes the value disappear. -/
theorem not_forall_carriesData :
    ¬ ∀ (e : Element) (v : EnumeratedValue), ofElement e = .ok v → CarriesData e v := by
  intro all
  have read : ofElement markedFalse = .ok { name := "A" } := by decide
  obtain ⟨n, value, _⟩ := (all markedFalse _ read).own (.inr (by decide)) "3" (by decide)
  cases value

end Element

end EnumeratedValue

end RegisterMap
