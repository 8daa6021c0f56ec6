import Mathlib.Data.List.TakeWhile
import RegisterMap.Text.Blank

/-!
# Trimmed texts

What is left of a text without the blank characters at its ends is said here without taking any of
them off (`TrimsTo`): they stand around it, and it neither begins nor ends with one. There is one
such part of each text, and trimming finds it (`trimsTo_iff`).
-/

namespace RegisterMap.Text

/-- A text is some part of it with blank characters around, and the part does not begin or end with
a blank character. -/
structure TrimsTo (text inner : List Char) : Prop where
  around : ∃ front back : List Char, text = front ++ (inner ++ back) ∧
    (∀ c ∈ front, isBlank c = true) ∧ ∀ c ∈ back, isBlank c = true
  first : ∀ c ∈ inner.head?, isBlank c = false
  last : ∀ c ∈ inner.getLast?, isBlank c = false

/-- A text that does not begin with a blank character loses nothing at its beginning. -/
theorem dropWhile_of_head? {text : List Char} (visible : ∀ c ∈ text.head?, isBlank c = false) :
    text.dropWhile isBlank = text := by
  cases text with
  | nil => rfl
  | cons c rest => exact List.dropWhile_cons_of_neg (by simp [visible c rfl])

theorem visible_head?_dropWhile {text : List Char} :
    ∀ c ∈ (text.dropWhile isBlank).head?, isBlank c = false := by
  intro c head
  have visible := List.head?_dropWhile_not isBlank text
  rw [Option.mem_def.mp head] at visible
  exact Bool.eq_false_iff.mpr (by simpa using visible)

/-- What trimming leaves is such a part of the text. -/
theorem trimsTo_trimChars (text : List Char) : TrimsTo text (trimChars text) := by
  let rest := text.dropWhile isBlank
  have parts : rest = trimChars text ++ (rest.reverse.takeWhile isBlank).reverse := by
    rw [trimChars, ← List.reverse_append, List.takeWhile_append_dropWhile, List.reverse_reverse]
  refine ⟨⟨text.takeWhile isBlank, (rest.reverse.takeWhile isBlank).reverse, ?_, ?_, ?_⟩, ?_, ?_⟩
  · rw [← parts, List.takeWhile_append_dropWhile]
  · exact fun _ => List.mem_takeWhile_imp
  · exact fun _ mem => List.mem_takeWhile_imp (List.mem_reverse.mp mem)
  · intro c head
    have own : c ∈ rest.head? := by
      rw [parts, List.head?_append, Option.mem_def.mp head]
      rfl
    exact visible_head?_dropWhile c own
  · rw [trimChars, List.getLast?_reverse]
    exact visible_head?_dropWhile

/-- There is no other one. -/
theorem TrimsTo.eq_trimChars {text inner : List Char} (h : TrimsTo text inner) :
    inner = trimChars text := by
  obtain ⟨front, back, rfl, blankFront, blankBack⟩ := h.around
  have blankBack' : ∀ c ∈ back.reverse, isBlank c = true := fun c mem =>
    blankBack c (List.mem_reverse.mp mem)
  cases inner with
  | nil =>
    have none : (front ++ ([] ++ back)).dropWhile isBlank = [] := by
      rw [List.dropWhile_append_of_pos blankFront, List.nil_append]
      exact List.dropWhile_eq_nil_iff.mpr blankBack
    rw [trimChars, none]
    rfl
  | cons c rest =>
    -- what is taken off ends at the first character of the part, and so behind
    have front' : (front ++ (c :: rest ++ back)).dropWhile isBlank = c :: rest ++ back := by
      rw [List.dropWhile_append_of_pos blankFront]
      exact dropWhile_of_head? h.first
    have back' : (c :: rest ++ back).reverse.dropWhile isBlank = (c :: rest).reverse := by
      rw [List.reverse_append, List.dropWhile_append_of_pos blankBack']
      refine dropWhile_of_head? ?_
      rw [List.head?_reverse]
      exact h.last
    rw [trimChars, front', back', List.reverse_reverse]

/-- **Trimming** finds the part of a text that has the blank characters around it. -/
theorem trimsTo_iff {text inner : List Char} : TrimsTo text inner ↔ inner = trimChars text :=
  ⟨TrimsTo.eq_trimChars, fun same => same ▸ trimsTo_trimChars text⟩

/-- Blank characters around a text without blank characters are taken off. -/
theorem trimChars_between {front inner back : List Char}
    (blankFront : ∀ c ∈ front, isBlank c = true) (visible : ∀ c ∈ inner, isBlank c = false)
    (blankBack : ∀ c ∈ back, isBlank c = true) :
    trimChars (front ++ (inner ++ back)) = inner := by
  have trims : TrimsTo (front ++ (inner ++ back)) inner :=
    ⟨⟨front, back, rfl, blankFront, blankBack⟩,
      fun c head => visible c (List.mem_of_mem_head? head),
      fun c last => visible c (List.mem_of_mem_getLast? last)⟩
  exact trims.eq_trimChars.symm

/-- A text without blank characters is not changed. -/
theorem trimChars_of_not_blank {text : List Char} (visible : ∀ c ∈ text, isBlank c = false) :
    trimChars text = text := by
  have whole : trimChars ([] ++ (text ++ [])) = text := trimChars_between nofun visible nofun
  rwa [List.nil_append, List.append_nil] at whole

end RegisterMap.Text
