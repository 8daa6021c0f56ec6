import RegisterMap.Code.Writer

/-!
# The lines of code

A writer that has written a tree holds the lines that it held before and then those of the tree, and
is as deep as it was (`Writer.writeAll_eq`). So the text of some code is made of its lines
(`Code.text_eq_joinLines`), and taking the text apart at its line breaks gives these lines back
(`Text.linesOf_joinLines`). What stands deeper has the same lines, with more blanks in front of
them (`Code.linesOfAllAt_eq`).
-/

namespace RegisterMap

/-! ## Writing -/

namespace Writer

mutual

/-- What a writer has written behind a tree. -/
theorem write_eq : ∀ (code : Code) (w : Writer),
    w.write code = { lines := w.lines ++ (code.linesAt w.depth).toArray, depth := w.depth }
  | .line text, w => by
    simp [write, line, Code.linesAt]
  | .block header body, w => by
    simp [write, openBlock, closeBlock, line, indent, dedent, Code.linesAt, writeAll_eq body]

theorem writeAll_eq : ∀ (code : List Code) (w : Writer),
    w.writeAll code =
      { lines := w.lines ++ (Code.linesOfAllAt w.depth code).toArray, depth := w.depth }
  | [], w => by
    simp [writeAll, Code.linesOfAllAt]
  | code :: rest, w => by
    rw [writeAll, writeAll_eq rest, write_eq code]
    simp [Code.linesOfAllAt]

end

end Writer

namespace Code

/-- **The text of some code** is made of its lines. -/
theorem text_eq_joinLines (code : List Code) : text code = joinLines (linesOfAllAt 0 code) := by
  rw [text, Writer.writeAll_eq, Writer.text]
  simp

/-! ## Indentation -/

/-- Blanks for some levels and for some more are those for all of them. -/
theorem indentation_append (outer inner : Nat) :
    indentation outer ++ indentation inner = indentation (outer + inner) := by
  rw [indentation, indentation, indentation, ← String.ofList_append,
    List.replicate_append_replicate, Nat.mul_add]

@[simp]
theorem indented_zero (text : String) : indented 0 text = text := by
  have none : indentation 0 = "" := rfl
  rw [indented, none, String.empty_append]
  split
  · next empty => exact empty.symm
  · rfl

/-- Lines of something that is indented are indented once more. -/
@[simp]
theorem indented_indented (outer inner : Nat) (text : String) :
    indented outer (indented inner text) = indented (outer + inner) text := by
  by_cases empty : text = ""
  · simp [indented, empty]
  · have written : indentation inner ++ text ≠ "" := by
      simp [String.append_eq_empty_iff, empty]
    rw [indented, indented, if_neg empty, if_neg written, indented, if_neg empty,
      ← String.append_assoc, indentation_append]

mutual

/-- Code that stands deeper has the same lines with more blanks in front. -/
theorem linesAt_eq : ∀ (depth : Nat) (code : Code),
    code.linesAt depth = (code.linesAt 0).map (indented depth)
  | depth, .line text => by simp [linesAt]
  | depth, .block header body => by
    rw [linesAt, linesAt, linesOfAllAt_eq (depth + 1) body, linesOfAllAt_eq (0 + 1) body]
    simp

/-- Code at a depth has the lines that it has at depth zero, with more blanks in front of
them. -/
theorem linesOfAllAt_eq : ∀ (depth : Nat) (code : List Code),
    linesOfAllAt depth code = (linesOfAllAt 0 code).map (indented depth)
  | depth, [] => rfl
  | depth, code :: rest => by
    rw [linesOfAllAt, linesOfAllAt, linesAt_eq depth code, linesOfAllAt_eq depth rest,
      List.map_append]

end

theorem linesAt_line (text : String) : (line text).linesAt 0 = [text] := by
  rw [linesAt, indented_zero]

/-- The lines of lines. -/
theorem linesOfAllAt_lines (texts : List String) :
    linesOfAllAt 0 (texts.map line) = texts := by
  induction texts with
  | nil => rfl
  | cons text rest ih => rw [List.map_cons, linesOfAllAt, linesAt_line, ih, List.singleton_append]

/-- The lines of a block are those of its body, one level deeper, between the two that begin and end
it. -/
theorem linesAt_block (header : String) (body : List Code) :
    (block header body).linesAt 0 =
      opening header :: ((linesOfAllAt 0 body).map (indented 1) ++ [closing]) := by
  rw [linesAt, linesOfAllAt_eq (0 + 1)]
  simp

end Code

/-! ## Reading lines -/

namespace Text

/-- A text taken apart at its line breaks. -/
def linesOf (text : String) : List (List Char) := text.toList.splitOn '\n'

/-- Lines that are joined are read back. Behind the last line break nothing is left. -/
theorem linesOf_joinLines {lines : List String} (single : ∀ line ∈ lines, '\n' ∉ line.toList) :
    linesOf (Code.joinLines lines) = lines.map String.toList ++ [[]] := by
  induction lines with
  | nil => rfl
  | cons line rest ih =>
    obtain ⟨own, others⟩ := List.forall_mem_cons.mp single
    have joined : (Code.joinLines (line :: rest)).toList =
        line.toList ++ '\n' :: (Code.joinLines rest).toList := by
      simp [Code.joinLines, String.toList_join]
    rw [linesOf, joined, List.splitOn_append_cons_self_of_not_mem own, ← linesOf, ih others]
    rfl

/-! ## Lines with descriptions -/

/-- Whether a line gives a description, behind its blanks. -/
def isDocLine (line : List Char) : Bool :=
  "#[doc =".toList.isPrefixOf (line.dropWhile (· = ' '))

/-- A text without the lines that give descriptions. -/
def withoutDocLines (text : String) : String :=
  String.ofList (['\n'].intercalate ((linesOf text).filter fun line => !isDocLine line))

/-- A line gives a description or not, however many blanks stand in front. -/
@[simp]
theorem isDocLine_indented (depth : Nat) (text : String) :
    isDocLine (Code.indented depth text).toList = isDocLine text.toList := by
  by_cases empty : text = ""
  · simp [Code.indented, empty]
  · simp only [isDocLine, Code.indented, if_neg empty, Code.indentation, String.toList_append,
      String.toList_ofList]
    rw [List.dropWhile_append_of_pos (by simp)]

/-- Lines with one empty line behind them are joined by ending each with a line break. -/
theorem intercalate_append_nil (lines : List (List Char)) :
    ['\n'].intercalate (lines ++ [[]]) = lines.flatMap (· ++ ['\n']) := by
  induction lines with
  | nil => rfl
  | cons line rest ih =>
    rw [List.flatMap_cons, ← ih]
    cases rest <;> simp [List.intercalate]

/-- Taking out descriptions from lines that were joined takes out those lines. -/
theorem withoutDocLines_joinLines {lines : List String}
    (single : ∀ line ∈ lines, '\n' ∉ line.toList) :
    withoutDocLines (Code.joinLines lines) =
      Code.joinLines (lines.filter fun line => !isDocLine line.toList) := by
  rw [withoutDocLines, linesOf_joinLines single, List.filter_append, List.filter_map]
  have last : [[]].filter (fun line => !isDocLine line) = [[]] := rfl
  rw [last, intercalate_append_nil, ← String.toList_inj]
  simp [Code.joinLines, String.toList_join, List.flatMap_map, Function.comp_def]

end Text

end RegisterMap
