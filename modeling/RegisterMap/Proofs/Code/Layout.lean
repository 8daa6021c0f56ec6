import RegisterMap.Proofs.Code.Lines
import Mathlib.Data.List.Infix
import Mathlib.Data.List.Count

/-!
# How code is laid out

Code is read line by line. A brace counts when it stands outside the string literals of its line,
which `Text.outside?` tells apart. Lines are well laid out (`Text.WellLaid`) when every literal ends
on its line, no brace is closed that was not opened, none is left open, and each line is indented by
four blanks for every brace that is open in front of it, not counting one that it closes itself at
its beginning.

`Reads` follows the depth from line to line. What it says of some lines it says of the same lines at
any greater depth, so the lines of a block come from those of its body, and all of them are well
laid out in the end (`Reads.wellLaid`).
-/

namespace RegisterMap

namespace Text

/-! ## Outside of string literals -/

mutual

/-- The characters of a line that stand outside its string literals. There are none if a literal is
not closed on the line. -/
def outside? : List Char → Option (List Char)
  | [] => some []
  | c :: rest => if c = '\x22' then outsideBehind? rest else (outside? rest).map (c :: ·)

/-- The same for the rest of a line that begins inside a literal. A character behind a backslash
does not close the literal. -/
def outsideBehind? : List Char → Option (List Char)
  | [] => none
  | '\x5c' :: [] => none
  | '\x5c' :: _ :: rest => outsideBehind? rest
  | c :: rest => if c = '\x22' then outside? rest else outsideBehind? rest

end

/-- Text without quotes stands outside the literals that come behind it. -/
theorem outside?_append {front : List Char} (noQuote : '\x22' ∉ front) (back : List Char) :
    outside? (front ++ back) = (outside? back).map (front ++ ·) := by
  induction front with
  | nil => simp
  | cons c rest ih =>
    obtain ⟨other, others⟩ := not_or.mp (mt List.mem_cons.mpr noQuote)
    rw [List.cons_append, outside?, if_neg (Ne.symm other), ih others, Option.map_map]
    rfl

/-- A text without quotes is outside of literals as a whole. -/
theorem outside?_of_not_mem {text : List Char} (noQuote : '\x22' ∉ text) :
    outside? text = some text := by
  simpa [outside?] using outside?_append noQuote []

example : outside? "doc(\"\x7b \\\" \x7b\") \x7b".toList = some "doc() \x7b".toList := by decide

/-- The characters of some lines that stand outside string literals. -/
def codeOf (lines : List (List Char)) : List Char :=
  lines.flatMap fun line => (outside? line).getD []

/-! ## Braces -/

/-- How many braces are opened and not closed. -/
def openBraces (code : List Char) : Int := code.count '\x7b' - code.count '\x7d'

@[simp]
theorem openBraces_nil : openBraces [] = 0 := rfl

@[simp]
theorem openBraces_append (front back : List Char) :
    openBraces (front ++ back) = openBraces front + openBraces back := by
  simp only [openBraces, List.count_append]
  omega

/-! ## Lines -/

/-- How many blanks a line begins with. -/
def blanksBefore (line : List Char) : Nat := (line.takeWhile (· = ' ')).length

/-- Whether a line begins, behind its blanks, with a closing brace. -/
def closesFirst (line : List Char) : Bool := (line.dropWhile (· = ' ')).head? = some '\x7d'

/-- Lines are well laid out. -/
structure WellLaid (lines : List (List Char)) : Prop where
  /-- String literals are closed on their lines. -/
  literals : ∀ line ∈ lines, (outside? line).isSome = true
  /-- No brace is closed that was not opened. -/
  opened : ∀ front, front <+: codeOf lines → 0 ≤ openBraces front
  /-- Every brace is closed. -/
  closed : openBraces (codeOf lines) = 0
  /-- Lines are indented by four blanks for each brace that is open, one less if they begin by
  closing one. -/
  indented : ∀ before line after, lines = before ++ line :: after →
    blanksBefore line =
      4 * (openBraces (codeOf before) - if closesFirst line = true then 1 else 0)

/-! ## Depth -/

/-- Reading some code leads from one depth to another. -/
structure Leads (depth : Nat) (code : List Char) (depth' : Nat) : Prop where
  opened : ∀ front, front <+: code → 0 ≤ depth + openBraces front
  sum : depth + openBraces code = depth'

/-- Reading one text after the other leads on from where the first one led. -/
theorem Leads.append {depth middle depth' : Nat} {front back : List Char}
    (h : Leads depth front middle) (h' : Leads middle back depth') :
    Leads depth (front ++ back) depth' where
  opened part begins := by
    obtain ⟨rest, whole⟩ := begins
    rcases List.append_eq_append_iff.mp whole with ⟨more, rfl, _⟩ | ⟨more, rfl, rfl⟩
    · exact h.opened part (List.prefix_append part more)
    · rw [openBraces_append, ← Int.add_assoc, h.sum]
      exact h'.opened more (List.prefix_append more rest)
  sum := by
    rw [openBraces_append, ← Int.add_assoc, h.sum, h'.sum]

/-- Code without braces does not change the depth. -/
theorem leads_of_not_mem {code : List Char} (noOpening : '\x7b' ∉ code) (noClosing : '\x7d' ∉ code)
    (depth : Nat) : Leads depth code depth := by
  have none : ∀ part, part <+: code → openBraces part = 0 := by
    intro part begins
    have opening := List.count_eq_zero.mpr (mt (begins.subset ·) noOpening)
    have closing := List.count_eq_zero.mpr (mt (begins.subset ·) noClosing)
    rw [openBraces, opening, closing, Int.sub_self]
  refine ⟨?_, ?_⟩
  · intro front begins
    rw [none front begins]
    omega
  · rw [none code List.prefix_rfl, Int.add_zero]

theorem leads_nil (depth : Nat) : Leads depth [] depth :=
  leads_of_not_mem List.not_mem_nil List.not_mem_nil depth

/-- A single character leads to a depth that is not negative. -/
theorem leads_singleton {depth depth' : Nat} {c : Char} (h : depth + openBraces [c] = depth') :
    Leads depth [c] depth' where
  opened front begins := by
    rcases List.prefix_cons_iff.mp begins with rfl | ⟨rest, rfl, none⟩
    · rw [openBraces_nil]
      omega
    · rw [List.prefix_nil.mp none, h]
      omega
  sum := h

theorem leads_opening (depth : Nat) : Leads depth ['\x7b'] (depth + 1) :=
  leads_singleton (by simp [openBraces])

theorem leads_closing (depth : Nat) : Leads (depth + 1) ['\x7d'] depth := by
  have one : openBraces ['\x7d'] = -1 := rfl
  exact leads_singleton (by rw [one]; omega)

/-- What leads from one depth to another does the same when both are greater. -/
theorem Leads.deeper {depth depth' : Nat} {code : List Char} (h : Leads depth code depth')
    (more : Nat) : Leads (depth + more) code (depth' + more) where
  opened front begins := by
    have := h.opened front begins
    omega
  sum := by
    have := h.sum
    omega

/-! ## Lines of code -/

/-- A text is a line that leads from one depth to another, when it is indented to a level. The level
is the depth, or one less if the text begins by closing a brace. -/
structure LineAt (depth level : Nat) (text : String) (depth' : Nat) : Prop where
  single : '\n' ∉ text.toList
  begins : ∃ c rest, text.toList = c :: rest ∧ c ≠ ' ' ∧
    depth = level + if c = '\x7d' then 1 else 0
  reads : ∃ code, outside? text.toList = some code ∧ Leads depth code depth'

namespace LineAt

variable {depth level depth' : Nat} {text : String}

/-- A line may stand deeper if it is indented so much more. -/
theorem deeper (h : LineAt depth level text depth') (more : Nat) :
    LineAt (depth + more) (level + more) text (depth' + more) where
  single := h.single
  begins := by
    obtain ⟨c, rest, same, other, rfl⟩ := h.begins
    exact ⟨c, rest, same, other, by omega⟩
  reads := by
    obtain ⟨code, read, leads⟩ := h.reads
    exact ⟨code, read, leads.deeper more⟩

/-- A line is never empty. -/
theorem ne_empty (h : LineAt depth level text depth') : text ≠ "" := by
  rintro rfl
  obtain ⟨c, rest, same, _⟩ := h.begins
  cases same

theorem toList_indented (h : LineAt depth level text depth') :
    (Code.indented level text).toList = List.replicate (4 * level) ' ' ++ text.toList := by
  simp [Code.indented, h.ne_empty, Code.indentation]

theorem indented_ne_empty (h : LineAt depth level text depth') : Code.indented level text ≠ "" := by
  simp [Code.indented, h.ne_empty]

/-- A line is a single one with its blanks in front, too. -/
theorem not_mem_indented (h : LineAt depth level text depth') :
    '\n' ∉ (Code.indented level text).toList := by
  rw [h.toList_indented, List.mem_append, List.mem_replicate]
  rintro (⟨_, blank⟩ | inside)
  · exact absurd blank (by decide)
  · exact h.single inside

/-- Blanks change neither what stands outside literals nor the depth. -/
theorem leads_indented (h : LineAt depth level text depth') :
    ∃ code, outside? (Code.indented level text).toList = some code ∧ Leads depth code depth' := by
  obtain ⟨code, read, leads⟩ := h.reads
  have blank : ∀ c, c ≠ ' ' → c ∉ List.replicate (4 * level) ' ' := by
    intro c other mem
    exact other (List.eq_of_mem_replicate mem)
  refine ⟨List.replicate (4 * level) ' ' ++ code, ?_, ?_⟩
  · rw [h.toList_indented, outside?_append (blank _ (by decide)), read, Option.map_some]
  · exact (leads_of_not_mem (blank _ (by decide)) (blank _ (by decide)) depth).append leads

/-- The blanks in front of a line are those of its level, and no more. -/
theorem blanksBefore_indented (h : LineAt depth level text depth') :
    blanksBefore (Code.indented level text).toList = 4 * level := by
  obtain ⟨c, rest, same, other, _⟩ := h.begins
  rw [h.toList_indented, blanksBefore, List.takeWhile_append_of_pos (by simp), same,
    List.takeWhile_cons_of_neg (by simpa using other)]
  simp

/-- The depth of a line is its level, with one more if it closes a block first. -/
theorem depth_eq (h : LineAt depth level text depth') :
    depth = level + if closesFirst (Code.indented level text).toList = true then 1 else 0 := by
  obtain ⟨c, rest, same, other, rfl⟩ := h.begins
  rw [h.toList_indented, closesFirst, List.dropWhile_append_of_pos (by simp), same,
    List.dropWhile_cons_of_neg (by simpa using other)]
  simp

end LineAt

/-- Lines lead from one depth to another. -/
inductive Reads : Nat → List String → Nat → Prop
  | nil (depth : Nat) : Reads depth [] depth
  | cons {depth level middle depth' : Nat} {text : String} {rest : List String}
      (first : LineAt depth level text middle) (later : Reads middle rest depth') :
      Reads depth (Code.indented level text :: rest) depth'

namespace Reads

variable {depth middle depth' : Nat} {front back lines : List String}

/-- Lines behind lines lead on from where the first ones led. -/
theorem append (h : Reads depth front middle) (h' : Reads middle back depth') :
    Reads depth (front ++ back) depth' := by
  induction h with
  | nil => exact h'
  | cons first _ ih => exact .cons first (ih h')

/-- Lines may stand deeper. -/
theorem deeper (h : Reads depth lines depth') (more : Nat) :
    Reads (depth + more) (lines.map (Code.indented more)) (depth' + more) := by
  induction h with
  | nil depth => exact .nil (depth + more)
  | cons first _ ih =>
    rw [List.map_cons, Code.indented_indented, Nat.add_comm more]
    exact .cons (first.deeper more) ih

/-- What stands outside the literals of lines leads where the lines do. -/
theorem leads (h : Reads depth lines depth') :
    Leads depth (codeOf (lines.map String.toList)) depth' := by
  induction h with
  | nil depth => exact leads_nil depth
  | cons first _ ih =>
    obtain ⟨code, read, leads⟩ := first.leads_indented
    rw [List.map_cons, codeOf, List.flatMap_cons, read]
    exact leads.append ih

/-- Every literal ends on its line. -/
theorem literals (h : Reads depth lines depth') :
    ∀ line ∈ lines.map String.toList, (outside? line).isSome = true := by
  induction h with
  | nil => exact fun _ mem => absurd mem List.not_mem_nil
  | cons first _ ih =>
    obtain ⟨code, read, _⟩ := first.leads_indented
    exact List.forall_mem_cons.mpr ⟨Option.isSome_iff_exists.mpr ⟨code, read⟩, ih⟩

/-- No line has a line break in it. -/
theorem single (h : Reads depth lines depth') : ∀ line ∈ lines, '\n' ∉ line.toList := by
  induction h with
  | nil => exact fun _ mem => absurd mem List.not_mem_nil
  | cons first _ ih => exact List.forall_mem_cons.mpr ⟨first.not_mem_indented, ih⟩

/-- No line is empty. -/
theorem written (h : Reads depth lines depth') : ∀ line ∈ lines, line ≠ "" := by
  induction h with
  | nil => exact fun _ mem => absurd mem List.not_mem_nil
  | cons first _ ih => exact List.forall_mem_cons.mpr ⟨first.indented_ne_empty, ih⟩

/-- A line is read at the depth to which those in front of it lead. -/
theorem lineAt {line : String} (h : Reads depth (front ++ line :: back) depth') :
    ∃ middle level text after, Reads depth front middle ∧ line = Code.indented level text ∧
      LineAt middle level text after := by
  induction front generalizing depth with
  | nil =>
    cases h with
    | cons first _ => exact ⟨_, _, _, _, .nil depth, rfl, first⟩
  | cons other rest ih =>
    cases h with
    | cons first later =>
      obtain ⟨middle, level, text, after, before, same, here⟩ := ih later
      exact ⟨middle, level, text, after, .cons first before, same, here⟩

/-- **Lines that lead back to the depth at which they began** are well laid out. -/
theorem wellLaid (h : Reads 0 lines 0) : WellLaid (lines.map String.toList) where
  literals := h.literals
  opened front begins := by simpa using h.leads.opened front begins
  closed := by simpa using h.leads.sum
  indented before line after same := by
    obtain ⟨front, rest, rfl, rfl, behind⟩ := List.map_eq_append_iff.mp same
    obtain ⟨own, back, rfl, rfl, rfl⟩ := List.map_eq_cons_iff.mp behind
    obtain ⟨middle, level, text, _, before, rfl, here⟩ := h.lineAt
    have sum := before.leads.sum
    have depth := here.depth_eq
    rw [here.blanksBefore_indented]
    by_cases closes : closesFirst (Code.indented level text).toList = true
    · rw [if_pos closes] at depth ⊢
      omega
    · rw [if_neg closes] at depth ⊢
      omega

end Reads

end Text

end RegisterMap
