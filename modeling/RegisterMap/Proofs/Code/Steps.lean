import RegisterMap.Proofs.Code.Lines
import Mathlib.Data.List.Infix
import Mathlib.Order.Bounds.Defs

/-!
# Writing in steps

A writer is asked for a line, for one level more or less, for the beginning of a block and for its
end. A tree is written by the steps of a walk through it (`Writer.run_ofTrees`), and what comes out
is laid out by a rule for each kind of code (`Code.LaidOut`).

Other steps than those of a tree may leave a level where there is none, which changes nothing. So
the depth is not just the sum of what the steps do to it. `Writer.isGreatest_depth` counts in
integers: the depth is the largest of that sum and of where the last steps alone would lead from
depth zero, however many of them are taken. It may be none of them, and so the depth is never
negative. Whatever the steps are, each puts its line behind those that are there
(`Writer.lines_begin`).
-/

namespace RegisterMap

/-! ## Laid out -/

namespace Code

/-- How a sequence of trees is laid out at a depth. In front of a line stand four blanks for each
level, but an empty line is left empty. A block is a line that ends by opening a brace, then its
body one level deeper, then the closing brace, at the level of the first line. -/
inductive LaidOut : Nat → List Code → List String → Prop
  | nil {depth : Nat} : LaidOut depth [] []
  | empty {depth : Nat} {rest : List Code} {lines : List String}
      (later : LaidOut depth rest lines) : LaidOut depth (.line "" :: rest) ("" :: lines)
  | line {depth : Nat} {text : String} {rest : List Code} {lines : List String}
      (written : text ≠ "") (later : LaidOut depth rest lines) :
      LaidOut depth (.line text :: rest)
        ((String.ofList (List.replicate (4 * depth) ' ') ++ text) :: lines)
  | block {depth : Nat} {header : String} {body rest : List Code} {inside lines : List String}
      (inner : LaidOut (depth + 1) body inside) (later : LaidOut depth rest lines) :
      LaidOut depth (.block header body :: rest)
        ((String.ofList (List.replicate (4 * depth) ' ') ++ header ++ " \x7b") ::
          (inside ++ (String.ofList (List.replicate (4 * depth) ' ') ++ "\x7d") :: lines))

/-- A line that is not empty has four blanks in front for each level. -/
theorem indented_of_ne {text : String} (written : text ≠ "") (depth : Nat) :
    indented depth text = String.ofList (List.replicate (4 * depth) ' ') ++ text :=
  if_neg written

theorem indented_opening (depth : Nat) (header : String) :
    indented depth (opening header) =
      String.ofList (List.replicate (4 * depth) ' ') ++ header ++ " \x7b" := by
  have written : opening header ≠ "" := by simp [opening, String.append_eq_empty_iff]
  rw [indented_of_ne written, opening, String.append_assoc]

theorem indented_closing (depth : Nat) :
    indented depth closing = String.ofList (List.replicate (4 * depth) ' ') ++ "\x7d" :=
  indented_of_ne (by decide) depth

/-- The lines of some trees are laid out. -/
theorem laidOut_linesOfAllAt : ∀ (depth : Nat) (code : List Code),
    LaidOut depth code (linesOfAllAt depth code)
  | _, [] => .nil
  | depth, .line text :: rest => by
    have later := laidOut_linesOfAllAt depth rest
    by_cases empty : text = ""
    · subst empty
      exact .empty later
    · rw [linesOfAllAt, linesAt, indented_of_ne empty]
      exact .line empty later
  | depth, .block header body :: rest => by
    have inner := laidOut_linesOfAllAt (depth + 1) body
    have later := laidOut_linesOfAllAt depth rest
    rw [linesOfAllAt, linesAt, indented_opening, indented_closing, List.cons_append,
      List.append_assoc, List.singleton_append]
    exact .block inner later

/-- Trees are laid out in one way. -/
theorem laidOut_iff {depth : Nat} {code : List Code} {lines : List String} :
    LaidOut depth code lines ↔ lines = linesOfAllAt depth code := by
  constructor
  · intro h
    induction h with
    | nil => rfl
    | empty _ ih =>
      rw [ih]
      rfl
    | line written _ ih =>
      rw [linesOfAllAt, linesAt, indented_of_ne written, ih, List.singleton_append]
    | block _ _ ihInner ihLater =>
      rw [linesOfAllAt, linesAt, indented_opening, indented_closing, ihInner, ihLater,
        List.cons_append, List.append_assoc, List.singleton_append]
  · rintro rfl
    exact laidOut_linesOfAllAt depth code

end Code

/-! ## Steps -/

namespace Writer

/-- What a writer is asked for. -/
inductive Step where
  | line (text : String)
  | indent
  | dedent
  | openBlock (header : String)
  | closeBlock

/-- Takes a step. -/
def step (w : Writer) : Step → Writer
  | .line text => w.line text
  | .indent => w.indent
  | .dedent => w.dedent
  | .openBlock header => w.openBlock header
  | .closeBlock => w.closeBlock

/-- Takes some steps. -/
def run (w : Writer) (steps : List Step) : Writer := steps.foldl step w

theorem run_cons (w : Writer) (next : Step) (rest : List Step) :
    w.run (next :: rest) = (w.step next).run rest := rfl

/-- Steps behind steps go on from where the first ones end. -/
theorem run_append (w : Writer) (first later : List Step) :
    w.run (first ++ later) = (w.run first).run later :=
  List.foldl_append

mutual

/-- The steps of a walk through a tree. -/
def Step.ofTree : Code → List Step
  | .line text => [.line text]
  | .block header body => .openBlock header :: (Step.ofTrees body ++ [.closeBlock])

/-- The steps of a walk through some trees. -/
def Step.ofTrees : List Code → List Step
  | [] => []
  | code :: rest => Step.ofTree code ++ Step.ofTrees rest

end

mutual

/-- The steps of a walk through a tree write the tree. -/
theorem run_ofTree : ∀ (code : Code) (w : Writer), w.run (Step.ofTree code) = w.write code
  | .line _, _ => rfl
  | .block header body, w => by
    have inside := run_ofTrees body (w.openBlock header)
    rw [Step.ofTree, ← List.singleton_append, run_append, run_append]
    exact congrArg closeBlock inside

/-- **Trees are written step by step.** -/
theorem run_ofTrees : ∀ (code : List Code) (w : Writer),
    w.run (Step.ofTrees code) = w.writeAll code
  | [], _ => rfl
  | code :: rest, w => by
    rw [Step.ofTrees, run_append, run_ofTree code, run_ofTrees rest, writeAll]

end

/-! ## Depth -/

/-- How many levels deeper a step leads. -/
def Step.levels : Step → Int
  | .line _ => 0
  | .indent | .openBlock _ => 1
  | .dedent | .closeBlock => -1

/-- How many levels deeper some steps lead, if a level can always be left. -/
def levels : List Step → Int
  | [] => 0
  | first :: rest => first.levels + levels rest

/-- Where all of some steps would lead from a depth, and the last of them from depth zero. -/
def depths (depth : Int) (steps : List Step) : Set Int :=
  {depth + levels steps} ∪ {n : Int | ∃ last, last <:+ steps ∧ levels last = n}

/-- At depth zero there is no level to leave. -/
theorem depth_step (w : Writer) (next : Step) :
    ((w.step next).depth : Int) = max 0 (w.depth + next.levels) := by
  cases next <;>
    simp only [step, line, indent, dedent, openBlock, closeBlock, Step.levels] <;>
    omega

/-- **The depth after some steps** is the largest of where they would lead. -/
theorem isGreatest_depth (w : Writer) (steps : List Step) :
    IsGreatest (depths w.depth steps) ((w.run steps).depth : Int) := by
  induction steps generalizing w with
  | nil =>
    refine ⟨.inl (Int.add_zero _).symm, ?_⟩
    rintro n (rfl | ⟨last, ends, rfl⟩)
    · exact Int.le_of_eq (Int.add_zero _)
    · rw [List.suffix_nil.mp ends]
      exact Int.natCast_nonneg _
  | cons next rest ih =>
    rw [run_cons]
    -- the sums of the rest are those of a writer that has taken one step
    obtain ⟨reached, bound⟩ := ih (w.step next)
    have restSum := bound (.inl rfl)
    rw [depth_step] at reached restSum
    refine ⟨?_, ?_⟩
    · rcases reached with reached | ⟨last, ends, reached⟩
      · -- at depth zero only what follows counts
        rcases Int.le_total (w.depth + next.levels) 0 with outside | inside
        · rw [Int.max_eq_left outside, Int.zero_add] at reached
          exact .inr ⟨rest, List.suffix_cons next rest, reached.symm⟩
        · rw [Int.max_eq_right inside, Int.add_assoc, ← levels] at reached
          exact .inl reached
      · exact .inr ⟨last, ends.trans (List.suffix_cons next rest), reached⟩
    · rintro n (rfl | ⟨last, ends, rfl⟩)
      · rw [levels]
        omega
      · rcases List.suffix_cons_iff.mp ends with rfl | later
        · rw [levels]
          omega
        · exact bound (.inr ⟨last, later, rfl⟩)

/-! ## Lines -/

/-- A step leaves the lines that are there and puts its own behind them. -/
theorem lines_begin_step (w : Writer) (next : Step) :
    w.lines.toList <+: (w.step next).lines.toList := by
  cases next <;> simp [step, line, indent, dedent, openBlock, closeBlock]

/-- What is written stays, and further lines come behind it. -/
theorem lines_begin (w : Writer) (steps : List Step) :
    w.lines.toList <+: (w.run steps).lines.toList := by
  induction steps generalizing w with
  | nil => exact List.prefix_rfl
  | cons next rest ih => exact (w.lines_begin_step next).trans (ih (w.step next))

/-- **A writer lays out trees, and never loses a line.** Whatever was written before and however
deep, some trees are written by the steps of a walk through them. These put the lines in which the
trees are laid out at that depth behind those that are there, and lead back to the depth. Any other
steps keep all lines as well, at any time, and the depth is the largest integer of where all of them
would lead from the depth before and the last of them, or none, from depth zero. -/
theorem layOut_trees (w : Writer) :
    (∀ code : List Code, ∃ lines : List String,
      (∀ shown, Code.LaidOut w.depth code shown ↔ shown = lines) ∧
      w.run (Step.ofTrees code) = w.writeAll code ∧
      w.writeAll code = { lines := w.lines ++ lines.toArray, depth := w.depth }) ∧
    ∀ steps later : List Step,
      IsGreatest (depths w.depth steps) ((w.run steps).depth : Int) ∧
      (w.run steps).lines.toList <+: (w.run (steps ++ later)).lines.toList := by
  refine ⟨fun code => ?_, fun steps later => ⟨w.isGreatest_depth steps, ?_⟩⟩
  · exact ⟨_, fun _ => Code.laidOut_iff, run_ofTrees code w, writeAll_eq code w⟩
  · rw [run_append]
    exact lines_begin (w.run steps) later

end Writer

end RegisterMap
