/-!
# Code as a tree

Emitted code is a sequence of lines and blocks. A block is a header, behind which a
brace opens, a body one level deeper, and a closing brace. `Code.linesAt` says how a
tree is laid out at a depth; it is what the writer in `RegisterMap.Code.Writer`
arrives at step by step.
-/

namespace RegisterMap

/-- A line of code, or a block with a header and a body. -/
inductive Code where
  | line (text : String)
  | block (header : String) (body : List Code)

namespace Code

/-- The blanks in front of a line at a depth: four for each level. -/
def indentation (depth : Nat) : String := String.ofList (List.replicate (4 * depth) ' ')

/-- A text as a line at a depth. An empty line has no blanks. -/
def indented (depth : Nat) (text : String) : String :=
  if text = "" then "" else indentation depth ++ text

/-- The line that begins a block. -/
def opening (header : String) : String := header ++ " \x7b"

/-- The line that ends a block. -/
def closing : String := "\x7d"

mutual

/-- The lines of a tree at a depth. -/
def linesAt (depth : Nat) : Code → List String
  | .line text => [indented depth text]
  | .block header body =>
    indented depth (opening header) :: (linesOfAllAt (depth + 1) body
      ++ [indented depth closing])

/-- The lines of a sequence of trees at a depth. -/
def linesOfAllAt (depth : Nat) : List Code → List String
  | [] => []
  | code :: rest => code.linesAt depth ++ linesOfAllAt depth rest

end

/-- Lines as a text: each ends with a line break. -/
def joinLines (lines : List String) : String :=
  String.join (lines.map (· ++ "\n"))

end Code

end RegisterMap
