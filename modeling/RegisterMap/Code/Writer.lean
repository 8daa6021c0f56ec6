import RegisterMap.Code.Tree

/-!
# Writing code line by line

A writer holds the lines written so far and the depth at which the next one goes. A
block is opened and closed by two steps, and between them anything may be written;
leaving a level at depth zero changes nothing.
-/

namespace RegisterMap

/-- Lines of code, and the depth of the next one. -/
structure Writer where
  lines : Array String := #[]
  depth : Nat := 0

namespace Writer

/-- Writes a line at the current depth. -/
def line (w : Writer) (text : String) : Writer :=
  { w with lines := w.lines.push (Code.indented w.depth text) }

/-- Goes one level deeper. -/
def indent (w : Writer) : Writer := { w with depth := w.depth + 1 }

/-- Leaves a level, unless there is none. -/
def dedent (w : Writer) : Writer := { w with depth := w.depth - 1 }

/-- Begins a block. -/
def openBlock (w : Writer) (header : String) : Writer := (w.line (Code.opening header)).indent

/-- Ends a block. -/
def closeBlock (w : Writer) : Writer := w.dedent.line Code.closing

mutual

/-- Writes a tree. -/
def write (w : Writer) : Code → Writer
  | .line text => w.line text
  | .block header body => (writeAll (w.openBlock header) body).closeBlock

/-- Writes a sequence of trees. -/
def writeAll (w : Writer) : List Code → Writer
  | [] => w
  | code :: rest => writeAll (w.write code) rest

end

/-- What was written, as a text. -/
def text (w : Writer) : String := Code.joinLines w.lines.toList

end Writer

/-- A sequence of trees as a text. -/
def Code.text (code : List Code) : String := (({} : Writer).writeAll code).text

end RegisterMap
