/-!
# Paths

A path is a list of steps from the current directory or from the root. Writing it
down leaves out empty steps and steps that stay where they are, so a path has one
written form: the steps with a slash between them, and a single dot if there are
none. Two slashes at the front, and not more, are a root of their own.
-/

namespace RegisterMap

/-- The parts of a text between slashes. -/
def segments : List Char → List (List Char)
  | [] => [[]]
  | c :: rest =>
    match segments rest with
    | [] => [[c]]
    | segment :: later =>
      if c = '/' then [] :: segment :: later else (c :: segment) :: later

/-- A path: where it begins, and its steps. -/
structure Path where
  /-- The slashes at the front: none for a path from the current directory. -/
  root : String
  steps : List String
  deriving DecidableEq, Repr

namespace Path

/-- The root of the path that a text writes. -/
def rootOf : List Char → String
  | '/' :: '/' :: '/' :: _ => "/"
  | '/' :: '/' :: _ => "//"
  | '/' :: _ => "/"
  | _ => ""

/-- The path that a text writes. -/
def ofString (text : String) : Path where
  root := rootOf text.toList
  steps :=
    ((segments text.toList).map String.ofList).filter fun step => step ≠ "" ∧ step ≠ "."

/-- A path as it is written. -/
def text (path : Path) : String :=
  if path.root = "" ∧ path.steps = [] then "."
  else path.root ++ "/".intercalate path.steps

end Path

end RegisterMap
