import RegisterMap.Xml.Entity

/-!
# Attributes of elements

The attributes of an element are those that its tag gives and those that are declared
for it with a value and that the tag leaves out.
-/

namespace RegisterMap.Xml

/-- The words of a value with one blank between two of them. Only blanks separate: a
tab in a value was asked for. -/
def joinWords (value : String) : String :=
  " ".intercalate ((value.splitOn " ").filter (!·.isEmpty))

namespace Declarations

/-- The value of an attribute of an element, from the pieces that it is written in. -/
def value? (d : Declarations) (isWords : Bool) (pieces : List Piece) : Option String :=
  (expandValue d pieces).map fun value => if isWords then joinWords value else value

/-- The attributes of an element from those that its tag gives. -/
def attributes? (d : Declarations) (element : QualifiedName) (raw : RawAttributes) :
    Option (List (QualifiedName × String)) := do
  let given ← raw.mapM fun (name, pieces) => do
    return (name, ← d.value? (d.holdsWords element name) pieces)
  return given ++ d.presets element (given.map (·.1))

end Declarations

end RegisterMap.Xml
