import RegisterMap.Fault
import RegisterMap.Model.Vocabulary
import RegisterMap.Xml.Element

/-!
# Members of an element

A description writes a member of a thing as a child element whose tag is the name of
the member. The first such child counts, and its text without the blank characters at
the two ends is the value. A value is read as what its place asks for: a text, a
number, a word of a vocabulary or a truth value.

A member that is there but empty is an empty text, not a missing member.
-/

namespace RegisterMap

open Text Xml

/-- The number that a text writes as a scaled numeral, blank characters around it
apart. -/
def readNumber (text : String) : Except Fault Nat :=
  match scaled? (trimChars text.toList) with
  | some n => .ok n
  | none => .error (.unexpected .number text)

/-- The value that a text stands for in a vocabulary. -/
def readWord (α : Type) [Vocabulary α] (text : String) : Except Fault α :=
  match Vocabulary.read? α text with
  | some value => .ok value
  | none => .error (.unexpected (.oneOf (Vocabulary.words α)) text)

/-- The truth value that a text stands for. -/
def readTruth (text : String) : Except Fault Bool :=
  if text = "true" ∨ text = "1" then .ok true
  else if text = "false" ∨ text = "0" then .ok false
  else .error (.unexpected .truth text)

namespace Xml.Element

/-- The value of a member, if the element has it. -/
def member? (e : Element) (member : String) : Option String :=
  (e.child? member).map fun child => trim child.text

/-- The value of a member that must be there. The element is called by the thing that
it describes, whatever its tag. -/
def required (e : Element) (thing member : String) : Except Fault String :=
  match e.member? member with
  | some text => .ok text
  | none => .error (.missing thing member)

/-- The value of a member that may be missing, read as what its place asks for. -/
def optional (e : Element) (member : String) (read : String → Except Fault α) :
    Except Fault (Option α) :=
  match e.member? member with
  | some text => (read text).map some
  | none => .ok none

end Xml.Element

end RegisterMap
