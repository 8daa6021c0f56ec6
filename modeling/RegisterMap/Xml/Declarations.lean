import RegisterMap.Xml.Scan

/-!
# Declarations

What a document declares in front of its root element and what has an effect on the
rest of it: texts with names, and attributes of elements. The first declaration of a
name counts.
-/

namespace RegisterMap.Xml

/-- What is declared of an attribute of an element. -/
structure AttributeRule where
  element : QualifiedName
  name : QualifiedName
  /-- Whether the values are words, so that blanks only separate. -/
  isWords : Bool
  /-- The value of the attribute on elements that do not give it. -/
  preset : Option String
  deriving DecidableEq, Repr

/-- What a document declares in front of its root element. -/
structure Declarations where
  /-- The entities; one whose text is somewhere else has none. -/
  entities : List (String × Option (List Char)) := []
  /-- The attributes of elements. -/
  rules : List AttributeRule := []
  /-- Whether there may be declarations that were not seen, so that an unknown
  entity in the value of an attribute is passed over. -/
  isPartial : Bool := false

namespace Declarations

/-- Adds an entity, unless there is one of its name. -/
def addEntity (d : Declarations) (name : String) (text : Option (List Char)) : Declarations :=
  if (d.entities.lookup name).isSome then d
  else { d with entities := d.entities ++ [(name, text)] }

/-- What is declared of an attribute of an element. -/
def rule? (d : Declarations) (element name : QualifiedName) : Option AttributeRule :=
  d.rules.find? fun r => r.element = element && r.name = name

/-- Adds what is declared of an attribute, unless there is something already. -/
def addRule (d : Declarations) (rule : AttributeRule) : Declarations :=
  if (d.rule? rule.element rule.name).isSome then d
  else { d with rules := d.rules ++ [rule] }

/-- Whether the values of an attribute of an element are words. -/
def holdsWords (d : Declarations) (element name : QualifiedName) : Bool :=
  (d.rule? element name).any (·.isWords)

/-- The attributes that an element has without giving them, in the order of their
declarations. -/
def presets (d : Declarations) (element : QualifiedName) (given : List QualifiedName) :
    List (QualifiedName × String) :=
  d.rules.filterMap fun r =>
    if r.element = element && !given.contains r.name then
      r.preset.map (r.name, ·)
    else none

end Declarations

end RegisterMap.Xml
