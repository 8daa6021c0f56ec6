/-!
# Elements

A document is a tree of elements. Of the text of an element only what stands in front
of its first child is kept, because a description holds its values in elements
without children.
-/

namespace RegisterMap.Xml

/-- An element: its tag, its attributes, the text in front of its first child, and its
children. -/
structure Element where
  tag : String
  attributes : List (String × String)
  text : String
  children : List Element

namespace Element

/-- The value of an attribute. -/
def attribute? (e : Element) (name : String) : Option String :=
  e.attributes.lookup name

/-- The first child with a tag. -/
def child? (e : Element) (tag : String) : Option Element :=
  e.children.find? (·.tag = tag)

/-- The children with a tag, in order. -/
def childrenTagged (e : Element) (tag : String) : List Element :=
  e.children.filter (·.tag = tag)

end Element

end RegisterMap.Xml
