import RegisterMap.Xml.Attribute
import RegisterMap.Xml.Element
import RegisterMap.Xml.Namespace

/-!
# From markup to elements

Elements that have begun and not ended are kept on a stack. A tag that ends an
element must name the innermost of them as its first tag did, and the element becomes
a child of the one around it. Text counts for an element as long as it has no child.
-/

namespace RegisterMap.Xml

/-- An element that has begun and not ended. -/
structure Frame where
  /-- Its name as it is written. -/
  name : QualifiedName
  /-- Its name with its namespace. -/
  tag : String
  attributes : List (String × String)
  /-- The namespaces known inside it. -/
  scope : Scope
  /-- Its text so far, the last character first. -/
  text : List Char := []
  /-- Its children so far, the last one first. -/
  children : List Element := []

namespace Frame

/-- Begins an element in a scope. -/
def begin? (d : Declarations) (scope : Scope) (name : QualifiedName)
    (attributes : RawAttributes) : Option Frame := do
  let attributes ← d.attributes? name attributes
  let scope ← scope.enter? attributes
  let tag ← scope.elementName? name
  let attributes ← scope.attributes? attributes
  return { name, tag, attributes, scope }

/-- The element, with what has been read of it. -/
def element (f : Frame) : Element where
  tag := f.tag
  attributes := f.attributes
  text := String.ofList f.text.reverse
  children := f.children.reverse

/-- Adds text, unless there is a child already. -/
def addText (f : Frame) (chars : List Char) : Frame :=
  if f.children.isEmpty then { f with text := chars.reverseAux f.text } else f

/-- Adds a child. -/
def addChild (f : Frame) (child : Element) : Frame :=
  { f with children := child :: f.children }

end Frame

/-- The rest of an element that has begun, with the elements around it that have not
ended: the outermost element, and the parts behind it. -/
def finishElement? (d : Declarations) (current : Frame) (around : List Frame) :
    List Markup → Option (Element × List Markup)
  | [] => none
  | .text chars :: rest => finishElement? d (current.addText chars) around rest
  | .written chars :: rest => finishElement? d (current.addText chars) around rest
  | .silent :: rest => finishElement? d current around rest
  | .entity _ :: _ => none
  | .start name attributes isEmpty :: rest => do
    let inner ← Frame.begin? d current.scope name attributes
    if isEmpty then finishElement? d (current.addChild inner.element) around rest
    else finishElement? d inner (current :: around) rest
  | .finish name :: rest =>
    if name ≠ current.name then none
    else
      match around with
      | [] => some (current.element, rest)
      | outer :: further => finishElement? d (outer.addChild current.element) further rest

/-- Whether parts may stand behind the root element. -/
def isTrailer (parts : List Markup) : Bool :=
  parts.all fun
    | .text chars => chars.all isSpace
    | .silent => true
    | _ => false

/-- Whether a document refers to no entity behind its last tag, where an entity could
only stand for nothing. -/
def endsPlainly (parts : List Markup) : Bool :=
  !hasEntities (parts.reverse.takeWhile (!·.isTag))

/-- The element that parts of a document make, from its first tag on. -/
def elementOf? (d : Declarations) (parts : List Markup) : Option Element := do
  if !endsPlainly parts then none
  else
    match ← expandContent d parts with
    | .start name attributes isEmpty :: rest =>
      let root ← Frame.begin? d Scope.initial name attributes
      let (element, rest) ←
        if isEmpty then some (root.element, rest) else finishElement? d root [] rest
      if isTrailer rest then some element else none
    | _ => none

end RegisterMap.Xml
