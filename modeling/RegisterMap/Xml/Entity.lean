import RegisterMap.Xml.Declarations
import RegisterMap.Xml.Markup

/-!
# Entities

A document may declare names for texts of its own and refer to them in its content
and in the values of attributes. A reference is replaced by what the text of the
entity is when it is read in its place. An entity must not refer to itself, by any
way, and markup that begins in an entity ends in it.

Entities whose text is somewhere else are known by name only and cannot be
referred to. The text of an entity has characters in place of the references to
characters in its declaration, so a carriage return in it was asked for and is no
line break, and its names are made of the narrow alphabet.
-/

namespace RegisterMap.Xml

/-- The characters that a value stands for, its references replaced, inside some
entities, `opened`. Entities nested deeper than the given number of levels are refused.
`front` holds what has been put together, the last character first. -/
def expandValueWithin (d : Declarations) :
    Nat → List String → List Char → List Piece → Option (List Char)
  | _, _, front, [] => some front
  | levels, opened, front, .char c :: rest => expandValueWithin d levels opened (c :: front) rest
  | 0, _, _, .entity _ :: _ => none
  | levels + 1, opened, front, .entity name :: rest =>
    match d.entities.lookup name with
    | none => if d.isPartial then expandValueWithin d (levels + 1) opened front rest else none
    | some none => none
    | some (some text) =>
      if opened.contains name then none
      else do
        let pieces ← valuePieces? .narrow text
        let front ← expandValueWithin d levels (name :: opened) front pieces
        expandValueWithin d (levels + 1) opened front rest

/-- The characters that a value stands for. Every level of nesting is inside one more
entity, so their number bounds the levels. -/
def expandValue (d : Declarations) (pieces : List Piece) : Option String :=
  (expandValueWithin d (d.entities.length + 1) [] [] pieces).map fun front =>
    String.ofList front.reverse

/-- The content that parts of a document stand for, their references replaced, inside
some entities, `opened`. Entities nested deeper than the given number of levels are
refused. `front` holds what has been put together, the last part first. -/
def expandContentWithin (d : Declarations) :
    Nat → List String → List Markup → List Markup → Option (List Markup)
  | _, _, front, [] => some front
  | 0, _, _, .entity _ :: _ => none
  | levels + 1, opened, front, .entity name :: rest =>
    if opened.contains name then none
    else do
      let text ← (d.entities.lookup name).join
      let parts ← Markup.all? .narrow text
      if !Markup.isBalancedFrom 0 parts then none
      else
        let front ← expandContentWithin d levels (name :: opened) front parts
        expandContentWithin d (levels + 1) opened front rest
  | levels, opened, front, part :: rest =>
    expandContentWithin d levels opened (part :: front) rest

/-- Whether parts of a document refer to entities. -/
def hasEntities (parts : List Markup) : Bool :=
  parts.any fun
    | .entity _ => true
    | _ => false

/-- The content that parts of a document stand for. -/
def expandContent (d : Declarations) (parts : List Markup) : Option (List Markup) :=
  if hasEntities parts then
    (expandContentWithin d (d.entities.length + 1) [] [] parts).map List.reverse
  else some parts

end RegisterMap.Xml
