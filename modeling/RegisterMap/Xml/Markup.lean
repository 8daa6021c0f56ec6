import RegisterMap.Xml.Scan

/-!
# Markup

The content of a document is a sequence of texts, references, tags and things that
leave no trace. `Markup.all?` takes a text apart in this way; what the parts mean
together is for `RegisterMap.Xml.Tree` to say.
-/

namespace RegisterMap.Xml

/-- The attributes of a tag, with values not yet put together. -/
abbrev RawAttributes := List (QualifiedName × List Piece)

/-- A part of the content of a document. -/
inductive Markup
  /-- Text as it stands. -/
  | text (chars : List Char)
  /-- Text that was written by other means: a reference or a literal section. -/
  | written (chars : List Char)
  /-- A reference to an entity. -/
  | entity (name : String)
  /-- The tag that begins an element, and whether it ends it too. -/
  | start (name : QualifiedName) (attributes : RawAttributes) (isEmpty : Bool)
  /-- The tag that ends an element. -/
  | finish (name : QualifiedName)
  /-- A comment or an instruction. -/
  | silent

namespace Markup

/-- Whether a part is a tag. -/
def isTag : Markup → Bool
  | .start _ _ _ | .finish _ => true
  | _ => false

/-- The end of a tag that begins an element: whether it ends the element too. -/
def takeTagEnd? (text : List Char) : Option (Bool × List Char) :=
  match text with
  | '>' :: rest => some (false, rest)
  | '/' :: '>' :: rest => some (true, rest)
  | _ => none

/-- An attribute: its name, an equals sign, and its value. -/
def takeAttribute? (a : Alphabet) (text : List Char) :
    Option ((QualifiedName × List Piece) × List Char) := do
  let (name, rest) ← takeQualifiedName? a text
  let rest ← skipWord? "=" (skipSpace rest)
  let (value, rest) ← takeValue? a (skipSpace rest)
  return ((name, value), rest)

/-- The attributes of a tag, each behind a separator, and the end of the tag. -/
def takeAttributes? (a : Alphabet) (text : List Char) :
    Option ((RawAttributes × Bool) × List Char) :=
  repeatOver
    (fun attributes text =>
      match takeTagEnd? (skipSpace text) with
      | some (isEmpty, rest) => some (.done (attributes.reverse, isEmpty) rest)
      | none => do
        let rest ← skipSomeSpace? text
        let (first, rest) ← takeAttribute? a rest
        return .again (first :: attributes) rest)
    [] text

/-- A tag that begins an element, whose opening bracket has been read. -/
def takeStart? (a : Alphabet) (text : List Char) : Option (Markup × List Char) := do
  let (name, rest) ← takeQualifiedName? a text
  let ((attributes, isEmpty), rest) ← takeAttributes? a rest
  return (.start name attributes isEmpty, rest)

/-- A tag that ends an element, whose opening has been read. -/
def takeFinish? (a : Alphabet) (text : List Char) : Option (Markup × List Char) := do
  let (name, rest) ← takeQualifiedName? a text
  let rest ← skipWord? ">" (skipSpace rest)
  return (.finish name, rest)

/-- Whether the end of a literal section stands in a text. -/
def hasSectionEnd : List Char → Bool
  | ']' :: ']' :: '>' :: _ => true
  | _ :: rest => hasSectionEnd rest
  | [] => false

/-- Text up to the next markup. The end of a literal section must not stand in it. -/
def takeText? (text : List Char) : Option (Markup × List Char) :=
  let isText (c : Char) : Bool := c ≠ '<' && c ≠ '&'
  let chars := text.takeWhile isText
  if hasSectionEnd chars then none else some (.text chars, text.dropWhile isText)

/-- The part at the front of a text that is not empty. -/
def take? (a : Alphabet) : List Char → Option (Markup × List Char)
  | '<' :: '/' :: rest => takeFinish? a rest
  | '<' :: '!' :: '-' :: '-' :: rest => (skipComment? rest).map (.silent, ·)
  | '<' :: '!' :: rest => do
    let rest ← skipWord? "[CDATA[" rest
    let (chars, rest) ← takeUntil? "]]>" rest
    return (.written chars, rest)
  | '<' :: '?' :: rest => (skipInstruction? a rest).map (.silent, ·)
  | '<' :: rest => takeStart? a rest
  | '&' :: rest => do
    let (piece, rest) ← takeReference? a rest
    match piece with
    | .char c => return (.written [c], rest)
    | .entity name => return (.entity name, rest)
  | chars => takeText? chars

/-- The parts of a whole text. -/
def all? (a : Alphabet) (text : List Char) : Option (List Markup) :=
  (repeatOver
    (fun parts text =>
      match text with
      | [] => some (.done parts.reverse [])
      | _ => (take? a text).map fun (part, rest) => .again (part :: parts) rest)
    [] text).map (·.1)

/-- Whether every element that begins in a sequence of parts ends in it and no other
one does, with some elements open in front. -/
def isBalancedFrom : Nat → List Markup → Bool
  | depth, [] => depth = 0
  | depth, .start _ _ isEmpty :: rest =>
    isBalancedFrom (if isEmpty then depth else depth + 1) rest
  | 0, .finish _ :: _ => false
  | depth + 1, .finish _ :: rest => isBalancedFrom depth rest
  | depth, _ :: rest => isBalancedFrom depth rest

end Markup

end RegisterMap.Xml
