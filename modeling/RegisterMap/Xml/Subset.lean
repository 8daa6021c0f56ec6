import RegisterMap.Xml.Attribute
import RegisterMap.Xml.ContentModel
import RegisterMap.Xml.Growth

/-!
# The declarations of a document

Between brackets a document may declare entities, attributes, elements and notations.
Entities and attributes are kept; of the others nothing is wanted, but they have to be
well formed. A reference to declarations that are somewhere else is passed over. The
declarations behind it might have been overruled by them, so they are not kept, unless
the document says that it stands alone.
-/

namespace RegisterMap.Xml

/-- The text of an entity from the literal that declares it: references to
characters are replaced, references to entities stay. -/
def entityText? (a : Alphabet) (text : List Char) : Option (List Char) :=
  (repeatOver
    (fun (front : List Char) text =>
      match text with
      | [] => some (.done front.reverse [])
      | '%' :: _ => none
      | '&' :: rest =>
        match rest with
        | '#' :: _ =>
          match takeReference? a rest with
          | some (.char c, rest) => some (.again (c :: front) rest)
          | _ => none
        | _ => do
          let (name, rest) ← takeName? a rest
          let rest ← skipWord? ";" rest
          return .again (("&" ++ name ++ ";").toList.reverseAux front) rest
      | c :: rest => some (.again (c :: front) rest))
    [] text).map (·.1)

/-- What a document declares of one name. -/
inductive Declaration
  /-- A text, or nothing where it is somewhere else, for references in content. -/
  | entity (name : String) (literal : Option (List Char))
  /-- A text, or nothing where it is somewhere else, for references in declarations. -/
  | parameter (literal : Option (List Char))
  /-- Attributes of an element: their names, whether they hold words, and the literals
  of their values on elements that do not give them. -/
  | attributes (element : QualifiedName)
      (rules : List (QualifiedName × Bool × Option (List Char)))
  /-- Something that has no effect. -/
  | idle
  deriving DecidableEq, Repr

namespace Declaration

/-- The declaration of an entity. -/
def ofEntity? : List Token → Option Declaration
  | [.plain name, .literal text] => some (.entity name (some text))
  | [.percent, .plain _, .literal text] => some (.parameter (some text))
  | .percent :: .plain _ :: place =>
    if Token.skipPlace? place = some [] then some (.parameter none) else none
  | .plain name :: place =>
    match Token.skipPlace? place with
    | some [] => some (.entity name none)
    | some [.plain "NDATA", .plain _] => some (.entity name none)
    | _ => none
  | _ => none

/-- What stands behind the alternatives of a group that has been opened. -/
def skipAlternatives? (isAlternative : Token → Bool) : List Token → Option (List Token)
  | first :: .bar :: rest =>
    if isAlternative first then skipAlternatives? isAlternative rest else none
  | first :: .closeGroup none :: rest => if isAlternative first then some rest else none
  | _ => none

/-- Whether a token is a name without a colon. -/
def isPlain : Token → Bool
  | .plain _ => true
  | _ => false

/-- Whether a token is one of the words that an attribute may be limited to. -/
def isLimit : Token → Bool
  | .named _ | .word => true
  | _ => false

/-- The kinds of attributes that hold words. -/
def wordKinds : List String :=
  ["ID", "IDREF", "IDREFS", "ENTITY", "ENTITIES", "NMTOKEN", "NMTOKENS"]

/-- The kind of an attribute: whether it holds words. -/
def takeKind? : List Token → Option (Bool × List Token)
  | .plain "CDATA" :: rest => some (false, rest)
  | .plain "NOTATION" :: .openGroup :: rest => (skipAlternatives? isPlain rest).map (true, ·)
  | .plain kind :: rest => if wordKinds.contains kind then some (true, rest) else none
  | .openGroup :: rest => (skipAlternatives? isLimit rest).map (true, ·)
  | _ => none

/-- The value of an attribute on elements that do not give it, if there is one. -/
def takePreset? : List Token → Option (Option (List Char) × List Token)
  | .keyword "IMPLIED" :: rest => some (none, rest)
  | .keyword "REQUIRED" :: rest => some (none, rest)
  | .keyword "FIXED" :: .literal value :: rest => some (some value, rest)
  | .literal value :: rest => some (some value, rest)
  | _ => none

/-- The attributes that tokens declare, of which there are at most as many as the given
number. -/
def attributeRules? : Nat → List Token →
    Option (List (QualifiedName × Bool × Option (List Char)))
  | _, [] => some []
  | rounds + 1, .named name :: rest => do
    let (isWords, rest) ← takeKind? rest
    let (preset, rest) ← takePreset? rest
    let others ← attributeRules? rounds rest
    return (name, isWords, preset) :: others
  | _, _ => none

/-- The declaration that the word of its opening and its tokens make. -/
def ofTokens? : String → List Token → Option Declaration
  | "ENTITY", tokens => ofEntity? tokens
  | "ATTLIST", .named element :: rest =>
    (attributeRules? rest.length rest).map (.attributes element)
  | "ELEMENT", .named _ :: rest => if Token.isContentModel rest then some .idle else none
  | "NOTATION", .plain _ :: rest => if Token.isNotationBody rest then some .idle else none
  | _, _ => none

/-- The words that open declarations. -/
def openings : List String := ["ENTITY", "ATTLIST", "ELEMENT", "NOTATION"]

/-- The declaration whose first two signs have been read. -/
def take? (a : Alphabet) (text : List Char) : Option (Declaration × List Char) := do
  let (opening, rest) ← openings.findSome? fun word =>
    (skipWord? word text).map (word, ·)
  let (tokens, rest) ← Token.all? a (← skipSomeSpace? rest)
  let rest ← skipWord? ">" rest
  return (← ofTokens? opening tokens, rest)

end Declaration

namespace Declarations

/-- Adds an attribute of an element; its value is put together from what is declared
so far. -/
def declareAttribute? (a : Alphabet) (element : QualifiedName) (d : Declarations) :
    QualifiedName × Bool × Option (List Char) → Option Declarations
  | (name, isWords, none) =>
    some (d.addRule { element, name, isWords, preset := none })
  | (name, isWords, some literal) => do
    let pieces ← valuePieces? a literal
    if d.growsTooMuch (byteCount literal) (referredInPieces pieces) then none
    else
      let value ← d.value? isWords pieces
      return d.addRule { element, name, isWords, preset := some value }

/-- Adds what a declaration declares. -/
def declare? (a : Alphabet) (d : Declarations) : Declaration → Option Declarations
  | .entity name none => some (d.addEntity name none)
  | .entity name (some literal) => do
    return d.addEntity name (some (← entityText? a literal))
  | .parameter none => some d
  | .parameter (some literal) => (entityText? a literal).map fun _ => d
  | .attributes element rules => rules.foldlM (declareAttribute? a element) d
  | .idle => some d

/-- The declarations between brackets, from the opening one on. -/
def takeSubset? (a : Alphabet) (isStandalone : Bool) (d : Declarations)
    (text : List Char) : Option (Declarations × List Char) :=
  repeatOver
    (fun ((d, keeps) : Declarations × Bool) text =>
      match text with
      | ']' :: rest => some (.done d rest)
      | '%' :: rest => do
        let (_, rest) ← takeName? a rest
        let rest ← skipWord? ";" rest
        return .again ({ d with isPartial := !isStandalone }, isStandalone) rest
      | '<' :: '!' :: '-' :: '-' :: rest => (skipComment? rest).map (.again (d, keeps))
      | '<' :: '?' :: rest => (skipInstruction? a rest).map (.again (d, keeps))
      | '<' :: '!' :: rest => do
        let (declaration, rest) ← Declaration.take? a rest
        let d ← if keeps then d.declare? a declaration else some d
        return .again (d, keeps) rest
      | c :: rest => if isSpace c then some (.again (d, keeps) rest) else none
      | [] => none)
    (d, true) text

end Declarations

end RegisterMap.Xml
