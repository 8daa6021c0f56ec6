import RegisterMap.Xml.Header
import RegisterMap.Xml.Subset

/-!
# In front of the root element

Behind its header a document may declare its type, with declarations of its own
between brackets and others somewhere else.
-/

namespace RegisterMap.Xml

namespace Declarations

/-- Whether the tokens of a document type say that there are declarations somewhere
else. -/
def pointsOutside? : List Token → Option Bool
  | [.named _] => some false
  | .named _ :: place => if Token.skipPlace? place = some [] then some true else none
  | _ => none

/-- The declaration of the document type, whose opening has been read. -/
def takeDocumentType? (a : Alphabet) (isStandalone : Bool) (text : List Char) :
    Option (Declarations × List Char) := do
  let (tokens, rest) ← Token.all? a (← skipSomeSpace? text)
  let d : Declarations := { isPartial := (← pointsOutside? tokens) && !isStandalone }
  let (d, rest) ←
    match rest with
    | '[' :: rest => takeSubset? a isStandalone d rest
    | _ => some (d, rest)
  let rest ← skipWord? ">" (skipSpace rest)
  return (d, rest)

end Declarations

/-- What stands between the header and the root element: comments, instructions and
at most one declaration of the document type. -/
def takeProlog? (a : Alphabet) (header : Header) (text : List Char) :
    Option (Declarations × List Char) :=
  repeatOver
    (fun (d : Option Declarations) text =>
      match text with
      | '<' :: '!' :: '-' :: '-' :: rest => (skipComment? rest).map (.again d)
      | '<' :: '?' :: rest => (skipInstruction? a rest).map (.again d)
      | '<' :: '!' :: rest =>
        if d.isSome then none
        else do
          let rest ← skipWord? "DOCTYPE" rest
          let (declared, rest) ← Declarations.takeDocumentType? a header.isStandalone rest
          return .again (some declared) rest
      | '<' :: _ => some (.done (d.getD {}) text)
      | c :: rest => if isSpace c then some (.again d rest) else none
      | [] => none)
    none text

end RegisterMap.Xml
