import RegisterMap.Xml.Scan

/-!
# The header of a document

A document may begin with a declaration of its version, its encoding and whether it
stands alone.
-/

namespace RegisterMap.Xml

/-- What the declaration at the very front of a document says. -/
structure Header where
  encoding : Option String := none
  isStandalone : Bool := false
  deriving DecidableEq, Repr

namespace Header

/-- Whether a value in the declaration may hold a character. -/
def isValueChar (c : Char) : Bool := c.isAlphanum || c = '.' || c = '-' || c = '_'

/-- An entry of the declaration: its name and its value. -/
def takeEntry? (text : List Char) : Option ((String × String) × List Char) := do
  let isNamePart (c : Char) : Bool := c ≠ '=' && !isSpace c
  let name := text.takeWhile isNamePart
  let rest ← skipWord? "=" (skipSpace (text.dropWhile isNamePart))
  let (value, rest) ← takeLiteral? (skipSpace rest)
  if name.isEmpty || !value.all isValueChar then none
  else return ((String.ofList name, String.ofList value), rest)

/-- The entries of the declaration, each behind a separator. -/
def entries? (text : List Char) : Option (List (String × String)) :=
  (repeatOver
    (fun entries text =>
      match skipSpace text with
      | [] => some (.done entries.reverse [])
      | _ => do
        let rest ← skipSomeSpace? text
        let (entry, rest) ← takeEntry? rest
        return .again (entry :: entries) rest)
    [] text).map (·.1)

/-- The entry that says whether there are declarations elsewhere. -/
def ofStandalone? (encoding : Option String) : List (String × String) → Option Header
  | [] => some { encoding }
  | [("standalone", "yes")] => some { encoding, isStandalone := true }
  | [("standalone", "no")] => some { encoding }
  | _ => none

/-- The declaration that entries make: a version, then an encoding, then whether the
document stands alone, the last two if wanted. -/
def ofEntries? : List (String × String) → Option Header
  | ("version", _) :: ("encoding", encoding) :: rest =>
    match encoding.toList with
    | c :: _ => if c.isAlpha then ofStandalone? (some encoding) rest else none
    | [] => none
  | ("version", _) :: rest => ofStandalone? none rest
  | _ => none

/-- The declaration at the front of a document and what stands behind it; a document
without one says nothing. -/
def take? (text : List Char) : Option (Header × List Char) :=
  match skipWord? "<?xml" text with
  | none => some ({}, text)
  | some rest =>
    match rest with
    | c :: _ =>
      if isSpace c || c = '?' then do
        let (content, rest) ← takeUntil? "?>" rest
        let header ← ofEntries? (← entries? content)
        return (header, rest)
      else some ({}, text)
    | [] => none

end Header

end RegisterMap.Xml
