import RegisterMap.Text.Numeral
import RegisterMap.Xml.Character

/-!
# The small parts of a document

Readers of the parts from which markup is put together: names, references to
characters and entities, values between quotes, comments and instructions. A reader
takes its part from the front of a text and answers it with the rest; it answers
nothing if the part is not there or not well formed.
-/

namespace RegisterMap.Xml

open Text

/-- What one step of a repetition answers. -/
inductive Round (σ α : Type)
  /-- The repetition goes on. -/
  | again (state : σ) (rest : List Char)
  /-- The repetition has its answer. -/
  | done (answer : α) (rest : List Char)

/-- Repeats a step for at most as many rounds as a list is long, and one more. -/
def repeatAlong (step : σ → List Char → Option (Round σ α)) (rounds : List Char)
    (state : σ) (text : List Char) : Option (α × List Char) :=
  match step state text with
  | none => none
  | some (.done answer rest) => some (answer, rest)
  | some (.again state rest) =>
    match rounds with
    | [] => none
    | _ :: rounds => repeatAlong step rounds state rest

/-- Repeats a step that takes at least one character whenever it goes on. As many
rounds as there are characters, and one more, are then enough, so the text counts its
own rounds. -/
def repeatOver (step : σ → List Char → Option (Round σ α)) (state : σ) (text : List Char) :
    Option (α × List Char) :=
  repeatAlong step text state text

/-- A text without the separators at its front. -/
def skipSpace (text : List Char) : List Char := text.dropWhile isSpace

/-- A text without the separators at its front, of which there must be one. -/
def skipSomeSpace? : List Char → Option (List Char)
  | c :: rest => if isSpace c then some (skipSpace rest) else none
  | [] => none

/-- A text without the characters of a word, with which it must begin. -/
def skipWord? (word : String) (text : List Char) : Option (List Char) :=
  if word.toList.isPrefixOf text then some (text.drop word.length) else none

/-- A name without a colon. -/
def takeName? (a : Alphabet) : List Char → Option (String × List Char)
  | c :: rest =>
    if a.startsName c then
      some (String.ofList (c :: rest.takeWhile a.continuesName), rest.dropWhile a.continuesName)
    else none
  | [] => none

/-- A name with what stands in front of its colon, if it has one. -/
structure QualifiedName where
  qualifier : Option String
  name : String
  deriving DecidableEq, Repr

/-- A name that may have one colon in it. -/
def takeQualifiedName? (a : Alphabet) (text : List Char) :
    Option (QualifiedName × List Char) := do
  let (first, rest) ← takeName? a text
  match rest with
  | ':' :: rest =>
    let (second, rest) ← takeName? a rest
    return ({ qualifier := some first, name := second }, rest)
  | _ => return ({ qualifier := none, name := first }, rest)

/-- A piece of a value or of a text. -/
inductive Piece
  /-- A character. -/
  | char (c : Char)
  /-- A reference to an entity. -/
  | entity (name : String)
  deriving DecidableEq, Repr

/-- The character that a number refers to. -/
def charOfNumber? (n : Nat) : Option Char :=
  if n.isValidChar then (some (Char.ofNat n)).filter isAllowed else none

/-- The character that the entities known without declaration stand for. -/
def predefinedEntity? : String → Option Char
  | "lt" => some '<'
  | "gt" => some '>'
  | "amp" => some '&'
  | "apos" => some '\x27'
  | "quot" => some '\x22'
  | _ => none

/-- What stands in front of a word, and what stands behind it. `front` holds what has
been passed, the last character first. -/
def takeUntilFrom? (word : List Char) (front : List Char) :
    List Char → Option (List Char × List Char)
  | [] => none
  | c :: rest =>
    if word.isPrefixOf (c :: rest) then some (front.reverse, (c :: rest).drop word.length)
    else takeUntilFrom? word (c :: front) rest

/-- What stands in front of a word, and what stands behind it. -/
def takeUntil? (word : String) (text : List Char) : Option (List Char × List Char) :=
  takeUntilFrom? word.toList [] text

/-- The reference to a character by a number of a base, with its semicolon. -/
def takeNumberReference? (base : Nat) (text : List Char) : Option (Piece × List Char) := do
  let (digits, rest) ← takeUntil? ";" text
  let n ← ofDigits? base digits
  let c ← charOfNumber? n
  return (.char c, rest)

/-- What stands behind an ampersand, with the semicolon that ends it. -/
def takeReference? (a : Alphabet) : List Char → Option (Piece × List Char)
  | '#' :: 'x' :: rest => takeNumberReference? 16 rest
  | '#' :: rest => takeNumberReference? 10 rest
  | text => do
    let (name, rest) ← takeName? a text
    let rest ← skipWord? ";" rest
    match predefinedEntity? name with
    | some c => return (.char c, rest)
    | none => return (.entity name, rest)

/-- One piece of the value of an attribute. Separators count as blanks. -/
def takeValuePiece? (a : Alphabet) : List Char → Option (Piece × List Char)
  | [] => none
  | '<' :: _ => none
  | '&' :: rest => takeReference? a rest
  | c :: rest => some (.char (if isSpace c then ' ' else c), rest)

/-- The value of an attribute between its quotes. -/
def takeValue? (a : Alphabet) : List Char → Option (List Piece × List Char)
  | [] => none
  | quote :: text =>
    if quote = '\x22' || quote = '\x27' then
      repeatOver
        (fun pieces text =>
          match text with
          | [] => none
          | c :: rest =>
            if c = quote then some (.done pieces.reverse rest)
            else (takeValuePiece? a text).map fun (piece, rest) => .again (piece :: pieces) rest)
        [] text
    else none

/-- The pieces of a whole text in the place of a value. -/
def valuePieces? (a : Alphabet) (text : List Char) : Option (List Piece) :=
  (repeatOver
    (fun pieces text =>
      match text with
      | [] => some (.done pieces.reverse [])
      | _ => (takeValuePiece? a text).map fun (piece, rest) => .again (piece :: pieces) rest)
    [] text).map (·.1)

/-- The rest behind a comment whose opening has been read. Two hyphens end it. -/
def skipComment? (text : List Char) : Option (List Char) := do
  let (_, rest) ← takeUntil? "--" text
  skipWord? ">" rest

/-- The rest behind a processing instruction whose opening has been read. Its name
must not be that of the declaration of a document. -/
def skipInstruction? (a : Alphabet) (text : List Char) : Option (List Char) := do
  let (target, rest) ← takeName? a text
  if target.toList.map Char.toLower = "xml".toList then none
  else
    match skipWord? "?>" rest with
    | some rest => return rest
    | none =>
      let rest ← skipSomeSpace? rest
      let (_, rest) ← takeUntil? "?>" rest
      return rest

/-- A literal between quotes, taken as it is. -/
def takeLiteral? : List Char → Option (List Char × List Char)
  | [] => none
  | quote :: text =>
    if quote = '\x22' || quote = '\x27' then takeUntil? (String.singleton quote) text else none

/-- A text with the two other forms of line break turned into line feeds. `front`
holds what has been passed, the last character first. -/
def normalizeBreaksFrom (front : List Char) : List Char → List Char
  | [] => front.reverse
  | '\r' :: '\n' :: rest => normalizeBreaksFrom ('\n' :: front) rest
  | '\r' :: rest => normalizeBreaksFrom ('\n' :: front) rest
  | c :: rest => normalizeBreaksFrom (c :: front) rest

/-- A text with the two other forms of line break turned into line feeds. -/
def normalizeBreaks (text : List Char) : List Char := normalizeBreaksFrom [] text

end RegisterMap.Xml
