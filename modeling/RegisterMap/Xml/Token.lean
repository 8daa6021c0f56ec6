import RegisterMap.Xml.Scan

/-!
# Tokens of declarations

Between its opening and its end a declaration is a sequence of names, literals and
signs. Separators stand between them as one likes, except that a name or a literal has
to be followed by a separator or by one of the signs that cannot belong to it.
-/

namespace RegisterMap.Xml

/-- A token of a declaration. -/
inductive Token
  /-- A name, with at most one colon in it. -/
  | named (name : QualifiedName)
  /-- A name with a sign behind it that says how often it may occur. -/
  | counted (name : QualifiedName)
  /-- Characters of names that do not make a name. -/
  | word
  /-- A word behind a number sign. -/
  | keyword (name : String)
  /-- The characters between two quotes. -/
  | literal (chars : List Char)
  /-- A percent sign by itself. -/
  | percent
  | openGroup
  /-- The end of a group, with the sign behind it if there is one. -/
  | closeGroup (sign : Option Char)
  | bar
  | comma
  deriving DecidableEq, Repr

namespace Token

/-- A name without a colon. -/
@[match_pattern] abbrev plain (name : String) : Token := .named { qualifier := none, name }

/-- Whether a character says how often something may occur. -/
def isCountSign (c : Char) : Bool := c = '?' || c = '*' || c = '+'

/-- A text, if it begins with a separator or one of some signs. -/
def endingBefore? (signs : List Char) (text : List Char) : Option (List Char) :=
  match text with
  | c :: _ => if isSpace c || signs.contains c then some text else none
  | [] => none

/-- The name that a run of its characters and of colons is. The part behind the colon
may begin with any character of names. -/
def nameOf? (a : Alphabet) (run : List Char) : Option QualifiedName :=
  let first := run.takeWhile (· ≠ ':')
  if !(first.head?.any a.startsName) then none
  else
    match run.dropWhile (· ≠ ':') with
    | [] => some { qualifier := none, name := String.ofList first }
    | _ :: second =>
      if second.isEmpty || second.contains ':' then none
      else some { qualifier := some (String.ofList first), name := String.ofList second }

/-- A name or a word, with the sign behind it. -/
def takeNameOrWord? (a : Alphabet) (text : List Char) : Option (Token × List Char) :=
  let isPart (c : Char) : Bool := a.continuesName c || c = ':'
  let run := text.takeWhile isPart
  let rest := text.dropWhile isPart
  if run.isEmpty then none
  else
    match nameOf? a run, rest with
    | some name, c :: further =>
      if isCountSign c then some (counted name, further)
      else (endingBefore? [')', '>', ',', '|', '[', '%'] rest).map (named name, ·)
    | none, _ => (endingBefore? [')', '>', ',', '|', '[', '%'] rest).map (word, ·)
    | some _, [] => none

/-- The end of a group, whose bracket has been read. -/
def takeGroupEnd? : List Char → Option (Token × List Char)
  | c :: rest =>
    if isCountSign c then some (closeGroup (some c), rest)
    else (endingBefore? [')', '>', ',', '|'] (c :: rest)).map (closeGroup none, ·)
  | [] => none

/-- The token at the front of a text. -/
def take? (a : Alphabet) : List Char → Option (Token × List Char)
  | '(' :: rest => some (openGroup, rest)
  | ')' :: rest => takeGroupEnd? rest
  | '|' :: rest => some (bar, rest)
  | ',' :: rest => some (comma, rest)
  | '%' :: rest => (endingBefore? ['%'] rest).map (percent, ·)
  | '#' :: rest => do
    let (name, rest) ← takeName? a rest
    let rest ← endingBefore? [')', '>', '|', '%'] rest
    return (keyword name, rest)
  | text =>
    match takeLiteral? text with
    | some (chars, rest) => (endingBefore? ['>', '[', '%'] rest).map (literal chars, ·)
    | none => takeNameOrWord? a text

/-- The tokens up to the sign that ends a declaration or opens the declarations in it,
with that sign in front of the rest. -/
def all? (a : Alphabet) (text : List Char) : Option (List Token × List Char) :=
  repeatOver
    (fun tokens text =>
      match skipSpace text with
      | '>' :: rest => some (.done tokens.reverse ('>' :: rest))
      | '[' :: rest => some (.done tokens.reverse ('[' :: rest))
      | text => (take? a text).map fun (token, rest) => .again (token :: tokens) rest)
    [] text

/-- Whether a public name may hold a character. -/
def isPublicChar (c : Char) : Bool :=
  c.isAlphanum || " \r\n-'()+,./:=?;!*#@$_%".toList.contains c

/-- What stands behind the place of something outside the document. -/
def skipPlace? : List Token → Option (List Token)
  | .plain "SYSTEM" :: .literal _ :: rest => some rest
  | .plain "PUBLIC" :: .literal name :: .literal _ :: rest =>
    if name.all isPublicChar then some rest else none
  | _ => none

/-- Whether the tokens behind the name of a kind of outside data say where it is
described. A public name is enough for that. -/
def isNotationBody : List Token → Bool
  | [.plain "PUBLIC", .literal name] => name.all isPublicChar
  | tokens => skipPlace? tokens = some []

end Token

end RegisterMap.Xml
