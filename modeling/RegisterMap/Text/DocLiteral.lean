import RegisterMap.Text.Blank

/-!
# Texts inside a string literal

A description becomes the inside of a string literal in the emitted code. Its
words are joined by single spaces, and a backslash is put in front of every
backslash and every quote. `unescape` is the other direction: what a reader of the
literal gets back from its inside.
-/

namespace RegisterMap.Text

/-- A text with a backslash in front of every backslash and quote. -/
def escape : List Char → List Char
  | [] => []
  | c :: rest =>
    if c = '\x5c' ∨ c = '\x22' then '\x5c' :: c :: escape rest else c :: escape rest

/-- The text that the inside of a literal stands for. There is none if a quote
stands without a backslash, or a backslash stands in front of anything but a
backslash or a quote. -/
def unescape : List Char → Option (List Char)
  | [] => some []
  | [c] => if c = '\x5c' ∨ c = '\x22' then none else some [c]
  | c :: d :: rest =>
    if c = '\x5c' then
      if d = '\x5c' ∨ d = '\x22' then (unescape rest).map (d :: ·) else none
    else if c = '\x22' then none
    else (unescape (d :: rest)).map (c :: ·)

/-- The words of a text with one space between each two. -/
def singleSpaced (text : List Char) : List Char := List.intercalate [' '] (words text)

/-- A text as the inside of a string literal. -/
def docText (text : String) : String := String.ofList (escape (singleSpaced text.toList))

end RegisterMap.Text
