/-!
# Blank characters

A register description is written by hand and wrapped by tools, so the blank
characters around a value and between the words of a sentence carry no meaning.
This module fixes which characters are blank, how a value is trimmed and what
the words of a text are.

A character is blank when Unicode gives it the property of white space, or when
it is one of the four separators U+001C to U+001F.
-/

namespace RegisterMap.Text

/-- The blank characters, as inclusive ranges of code points. -/
def blankRanges : List (Nat × Nat) :=
  [(0x09, 0x0D), (0x1C, 0x20), (0x85, 0x85), (0xA0, 0xA0), (0x1680, 0x1680),
   (0x2000, 0x200A), (0x2028, 0x2029), (0x202F, 0x202F), (0x205F, 0x205F),
   (0x3000, 0x3000)]

/-- Whether a code point lies in one of some inclusive ranges. -/
def inRanges (ranges : List (Nat × Nat)) (code : Nat) : Bool :=
  ranges.any fun range => range.1 ≤ code && code ≤ range.2

/-- Whether a character is blank. -/
def isBlank (c : Char) : Bool := inRanges blankRanges c.toNat

/-- A text without the blank characters at its two ends. -/
def trimChars (text : List Char) : List Char :=
  ((text.dropWhile isBlank).reverse.dropWhile isBlank).reverse

/-- `trimChars` on strings. -/
def trim (text : String) : String := String.ofList (trimChars text.toList)

/-- Whether a text is at the end of a word: it is empty or begins with a
blank character. -/
def atWordEnd : List Char → Bool
  | [] => true
  | c :: _ => isBlank c

/-- The words of a text: its longest runs of characters that are not blank, in
order. -/
def words : List Char → List (List Char)
  | [] => []
  | c :: rest =>
    if isBlank c then words rest
    else if atWordEnd rest then [c] :: words rest
    else
      match words rest with
      | [] => [[c]]
      | word :: later => (c :: word) :: later

end RegisterMap.Text
