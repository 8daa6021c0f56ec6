import RegisterMap.Model.Field
import RegisterMap.Reading.Member
import RegisterMap.Text.Digit

/-!
# Reading fields

A field gives its bits in one of three ways: an offset and a width, the positions of
the lowest and the highest bit, or both positions in one text, `[msb:lsb]`. If it
gives several, the first of these ways counts. A range has at least one bit.

A named value is a number, or a pattern of bits in which an `x` may be either digit.
The value that stands for all others is marked as such and has no number.
-/

namespace RegisterMap

open Text Xml

/-- The two positions in a text of the form `[msb:lsb]`, highest bit first. The
positions are decimal digits and nothing else. -/
def bitPositions? (text : List Char) : Option (Nat × Nat) :=
  match text with
  | '[' :: rest =>
    match rest.dropWhile isAsciiDigit with
    | ':' :: lower =>
      if lower.dropWhile isAsciiDigit = [']'] then do
        let msb ← ofDigits? 10 (rest.takeWhile isAsciiDigit)
        let lsb ← ofDigits? 10 (lower.takeWhile isAsciiDigit)
        return (msb, lsb)
      else none
    | _ => none
  | _ => none

namespace BitRange

/-- The range with an offset and a width. -/
def ofWidth (offset width : String) : Except Fault BitRange := do
  let lsb ← readNumber offset
  let bits ← readNumber width
  if bits = 0 then .error (.unexpected .positiveWidth width)
  else return { lsb, msb := lsb + bits - 1 }

/-- The range between two positions. -/
def ofEnds (msb lsb : Nat) : Except Fault BitRange :=
  if msb < lsb then .error (.unexpected .ascendingRange (rangeText msb lsb))
  else .ok { lsb, msb }

/-- The range that an element gives. -/
def ofElement (e : Element) : Except Fault BitRange :=
  match e.member? "bitOffset", e.member? "bitWidth" with
  | some offset, some width => ofWidth offset width
  | _, _ =>
    match e.member? "lsb", e.member? "msb" with
    | some lower, some upper => do
      let lsb ← readNumber lower
      let msb ← readNumber upper
      ofEnds msb lsb
    | _, _ =>
      match e.member? "bitRange" with
      | none => .error (.missing "field" "bitRange")
      | some text =>
        match bitPositions? text.toList with
        | none => .error (.unexpected .bitRange text)
        | some (msb, lsb) => ofEnds msb lsb

end BitRange

/-- Whether a character may stand in a pattern of bits. -/
def isPatternDigit (c : Char) : Bool := c = '0' || c = '1' || c = 'x' || c = 'X'

/-- The digits of a pattern of bits behind `#`, `0b` or `0B`. There is at least
one. -/
def patternDigits? (text : List Char) : Option (List Char) :=
  let digits? := match text with
    | '#' :: digits => some digits
    | '0' :: 'b' :: digits => some digits
    | '0' :: 'B' :: digits => some digits
    | _ => none
  digits?.filter fun digits => !digits.isEmpty && digits.all isPatternDigit

/-- The number whose binary digits are ones where a pattern has a character that
satisfies a condition. -/
def bitsWhere (isOne : Char → Bool) (digits : List Char) : Nat :=
  digits.foldl (fun read c => 2 * read + if isOne c then 1 else 0) 0

namespace EnumeratedValue

/-- The named value that an element describes. -/
def ofElement (e : Element) : Except Fault EnumeratedValue := do
  let name ← e.required "enumeratedValue" "name"
  let description := e.member? "description"
  match e.member? "isDefault" with
  | some text =>
    if text = "true" ∨ text = "false" then
      return { name, description, isDefault := text = "true" }
    else .error (.unexpected .truth text)
  | none =>
    let text ← e.required "enumeratedValue" "value"
    match patternDigits? text.toList with
    | some digits =>
      return { name, description
               value := some (bitsWhere (· = '1') digits)
               doNotCare := bitsWhere (fun c => c = 'x' || c = 'X') digits }
    | none =>
      let value ← readNumber text
      return { name, description, value := some value }

end EnumeratedValue

namespace EnumeratedValues

/-- The set of named values that an element describes. It has at least one value. -/
def ofElement (e : Element) : Except Fault EnumeratedValues := do
  let values ← (e.childrenTagged "enumeratedValue").mapM EnumeratedValue.ofElement
  if values.isEmpty then .error (.missing "enumeratedValues" "enumeratedValue")
  else
    let usage ← e.optional "usage" (readWord EnumUsage)
    return { values
             derivedFrom := e.attribute? "derivedFrom"
             name := e.member? "name"
             usage }

end EnumeratedValues

namespace Field

/-- The field that an element describes. -/
def ofElement (e : Element) : Except Fault Field := do
  let name ← e.required "field" "name"
  let bitRange ← BitRange.ofElement e
  let access ← e.optional "access" (readWord Access)
  let modifiedWriteValues ← e.optional "modifiedWriteValues" (readWord ModifiedWriteValues)
  let readAction ← e.optional "readAction" (readWord ReadAction)
  let enumeratedValues ←
    (e.childrenTagged "enumeratedValues").mapM EnumeratedValues.ofElement
  return { name, bitRange
           derivedFrom := e.attribute? "derivedFrom"
           description := e.member? "description"
           access, modifiedWriteValues, readAction, enumeratedValues }

end Field

end RegisterMap
