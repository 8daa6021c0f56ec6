import RegisterMap.Text.Numeral

/-!
# Stems of names

Names of like things differ in a number at their end (`CH0`, `CH1`) or only begin
alike (`GPIOA`, `GPIOB`). `splitName` takes the number off a name, `commonStart`
finds the longest beginning that several names share.
-/

namespace RegisterMap.Text

/-- A text without the ASCII digits at its end. -/
def dropEndDigits (name : List Char) : List Char :=
  (name.reverse.dropWhile isAsciiDigit).reverse

/-- The ASCII digits at the end of a text. -/
def endDigits (name : List Char) : List Char :=
  (name.reverse.takeWhile isAsciiDigit).reverse

/-- A name without the digits at its end. -/
def stem (name : String) : String := String.ofList (dropEndDigits name.toList)

/-- The number that the digits at the end of a name write, if there are any. -/
def endNumber? (name : String) : Option Nat := ofDigits? 10 (endDigits name.toList)

/-- A name as its stem and its number: `CH12` is `CH` and `12`, `CTRL` has no
number, and `12` has an empty stem. -/
def splitName (name : String) : String × Option Nat := (stem name, endNumber? name)

/-- Whether the last character of a name is a digit, of any script. -/
def endsInDigit (name : String) : Bool :=
  match name.toList.getLast? with
  | some c => isDigit c
  | none => false

/-- The longest text with which two texts both begin. -/
def meet : List Char → List Char → List Char
  | a :: as, b :: bs => if a = b then a :: meet as bs else []
  | _, _ => []

/-- The longest text with which all of some names begin; nothing if there is no
name. -/
def commonStart : List String → String
  | [] => ""
  | name :: others =>
    String.ofList (others.foldl (fun start other => meet start other.toList) name.toList)

end RegisterMap.Text
