import RegisterMap.Text.Digit

/-!
# Numerals

Reading and writing natural numbers in a positional notation.

A *scaled numeral* is the form in which a description writes its numbers: an
optional plus sign, then hexadecimal digits behind `0x` or `0X`, binary digits
behind `#`, or decimal digits. Nothing else is accepted: no sign other than plus,
no separators, no scale letters and no digits outside ASCII.

Numbers of any length are read and written. A runtime may be configured to refuse decimal numbers
of more than some thousand digits; that limit is left out.
-/

namespace RegisterMap.Text

/-- The value of an ASCII digit or letter, as in any base up to thirty-six. -/
def digitValue? (c : Char) : Option Nat :=
  if '0' ≤ c ∧ c ≤ '9' then some (c.toNat - 48)
  else if 'a' ≤ c ∧ c ≤ 'z' then some (c.toNat - 87)
  else if 'A' ≤ c ∧ c ≤ 'Z' then some (c.toNat - 55)
  else none

/-- The value of a digit, if it is one of the base. -/
def digitIn? (base : Nat) (c : Char) : Option Nat :=
  (digitValue? c).filter (· < base)

/-- The number that digits of a base write behind a number already read. -/
def digitsFrom? (base : Nat) : Nat → List Char → Option Nat
  | read, [] => some read
  | read, c :: rest =>
    match digitIn? base c with
    | some digit => digitsFrom? base (read * base + digit) rest
    | none => none

/-- The number that one or more digits of a base write. -/
def ofDigits? (base : Nat) : List Char → Option Nat
  | [] => none
  | digits => digitsFrom? base 0 digits

/-- The number of a scaled numeral without its plus sign. -/
def unsigned? : List Char → Option Nat
  | '0' :: 'x' :: digits => ofDigits? 16 digits
  | '0' :: 'X' :: digits => ofDigits? 16 digits
  | '#' :: digits => ofDigits? 2 digits
  | digits => ofDigits? 10 digits

/-- The number of a scaled numeral. -/
def scaled? : List Char → Option Nat
  | '+' :: numeral => unsigned? numeral
  | numeral => unsigned? numeral

/-- A number in decimal digits. -/
def decimal (n : Nat) : String := String.ofList (Nat.toDigits 10 n)

/-- An integer in decimal digits, behind a minus sign if it is negative. -/
def signedDecimal : Int → String
  | .ofNat n => decimal n
  | .negSucc n => "-" ++ decimal (n + 1)

/-- A number in lower-case hexadecimal digits. -/
def hexDigits (n : Nat) : String := String.ofList (Nat.toDigits 16 n)

/-- A number in lower-case hexadecimal digits behind `0x`. -/
def hex (n : Nat) : String := "0x" ++ hexDigits n

/-- A number in at least eight upper-case hexadecimal digits behind `0x`, as
addresses are shown in the journal. -/
def hexAddress (n : Nat) : String :=
  let digits := (Nat.toDigits 16 n).map Char.toUpper
  "0x" ++ String.ofList (List.replicate (8 - digits.length) '0' ++ digits)

end RegisterMap.Text
