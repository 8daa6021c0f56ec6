import RegisterMap.Text.Numeral

/-!
# Operations on register words

The body of a field accessor computes with the word of its register. A `Word` is such
a computation: `Word.render` writes it down, and `Word.eval` says what it computes
when words have a given number of bits. Shifting up drops the bits that leave the
word, and complement is taken within it.

Shifts are always by the position of the field, which is called `lsb` in the emitted
code and is a number there, not a word.
-/

namespace RegisterMap

open Text

/-- An operation on words. -/
inductive Word
  /-- The word that the register type wraps. -/
  | stored
  /-- The argument of a setter. -/
  | value
  /-- The mask that the body has bound. -/
  | mask
  /-- The number one. -/
  | one
  /-- A number, written in hexadecimal digits. -/
  | literal (n : Nat)
  /-- The complement of a word. -/
  | complement (w : Word)
  /-- The bits that both words have. -/
  | both (a b : Word)
  /-- The bits that one of two words has. -/
  | either (a b : Word)
  /-- A word shifted up by the position of the field. -/
  | up (w : Word)
  /-- A word shifted down by the position of the field. -/
  | down (w : Word)
  deriving DecidableEq, Repr

namespace Word

/-- Whether a word is written with an operator between two parts. -/
def isCompound : Word → Bool
  | .both _ _ | .either _ _ | .up _ | .down _ => true
  | _ => false

/-- A word written as an operand, given how it is written alone: a compound word is
put in parentheses. -/
def operand (w : Word) (written : String) : String :=
  if w.isCompound then "(" ++ written ++ ")" else written

/-- A word as it is written. -/
def render : Word → String
  | .stored => "self.0"
  | .value => "value"
  | .mask => "mask"
  | .one => "1"
  | .literal n => hex n
  | .complement w => "!" ++ operand w w.render
  | .both a b => operand a a.render ++ " & " ++ operand b b.render
  | .either a b => operand a a.render ++ " | " ++ operand b b.render
  | .up w => operand w w.render ++ " << lsb"
  | .down w => operand w w.render ++ " >> lsb"

end Word

/-- What the parts of a word stand for, for words of a given number of bits. -/
structure WordContext (bits : Nat) where
  /-- The word that the register type wraps. -/
  stored : BitVec bits
  /-- The argument of a setter of numbers. -/
  value : BitVec bits
  /-- The argument of a setter of truth values. -/
  flag : Bool
  /-- The mask that the body has bound. -/
  mask : BitVec bits
  /-- The position of the field. -/
  lsb : Nat

/-- What a word computes. -/
def Word.eval {bits : Nat} (context : WordContext bits) : Word → BitVec bits
  | .stored => context.stored
  | .value => context.value
  | .mask => context.mask
  | .one => BitVec.ofNat bits 1
  | .literal n => BitVec.ofNat bits n
  | .complement w => ~~~ w.eval context
  | .both a b => a.eval context &&& b.eval context
  | .either a b => a.eval context ||| b.eval context
  | .up w => w.eval context <<< context.lsb
  | .down w => w.eval context >>> context.lsb

end RegisterMap
