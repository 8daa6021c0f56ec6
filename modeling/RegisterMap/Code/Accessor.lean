import RegisterMap.Code.Tree
import RegisterMap.Code.Word
import RegisterMap.Fault

/-!
# Bodies of field accessors

A getter answers the bits of a field as a number or, for a field of one bit, as a
truth value; a setter replaces them in the word and leaves all others alone. The
position of the field is bound to `lsb` in front of the body.

Each body is a value with a written form (`lines`) and a meaning (`eval`, `run`), so
that what is emitted and what is proved about it are two views of one thing.
-/

namespace RegisterMap

/-- A statement in the body of an accessor. -/
inductive Step
  /-- Binds the mask, with the type of the word. -/
  | bindMask (type : String) (w : Word)
  /-- Replaces the stored word. -/
  | assign (w : Word)
  /-- Adds bits to the stored word. -/
  | addBits (w : Word)
  /-- Keeps only some bits of the stored word. -/
  | keepBits (w : Word)
  /-- Does one thing if the argument is true, and another if it is false. -/
  | choose (yes no : Step)
  deriving DecidableEq, Repr

namespace Step

/-- A statement as it is written, the lines inside an alternative indented. -/
def lines : Step → List String
  | .bindMask type w => ["let mask: " ++ type ++ " = " ++ w.render ++ ";"]
  | .assign w => ["self.0 = " ++ w.render ++ ";"]
  | .addBits w => ["self.0 |= " ++ w.render ++ ";"]
  | .keepBits w => ["self.0 &= " ++ w.render ++ ";"]
  | .choose yes no =>
    Code.opening "if value" :: (yes.lines.map (Code.indented 1)
      ++ (Code.opening (Code.closing ++ " else") :: (no.lines.map (Code.indented 1)
      ++ [Code.closing])))

/-- What a statement does. -/
def run {bits : Nat} (context : WordContext bits) : Step → WordContext bits
  | .bindMask _ w => { context with mask := w.eval context }
  | .assign w => { context with stored := w.eval context }
  | .addBits w => { context with stored := context.stored ||| w.eval context }
  | .keepBits w => { context with stored := context.stored &&& w.eval context }
  | .choose yes no => if context.flag then yes.run context else no.run context

/-- What statements do one after the other. -/
def runAll {bits : Nat} (context : WordContext bits) (steps : List Step) : WordContext bits :=
  steps.foldl run context

end Step

/-- What a getter answers. -/
inductive Answer (bits : Nat)
  | number (word : BitVec bits)
  | flag (value : Bool)
  deriving DecidableEq

/-- How a getter arrives at its answer. -/
inductive Result
  /-- The answer is a word. -/
  | number (w : Word)
  /-- The answer is whether a word has any bit. -/
  | hasBit (w : Word)
  deriving DecidableEq, Repr

namespace Result

/-- An answer as it is written. -/
def render : Result → String
  | .number w => w.render
  | .hasBit w => w.operand w.render ++ " != 0"

/-- What an answer is. -/
def eval {bits : Nat} (context : WordContext bits) : Result → Answer bits
  | .number w => .number (w.eval context)
  | .hasBit w => .flag (w.eval context != BitVec.zero bits)

end Result

/-- The body of a getter. -/
structure Getter where
  steps : List Step
  result : Result
  deriving DecidableEq, Repr

namespace Getter

/-- The body of a getter as it is written. -/
def lines (body : Getter) : List String :=
  body.steps.flatMap Step.lines ++ [body.result.render]

/-- What a getter answers for a word and a position. -/
def eval {bits : Nat} (body : Getter) (stored : BitVec bits) (lsb : Nat) : Answer bits :=
  let zero := BitVec.zero bits
  body.result.eval
    (Step.runAll { stored, value := zero, flag := false, mask := zero, lsb } body.steps)

end Getter

/-- The body of a setter. -/
structure Setter where
  steps : List Step
  deriving DecidableEq, Repr

namespace Setter

/-- The body of a setter as it is written. -/
def lines (body : Setter) : List String := body.steps.flatMap Step.lines

/-- The word that a setter of numbers leaves. -/
def setNumber {bits : Nat} (body : Setter) (stored value : BitVec bits) (lsb : Nat) :
    BitVec bits :=
  let zero := BitVec.zero bits
  (Step.runAll { stored, value, flag := false, mask := zero, lsb } body.steps).stored

/-- The word that a setter of truth values leaves. -/
def setFlag {bits : Nat} (body : Setter) (stored : BitVec bits) (flag : Bool) (lsb : Nat) :
    BitVec bits :=
  let zero := BitVec.zero bits
  (Step.runAll { stored, value := zero, flag, mask := zero, lsb } body.steps).stored

end Setter

/-- The number whose lowest bits are set, as many as the width says. -/
def fieldMask (width : Int) : Except Fault Nat :=
  if width < 1 then .error (.emptyWidth width) else .ok (Nat.pow 2 width.toNat - 1)

/-- The body of a getter for a field of a width. A truth value is read from one bit,
whatever the width. -/
def Getter.ofField (width : Int) (type : String) (asFlag : Bool) : Except Fault Getter :=
  if asFlag then .ok { steps := [], result := .hasBit (.both (.down .stored) .one) }
  else
    (fieldMask width).map fun mask =>
      { steps := [.bindMask type (.literal mask)]
        result := .number (.both (.down .stored) .mask) }

/-- The body of a setter for a field of a width. A truth value is written to one bit,
whatever the width. -/
def Setter.ofField (width : Int) (type : String) (asFlag : Bool) : Except Fault Setter :=
  if asFlag then
    .ok { steps := [.choose (.addBits (.up .one)) (.keepBits (.complement (.up .one)))] }
  else
    (fieldMask width).map fun mask =>
      { steps :=
          [.bindMask type (.up (.literal mask)),
           .assign
            (.either (.both .stored (.complement .mask)) (.both (.up .value) .mask))] }

end RegisterMap
