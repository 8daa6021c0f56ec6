import RegisterMap.Text.Numeral

/-!
# What can be wrong with a description

Reading, resolving and emitting a description fail for a cause, and a cause is a
value: which member is missing, which word is not one of a vocabulary, which
reference leads nowhere. `Fault.message` is the one place where a cause becomes a
sentence.
-/

namespace RegisterMap

open Text

/-- The kinds of things that can be derived from one another. -/
inductive Kind
  | peripheral
  | cluster
  | register
  | field
  deriving DecidableEq, Repr

/-- The name of a kind in messages. -/
def Kind.word : Kind → String
  | .peripheral => "peripheral"
  | .cluster => "cluster"
  | .register => "register"
  | .field => "field"

/-- What a text in a description should have been. -/
inductive Expectation
  /-- A natural number in one of the accepted notations. -/
  | number
  /-- One of some words. -/
  | oneOf (words : List String)
  /-- One of the words for true and false. -/
  | truth
  /-- A width of at least one bit. -/
  | positiveWidth
  /-- A range of bits as one text. -/
  | bitRange
  /-- A range whose upper end is not below its lower end. -/
  | ascendingRange
  /-- An element that stands for a register or a cluster. -/
  | node
  deriving DecidableEq, Repr

/-- Some alternatives as a phrase: commas between them, `or` in front of the last. -/
def alternatives (words : List String) : String :=
  ", ".intercalate words.dropLast ++ " or " ++ words.getLast?.getD ""

/-- An expectation as a phrase. -/
def Expectation.phrase : Expectation → String
  | .number => "scaledNonNegativeInteger"
  | .oneOf words => "one of " ++ alternatives words
  | .truth => "true or false"
  | .positiveWidth => "a non-zero bitWidth"
  | .bitRange => "a bitRange of the form [msb:lsb]"
  | .ascendingRange => "msb >= lsb"
  | .node => "register or cluster"

/-- A range of bits as it is written: `[msb:lsb]`. -/
def rangeText (msb lsb : Int) : String :=
  "[" ++ signedDecimal msb ++ ":" ++ signedDecimal lsb ++ "]"

/-- What the emitted code has no form for. -/
inductive Feature
  /-- A register whose size is that of no unsigned integer type. -/
  | registerSize (bits : Int)
  /-- A field that reaches beyond the end of its register. -/
  | fieldOutside (register field : String) (msb lsb : Int) (size : Nat)
  /-- A cluster in a peripheral that shares its code with others. -/
  | clusterInGroup (cluster group : String)
  deriving DecidableEq, Repr

/-- A feature as a phrase. -/
def Feature.phrase : Feature → String
  | .registerSize bits => signedDecimal bits ++ "-bit register"
  | .fieldOutside register field msb lsb size =>
    "field " ++ register ++ "." ++ field ++ " bits " ++ rangeText msb lsb
      ++ " outside a " ++ decimal size ++ "-bit register"
  | .clusterInGroup cluster group =>
    "cluster " ++ cluster ++ " in peripheral group " ++ group

/-- Why a description has no answer. -/
inductive Fault
  /-- A member that must be there is not. -/
  | missing (element member : String)
  /-- A text is not what its place asks for. -/
  | unexpected (expected : Expectation) (actual : String)
  /-- A reference names no sibling of the kind that holds it. -/
  | unresolved (kind : Kind) (name reference : String)
  /-- References lead back to where they came from. -/
  | cycle (kind : Kind) (names : List String)
  /-- The emitted code has no form for something. -/
  | unsupported (feature : Feature)
  /-- A field has no bits. -/
  | emptyWidth (width : Int)
  deriving DecidableEq, Repr

/-- A cause as a sentence. -/
def Fault.message : Fault → String
  | .missing element member =>
    "missing field '" ++ member ++ "' in a '" ++ element ++ "'"
  | .unexpected expected actual =>
    "expected: " ++ expected.phrase ++ ", got: " ++ actual
  | .unresolved kind name reference =>
    kind.word ++ " '" ++ name ++ "' is derived from unknown '" ++ reference ++ "'"
  | .cycle kind names =>
    "derivedFrom cycle between " ++ kind.word ++ "s: " ++ " -> ".intercalate names
  | .unsupported feature => "unsupported feature: " ++ feature.phrase
  | .emptyWidth width => "bit width must be positive, got " ++ signedDecimal width

end RegisterMap
