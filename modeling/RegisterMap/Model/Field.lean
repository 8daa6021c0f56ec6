import RegisterMap.Model.Vocabulary

/-!
# Fields

A field is a range of bits inside a register, with the values that have names in it.
-/

namespace RegisterMap

/-- A range of bits, both ends included. Descriptions that were read have
`0 ≤ lsb ≤ msb`; the type admits any two integers, so that whoever builds a device
by other means gets an answer too. -/
structure BitRange where
  lsb : Int
  msb : Int
  deriving DecidableEq, Repr

/-- The number of bits in a range. -/
def BitRange.width (range : BitRange) : Int := range.msb - range.lsb + 1

/-- A named value of a field. Bits set in `doNotCare` may hold either digit. -/
structure EnumeratedValue where
  name : String
  description : Option String := none
  value : Option Nat := none
  doNotCare : Nat := 0
  isDefault : Bool := false
  deriving DecidableEq, Repr

/-- A set of named values of a field. -/
structure EnumeratedValues where
  values : List EnumeratedValue
  derivedFrom : Option String := none
  name : Option String := none
  usage : Option EnumUsage := none
  deriving DecidableEq, Repr

/-- A field of a register. -/
structure Field where
  name : String
  bitRange : BitRange
  /-- The sibling from which members not set here are to be taken. -/
  derivedFrom : Option String := none
  /-- The sibling from which they were taken. -/
  resolvedFrom : Option String := none
  description : Option String := none
  access : Option Access := none
  modifiedWriteValues : Option ModifiedWriteValues := none
  readAction : Option ReadAction := none
  enumeratedValues : List EnumeratedValues := []
  deriving DecidableEq, Repr

/-- The position of the lowest bit of a field. -/
def Field.lsb (f : Field) : Int := f.bitRange.lsb

/-- The number of bits of a field. -/
def Field.width (f : Field) : Int := f.bitRange.width

end RegisterMap
