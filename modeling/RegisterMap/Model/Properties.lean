import RegisterMap.Model.Vocabulary

/-!
# Register properties and dimensions

The properties of a register may be set on the register itself, on a cluster around
it, on its peripheral or on the device. A property that is not set at one level is
taken from another one, which is what `RegisterProperties.fill` does member by
member. Dimensions, the three members that describe an array of like things, are
filled in the same way.
-/

namespace RegisterMap

/-- The properties of registers at one level of a description. A property that is
not set is inherited. -/
structure RegisterProperties where
  size : Option Nat := none
  access : Option Access := none
  protection : Option Protection := none
  resetValue : Option Nat := none
  resetMask : Option Nat := none
  deriving DecidableEq, Repr, Inhabited

/-- The properties, those not set taken from others. -/
def RegisterProperties.fill (own others : RegisterProperties) : RegisterProperties where
  size := own.size <|> others.size
  access := own.access <|> others.access
  protection := own.protection <|> others.protection
  resetValue := own.resetValue <|> others.resetValue
  resetMask := own.resetMask <|> others.resetMask

/-- An array of like things: how many, how far apart, and what they are called. -/
structure Dimension where
  dim : Option Nat := none
  dimIncrement : Option Nat := none
  dimIndex : Option String := none
  deriving DecidableEq, Repr, Inhabited

/-- The dimension, the members not set taken from another. -/
def Dimension.fill (own other : Dimension) : Dimension where
  dim := own.dim <|> other.dim
  dimIncrement := own.dimIncrement <|> other.dimIncrement
  dimIndex := own.dimIndex <|> other.dimIndex

end RegisterMap
