import RegisterMap.Model.Register

/-!
# Peripherals and devices

A device is a list of peripherals with what they have in common: the processor, the
register properties that hold unless set closer to a register, and the members that
name and describe the whole.
-/

namespace RegisterMap

/-- A part of the address space of a peripheral. -/
structure AddressBlock where
  offset : Nat
  size : Nat
  usage : AddressBlockUsage
  protection : Option Protection := none
  deriving DecidableEq, Repr

/-- An interrupt of a peripheral. -/
structure Interrupt where
  name : String
  value : Nat
  description : Option String := none
  deriving DecidableEq, Repr

/-- A peripheral. -/
structure Peripheral where
  name : String
  baseAddress : Nat
  /-- The sibling from which members not set here are to be taken. -/
  derivedFrom : Option String := none
  /-- The sibling from which they were taken. -/
  resolvedFrom : Option String := none
  dim : Dimension := {}
  version : Option String := none
  description : Option String := none
  alternatePeripheral : Option String := none
  groupName : Option String := none
  prependToName : Option String := none
  appendToName : Option String := none
  headerStructName : Option String := none
  disableCondition : Option String := none
  properties : RegisterProperties := {}
  addressBlocks : List AddressBlock := []
  interrupts : List Interrupt := []
  registers : Option (List Node) := none

/-- The nodes of a peripheral; a peripheral without a list of registers has none. -/
def Peripheral.nodes (p : Peripheral) : List Node := p.registers.getD []

/-- The processor of a device. -/
structure Cpu where
  name : String
  revision : String
  endian : Endian
  mpuPresent : Option Bool := none
  fpuPresent : Option Bool := none
  nvicPrioBits : Option Nat := none
  vendorSystickConfig : Option Bool := none
  deriving DecidableEq, Repr

/-- A device. -/
structure Device where
  name : String
  version : String
  description : String
  addressUnitBits : Nat
  width : Nat
  vendor : Option String := none
  vendorId : Option String := none
  series : Option String := none
  licenseText : Option String := none
  headerSystemFilename : Option String := none
  headerDefinitionsPrefix : Option String := none
  cpu : Option Cpu := none
  properties : RegisterProperties := {}
  peripherals : List Peripheral := []

end RegisterMap
