import RegisterMap.Model.Device
import RegisterMap.Reading.Node

/-!
# Reading peripherals and devices

Every child of the list of registers of a peripheral has to describe a node; in the
other lists, children with other tags are passed over. Whether a device has a list of
peripherals is looked at before its processor and its peripherals are read.
-/

namespace RegisterMap

open Xml

/-- The address block that an element describes. All three members have to be there
before the first of them is read. -/
def AddressBlock.ofElement (e : Element) : Except Fault AddressBlock := do
  let offsetText ← e.required "addressBlock" "offset"
  let sizeText ← e.required "addressBlock" "size"
  let usageText ← e.required "addressBlock" "usage"
  let offset ← readNumber offsetText
  let size ← readNumber sizeText
  let usage ← readWord AddressBlockUsage usageText
  let protection ← e.optional "protection" (readWord Protection)
  return { offset, size, usage, protection }

/-- The interrupt that an element describes. -/
def Interrupt.ofElement (e : Element) : Except Fault Interrupt := do
  let name ← e.required "interrupt" "name"
  let value ← readNumber (← e.required "interrupt" "value")
  return { name, value, description := e.member? "description" }

/-- The nodes that the element of a peripheral describes, if it has a list of them. -/
def Node.listOfElement (e : Element) : Except Fault (Option (List Node)) :=
  match e.child? "registers" with
  | some list => (list.children.mapM Node.ofElement).map some
  | none => .ok none

/-- The peripheral that an element describes. -/
def Peripheral.ofElement (e : Element) : Except Fault Peripheral := do
  let name ← e.required "peripheral" "name"
  let baseAddress ← readNumber (← e.required "peripheral" "baseAddress")
  let registers ← Node.listOfElement e
  let dim ← Dimension.ofElement e
  let properties ← RegisterProperties.ofElement e
  let addressBlocks ← (e.childrenTagged "addressBlock").mapM AddressBlock.ofElement
  let interrupts ← (e.childrenTagged "interrupt").mapM Interrupt.ofElement
  return { name, baseAddress
           derivedFrom := e.attribute? "derivedFrom"
           dim
           version := e.member? "version"
           description := e.member? "description"
           alternatePeripheral := e.member? "alternatePeripheral"
           groupName := e.member? "groupName"
           prependToName := e.member? "prependToName"
           appendToName := e.member? "appendToName"
           headerStructName := e.member? "headerStructName"
           disableCondition := e.member? "disableCondition"
           properties, addressBlocks, interrupts, registers }

/-- The processor that an element describes. -/
def Cpu.ofElement (e : Element) : Except Fault Cpu := do
  let name ← e.required "cpu" "name"
  let revision ← e.required "cpu" "revision"
  let endian ← readWord Endian (← e.required "cpu" "endian")
  let mpuPresent ← e.optional "mpuPresent" readTruth
  let fpuPresent ← e.optional "fpuPresent" readTruth
  let nvicPrioBits ← e.optional "nvicPrioBits" readNumber
  let vendorSystickConfig ← e.optional "vendorSystickConfig" readTruth
  return { name, revision, endian, mpuPresent, fpuPresent, nvicPrioBits, vendorSystickConfig }

namespace Device

/-- The processor that the element of a device describes, if there is one. -/
def cpuOfElement (e : Element) : Except Fault (Option Cpu) :=
  match e.child? "cpu" with
  | some cpu => (Cpu.ofElement cpu).map some
  | none => .ok none

/-- The list of peripherals in the element of a device. -/
def peripheralList (e : Element) : Except Fault Element :=
  match e.child? "peripherals" with
  | some list => .ok list
  | none => .error (.missing "device" "peripherals")

/-- The device that an element describes. -/
def ofElement (e : Element) : Except Fault Device := do
  let name ← e.required "device" "name"
  let version ← e.required "device" "version"
  let description ← e.required "device" "description"
  let addressUnitBits ← readNumber (← e.required "device" "addressUnitBits")
  let width ← readNumber (← e.required "device" "width")
  let list ← peripheralList e
  let cpu ← cpuOfElement e
  let properties ← RegisterProperties.ofElement e
  let peripherals ← (list.childrenTagged "peripheral").mapM Peripheral.ofElement
  return { name, version, description, addressUnitBits, width
           vendor := e.member? "vendor"
           vendorId := e.member? "vendorID"
           series := e.member? "series"
           licenseText := e.member? "licenseText"
           headerSystemFilename := e.member? "headerSystemFilename"
           headerDefinitionsPrefix := e.member? "headerDefinitionsPrefix"
           cpu, properties, peripherals }

end Device

end RegisterMap
