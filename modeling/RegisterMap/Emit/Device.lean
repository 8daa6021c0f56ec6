import RegisterMap.Emit.Group

/-!
# Devices as modules

A device is one module. In it stand the modules of the groups of peripherals, those
of the individual peripherals, and a module with the interrupts of all peripherals.
-/

namespace RegisterMap

open Text

/-- The name of the module of the interrupts. -/
def interruptModule : String := "interrupt"

/-- The first interrupt of each name, in order. -/
def firstOfEachName (known : List String) : List Interrupt → List Interrupt
  | [] => []
  | i :: rest =>
    if i.name ∈ known then firstOfEachName known rest
    else i :: firstOfEachName (i.name :: known) rest

/-- Whether an interrupt stands before another: its number is smaller, or the same
and its name is not later. -/
def Interrupt.before (a b : Interrupt) : Bool :=
  a.value < b.value || (a.value = b.value && a.name ≤ b.name)

namespace Device

/-- The interrupts of a device, one for each name, by number. -/
def interrupts (d : Device) : List Interrupt :=
  (firstOfEachName [] (d.peripherals.flatMap (·.interrupts))).mergeSort Interrupt.before

/-- The module names that the peripherals of a device cannot have. -/
def takenNames (d : Device) : List String :=
  if d.interrupts.isEmpty then [] else [interruptModule]

/-- How the peripherals of a device are emitted. -/
def arrangement (options : EmitOptions) (d : Device) : Arrangement :=
  if options.groupPeripherals then
    Arrangement.grouped (!options.withFields) d.takenNames d.peripherals
  else Arrangement.separate d.takenNames d.peripherals

end Device

/-- The module of an individual peripheral. -/
def NamedPeripheral.items (options : EmitOptions) (named : NamedPeripheral) :
    Except Fault (List Item) := do
  let p := named.member.peripheral
  let body ← Node.itemsOfAll options p.baseAddress p.nodes
  return options.docItems p.description ++ [.mod named.name (.useCore :: body)]

/-- The constant for an interrupt. -/
def Interrupt.items (options : EmitOptions) (i : Interrupt) : List Item :=
  options.docItems i.description ++ [.constant i.name "u32" (decimal i.value)]

/-- The module of the interrupts, if there are any. -/
def interruptItems (options : EmitOptions) (interrupts : List Interrupt) : List Item :=
  if interrupts.isEmpty then []
  else [.mod interruptModule (interrupts.flatMap (Interrupt.items options))]

namespace Device

/-- The constant for the number of priority bits, if the processor gives one. -/
def priorityItems (d : Device) : List Item :=
  match d.cpu.bind (·.nvicPrioBits) with
  | some bits => [.constant "NVIC_PRIO_BITS" "u8" (decimal bits)]
  | none => []

/-- A device as declarations. -/
def items (options : EmitOptions) (d : Device) : Except Fault (List Item) := do
  let arranged := d.arrangement options
  let groups ← itemsOfEach (PeripheralGroup.items options d.peripherals) arranged.groups
  let individuals ← itemsOfEach (NamedPeripheral.items options) arranged.individuals
  return [.attribute "allow(non_snake_case)", .attribute "allow(dead_code)",
      .attribute "allow(non_camel_case_types)"]
    ++ options.docItems (some d.description)
    ++ [.mod d.name
      (d.priorityItems ++ groups ++ individuals ++ interruptItems options d.interrupts)]

/-- The code for a device. -/
def emit (options : EmitOptions) (d : Device) : Except Fault String :=
  (d.items options).map Item.text

end Device

end RegisterMap
