import RegisterMap.Model.Device

/-!
# Properties from the levels above

A register property that is not set on a register is taken from the nearest level
around it that sets one: the clusters from the innermost outwards, the peripheral,
the device. This is done after references are resolved, so what a thing takes from a
sibling comes before what it takes from around it.
-/

namespace RegisterMap

namespace Node

mutual

/-- A node with the properties not set in it taken from around it. -/
def cascade (around : RegisterProperties) : Node → Node
  | .register r => .register { r with properties := r.properties.fill around }
  | .cluster c members =>
    .cluster { c with properties := c.properties.fill around }
      (cascadeAll (c.properties.fill around) members)

/-- Nodes with the properties not set in them taken from around them. -/
def cascadeAll (around : RegisterProperties) : List Node → List Node
  | [] => []
  | node :: rest => node.cascade around :: cascadeAll around rest

end

end Node

/-- A peripheral with the properties not set in it taken from around it. -/
def Peripheral.cascade (around : RegisterProperties) (p : Peripheral) : Peripheral :=
  let properties := p.properties.fill around
  { p with properties, registers := p.registers.map (Node.cascadeAll properties) }

/-- A device with every property taken from the nearest level that sets it. -/
def Device.cascade (d : Device) : Device :=
  { d with peripherals := d.peripherals.map (Peripheral.cascade d.properties) }

end RegisterMap
