import RegisterMap.Cascade
import RegisterMap.Derivation.Resolve
import RegisterMap.Emit.Device
import RegisterMap.Journal

/-!
# From a device to its code

A device is converted in three steps: its references are resolved, properties are
taken from the levels above, and the code is emitted. The first step may stop with a
fault, and the last one may have one; the device is left as far as it got, and can be
converted again from there.

The notes on single modules are taken once the whole device could be emitted.
-/

namespace RegisterMap

/-- The outcome of converting a device. -/
structure Conversion where
  /-- The device as the conversion leaves it. -/
  device : Device
  /-- The notes taken on the way. -/
  notes : List Note
  /-- The code, or why there is none. -/
  outcome : Except Fault String

namespace Arrangement

/-- The notes on how the peripherals were arranged. -/
def notes (isGrouped : Bool) (arranged : Arrangement) : List Note :=
  arranged.unnamed.map .unnamed
    ++ arranged.renamed.map (fun change => .renamed change.1 change.2)
    ++ if isGrouped then [.grouped arranged.groups.length arranged.individuals.length] else []

/-- The notes on the modules that were emitted. -/
def moduleNotes (arranged : Arrangement) : List Note :=
  arranged.groups.map (fun g => .group g.structName (g.members.map (·.peripheral.name)))
    ++ arranged.individuals.map fun i => .individual i.name i.member.peripheral.baseAddress

end Arrangement

namespace Device

/-- The notes taken while a device is emitted. -/
def emissionNotes (options : EmitOptions) (d : Device) : List Note :=
  let arranged := d.arrangement options
  arranged.notes options.groupPeripherals
    ++ if (d.emit options).isOk then arranged.moduleNotes else []

/-- Converts a device. -/
def convert (options : EmitOptions) (d : Device) : Conversion :=
  let resolved := d.resolve
  let merges := resolved.merges.map Note.merged
  match resolved.fault with
  | some fault => { device := resolved.state, notes := merges, outcome := .error fault }
  | none =>
    let complete := resolved.state.cascade
    { device := complete
      notes :=
        merges ++ .cascaded complete.peripherals.length :: complete.emissionNotes options
      outcome := complete.emit options }

end Device

end RegisterMap
