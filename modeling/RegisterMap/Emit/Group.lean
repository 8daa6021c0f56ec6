import RegisterMap.Emit.Register
import RegisterMap.Grouping.Peripherals

/-!
# Groups of peripherals as modules

The module of a group declares the handle type, a constant for each member and the
registers that the members share. The registers are collected from the first member
that has any, then from the peripheral it is derived from, and so on. A register
found earlier hides later ones of its name. Clusters have no form in such a module.

The walk along the sources ends where a source is missing or has been visited.
-/

namespace RegisterMap

open Text

/-- The first of some peripherals with a name, and its position. -/
def peripheralNamed (peripherals : List Peripheral) (wanted : String) :
    Option (Peripheral × Nat) :=
  peripherals.zipIdx.find? fun entry => entry.1.name = wanted

/-- A peripheral, the one it is derived from, the one that is derived from, and so
on. `unseen` holds the positions that have not been visited. -/
def sourceWalk (peripherals : List Peripheral) (unseen : List Nat) (p : Peripheral) :
    List Peripheral :=
  match p.source with
  | none => [p]
  | some reference =>
    if reference = "" then [p]
    else
      match peripheralNamed peripherals reference with
      | none => [p]
      | some (source, next) =>
        if _unvisited : next ∈ unseen then
          p :: sourceWalk peripherals (unseen.erase next) source
        else [p]
termination_by unseen.length
decreasing_by
  rw [List.length_erase_of_mem _unvisited]
  have := List.length_pos_of_mem _unvisited
  omega

namespace PeripheralGroup

/-- The member of a group at which its registers are looked for first. -/
def leader? (group : PeripheralGroup) : Option Member :=
  match group.members.find? fun m => !m.peripheral.nodes.isEmpty with
  | some m => some m
  | none => group.members.head?

/-- The peripherals from which the registers of a group are collected, in order. -/
def sources (peripherals : List Peripheral) (group : PeripheralGroup) : List Peripheral :=
  match group.leader? with
  | none => []
  | some m =>
    sourceWalk peripherals ((List.range peripherals.length).erase m.position) m.peripheral

end PeripheralGroup

/-- The registers among some nodes, the first of each name, without those whose name
is known already. -/
def collectRegisters (group : String) (known : List String) :
    List Node → Except Fault (List Register)
  | [] => .ok []
  | .cluster c _ :: _ => .error (.unsupported (.clusterInGroup c.name group))
  | .register r :: rest =>
    if r.name ∈ known then collectRegisters group known rest
    else (collectRegisters group (r.name :: known) rest).map (r :: ·)

namespace PeripheralGroup

/-- The registers that the members of a group share. -/
def registers (peripherals : List Peripheral) (group : PeripheralGroup) :
    Except Fault (List Register) :=
  collectRegisters group.structName [] ((group.sources peripherals).flatMap (·.nodes))

/-- The constants for the members of a group. -/
def constants (group : PeripheralGroup) : List Item :=
  group.members.map fun m =>
    .constant m.peripheral.name group.structName
      (Item.handleValue group.structName m.peripheral.baseAddress)

/-- The module of a group. -/
def items (options : EmitOptions) (peripherals : List Peripheral) (group : PeripheralGroup) :
    Except Fault (List Item) := do
  let registers ← group.registers peripherals
  let functions ← itemsOfEach (·.handleItems options group.structName) registers
  return options.docItems group.description
    ++ [.mod group.moduleName
      ([.useCore, .attribute "derive(Copy, Clone, PartialEq, Eq)", .handle group.structName]
        ++ group.constants ++ functions)]

end PeripheralGroup

end RegisterMap
