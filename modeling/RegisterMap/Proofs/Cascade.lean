import RegisterMap.Cascade
import RegisterMap.Proofs.Derivation.Levels

/-!
# Properties are taken from above once

What is filled from around it has nothing left to take from there, so a device in which
every property was taken from the nearest level that sets it is left as it is when this is
done again. Taking properties is not deriving: what is settled stays settled.
-/

namespace RegisterMap

/-- What is filled has nothing left to take from the same properties. -/
@[simp]
theorem RegisterProperties.fill_fill (own others : RegisterProperties) :
    (own.fill others).fill others = own.fill others := by
  simp [RegisterProperties.fill, Option.or_assoc]

namespace Node

/-- The nodes of a list take properties each by itself. -/
theorem cascadeAll_eq_map (around : RegisterProperties) (nodes : List Node) :
    cascadeAll around nodes = nodes.map (cascade around) := by
  induction nodes with
  | nil => rfl
  | cons node rest ih => rw [cascadeAll, ih, List.map_cons]

mutual

/-- A node takes properties from around it once. -/
theorem cascade_cascade (around : RegisterProperties) :
    ∀ node : Node, (node.cascade around).cascade around = node.cascade around
  | .register r => by simp only [cascade, RegisterProperties.fill_fill]
  | .cluster c members => by
    -- around the members is what the cluster has after it was filled, both times
    simp only [cascade, RegisterProperties.fill_fill,
      cascadeAll_cascadeAll (c.properties.fill around) members]

theorem cascadeAll_cascadeAll (around : RegisterProperties) :
    ∀ nodes : List Node, cascadeAll around (cascadeAll around nodes) = cascadeAll around nodes
  | [] => rfl
  | node :: rest => by
    simp only [cascadeAll, cascade_cascade around node, cascadeAll_cascadeAll around rest]

end

/-- A node that is settled stays so when its properties are taken from above. -/
theorem Settled.cascade {node : Node} (h : node.Settled) (around : RegisterProperties) :
    (node.cascade around).Settled := by
  induction h generalizing around with
  | register free fields => exact .register free fields
  | cluster free _ ih =>
    refine .cluster free fun node mem => ?_
    rw [cascadeAll_eq_map] at mem
    obtain ⟨before, memBefore, rfl⟩ := List.mem_map.mp mem
    exact ih before memBefore _

end Node

/-- A peripheral that takes properties from around it takes nothing more the second time. -/
theorem Peripheral.cascade_cascade (around : RegisterProperties) (p : Peripheral) :
    (p.cascade around).cascade around = p.cascade around := by
  cases own : p.registers with
  | none => simp only [Peripheral.cascade, RegisterProperties.fill_fill, own, Option.map_none]
  | some nodes =>
    simp only [Peripheral.cascade, RegisterProperties.fill_fill, own, Option.map_some,
      Node.cascadeAll_cascadeAll]

/-- The nodes of a peripheral take what it sets itself, and what it leaves open from the device. -/
theorem Peripheral.nodes_cascade (around : RegisterProperties) (p : Peripheral) :
    (p.cascade around).nodes = p.nodes.map (Node.cascade (p.properties.fill around)) := by
  cases own : p.registers with
  | none => simp only [Peripheral.cascade, Peripheral.nodes, own, Option.map_none, Option.getD_none,
      List.map_nil]
  | some nodes => simp only [Peripheral.cascade, Peripheral.nodes, own, Option.map_some,
      Option.getD_some, Node.cascadeAll_eq_map]

/-- A peripheral that is settled stays so when its properties are taken from above. -/
theorem Peripheral.Settled.cascade {p : Peripheral} (h : p.Settled) (around : RegisterProperties) :
    (p.cascade around).Settled := by
  refine ⟨h.1, fun node mem => ?_⟩
  rw [Peripheral.nodes_cascade] at mem
  obtain ⟨before, memBefore, rfl⟩ := List.mem_map.mp mem
  exact (h.2 before memBefore).cascade _

/-- The properties of a device are taken from above once. -/
theorem Device.cascade_cascade (d : Device) : d.cascade.cascade = d.cascade := by
  have same : (d.peripherals.map (Peripheral.cascade d.properties)).map
      (Peripheral.cascade d.properties) = d.peripherals.map (Peripheral.cascade d.properties) := by
    rw [List.map_map]
    exact List.map_congr_left fun p _ => p.cascade_cascade d.properties
  exact congrArg (fun peripherals => { d with peripherals }) same

theorem Device.getElem?_cascade {d : Device} {position : Nat} {p : Peripheral}
    (here : d.peripherals[position]? = some p) :
    d.cascade.peripherals[position]? = some (p.cascade d.properties) := by
  rw [cascade, List.getElem?_map, here, Option.map_some]

/-- A device that is settled stays so when properties are taken from above. -/
theorem Device.Settled.cascade {d : Device} (h : d.Settled) : d.cascade.Settled := by
  intro p mem
  obtain ⟨before, memBefore, rfl⟩ := List.mem_map.mp mem
  exact (h before memBefore).cascade d.properties

end RegisterMap
