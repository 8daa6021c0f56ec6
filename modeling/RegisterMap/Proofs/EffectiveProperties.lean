import RegisterMap.Proofs.Cascade
import RegisterMap.Proofs.Derivation.ClosedForm
import RegisterMap.Proofs.Derivation.Places

/-!
# Effective register properties

Where a property is not set it is taken from a sibling, if the thing is derived from one, and
then from around the thing. `Device.levelsAt?` lists what is set at a path and around it,
innermost first; after properties are taken from above, each property at the path is the first
one that this list sets, whatever the others are (`Device.propertiesAt?_cascade`).

The walk changes a level before it goes inside, so what it hands down is what the level has by
then. That is the first value of the levels passed so far, which is the invariant of
`Node.propertiesAt?_cascadeAll`.
-/

namespace RegisterMap

open Derivable Progress

/-! ## Levels -/

namespace Node

/-- The register properties that are set on a node. -/
def properties : Node → RegisterProperties
  | .register r => r.properties
  | .cluster c _ => c.properties

/-- The properties that are set at a path among some nodes, and those around it, innermost first. -/
def levelsAt? (around : List RegisterProperties) :
    List Node → List Nat → Option (List RegisterProperties)
  | _, [] => some around
  | nodes, position :: path =>
    nodes[position]?.bind fun node => levelsAt? (node.properties :: around) node.members path

/-- A node has the properties that it sets, and what it leaves open from around it. -/
theorem properties_cascade (around : RegisterProperties) (node : Node) :
    (node.cascade around).properties = node.properties.fill around := by
  cases node <;> rfl

/-- The nodes in a node take properties from what it has by then. -/
theorem members_cascade (around : RegisterProperties) (node : Node) :
    (node.cascade around).members = cascadeAll (node.properties.fill around) node.members := by
  cases node <;> rfl

/-- What nodes take from around them is the first that is set on the levels passed so far. -/
theorem propertiesAt?_cascadeAll {path : List Nat} {nodes : List Node} {outer : RegisterProperties}
    {others filled : List RegisterProperties}
    (passed : filled.head? = some (RegisterProperties.firstSet (outer :: others))) :
    (levelsAt? filled (cascadeAll (RegisterProperties.firstSet (outer :: others)) nodes)
        path).bind List.head? =
      (levelsAt? (outer :: others) nodes path).map RegisterProperties.firstSet := by
  induction path generalizing nodes outer others filled with
  | nil => exact passed
  | cons position path ih =>
    simp only [levelsAt?, cascadeAll_eq_map, List.getElem?_map]
    cases here : nodes[position]? with
    | none => rfl
    | some node =>
      simp only [Option.map_some, Option.bind_some, properties_cascade, members_cascade]
      rw [← RegisterProperties.firstSet_cons]
      exact ih rfl

end Node

namespace Device

/-- The properties that are set at a path in a device, and those around it, innermost first. The
empty path is that of the device. -/
def levelsAt? (d : Device) : List Nat → Option (List RegisterProperties)
  | [] => some [d.properties]
  | position :: path => d.peripherals[position]?.bind fun p =>
    Node.levelsAt? [p.properties, d.properties] p.nodes path

/-- The properties that are set on what stands at a path in a device. -/
def propertiesAt? (d : Device) (path : List Nat) : Option RegisterProperties :=
  (d.levelsAt? path).bind List.head?

/-- **The nearest level that sets a property.** After properties are taken from above, those at a
path are the first ones set at the path and around it. -/
theorem propertiesAt?_cascade (d : Device) (path : List Nat) :
    d.cascade.propertiesAt? path = (d.levelsAt? path).map RegisterProperties.firstSet := by
  cases path with
  | nil => exact congrArg some (RegisterProperties.firstSet_singleton d.properties).symm
  | cons position path =>
    cases here : d.peripherals[position]? with
    | none =>
      simp only [propertiesAt?, levelsAt?, cascade, List.getElem?_map, here, Option.map_none,
        Option.bind_none]
    | some p =>
      have taken : p.properties.fill d.properties =
          RegisterProperties.firstSet [p.properties, d.properties] := by
        rw [RegisterProperties.firstSet_cons, RegisterProperties.firstSet_singleton]
      simp only [propertiesAt?, levelsAt?, getElem?_cascade here, here, Option.bind_some,
        Peripheral.nodes_cascade, ← Node.cascadeAll_eq_map, taken]
      exact Node.propertiesAt?_cascadeAll (congrArg some taken)

end Device

/-! ## Nothing else -/

namespace Node

mutual

/-- A node without its register properties, and without those of the nodes in it. -/
def bare : Node → Node
  | .register r => .register { r with properties := {} }
  | .cluster c members => .cluster { c with properties := {} } (bareAll members)

/-- Nodes without their register properties. -/
def bareAll : List Node → List Node
  | [] => []
  | node :: rest => node.bare :: bareAll rest

end

mutual

/-- Taking properties changes nothing but properties. -/
theorem bare_cascade (around : RegisterProperties) :
    ∀ node : Node, (node.cascade around).bare = node.bare
  | .register r => by simp only [cascade, bare]
  | .cluster c members => by
    simp only [cascade, bare, bareAll_cascadeAll (c.properties.fill around) members]

theorem bareAll_cascadeAll (around : RegisterProperties) :
    ∀ nodes : List Node, bareAll (cascadeAll around nodes) = bareAll nodes
  | [] => rfl
  | node :: rest => by
    simp only [cascadeAll, bareAll, bare_cascade around node, bareAll_cascadeAll around rest]

end

end Node

/-- A peripheral without its register properties, and without those of the nodes in it. -/
def Peripheral.bare (p : Peripheral) : Peripheral :=
  { p with properties := {}, registers := p.registers.map Node.bareAll }

theorem Peripheral.bare_cascade (around : RegisterProperties) (p : Peripheral) :
    (p.cascade around).bare = p.bare := by
  cases own : p.registers with
  | none => simp only [bare, cascade, own, Option.map_none]
  | some nodes => simp only [bare, cascade, own, Option.map_some, Node.bareAll_cascadeAll]

/-- A device without the register properties of what is in it. Its own are kept. -/
def Device.bare (d : Device) : Device :=
  { d with peripherals := d.peripherals.map Peripheral.bare }

/-- Register properties are all that changes when they are taken from above. -/
theorem Device.bare_cascade (d : Device) : d.cascade.bare = d.bare := by
  have same : (d.peripherals.map (Peripheral.cascade d.properties)).map Peripheral.bare =
      d.peripherals.map Peripheral.bare := by
    rw [List.map_map]
    exact List.map_congr_left fun p _ => p.bare_cascade d.properties
  exact congrArg (fun peripherals => { d with peripherals }) same

/-! ## Properties from a sibling -/

/-- The sibling at a position has the properties that are set on it and takes the others from the
sibling it is derived from, if it is derived. -/
def Inherits {α : Type} [Derivable α] (properties : α → RegisterProperties)
    (siblings resolved : List α) (position : Nat) : Prop :=
  ∃ item after, siblings[position]? = some item ∧ resolved[position]? = some after ∧
    ((derivedFrom item = none ∧ properties after = properties item) ∨
      ∃ next source, Link siblings position next ∧ resolved[next]? = some source ∧
        properties after = (properties item).fill (properties source))

namespace Node

/-- A node that takes from another takes the properties that it leaves open. -/
theorem properties_takeFrom {node source : Node} (derived : Derivable.derivedFrom node ≠ none)
    (sameKind : kind source = kind node) :
    (takeFrom node source).properties = node.properties.fill source.properties := by
  obtain ⟨reference, named⟩ := Option.ne_none_iff_exists'.mp derived
  rw [takeFrom_of_derived named]
  cases node with
  | register r =>
    cases source with
    | register s => rfl
    | cluster _ _ => cases sameKind
  | cluster c members =>
    cases source with
    | register _ => cases sameKind
    | cluster s others => rfl

/-- Resolving what is in a node leaves its own properties. -/
theorem properties_resolveInside (resolveMembers : List Node → Progress (List Node)) (node : Node) :
    (resolveInside resolveMembers node).state.properties = node.properties := by
  cases node with
  | register r =>
    cases own : r.fields with
    | none => simp only [resolveInside, Register.resolve_of_no_fields own, within]
    | some fields =>
      simp only [resolveInside, Register.resolve_of_fields own, within, properties]
  | cluster c members => rfl

/-- After nodes are resolved, each has the properties of the sibling it is derived from where it
sets none. -/
theorem inherits_resolveAll {nodes : List Node} (succeeds : (resolveAll nodes).fault = none)
    {position : Nat} (inside : position < nodes.length) :
    Inherits properties nodes (resolveAll nodes).state position := by
  have here := List.getElem?_eq_getElem inside
  rcases getElem?_resolveScope (fault_resolveScope succeeds) here with
    ⟨free, now⟩ | ⟨next, source, link, sameKind, there, now⟩
  · obtain ⟨_, reached⟩ := getElem?_resolveAll succeeds now
    exact ⟨_, _, here, reached, .inl ⟨free, properties_resolveInside _ _⟩⟩
  · obtain ⟨_, reached⟩ := getElem?_resolveAll succeeds now
    obtain ⟨_, reachedSource⟩ := getElem?_resolveAll succeeds there
    have properties := properties_takeFrom (link.derivedFrom_ne_none here) sameKind
    refine ⟨_, _, here, reached, .inr ⟨next, _, link, reachedSource, ?_⟩⟩
    rw [properties_resolveInside, properties_resolveInside, properties]

end Node

namespace Device

variable {d : Device}

/-- After a device is resolved, each peripheral has the properties of the one it is derived from
where it sets none. -/
theorem inherits_resolve (succeeds : d.resolve.fault = none) {position : Nat}
    (inside : position < d.peripherals.length) :
    Inherits Peripheral.properties d.peripherals d.resolve.state.peripherals position := by
  have here := List.getElem?_eq_getElem inside
  rcases getElem?_resolveScope (peripherals_resolve succeeds).1 here with
    ⟨free, now⟩ | ⟨next, source, link, _, there, now⟩
  · obtain ⟨_, reached⟩ := getElem?_resolve succeeds now
    exact ⟨_, _, here, reached, .inl ⟨free, Peripheral.properties_resolve _⟩⟩
  · obtain ⟨_, reached⟩ := getElem?_resolve succeeds now
    obtain ⟨_, reachedSource⟩ := getElem?_resolve succeeds there
    obtain ⟨_, derived⟩ := Option.ne_none_iff_exists'.mp (link.derivedFrom_ne_none here)
    refine ⟨_, _, here, reached, .inr ⟨next, _, link, reachedSource, ?_⟩⟩
    rw [Peripheral.properties_resolve, Peripheral.properties_resolve, takeFrom_of_derived derived]
    rfl

/-- **Every property comes from the nearest place that sets it.** When a device is resolved, what is
set on a thing itself comes before what its source has. When properties are taken from above after
that, each is the first one set on the thing by then and around it, nothing else changes, and doing
it again changes nothing. -/
theorem cascade_effective {d resolved complete : Device} (succeeds : d.resolve.fault = none)
    (reached : d.resolve.state = resolved) (filled : resolved.cascade = complete) :
    (resolved.properties = d.properties ∧
      (∀ position < d.peripherals.length,
        Inherits Peripheral.properties d.peripherals resolved.peripherals position) ∧
      ∀ path nodes position, d.nodesAt? path = some nodes → position < nodes.length →
        ∃ after, resolved.nodesAt? path = some after ∧
          Inherits Node.properties nodes after position) ∧
      (∀ path, complete.propertiesAt? path =
        (resolved.levelsAt? path).map RegisterProperties.firstSet) ∧
      complete.bare = resolved.bare ∧
      complete.cascade = complete := by
  subst reached filled
  refine ⟨⟨rfl, fun position => inherits_resolve succeeds, ?_⟩, propertiesAt?_cascade _,
    bare_cascade _, cascade_cascade _⟩
  intro path nodes position found inside
  have filled : nodes ≠ [] := List.ne_nil_of_length_pos (Nat.zero_lt_of_lt inside)
  obtain ⟨going, after⟩ := nodesAt?_resolve succeeds found filled
  exact ⟨_, after, Node.inherits_resolveAll going inside⟩

/-- A timer with two banks, of which the second is derived from the first, and one register in the
first. Each level sets some of the properties, and some of them anew. -/
def layeredTimer : Device where
  name := "DEV"
  version := "1"
  description := "a device"
  addressUnitBits := 8
  width := 32
  properties := { size := some 32, access := some .readWrite, resetMask := some 0xffff }
  peripherals :=
    [{ name := "TIM", baseAddress := 0x100, properties := { resetValue := some 1 }
       registers := some
        [.cluster
          { name := "B1", addressOffset := 0x10, derivedFrom := some "B0"
            properties := { resetMask := some 0xff } } [],
         .cluster
          { name := "B0", addressOffset := 0
            properties := { size := some 16, resetMask := some 0xf } }
          [.register
            { name := "CNT", addressOffset := 0, properties := { access := some .readOnly } }]] }]

/-- Properties come from the register, from the derived bank, from the peripheral and from the
device. -/
theorem cascade_effective_layeredTimer :
    layeredTimer.resolve.fault = none ∧
      (∃ banks after, layeredTimer.nodesAt? [0] = some banks ∧
        layeredTimer.resolve.state.nodesAt? [0] = some after ∧
        Inherits Node.properties banks after 0) ∧
      layeredTimer.resolve.state.cascade.propertiesAt? [0, 0, 0] = some
        { size := some 16, access := some .readOnly, resetValue := some 1
          resetMask := some 0xff } := by
  have succeeds : layeredTimer.resolve.fault = none := by decide +kernel
  obtain ⟨⟨_, _, nodes⟩, effective, _⟩ := cascade_effective succeeds rfl rfl
  obtain ⟨after, reached, inherits⟩ := nodes [0] _ 0 rfl (by decide)
  refine ⟨succeeds, ⟨_, after, rfl, reached, inherits⟩, ?_⟩
  rw [effective]
  decide +kernel

end Device

end RegisterMap
