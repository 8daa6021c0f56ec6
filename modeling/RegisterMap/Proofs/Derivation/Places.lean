import RegisterMap.Proofs.Derivation.Levels

/-!
# Where things stand after a resolution

A resolution changes what things are, and not where they stand. In a scope the thing at a
position becomes what it takes from its source, which is at a position of its own
(`getElem?_resolveScope`). Further inside, a list of nodes that has elements is not replaced,
and what becomes of it does not depend on where it stands: the nodes at a path in a device are,
after the device is resolved, these nodes resolved by themselves (`Device.nodesAt?_resolve`).

A path is a list of positions, outermost first. In a device it begins with the position of a
peripheral.
-/

namespace RegisterMap

open Derivable Progress

/-! ## Siblings -/

section Siblings

variable {α : Type}

theorem inheritList_of_ne_nil {own : List α} (filled : own ≠ []) (other : List α) :
    inheritList own other = own := by
  cases own with
  | nil => exact absurd rfl filled
  | cons _ _ => rfl

theorem inheritOptionalList_of_ne_nil {own : Option (List α)} (filled : own.getD [] ≠ [])
    (other : Option (List α)) : inheritOptionalList own other = own := by
  rcases own with _ | _ | ⟨first, rest⟩
  · exact absurd rfl filled
  · exact absurd rfl filled
  · rfl

variable [Derivable α] {siblings : List α}

/-- What a thing takes does not change its kind. -/
theorem kind_derive (item : α) (sources : List α) : kind (derive item sources) = kind item := by
  cases sources with
  | nil => rfl
  | cons source rest => exact kind_takeFrom item (derive source rest)

/-- In a scope that is resolved, a thing that is derived has a source among its siblings, and has
become what it takes from it. The others are as they were. -/
theorem getElem?_resolveScope (succeeds : (resolveScope siblings).fault = none) {position : Nat}
    {item : α} (here : siblings[position]? = some item) :
    (derivedFrom item = none ∧ (resolveScope siblings).state[position]? = some item) ∨
      ∃ next source, Link siblings position next ∧ kind source = kind item ∧
        (resolveScope siblings).state[next]? = some source ∧
        (resolveScope siblings).state[position]? = some (takeFrom item source) := by
  obtain ⟨_, complete⟩ := resolveScope_of_good (resolveScope_fault_eq_none_iff.mp succeeds)
  have resolvedAt : ∀ p < siblings.length, Resolved siblings p (resolveScope siblings).state :=
    fun p inside => complete.resolved p ⟨p, List.mem_range.mpr inside, .refl⟩
  obtain ⟨item', sources, here', sourcesOf, now⟩ :=
    resolvedAt position (List.getElem?_eq_some_iff.mp here).1
  cases here.symm.trans here'
  cases sourcesOf with
  | free free =>
    obtain ⟨item', here', free⟩ := free
    cases here.symm.trans here'
    exact .inl ⟨free, now⟩
  | @link _ next rest link sourcesOfNext =>
    -- the source is resolved along the rest of the same chain
    obtain ⟨source, sources, there, sourcesOf', nowNext⟩ := resolvedAt next link.lt_length.2
    cases sourcesOf'.unique sourcesOfNext
    rw [itemsAt_cons there] at now
    have sameKind := (kind_derive source (itemsAt siblings rest)).trans (link.same_kind here there)
    exact .inr ⟨next, _, link, sameKind, nowNext, now⟩

end Siblings

/-! ## Nodes -/

namespace Node

/-- The nodes in a node; a register has none. -/
def members : Node → List Node
  | .register _ => []
  | .cluster _ members => members

/-- A node that has nodes in it keeps them when it takes from another. -/
theorem members_takeFrom {node : Node} (filled : node.members ≠ []) (source : Node) :
    (takeFrom node source).members = node.members := by
  cases derived : Derivable.derivedFrom node with
  | none => rw [takeFrom_of_free derived]
  | some reference =>
    rw [takeFrom_of_derived derived]
    cases node with
    | register r => exact absurd rfl filled
    | cluster c members =>
      cases source with
      | register _ => rfl
      | cluster s others => exact inheritList_of_ne_nil filled others

/-- The nodes in a node become what they do when they are resolved by themselves. -/
theorem members_resolveInside {node : Node}
    (succeeds : (resolveInside resolveAll node).fault = none) :
    (resolveAll node.members).fault = none ∧
      (resolveInside resolveAll node).state.members = (resolveAll node.members).state := by
  cases node with
  | register r => exact ⟨rfl, rfl⟩
  | cluster c members => exact ⟨succeeds, rfl⟩

variable {nodes : List Node}

/-- Nodes are resolved among each other before what is in them is, so that has succeeded if all
has. -/
theorem fault_resolveScope (succeeds : (resolveAll nodes).fault = none) :
    (resolveScope nodes).fault = none := by
  rw [resolveAll_eq] at succeeds
  exact (andThen_fault_eq_none_iff.mp succeeds).1

/-- A node that is resolved among the others is resolved inside after that. -/
theorem getElem?_resolveAll (succeeds : (resolveAll nodes).fault = none) {position : Nat}
    {node : Node} (here : (resolveScope nodes).state[position]? = some node) :
    (resolveInside resolveAll node).fault = none ∧
      (resolveAll nodes).state[position]? = some (resolveInside resolveAll node).state := by
  rw [resolveAll_eq] at succeeds ⊢
  obtain ⟨first, inside⟩ := andThen_fault_eq_none_iff.mp succeeds
  obtain ⟨each, reached⟩ := forEach_of_fault_none inside
  refine ⟨each node (List.mem_of_getElem? here), ?_⟩
  rw [(andThen_of_fault_none first _).1, reached, List.getElem?_map, here, Option.map_some]

/-- Nodes that are in a node stay in it and are resolved by themselves. -/
theorem exists_getElem?_resolveAll (succeeds : (resolveAll nodes).fault = none) {position : Nat}
    {node : Node} (here : nodes[position]? = some node) (filled : node.members ≠ []) :
    (resolveAll node.members).fault = none ∧
      ∃ after, (resolveAll nodes).state[position]? = some after ∧
        after.members = (resolveAll node.members).state := by
  obtain ⟨taken, now, kept⟩ : ∃ taken, (resolveScope nodes).state[position]? = some taken ∧
      taken.members = node.members := by
    rcases getElem?_resolveScope (fault_resolveScope succeeds) here with
      ⟨_, now⟩ | ⟨_, source, _, _, _, now⟩
    · exact ⟨node, now, rfl⟩
    · exact ⟨_, now, members_takeFrom filled source⟩
  obtain ⟨inside, reached⟩ := getElem?_resolveAll succeeds now
  obtain ⟨going, same⟩ := members_resolveInside inside
  rw [← kept]
  exact ⟨going, _, reached, same⟩

/-- The nodes in the node at a path, and at the empty path the nodes themselves. -/
def membersAt? : List Node → List Nat → Option (List Node)
  | nodes, [] => some nodes
  | nodes, position :: path => nodes[position]?.bind fun node => membersAt? node.members path

/-- Among no nodes there is only the empty path. -/
theorem membersAt?_nil_eq_some {path : List Nat} (found : membersAt? [] path = some nodes) :
    nodes = [] := by
  cases path with
  | nil => exact (Option.some.inj found).symm
  | cons position path => cases found

/-- What stands at a path among some nodes is resolved as it is alone. -/
theorem membersAt?_resolveAll {path : List Nat} {inside : List Node}
    (succeeds : (resolveAll nodes).fault = none) (found : membersAt? nodes path = some inside)
    (filled : inside ≠ []) :
    (resolveAll inside).fault = none ∧
      membersAt? (resolveAll nodes).state path = some (resolveAll inside).state := by
  induction path generalizing nodes with
  | nil =>
    cases found
    exact ⟨succeeds, rfl⟩
  | cons position path ih =>
    obtain ⟨node, here, deeper⟩ := Option.bind_eq_some_iff.mp found
    -- a node on the way is not empty, so its nodes are its own and not those of a source
    have own : node.members ≠ [] := fun empty => by
      rw [empty] at deeper
      exact filled (membersAt?_nil_eq_some deeper)
    obtain ⟨going, after, now, members⟩ := exists_getElem?_resolveAll succeeds here own
    rw [membersAt?, now, Option.bind_some, members]
    exact ih going deeper

end Node

/-! ## Peripherals -/

namespace Peripheral

variable {p : Peripheral}

/-- A peripheral that has nodes keeps them when it takes from another. -/
theorem nodes_takeFrom (filled : p.nodes ≠ []) (source : Peripheral) :
    (takeFrom p source).nodes = p.nodes := by
  cases derived : Derivable.derivedFrom p with
  | none => rw [takeFrom_of_free derived]
  | some reference =>
    rw [takeFrom_of_derived derived]
    exact congrArg (·.getD []) (inheritOptionalList_of_ne_nil filled source.registers)

/-- The registers of a peripheral become what they do when they are resolved by themselves. -/
theorem registers_resolve (p : Peripheral) :
    p.resolve.state.registers = p.registers.map fun nodes => (Node.resolveAll nodes).state := by
  cases own : p.registers with
  | none => rw [resolve_of_no_registers own, own, Option.map_none]
  | some nodes => rw [resolve_of_registers own]; rfl

/-- The nodes of a peripheral are resolved by themselves, and without a fault if the peripheral
is. -/
theorem nodes_resolve (succeeds : p.resolve.fault = none) :
    (Node.resolveAll p.nodes).fault = none ∧
      p.resolve.state.nodes = (Node.resolveAll p.nodes).state := by
  rw [nodes, nodes, registers_resolve]
  cases own : p.registers with
  | none => exact ⟨rfl, rfl⟩
  | some nodes =>
    rw [resolve_of_registers own] at succeeds
    exact ⟨succeeds, rfl⟩

end Peripheral

/-! ## Devices -/

namespace Device

variable {d : Device}

/-- A peripheral that is resolved among the others is resolved inside after that. -/
theorem getElem?_resolve (succeeds : d.resolve.fault = none) {position : Nat} {p : Peripheral}
    (here : (resolveScope d.peripherals).state[position]? = some p) :
    p.resolve.fault = none ∧ d.resolve.state.peripherals[position]? = some p.resolve.state := by
  obtain ⟨_, each, reached⟩ := peripherals_resolve succeeds
  refine ⟨each p (List.mem_of_getElem? here), ?_⟩
  rw [reached, List.getElem?_map, here, Option.map_some]

/-- Nodes that are in a peripheral stay in it and are resolved by themselves. -/
theorem exists_getElem?_resolve (succeeds : d.resolve.fault = none) {position : Nat}
    {p : Peripheral} (here : d.peripherals[position]? = some p) (filled : p.nodes ≠ []) :
    (Node.resolveAll p.nodes).fault = none ∧
      ∃ after, d.resolve.state.peripherals[position]? = some after ∧
        after.nodes = (Node.resolveAll p.nodes).state := by
  obtain ⟨taken, now, kept⟩ : ∃ taken, (resolveScope d.peripherals).state[position]? = some taken ∧
      taken.nodes = p.nodes := by
    rcases getElem?_resolveScope (peripherals_resolve succeeds).1 here with
      ⟨_, now⟩ | ⟨_, source, _, _, _, now⟩
    · exact ⟨p, now, rfl⟩
    · exact ⟨_, now, Peripheral.nodes_takeFrom filled source⟩
  obtain ⟨inside, reached⟩ := getElem?_resolve succeeds now
  obtain ⟨going, same⟩ := Peripheral.nodes_resolve inside
  rw [← kept]
  exact ⟨going, _, reached, same⟩

/-- The nodes at a path in a device. -/
def nodesAt? (d : Device) : List Nat → Option (List Node)
  | [] => none
  | position :: path => d.peripherals[position]?.bind fun p => Node.membersAt? p.nodes path

/-- **Nodes are resolved where they are.** What stands at a path in a device is resolved as it is
alone. -/
theorem nodesAt?_resolve {path : List Nat} {nodes : List Node} (succeeds : d.resolve.fault = none)
    (found : d.nodesAt? path = some nodes) (filled : nodes ≠ []) :
    (Node.resolveAll nodes).fault = none ∧
      d.resolve.state.nodesAt? path = some (Node.resolveAll nodes).state := by
  cases path with
  | nil => cases found
  | cons position path =>
    obtain ⟨p, here, deeper⟩ := Option.bind_eq_some_iff.mp found
    have own : p.nodes ≠ [] := fun empty => by
      rw [empty] at deeper
      exact filled (Node.membersAt?_nil_eq_some deeper)
    obtain ⟨going, after, now, same⟩ := exists_getElem?_resolve succeeds here own
    rw [nodesAt?, now, Option.bind_some, same]
    exact Node.membersAt?_resolveAll going deeper filled

end Device

end RegisterMap
