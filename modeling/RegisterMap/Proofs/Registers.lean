import RegisterMap.Proofs.Conversion
import RegisterMap.Proofs.Fault
import RegisterMap.Reading.Device

/-!
# The registers of a device and the ranges of their fields

A register may be in clusters, and the clusters in further ones. `Device.allRegisters` has the
registers at every depth, in order.

The range of a field is its own: it is not taken from a sibling, and resolving references or
taking properties from above moves whole lists of fields at most. So what holds of the range of
every field of a device holds of those in the device that a conversion leaves
(`Device.ranges_convert`). A device that was read has valid ranges
(`Device.valid_of_ofElement`).
-/

namespace RegisterMap

open Derivable Progress

/-! ## Registers at every depth -/

namespace Node

mutual

/-- The registers in a node, at every depth. -/
def registers : Node → List Register
  | .register r => [r]
  | .cluster _ members => registersOfAll members

/-- The registers in some nodes, at every depth. -/
def registersOfAll : List Node → List Register
  | [] => []
  | node :: rest => node.registers ++ registersOfAll rest

end

/-- A register in some nodes is in one of them. -/
theorem mem_registersOfAll {nodes : List Node} {r : Register} :
    r ∈ registersOfAll nodes ↔ ∃ node ∈ nodes, r ∈ node.registers := by
  induction nodes with
  | nil => simp only [registersOfAll, List.not_mem_nil, false_and, exists_false]
  | cons node rest ih =>
    simp only [registersOfAll, List.mem_append, ih, List.mem_cons, or_and_right, exists_or,
      exists_eq_left]

end Node

/-- The registers of a peripheral, at every depth. -/
def Peripheral.allRegisters (p : Peripheral) : List Register := Node.registersOfAll p.nodes

/-- The registers of a device, at every depth. -/
def Device.allRegisters (d : Device) : List Register :=
  d.peripherals.flatMap Peripheral.allRegisters

/-! ## What holds of every range -/

section Ranges

variable {holds : BitRange → Prop}

/-- Something holds of the range of every field of a register. -/
def Register.Ranges (holds : BitRange → Prop) (r : Register) : Prop :=
  ∀ f ∈ r.fieldList, holds f.bitRange

/-- Something holds of the range of every field in a node. -/
def Node.Ranges (holds : BitRange → Prop) (node : Node) : Prop :=
  ∀ r ∈ node.registers, r.Ranges holds

/-- Something holds of the range of every field in a peripheral. -/
def Peripheral.Ranges (holds : BitRange → Prop) (p : Peripheral) : Prop :=
  ∀ node ∈ p.nodes, node.Ranges holds

/-- Something holds of the range of every field in a device. -/
def Device.Ranges (holds : BitRange → Prop) (d : Device) : Prop :=
  ∀ p ∈ d.peripherals, p.Ranges holds

/-- What holds of all ranges in a device holds of those in its registers, at any depth. -/
theorem Device.ranges_iff {d : Device} :
    d.Ranges holds ↔ ∀ r ∈ d.allRegisters, r.Ranges holds := by
  simp only [Device.Ranges, Peripheral.Ranges, Node.Ranges, Device.allRegisters,
    Peripheral.allRegisters, List.mem_flatMap, Node.mem_registersOfAll]
  constructor
  · rintro all r ⟨p, memP, node, memNode, mem⟩
    exact all p memP node memNode r mem
  · intro all p memP node memNode r mem
    exact all r ⟨p, memP, node, memNode, mem⟩

@[simp]
theorem Node.ranges_register {r : Register} :
    (Node.register r).Ranges holds ↔ r.Ranges holds := by
  simp only [Node.Ranges, Node.registers, List.mem_singleton, forall_eq]

@[simp]
theorem Node.ranges_cluster {c : Cluster} {members : List Node} :
    (Node.cluster c members).Ranges holds ↔ ∀ node ∈ members, node.Ranges holds := by
  simp only [Node.Ranges, Node.registers, Node.mem_registersOfAll]
  constructor
  · intro all node memNode r mem
    exact all r ⟨node, memNode, mem⟩
  · rintro all r ⟨node, memNode, mem⟩
    exact all node memNode r mem

/-! ## Taking members from a sibling -/

/-- What is in a list that was inherited or not is in one of the two. -/
theorem mem_inheritList {α : Type} {own other : List α} {item : α}
    (mem : item ∈ inheritList own other) : item ∈ own ∨ item ∈ other := by
  cases own with
  | nil => exact .inr mem
  | cons _ _ => exact .inl mem

/-- The same of lists that may be absent. -/
theorem mem_inheritOptionalList {α : Type} {own other : Option (List α)} {item : α}
    (mem : item ∈ (inheritOptionalList own other).getD []) :
    item ∈ own.getD [] ∨ item ∈ other.getD [] := by
  rcases own with _ | _ | ⟨first, rest⟩
  · exact .inr mem
  · exact .inr mem
  · exact .inl mem

/-- A field does not take a range. -/
theorem Field.bitRange_takeFrom (f source : Field) : (takeFrom f source).bitRange = f.bitRange := by
  cases derived : Derivable.derivedFrom f with
  | none => rw [takeFrom_of_free derived]
  | some reference =>
    rw [takeFrom_of_derived derived]
    rfl

/-- What holds of the ranges in two nodes holds of those in the one that takes from the other. -/
theorem Node.ranges_takeFrom (node source : Node) (own : node.Ranges holds)
    (other : source.Ranges holds) : (takeFrom node source).Ranges holds := by
  cases derived : Derivable.derivedFrom node with
  | none =>
    rw [takeFrom_of_free derived]
    exact own
  | some reference =>
    rw [takeFrom_of_derived derived]
    cases node with
    | register r =>
      cases source with
      | register s =>
        refine Node.ranges_register.mpr fun f mem => ?_
        rcases mem_inheritOptionalList mem with memOwn | memOther
        · exact Node.ranges_register.mp own f memOwn
        · exact Node.ranges_register.mp other f memOther
      | cluster _ _ =>
        -- a source of another kind gives nothing
        have fields := Node.ranges_register.mp own
        exact Node.ranges_register.mpr fields
    | cluster c members =>
      cases source with
      | register _ => exact Node.ranges_cluster.mpr (Node.ranges_cluster.mp own)
      | cluster s others =>
        refine Node.ranges_cluster.mpr fun node mem => ?_
        rcases mem_inheritList mem with memOwn | memOther
        · exact Node.ranges_cluster.mp own node memOwn
        · exact Node.ranges_cluster.mp other node memOther

/-- What holds of the ranges in two peripherals holds of those in the one that takes from the
other. -/
theorem Peripheral.ranges_takeFrom (p source : Peripheral) (own : p.Ranges holds)
    (other : source.Ranges holds) : (takeFrom p source).Ranges holds := by
  cases derived : Derivable.derivedFrom p with
  | none =>
    rw [takeFrom_of_free derived]
    exact own
  | some reference =>
    rw [takeFrom_of_derived derived]
    intro node mem
    rcases mem_inheritOptionalList mem with memOwn | memOther
    · exact own node memOwn
    · exact other node memOther

/-! ## Resolving references -/

/-- Resolving the fields of a register changes no range. -/
theorem Register.ranges_resolve {r : Register} (before : r.Ranges holds) :
    r.resolve.state.Ranges holds := by
  cases own : r.fields with
  | none =>
    rw [resolve_of_no_fields own]
    exact before
  | some fields =>
    rw [resolve_of_fields own]
    have inside : ∀ f ∈ fields, holds f.bitRange := by
      intro f mem
      exact before f (by rwa [fieldList, own])
    refine resolveScope_keeps (fun f source ofField _ => ?_) inside
    rw [Field.bitRange_takeFrom]
    exact ofField

/-- Resolving nodes brings no range that was not there. -/
theorem Node.ranges_resolveLevels (levels : Nat) {nodes : List Node}
    (before : ∀ node ∈ nodes, node.Ranges holds) :
    ∀ node ∈ (resolveLevels levels nodes).state, node.Ranges holds := by
  induction levels generalizing nodes with
  | zero => exact before
  | succ levels ih =>
    rw [resolveLevels]
    refine andThen_keeps (fun state : List Node => ∀ node ∈ state, node.Ranges holds)
      (resolveScope_keeps ranges_takeFrom before) fun state each => ?_
    refine forEach_keeps each fun node mem => ?_
    cases node with
    | register r =>
      exact ranges_register.mpr (Register.ranges_resolve (ranges_register.mp (each _ mem)))
    | cluster c members => exact ranges_cluster.mpr (ih (ranges_cluster.mp (each _ mem)))

/-- Resolving the registers of a peripheral brings no range that was not there. -/
theorem Peripheral.ranges_resolve {p : Peripheral} (before : p.Ranges holds) :
    p.resolve.state.Ranges holds := by
  cases own : p.registers with
  | none =>
    rw [resolve_of_no_registers own]
    exact before
  | some nodes =>
    rw [resolve_of_registers own]
    refine Node.ranges_resolveLevels _ fun node mem => ?_
    exact before node (by rwa [Peripheral.nodes, own])

/-- Resolving a device brings no range that was not there. -/
theorem Device.ranges_resolve {d : Device} (before : d.Ranges holds) :
    d.resolve.state.Ranges holds :=
  andThen_keeps (fun peripherals : List Peripheral => ∀ p ∈ peripherals, p.Ranges holds)
    (resolveScope_keeps Peripheral.ranges_takeFrom before)
    fun _ each => forEach_keeps each fun p mem => Peripheral.ranges_resolve (each p mem)

/-! ## Taking properties from above -/

mutual

/-- Taking properties from above changes no range in a node. -/
theorem Node.ranges_cascade : ∀ (node : Node) (around : RegisterProperties),
    node.Ranges holds → (node.cascade around).Ranges holds
  | .register r, around, before => by
    have fields := ranges_register.mp before
    rw [cascade]
    exact ranges_register.mpr fields
  | .cluster c members, around, before => by
    rw [cascade]
    exact ranges_cluster.mpr
      (ranges_cascadeAll members (c.properties.fill around) (ranges_cluster.mp before))

/-- Taking properties from above changes no range in nodes. -/
theorem Node.ranges_cascadeAll : ∀ (nodes : List Node) (around : RegisterProperties),
    (∀ node ∈ nodes, node.Ranges holds) → ∀ node ∈ cascadeAll around nodes, node.Ranges holds
  | [], _, before => before
  | node :: rest, around, before => by
    obtain ⟨first, later⟩ := List.forall_mem_cons.mp before
    rw [cascadeAll]
    exact List.forall_mem_cons.mpr
      ⟨ranges_cascade node around first, ranges_cascadeAll rest around later⟩

end

/-- Taking properties from above changes no range in a device. -/
theorem Device.ranges_cascade {d : Device} (before : d.Ranges holds) : d.cascade.Ranges holds := by
  intro p mem node memNode
  obtain ⟨source, memSource, rfl⟩ := List.mem_map.mp mem
  rw [Peripheral.nodes_cascade] at memNode
  obtain ⟨inside, memInside, rfl⟩ := List.mem_map.mp memNode
  exact Node.ranges_cascade inside _ (before source memSource inside memInside)

/-- **A conversion keeps what holds of every range**, wherever it stops. -/
theorem Device.ranges_convert {d : Device} (before : d.Ranges holds) (options : EmitOptions) :
    (d.convert options).device.Ranges holds := by
  cases stopped : d.resolve.fault with
  | some fault =>
    rw [(convert_of_fault_some stopped options).1]
    exact ranges_resolve before
  | none =>
    rw [(convert_of_fault_none stopped options).1]
    exact ranges_cascade (ranges_resolve before)

end Ranges

/-! ## Reading -/

/-- A range has at least one bit. -/
def BitRange.Ascending (range : BitRange) : Prop := range.lsb ≤ range.msb

/-- A range that begins at a bit and has at least one. -/
structure BitRange.Valid (range : BitRange) : Prop where
  zero_le : 0 ≤ range.lsb
  lsb_le : range.lsb ≤ range.msb

/-- A range from a position and a width is valid. -/
theorem BitRange.valid_of_ofWidth {offset width : String} {range : BitRange}
    (read : ofWidth offset width = .ok range) : range.Valid := by
  obtain ⟨lsb, _, read⟩ := bind_eq_ok.mp read
  obtain ⟨bits, _, read⟩ := bind_eq_ok.mp read
  split at read
  · cases read
  · cases read
    constructor <;> simp only <;> omega

/-- A range from two positions is valid. -/
theorem BitRange.valid_of_ofEnds {msb lsb : Nat} {range : BitRange}
    (read : ofEnds msb lsb = .ok range) : range.Valid := by
  unfold ofEnds at read
  split at read
  · cases read
  · cases read
    constructor <;> simp only <;> omega

/-- Every way of giving a range gives a valid one. -/
theorem BitRange.valid_of_ofElement {e : Xml.Element} {range : BitRange}
    (read : ofElement e = .ok range) : range.Valid := by
  unfold ofElement at read
  split at read
  · exact valid_of_ofWidth read
  · split at read
    · obtain ⟨_, _, read⟩ := bind_eq_ok.mp read
      obtain ⟨_, _, read⟩ := bind_eq_ok.mp read
      exact valid_of_ofEnds read
    · split at read
      · cases read
      · split at read
        · cases read
        · exact valid_of_ofEnds read

/-! Of what a reader reads, these laws keep what leads to the ranges. -/

/-- The range of a field is what is read as one from its element. -/
theorem Field.ofElement_bitRange {e : Xml.Element} {f : Field} (read : ofElement e = .ok f) :
    BitRange.ofElement e = .ok f.bitRange := by
  simp only [ofElement, bind_eq_ok] at read
  obtain ⟨_, _, _, given, _, _, _, _, _, _, _, _, same⟩ := read
  cases same
  exact given

/-- The fields of a register are what is read as a list of them from its element. -/
theorem Register.ofElement_fields {e : Xml.Element} {r : Register} (read : ofElement e = .ok r) :
    Field.listOfElement e = .ok r.fields := by
  simp only [ofElement, bind_eq_ok] at read
  obtain ⟨_, _, _, _, _, _, _, listed, _, _, _, _, _, _, _, _, _, _, same⟩ := read
  cases same
  exact listed

/-- A cluster has the nodes that were read for it. -/
theorem Node.clusterOf_members {e : Xml.Element} {nodes : Except Fault (List Node)} {node : Node}
    (read : clusterOf e nodes = .ok node) :
    ∃ c members, nodes = .ok members ∧ node = .cluster c members := by
  simp only [clusterOf, bind_eq_ok] at read
  obtain ⟨_, _, _, _, _, _, members, inside, _, _, _, _, same⟩ := read
  cases same
  exact ⟨_, members, inside, rfl⟩

/-- The registers of a peripheral are what is read as a list of them from its element. -/
theorem Peripheral.ofElement_registers {e : Xml.Element} {p : Peripheral}
    (read : ofElement e = .ok p) : Node.listOfElement e = .ok p.registers := by
  simp only [ofElement, bind_eq_ok] at read
  obtain ⟨_, _, _, _, _, _, _, listed, _, _, _, _, _, _, _, _, same⟩ := read
  cases same
  exact listed

/-- The peripherals of a device are read one by one from its list of them. -/
theorem Device.ofElement_peripherals {e : Xml.Element} {d : Device} (read : ofElement e = .ok d) :
    ∃ list, peripheralList e = .ok list ∧
      (list.childrenTagged "peripheral").mapM Peripheral.ofElement = .ok d.peripherals := by
  simp only [ofElement, bind_eq_ok] at read
  obtain ⟨_, _, _, _, _, _, _, _, _, _, _, _, _, _, list, given, _, _, _, _, _, each, same⟩ := read
  cases same
  exact ⟨list, given, each⟩

/-- A register that was read has valid ranges. -/
theorem Register.valid_of_ofElement {e : Xml.Element} {r : Register} (read : ofElement e = .ok r) :
    r.Ranges BitRange.Valid := by
  have listed := ofElement_fields read
  unfold Field.listOfElement at listed
  split at listed
  · obtain ⟨list, each, own⟩ := map_eq_ok.mp listed
    intro f mem
    rw [fieldList, ← own] at mem
    obtain ⟨child, _, made⟩ := mem_of_mapM_eq_ok each f mem
    exact BitRange.valid_of_ofElement (Field.ofElement_bitRange made)
  · cases own : r.fields with
    | none => simp [Ranges, fieldList, own]
    | some fields =>
      rw [own] at listed
      cases listed

mutual

/-- A node that was read has valid ranges, at any depth. -/
theorem Node.valid_of_ofElement : ∀ (e : Xml.Element) {node : Node},
    ofElement e = .ok node → node.Ranges BitRange.Valid
  | ⟨tag, attributes, text, children⟩, node, read => by
    rw [ofElement] at read
    split at read
    · obtain ⟨r, made, rfl⟩ := map_eq_ok.mp read
      exact ranges_register.mpr (Register.valid_of_ofElement made)
    · split at read
      · obtain ⟨c, members, inside, rfl⟩ := clusterOf_members read
        exact ranges_cluster.mpr (valid_of_ofChildren children inside)
      · cases read

/-- Nodes that were read have valid ranges. -/
theorem Node.valid_of_ofChildren : ∀ (children : List Xml.Element) {nodes : List Node},
    ofChildren children = .ok nodes → ∀ node ∈ nodes, node.Ranges BitRange.Valid
  | [], nodes, read => by
    cases read
    exact fun _ mem => absurd mem List.not_mem_nil
  | e :: rest, nodes, read => by
    rw [ofChildren] at read
    split at read
    · obtain ⟨node, first, read⟩ := bind_eq_ok.mp read
      obtain ⟨others, later, same⟩ := bind_eq_ok.mp read
      cases same
      exact List.forall_mem_cons.mpr
        ⟨valid_of_ofElement e first, valid_of_ofChildren rest later⟩
    · exact valid_of_ofChildren rest read

end

/-- A peripheral that was read has valid ranges. -/
theorem Peripheral.valid_of_ofElement {e : Xml.Element} {p : Peripheral}
    (read : ofElement e = .ok p) : p.Ranges BitRange.Valid := by
  have listed := ofElement_registers read
  unfold Node.listOfElement at listed
  split at listed
  · obtain ⟨list, each, own⟩ := map_eq_ok.mp listed
    intro node mem
    rw [nodes, ← own] at mem
    obtain ⟨child, _, made⟩ := mem_of_mapM_eq_ok each node mem
    exact Node.valid_of_ofElement child made
  · cases own : p.registers with
    | none => simp [Ranges, nodes, own]
    | some nodes =>
      rw [own] at listed
      cases listed

/-- **A device that was read has valid ranges**, at every depth. -/
theorem Device.valid_of_ofElement {e : Xml.Element} {d : Device} (read : ofElement e = .ok d) :
    d.Ranges BitRange.Valid := by
  obtain ⟨list, _, each⟩ := ofElement_peripherals read
  intro p mem
  obtain ⟨child, _, made⟩ := mem_of_mapM_eq_ok each p mem
  exact Peripheral.valid_of_ofElement made

end RegisterMap
