import RegisterMap.Proofs.Emit.Accessors
import RegisterMap.Proofs.Emit.Collected
import RegisterMap.Proofs.Grouping.Peripherals
import RegisterMap.Proofs.Registers

/-!
# The faults of emission

A mask cannot be made for a field without bits, and the body of an accessor asks for a mask
wherever one is emitted. For a register whose fields have bits no mask is refused, so the type
of the register can be emitted (`Register.exists_wrapperItems`), and what is left to fail is a
part of the description for which the code has no form.
-/

namespace RegisterMap

/-- The faults that emission has for valid ranges. -/
inductive Fault.OfEmission : Fault → Prop
  | unsupported (feature : Feature) : OfEmission (.unsupported feature)

attribute [simp] Fault.OfEmission.unsupported

/-- The emission of several things has the faults that the emission of one has. -/
theorem faultsOnly_itemsOfEach {α : Type} {kind : Fault → Prop}
    {items : α → Except Fault (List Item)} {things : List α}
    (each : ∀ thing ∈ things, FaultsOnly kind (items thing)) :
    FaultsOnly kind (itemsOfEach items things) := by
  induction things with
  | nil => exact faultsOnly_ok
  | cons thing rest ih =>
    obtain ⟨own, others⟩ := List.forall_mem_cons.mp each
    simp [itemsOfEach, own, ih others]

/-! ## Registers -/

/-- A size that is no size of a word is a fault of emission. -/
@[simp]
theorem faultsOnly_storageType (size : Int) : FaultsOnly Fault.OfEmission (storageType size) := by
  unfold storageType
  repeat' split
  all_goals simp

namespace Register

variable {r : Register}

@[simp]
theorem faultsOnly_wordType (r : Register) : FaultsOnly Fault.OfEmission r.wordType := by
  refine faultsOnly_bind.mpr ⟨faultsOnly_storageType _, fun word _ => ?_⟩
  split <;> simp

/-- Fields whose ranges begin below their ends have at least one bit. -/
theorem one_le_width (ascending : r.Ranges BitRange.Ascending) :
    ∀ f ∈ r.fieldList, 1 ≤ f.width := by
  intro f mem
  have own : f.bitRange.lsb ≤ f.bitRange.msb := ascending f mem
  rw [Field.width, BitRange.width]
  omega

/-- No mask is refused for a register whose fields have bits. -/
theorem exists_wrapperItems (ascending : r.Ranges BitRange.Ascending) (options : EmitOptions)
    (word : String) : ∃ wrapper, r.wrapperItems options word = .ok wrapper := by
  cases wrapped : r.isWrapped options with
  | false => exact ⟨[], by rw [wrapperItems, wrapped]; rfl⟩
  | true =>
    rw [exists_wrapperItems_iff wrapped, forall_accessors_one_le]
    exact one_le_width ascending

/-- The type of a register can be emitted if the ranges of its fields are valid, so it has no faults
at all. -/
theorem faultsOnly_wrapperItems (valid : r.Ranges BitRange.Valid) (options : EmitOptions)
    (word : String) : FaultsOnly Fault.OfEmission (r.wrapperItems options word) := by
  obtain ⟨wrapper, made⟩ := exists_wrapperItems (fun f mem => (valid f mem).lsb_le) options word
  rw [made]
  exact faultsOnly_ok

/-- A register with valid ranges has no other faults at an address. -/
theorem faultsOnly_items (valid : r.Ranges BitRange.Valid) (options : EmitOptions)
    (address : Nat) : FaultsOnly Fault.OfEmission (r.items options address) := by
  simp [items, faultsOnly_wrapperItems valid]

/-- A register with valid ranges has no other faults in a group. -/
theorem faultsOnly_handleItems (valid : r.Ranges BitRange.Valid) (options : EmitOptions)
    (structName : String) : FaultsOnly Fault.OfEmission (r.handleItems options structName) := by
  simp [handleItems, faultsOnly_wrapperItems valid]

end Register

/-! ## Nodes -/

mutual

/-- A node with valid ranges has no other faults. -/
theorem Node.faultsOnly_items (options : EmitOptions) : ∀ (base : Nat) (node : Node),
    node.Ranges BitRange.Valid → FaultsOnly Fault.OfEmission (node.items options base)
  | base, .register r, valid => by
    rw [items]
    exact Register.faultsOnly_items (ranges_register.mp valid) options _
  | base, .cluster c members, valid => by
    have inside := faultsOnly_itemsOfAll options (base + c.addressOffset) members
      (ranges_cluster.mp valid)
    simp [items, inside]

/-- Nodes with valid ranges have no other faults. -/
theorem Node.faultsOnly_itemsOfAll (options : EmitOptions) : ∀ (base : Nat) (nodes : List Node),
    (∀ node ∈ nodes, node.Ranges BitRange.Valid) →
      FaultsOnly Fault.OfEmission (itemsOfAll options base nodes)
  | base, [], _ => faultsOnly_ok
  | base, node :: rest, valid => by
    obtain ⟨own, others⟩ := List.forall_mem_cons.mp valid
    have first := faultsOnly_items options base node own
    have later := faultsOnly_itemsOfAll options base rest others
    simp [itemsOfAll, first, later]

end

/-! ## Groups of peripherals -/

/-- A cluster among the nodes of a group is a fault of emission, and there is no other. -/
@[simp]
theorem faultsOnly_collectRegisters (group : String) (known : List String) (nodes : List Node) :
    FaultsOnly Fault.OfEmission (collectRegisters group known nodes) := by
  induction nodes generalizing known with
  | nil => exact faultsOnly_ok
  | cons node rest ih =>
    cases node with
    | cluster c members => exact faultsOnly_error.mpr (.unsupported _)
    | register r =>
      rw [collectRegisters]
      split <;> simp [ih]

/-- A group of peripherals with valid ranges has no other faults. -/
theorem PeripheralGroup.faultsOnly_items {peripherals : List Peripheral} {group : PeripheralGroup}
    (members : ∀ m ∈ group.members, m.peripheral ∈ peripherals)
    (valid : ∀ p ∈ peripherals, p.Ranges BitRange.Valid) (options : EmitOptions) :
    FaultsOnly Fault.OfEmission (group.items options peripherals) := by
  refine faultsOnly_bind.mpr
    ⟨faultsOnly_collectRegisters _ _ _, fun registers collected => ?_⟩
  have each : ∀ r ∈ registers,
      FaultsOnly Fault.OfEmission (r.handleItems options group.structName) := by
    intro r mem
    obtain ⟨p, memP, memNode⟩ := exists_of_mem_registers members collected mem
    exact Register.faultsOnly_handleItems (Node.ranges_register.mp (valid p memP _ memNode)) _ _
  simp [faultsOnly_itemsOfEach each]

/-! ## Devices -/

/-- A peripheral with valid ranges has no other faults. -/
theorem NamedPeripheral.faultsOnly_items {named : NamedPeripheral}
    (valid : named.member.peripheral.Ranges BitRange.Valid) (options : EmitOptions) :
    FaultsOnly Fault.OfEmission (named.items options) := by
  have inside := Node.faultsOnly_itemsOfAll options named.member.peripheral.baseAddress _ valid
  simp [items, inside]

/-- **A device with valid ranges that cannot be emitted** has a part for which the code has no
form. -/
theorem Device.faultsOnly_emit {d : Device} (valid : d.Ranges BitRange.Valid)
    (options : EmitOptions) : FaultsOnly Fault.OfEmission (d.emit options) := by
  have groups : FaultsOnly Fault.OfEmission
      (itemsOfEach (PeripheralGroup.items options d.peripherals) (d.arrangement options).groups) :=
    faultsOnly_itemsOfEach fun group mem =>
      PeripheralGroup.faultsOnly_items (mem_of_mem_group mem) valid options
  have individuals : FaultsOnly Fault.OfEmission
      (itemsOfEach (NamedPeripheral.items options) (d.arrangement options).individuals) :=
    faultsOnly_itemsOfEach fun named mem =>
      NamedPeripheral.faultsOnly_items (valid _ (mem_of_mem_individuals mem)) options
  simp [emit, items, groups, individuals]

end RegisterMap
