import RegisterMap.Proofs.Emit.Addresses
import RegisterMap.Proofs.Emit.Faults

/-!
# What can be emitted without groups

Whether a register is supported is decided deep inside the emission, each time between two pieces
of code, and what else is emitted there depends on the switches. All the same nothing but the
registers decides: once every field has a bit, the fault of a node is the first among those of the
registers in it (`Node.faultOf_items`), whatever is around them and whatever is emitted for them.
So without groups a device is refused for its first register that is not supported
(`Device.emit_ungrouped_iff`). With groups this is not so, since the registers of a group are not
those of the device in order.
-/

namespace RegisterMap

/-! ## Registers -/

/-- What is emitted for a register once its word is known is never refused. -/
theorem Register.faultOf_items {r : Register} (ascending : r.Ranges BitRange.Ascending)
    (options : EmitOptions) (address : Nat) :
    faultOf (r.items options address) = faultOf r.wordType := by
  refine faultOf_bind_left fun word _ => ?_
  obtain ⟨wrapper, made⟩ := exists_wrapperItems ascending options word
  rw [made]
  rfl

/-! ## The first register that is not supported -/

/-- What the first of some registers that is not supported is refused for. -/
def firstRefusal (registers : List Register) : Option Fault :=
  registers.findSome? fun r => faultOf r.wordType

section FirstRefusal

variable {registers : List Register}

/-- The first refusal is among the front registers, if there is one, or else among those behind. -/
theorem firstRefusal_append (front back : List Register) :
    firstRefusal (front ++ back) = (firstRefusal front).or (firstRefusal back) :=
  List.findSome?_append

/-- Nothing is refused exactly if all registers are supported. -/
theorem firstRefusal_eq_none :
    firstRefusal registers = none ↔ ∀ r ∈ registers, r.Supported := by
  simp only [firstRefusal, List.findSome?_eq_none_iff, Register.faultOf_wordType_eq_none]

/-- What is refused is the first register that is not supported. -/
theorem firstRefusal_eq_some {fault : Fault} :
    firstRefusal registers = some fault ↔ ∃ before r after feature,
      registers = before ++ r :: after ∧ (∀ s ∈ before, s.Supported) ∧ r.RefusedFor feature ∧
        fault = .unsupported feature := by
  simp only [firstRefusal, List.findSome?_eq_some_iff, Register.faultOf_wordType_eq_none,
    Register.faultOf_wordType_eq_some]
  constructor
  · rintro ⟨before, r, after, split, ⟨feature, refused, same⟩, supported⟩
    exact ⟨before, r, after, feature, split, supported, refused, same⟩
  · rintro ⟨before, r, after, feature, split, supported, refused, same⟩
    exact ⟨before, r, after, split, ⟨feature, refused, same⟩, supported⟩

/-- When the registers decide for each of several things, they decide for all of them. -/
theorem faultOf_itemsOfEach {α : Type} {items : α → Except Fault (List Item)} {things : List α}
    {registersOf : α → List Register}
    (each : ∀ thing ∈ things, faultOf (items thing) = firstRefusal (registersOf thing)) :
    faultOf (itemsOfEach items things) = firstRefusal (things.flatMap registersOf) := by
  induction things with
  | nil => rfl
  | cons thing rest ih =>
    obtain ⟨own, others⟩ := List.forall_mem_cons.mp each
    rw [List.flatMap_cons, firstRefusal_append, ← own, ← ih others, itemsOfEach]
    exact faultOf_then fun _ _ => faultOf_bind_left fun _ _ => rfl

end FirstRefusal

/-! ## Nodes -/

namespace Node

mutual

/-- **The registers alone decide.** The fault of a node is the first of its registers, at every
depth. -/
theorem faultOf_items (options : EmitOptions) : ∀ (base : Nat) (node : Node),
    node.Ranges BitRange.Ascending →
      faultOf (node.items options base) = firstRefusal node.registers
  | base, .register r, ascending => by
    rw [items, registers, firstRefusal, List.findSome?_singleton]
    exact Register.faultOf_items (ranges_register.mp ascending) options _
  | base, .cluster c members, ascending => by
    rw [items, registers, ← faultOf_itemsOfAll options (base + c.addressOffset) members
      (ranges_cluster.mp ascending)]
    exact faultOf_bind_left fun _ _ => rfl

/-- The fault of nodes is the first refusal among the registers in them. -/
theorem faultOf_itemsOfAll (options : EmitOptions) : ∀ (base : Nat) (nodes : List Node),
    (∀ node ∈ nodes, node.Ranges BitRange.Ascending) →
      faultOf (itemsOfAll options base nodes) = firstRefusal (registersOfAll nodes)
  | base, [], _ => rfl
  | base, node :: rest, ascending => by
    obtain ⟨own, others⟩ := List.forall_mem_cons.mp ascending
    rw [registersOfAll, firstRefusal_append, ← faultOf_items options base node own,
      ← faultOf_itemsOfAll options base rest others, itemsOfAll]
    exact faultOf_then fun _ _ => faultOf_bind_left fun _ _ => rfl

end

end Node

/-! ## Devices -/

/-- The fault of a peripheral is the first refusal among its registers. -/
theorem NamedPeripheral.faultOf_items {named : NamedPeripheral}
    (ascending : named.member.peripheral.Ranges BitRange.Ascending) (options : EmitOptions) :
    faultOf (named.items options) = firstRefusal named.member.peripheral.allRegisters := by
  have nodes := Node.faultOf_itemsOfAll options named.member.peripheral.baseAddress _ ascending
  rw [Peripheral.allRegisters, ← nodes]
  exact faultOf_bind_left fun _ _ => rfl

namespace Device

variable {d : Device} {options : EmitOptions}

/-- Without groups the peripherals are emitted one by one, in order. -/
theorem arrangement_ungrouped (separate : options.groupPeripherals = false) :
    (d.arrangement options).groups = [] ∧
      (d.arrangement options).individuals.map (·.member.peripheral) = d.peripherals := by
  have arranged : d.arrangement options = Arrangement.separate d.takenNames d.peripherals := by
    rw [arrangement, if_neg (by rw [separate]; exact Bool.false_ne_true)]
  have named := congrArg (List.map Prod.fst)
    (Arrangement.individuals_separate d.takenNames d.peripherals)
  rw [List.map_map, List.map_fst_zip (by rw [length_uniqueNames, List.length_map])] at named
  rw [arranged]
  exact ⟨rfl, named⟩

/-- The fault of a device is that of the first of its registers. -/
theorem faultOf_emit (separate : options.groupPeripherals = false)
    (ascending : d.Ranges BitRange.Ascending) :
    faultOf (d.emit options) = firstRefusal d.allRegisters := by
  obtain ⟨noGroups, inOrder⟩ := arrangement_ungrouped (d := d) separate
  have individuals :
      faultOf (itemsOfEach (NamedPeripheral.items options) (d.arrangement options).individuals) =
        firstRefusal d.allRegisters := by
    rw [faultOf_itemsOfEach fun named mem =>
      NamedPeripheral.faultOf_items (ascending _ (mem_of_mem_individuals mem)) options,
      allRegisters, ← inOrder, List.flatMap_map]
  rw [emit, faultOf_map, ← individuals, items, noGroups]
  exact faultOf_then fun _ _ => faultOf_bind_left fun _ _ => rfl

/-- **What a device is refused for without groups.** A device whose fields have bits is emitted
exactly when every register is supported, at every depth, and otherwise it is refused for the first
that is not. -/
theorem emit_ungrouped_iff (separate : options.groupPeripherals = false)
    (ascending : d.Ranges BitRange.Ascending) :
    ((∃ text, d.emit options = .ok text) ↔ ∀ r ∈ d.allRegisters, r.Supported) ∧
    ∀ fault, d.emit options = .error fault ↔ ∃ before r after feature,
      d.allRegisters = before ++ r :: after ∧ (∀ s ∈ before, s.Supported) ∧ r.RefusedFor feature ∧
        fault = .unsupported feature := by
  rw [← faultOf_eq_none, faultOf_emit separate ascending, firstRefusal_eq_none]
  refine ⟨Iff.rfl, fun fault => ?_⟩
  rw [← faultOf_eq_some, faultOf_emit separate ascending, firstRefusal_eq_some]

/-- A register whose second field ends beyond it. -/
def strayData : Register where
  name := "DR"
  addressOffset := 0
  properties := { size := some 16 }
  fields := some [{ name := "LOW", bitRange := ⟨0, 7⟩ }, { name := "STRAY", bitRange := ⟨8, 16⟩ }]

/-- A device with three registers. The first is supported, the second is in a cluster and has a
field beyond its end, and the third has a size that is not supported. -/
def withStrayField : Device where
  name := "DEV"
  version := "1"
  description := "a device"
  addressUnitBits := 8
  width := 32
  peripherals :=
    [innerStatus,
      { name := "ADC"
        baseAddress := 0x40010000
        registers := some
          [.cluster { name := "CH", addressOffset := 0x100 } [.register strayData],
            .register { name := "CR", addressOffset := 4, properties := { size := some 24 } }] }]

/-- A field in a cluster ends beyond its register, and a register behind it has a size that is not
supported. -/
theorem emit_ungrouped_iff_withStrayField :
    withStrayField.Ranges BitRange.Ascending ∧
      withStrayField.emit { groupPeripherals := false, withFields := false } =
        .error (.unsupported (.fieldOutside "DR" "STRAY" 16 8 16)) := by
  have ascending : withStrayField.Ranges BitRange.Ascending := by
    have each : ∀ r ∈ withStrayField.allRegisters, ∀ f ∈ r.fieldList,
        f.bitRange.lsb ≤ f.bitRange.msb := by decide
    exact ranges_iff.mpr each
  have fields : strayData.fieldList = [{ name := "LOW", bitRange := ⟨0, 7⟩ }] ++
      { name := "STRAY", bitRange := ⟨8, 16⟩ } :: [] := rfl
  have refused : strayData.RefusedFor (.fieldOutside "DR" "STRAY" 16 8 16) :=
    .field (by decide) fields (by decide) (by decide)
  refine ⟨ascending, ((emit_ungrouped_iff rfl ascending).2 _).mpr
    ⟨[_], strayData, [_], _, rfl, ?_, refused, rfl⟩⟩
  rintro s mem
  rw [List.mem_singleton.mp mem]
  exact ⟨by decide, by decide⟩

end Device

end RegisterMap
