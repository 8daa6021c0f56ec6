import RegisterMap.Proofs.Conversion
import RegisterMap.Proofs.Emit.Group

/-!
# Which registers of grouped peripherals are served

Peripherals in a group share the code of one of them. It serves every register that is
accessed like the one the group has for its name, and no other one
(`Device.convert_serves_shared`). Where the nodes of a member are similar to those of the first
member, that is every register which is the first of its name.

Peripherals are also put in one group because one is derived from another, whatever their
registers. Then a member may have registers that the group does not know
(`Device.not_forall_served`).
-/

namespace RegisterMap

/-! ## The modules of a device -/

namespace Device

/-- In the declarations of a device stands a module for each group, it has a constant for
each member, with the handle of its base address, and something holds of the member and the
module. -/
def InGroupModules (options : EmitOptions) (d : Device) (items : List Item)
    (holds : PeripheralGroup → Member → List Item → Prop) : Prop :=
  ∀ group ∈ (d.arrangement options).groups, ∃ inside body, Item.mod d.name inside ∈ items ∧
    Item.mod group.moduleName body ∈ inside ∧ group.IsModule options d.peripherals body ∧
    ∀ m ∈ group.members,
      Item.constant m.peripheral.name group.structName
        (Item.handleValue group.structName m.peripheral.baseAddress) ∈ body ∧ holds group m body

variable {d : Device} {options : EmitOptions} {items : List Item}

/-- What is emitted for a group stands in the module of the device. -/
theorem group_items_subset (emitted : d.items options = .ok items) :
    ∃ inside, Item.mod d.name inside ∈ items ∧ ∀ group ∈ (d.arrangement options).groups,
      ∃ part, group.items options d.peripherals = .ok part ∧ ∀ item ∈ part, item ∈ inside := by
  obtain ⟨groups, made, emitted⟩ := bind_eq_ok.mp emitted
  obtain ⟨individuals, _, same⟩ := bind_eq_ok.mp emitted
  cases same
  refine ⟨_, List.mem_append_right _ (List.mem_singleton_self _), fun group mem => ?_⟩
  obtain ⟨part, emitted⟩ := exists_items_of_itemsOfEach made group mem
  refine ⟨part, emitted, fun item memPart => ?_⟩
  have inGroups : item ∈ groups :=
    (mem_of_itemsOfEach made).mpr ⟨group, mem, part, emitted, memPart⟩
  simp only [List.mem_append, inGroups, or_true, true_or]

/-- What holds of every member in the module of its group holds in the declarations of a device. -/
theorem inGroupModules_of_items (emitted : d.items options = .ok items)
    {holds : PeripheralGroup → Member → List Item → Prop}
    (each : ∀ group body, group.IsModule options d.peripherals body → ∀ m ∈ group.members,
      holds group m body) : d.InGroupModules options items holds := by
  obtain ⟨inside, memInside, groups⟩ := group_items_subset emitted
  intro group mem
  obtain ⟨part, made, subset⟩ := groups group mem
  obtain ⟨body, memPart⟩ := PeripheralGroup.exists_isModule made
  have isModule : group.IsModule options d.peripherals body := ⟨part, made, memPart⟩
  exact ⟨inside, body, memInside, subset _ memPart, isModule, fun m memM =>
    ⟨isModule.constant_mem memM, each group body isModule m memM⟩⟩

/-- What a successful conversion gives is the text of the declarations of the device that it
leaves. -/
theorem emitted_of_convert {complete : Device} {text : String}
    (left : (d.convert options).device = complete)
    (succeeds : (d.convert options).outcome = .ok text) :
    ∃ items, complete.items options = .ok items ∧ text = Item.text items := by
  cases stopped : d.resolve.fault with
  | some fault =>
    rw [(convert_of_fault_some stopped options).2] at succeeds
    cases succeeds
  | none =>
    obtain ⟨device, outcome⟩ := convert_of_fault_none stopped options
    rw [outcome, ← device, left] at succeeds
    obtain ⟨items, emitted, same⟩ := map_eq_ok.mp succeeds
    exact ⟨items, emitted, same.symm⟩

end Device

/-! ## Members of groups -/

/-- A module serves every register of a member of a group. -/
def ServesEach (group : PeripheralGroup) (m : Member) (body : List Item) : Prop :=
  ∀ r, Node.register r ∈ m.peripheral.nodes →
    Serves body group.structName m.peripheral.baseAddress r

/-- A module serves those registers of a member that are accessed like the register that the
group has for their name. If the nodes of the member are similar to those of the first one,
these are the first registers of each name. -/
structure ServesShared (options : EmitOptions) (peripherals : List Peripheral)
    (group : PeripheralGroup) (m : Member) (body : List Item) : Prop where
  iff : ∀ r, Node.register r ∈ m.peripheral.nodes →
    (Serves body group.structName m.peripheral.baseAddress r ↔
      ∃ s, group.shared? peripherals r.name = some s ∧ s.SameAccess r)
  ofSimilar : ∀ first, group.members.head? = some first →
    Node.allSimilar (!options.withFields) first.peripheral.nodes m.peripheral.nodes = true →
    ∀ r, registerNamed? m.peripheral.nodes r.name = some r →
      Serves body group.structName m.peripheral.baseAddress r

namespace Device

/-- **What grouping keeps.** In the code of a converted device, every member of a group has
its constant in the module of the group. The module serves a register of the member exactly
when the register that the group has for its name is accessed alike, and it serves the first
register of each name if the nodes of the member are similar to those of the first one. -/
theorem convert_serves_shared {d complete : Device} {options : EmitOptions} {text : String}
    (left : (d.convert options).device = complete)
    (succeeds : (d.convert options).outcome = .ok text) :
    ∃ items, complete.items options = .ok items ∧ text = Item.text items ∧
      complete.InGroupModules options items (ServesShared options complete.peripherals) := by
  obtain ⟨items, emitted, rfl⟩ := emitted_of_convert left succeeds
  refine ⟨items, emitted, rfl, inGroupModules_of_items emitted fun group body isModule m _ => ?_⟩
  refine ⟨fun r _ => isModule.serves_iff, fun first leads similar r found => ?_⟩
  exact isModule.serves_iff.mpr
    (PeripheralGroup.exists_shared?_of_allSimilar leads similar found)

/-- A device with two peripherals, of which the second is derived from the first and has a
register of its own. -/
def withOwnRegister : Device where
  name := "DEV"
  version := "1"
  description := "a device"
  addressUnitBits := 8
  width := 32
  peripherals :=
    [{ name := "P0", baseAddress := 0x100
       registers := some [.register { name := "X", addressOffset := 0 }] },
     { name := "P1", baseAddress := 0x200, derivedFrom := some "P0"
       registers := some [.register { name := "Y", addressOffset := 4 }] }]

theorem exists_outcome_withOwnRegister :
    ∃ text, (withOwnRegister.convert {}).outcome = .ok text := by
  have succeeds : (withOwnRegister.convert {}).outcome.isOk = true := by decide +kernel
  cases outcome : (withOwnRegister.convert {}).outcome with
  | error fault =>
    rw [outcome] at succeeds
    cases succeeds
  | ok text => exact ⟨text, rfl⟩

/-- A derived peripheral has a register of its own, which the module of the group does not have. -/
theorem convert_serves_shared_withOwnRegister :
    ∃ text items, (withOwnRegister.convert {}).outcome = .ok text ∧ text = Item.text items ∧
      (withOwnRegister.convert {}).device.InGroupModules {} items
        (ServesShared {} (withOwnRegister.convert {}).device.peripherals) := by
  obtain ⟨text, outcome⟩ := exists_outcome_withOwnRegister
  obtain ⟨items, _, same, groups⟩ := convert_serves_shared rfl outcome
  exact ⟨text, items, outcome, same, groups⟩

/-- Not every register of every member of a group is served: the second peripheral of
`withOwnRegister` is in a group with the first one, and its register is not. -/
theorem not_forall_served :
    ¬ ∀ (d : Device) (options : EmitOptions) (text : String), options.groupPeripherals = true →
      (d.convert options).outcome = .ok text →
      ∃ items, (d.convert options).device.items options = .ok items ∧ text = Item.text items ∧
        (d.convert options).device.InGroupModules options items ServesEach := by
  intro claim
  have lost : (((withOwnRegister.convert {}).device.arrangement {}).groups.any fun group =>
      group.members.any fun m => (m.peripheral.nodes.filterMap Node.register?).any fun r =>
        (group.shared? (withOwnRegister.convert {}).device.peripherals r.name).isNone) = true := by
    decide +kernel
  simp only [List.any_eq_true] at lost
  obtain ⟨group, memGroup, m, memM, r, memR, lacks⟩ := lost
  obtain ⟨text, outcome⟩ := exists_outcome_withOwnRegister
  obtain ⟨items, _, _, groups⟩ := claim withOwnRegister {} text rfl outcome
  obtain ⟨_, body, _, _, isModule, each⟩ := groups group memGroup
  obtain ⟨node, memNode, own⟩ := List.mem_filterMap.mp memR
  have same : node = .register r := by
    cases node with
    | register _ => exact congrArg Node.register (Option.some.inj own)
    | cluster _ _ => cases own
  have serves := (each m memM).2 r (same ▸ memNode)
  obtain ⟨s, shared, _⟩ := isModule.serves_iff.mp serves
  rw [shared] at lacks
  cases lacks

end Device

end RegisterMap
