import RegisterMap.Proofs.Emit.Group
import RegisterMap.Proofs.Emit.Interrupts
import RegisterMap.Proofs.Grouping.UniqueNames

/-!
# The modules in the module of a device

In the module of a device stand the modules of its groups, those of the individual peripherals and,
if a peripheral has an interrupt, that of the interrupts. The arrangement gives the first two their
names, with the name of the third taken beforehand, so the names of all of them are different
(`Device.emit_modules_differ`), whether or not peripherals are grouped.
-/

namespace RegisterMap

namespace Item

/-- The name of a module. -/
def moduleName? : Item → Option String
  | .mod name _ => some name
  | _ => none

/-- The names of the modules among some declarations. Those inside a module do not count. -/
def moduleNames (items : List Item) : List String := items.filterMap moduleName?

/-- The modules among declarations are those among the front ones and then those behind. -/
@[simp]
theorem moduleNames_append (front back : List Item) :
    moduleNames (front ++ back) = moduleNames front ++ moduleNames back :=
  List.filterMap_append

theorem moduleNames_eq_nil {items : List Item} (h : ∀ item ∈ items, item.moduleName? = none) :
    moduleNames items = [] :=
  List.filterMap_eq_nil_iff.mpr h

@[simp]
theorem moduleNames_docItems (options : EmitOptions) (description : Option String) :
    moduleNames (options.docItems description) = [] := by
  refine moduleNames_eq_nil fun item mem => ?_
  obtain ⟨_, rfl⟩ := eq_doc_of_mem_docItems mem
  rfl

theorem moduleNames_module (options : EmitOptions) (description : Option String) (name : String)
    (body : List Item) :
    moduleNames (options.docItems description ++ [.mod name body]) = [name] := by
  rw [moduleNames_append, moduleNames_docItems]
  rfl

/-- When each of several things is emitted as one module, their modules are all there are. -/
theorem moduleNames_itemsOfEach {α : Type} {items : α → Except Fault (List Item)} {things : List α}
    {all : List Item} (emitted : itemsOfEach items things = .ok all) {name : α → String}
    (each : ∀ thing part, items thing = .ok part → moduleNames part = [name thing]) :
    moduleNames all = things.map name := by
  induction things generalizing all with
  | nil =>
    cases emitted
    rfl
  | cons thing rest ih =>
    obtain ⟨part, first, emitted⟩ := bind_eq_ok.mp emitted
    obtain ⟨others, later, same⟩ := bind_eq_ok.mp emitted
    cases same
    rw [moduleNames_append, each thing part first, ih later]
    rfl

end Item

open Item

namespace Device

variable {options : EmitOptions} {d : Device}

theorem moduleNames_priorityItems (d : Device) : moduleNames d.priorityItems = [] := by
  unfold priorityItems
  split <;> rfl

/-- The name that the peripherals cannot have is that of the module of the interrupts. -/
theorem moduleNames_interruptItems (options : EmitOptions) (d : Device) :
    moduleNames (interruptItems options d.interrupts) = d.takenNames := by
  unfold interruptItems takenNames
  split <;> rfl

/-- An interrupt is left out only because another one has its name. -/
theorem interrupts_eq_nil {d : Device} :
    d.interrupts = [] ↔ ∀ p ∈ d.peripherals, p.interrupts = [] :=
  calc d.interrupts = []
    _ ↔ firsts (·.name) [] d.givenInterrupts = [] := by
      rw [← List.length_eq_zero_iff, (perm_interrupts d).length_eq, List.length_eq_zero_iff]
    _ ↔ d.givenInterrupts = [] := firsts_eq_nil
    _ ↔ ∀ p ∈ d.peripherals, p.interrupts = [] := List.flatMap_eq_nil_iff

/-- **The modules of a device have different names.** In its module stand a module for each group,
one for each individual peripheral and, exactly if a peripheral has an interrupt, one for the
interrupts. No two of them have one name, whatever the peripherals are called. -/
theorem emit_modules_differ {text : String} (emitted : d.emit options = .ok text) :
    ∃ head body, d.items options = .ok (head ++ [.mod d.name body]) ∧
      text = Item.text (head ++ [.mod d.name body]) ∧ moduleNames head = [] ∧
      (∃ own, moduleNames body = (d.arrangement options).groups.map (·.moduleName) ++
          (d.arrangement options).individuals.map (·.name) ++ own ∧
        ((∀ p ∈ d.peripherals, p.interrupts = []) → own = []) ∧
        ((∃ p ∈ d.peripherals, p.interrupts ≠ []) → own = [interruptModule])) ∧
      (moduleNames body).Nodup := by
  obtain ⟨items, made, rfl⟩ := map_eq_ok.mp emitted
  have whole := made
  obtain ⟨groups, madeGroups, made⟩ := bind_eq_ok.mp made
  obtain ⟨individuals, madeIndividuals, same⟩ := bind_eq_ok.mp made
  cases same
  have ofGroups : moduleNames groups = (d.arrangement options).groups.map (·.moduleName) :=
    moduleNames_itemsOfEach madeGroups fun group part own => by
      obtain ⟨registers, functions, _, _, rfl⟩ := PeripheralGroup.items_eq_ok.mp own
      exact moduleNames_module ..
  have ofIndividuals : moduleNames individuals =
      (d.arrangement options).individuals.map (·.name) :=
    moduleNames_itemsOfEach madeIndividuals fun named part own => by
      obtain ⟨body, _, same⟩ := bind_eq_ok.mp own
      cases same
      exact moduleNames_module ..
  have names : moduleNames (d.priorityItems ++ groups ++ individuals
      ++ interruptItems options d.interrupts) =
        (d.arrangement options).moduleNames ++ d.takenNames := by
    rw [moduleNames_append, moduleNames_append, moduleNames_append, moduleNames_priorityItems,
      moduleNames_interruptItems, ofGroups, ofIndividuals]
    rfl
  refine ⟨_, _, whole, rfl, ?_, ⟨d.takenNames, names, fun none => ?_, ?_⟩, ?_⟩
  · rw [moduleNames_append, moduleNames_docItems]
    rfl
  · exact if_pos (by rw [interrupts_eq_nil.mpr none]; rfl)
  · rintro ⟨p, mem, given⟩
    exact if_neg fun none => given (interrupts_eq_nil.mp (List.isEmpty_iff.mp none) p mem)
  · rw [names]
    exact nodup_moduleNames_arrangement options d

/-- Peripherals that are named like one another, like a numbered name, like the module of the
interrupts and like the group of two others. -/
def namesakes : Device where
  name := "DEV"
  version := "1"
  description := "a device"
  addressUnitBits := 8
  width := 32
  peripherals :=
    [{ name := "TIM", baseAddress := 0x100
       registers := some [.register { name := "CNT", addressOffset := 0 }] },
     { name := "TIM", baseAddress := 0x200
       registers := some [.register { name := "CNT", addressOffset := 4 }] },
     { name := "TIM_0", baseAddress := 0x300
       registers := some [.register { name := "CNT", addressOffset := 8 }] },
     { name := "interrupt", baseAddress := 0x400, interrupts := [{ name := "IRQ", value := 3 }]
       registers := some [.register { name := "CNT", addressOffset := 12 }] },
     { name := "GPIO1", baseAddress := 0x500
       registers := some [.register { name := "IDR", addressOffset := 0 }] },
     { name := "GPIO2", baseAddress := 0x600
       registers := some [.register { name := "IDR", addressOffset := 0 }] },
     { name := "GPIO", baseAddress := 0x700
       registers := some [.register { name := "CNT", addressOffset := 16 }] }]

/-- Peripherals named like each other, like numbered names, like a group and like the module of
interrupts. -/
theorem emit_modules_differ_namesakes :
    ∃ text head body, namesakes.emit {} = .ok text ∧
      text = Item.text (head ++ [.mod "DEV" body]) ∧
      moduleNames body =
        ["GPIO_0", "TIM", "TIM_1", "TIM_0", "interrupt_0", "GPIO", "interrupt"] ∧
      (moduleNames body).Nodup := by
  obtain ⟨text, emitted⟩ : ∃ text, namesakes.emit {} = .ok text :=
    exists_of_isOk (by decide +kernel)
  obtain ⟨head, body, _, same, _, ⟨own, names, _, interrupts⟩, nodup⟩ := emit_modules_differ emitted
  have given : own = [interruptModule] :=
    interrupts ⟨namesakes.peripherals[3], by simp [namesakes], by simp [namesakes]⟩
  refine ⟨text, head, body, emitted, same, ?_, nodup⟩
  rw [names, given]
  decide +kernel

end Device

end RegisterMap
