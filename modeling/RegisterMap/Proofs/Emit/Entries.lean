import Mathlib.Data.List.Forall2
import RegisterMap.Emit.Device
import RegisterMap.Proofs.Emit.Accessors
import RegisterMap.Proofs.Emit.Group

/-!
# What is found in emitted code

The entries of some code are what a reader looks for in it: the constants, the types of registers,
the functions that reach registers, and the modules, each with the entries in it. Descriptions,
attributes and the accessors of fields are left out, and the functions of a type count for the
module in which the type has them. An entry that is a function has the texts that are written.

`Device.exists_entries` says which entries the code of a device has: one module, in which stand,
after the constants of the device, a module for each group, one for each individual peripheral and
that of the interrupts.
-/

namespace RegisterMap

open Text

/-- What is found in emitted code. -/
inductive Entry where
  /-- A constant. -/
  | constant (name type value : String)
  /-- The type that wraps the word of a register. -/
  | type (name inner : String)
  /-- A function that reaches a register, with its head and its statements. -/
  | function (signature : String) (lines : List String)
  /-- A module. -/
  | module (name : String) (entries : List Entry)

/-- The entry of a function. -/
def Function.entry (f : Function) : Entry := .function f.signature f.lines

namespace Item

mutual

/-- The entries of a declaration. -/
def entries : Item → List Entry
  | .attribute _ | .doc _ | .useCore | .handle _ => []
  | .constant name type value => [.constant name type value]
  | .wrapper name inner => [.type name inner]
  | .function f => if f.reached.isSome then [f.entry] else []
  | .implementation _ body => entriesOfAll body
  | .mod name body => [.module name (entriesOfAll body)]

/-- The entries of some declarations. -/
def entriesOfAll : List Item → List Entry
  | [] => []
  | item :: rest => item.entries ++ entriesOfAll rest

end

theorem entriesOfAll_eq_flatMap (items : List Item) :
    entriesOfAll items = items.flatMap entries := by
  induction items with
  | nil => rfl
  | cons item rest ih => rw [entriesOfAll, ih, List.flatMap_cons]

/-- The entries of declarations are those of the front ones and then those behind. -/
@[simp]
theorem entriesOfAll_append (front back : List Item) :
    entriesOfAll (front ++ back) = entriesOfAll front ++ entriesOfAll back := by
  simp only [entriesOfAll_eq_flatMap, List.flatMap_append]

theorem entriesOfAll_eq_nil {items : List Item} (h : ∀ item ∈ items, item.entries = []) :
    entriesOfAll items = [] := by
  rw [entriesOfAll_eq_flatMap]
  exact List.flatMap_eq_nil_iff.mpr h

@[simp]
theorem entriesOfAll_docItems (options : EmitOptions) (description : Option String) :
    entriesOfAll (options.docItems description) = [] := by
  refine entriesOfAll_eq_nil fun item mem => ?_
  obtain ⟨_, rfl⟩ := eq_doc_of_mem_docItems mem
  rfl

@[simp]
theorem entriesOfAll_useCore (body : List Item) :
    entriesOfAll (.useCore :: body) = entriesOfAll body := rfl

/-- A module and its description have one entry, that of the module. -/
@[simp]
theorem entriesOfAll_module (options : EmitOptions) (description : Option String) (name : String)
    (body : List Item) : entriesOfAll (options.docItems description ++ [.mod name body]) =
      [.module name (entriesOfAll body)] := by
  rw [entriesOfAll_append, entriesOfAll_docItems]
  rfl

end Item

open Item

/-! ## Registers -/

namespace Register

variable {options : EmitOptions} {r : Register} {word : String}

/-- The entries of the functions that reach a register. -/
theorem entriesOfAll_accessItems (address : Address) (type : String) :
    entriesOfAll (r.accessItems options address type) =
      (if r.isRead then [(Function.read r.name address type).entry] else []) ++
        (if r.isWrite then [(Function.write r.name address type).entry] else []) ++
        [(Function.pointer r.name address type r.isWrite).entry] := by
  have one : ∀ (allowed : Bool) (f : Function), f.reached.isSome = true →
      entriesOfAll (if allowed then options.docItems r.description ++ [.function f] else []) =
        if allowed then [f.entry] else [] := by
    intro allowed f reaches
    cases allowed <;> simp [entriesOfAll, entries, reaches]
  rw [accessItems, entriesOfAll_append, entriesOfAll_append, entriesOfAll_append, one _ _ rfl,
    one _ _ rfl, entriesOfAll_docItems, List.append_nil]
  rfl

/-- The type of a register is an entry, and the accessors of its fields are none. -/
theorem entriesOfAll_wrapperItems {wrapper : List Item}
    (emitted : r.wrapperItems options word = .ok wrapper) :
    entriesOfAll wrapper = if r.isWrapped options then [.type r.name word] else [] := by
  cases wrapped : r.isWrapped options with
  | false =>
    rw [wrapperItems_of_not_wrapped wrapped emitted]
    rfl
  | true =>
    obtain ⟨accessors, made, rfl⟩ := wrapperItems_of_wrapped wrapped emitted
    have silent : entriesOfAll accessors = [] := by
      refine entriesOfAll_eq_nil fun item mem => ?_
      obtain ⟨a, _, part, own, memPart⟩ := (mem_of_itemsOfEach made).mp mem
      rcases a.doc_or_function_of_mem_items own memPart with ⟨_, rfl⟩ | ⟨f, rfl⟩
      · rfl
      · rw [entries, a.reached_of_mem_items own memPart]
        rfl
    simp [entriesOfAll, entries, Function.reached, silent]

end Register

/-! ## Groups -/

/-- An entry that is a type or a function. -/
def Entry.ofRegister : Entry → Bool
  | .type _ _ | .function _ _ => true
  | .constant _ _ _ | .module _ _ => false

/-- The entry of a group is a module with a constant for each member. Whatever else it has are types
and functions of registers. -/
def PeripheralGroup.IsEntry (group : PeripheralGroup) (entry : Entry) : Prop :=
  ∃ shared, entry = .module group.moduleName
      (group.members.map (fun m => .constant m.peripheral.name group.structName
        (Item.handleValue group.structName m.peripheral.baseAddress)) ++ shared) ∧
    ∀ e ∈ shared, e.ofRegister = true

/-- What is found of a register in the module of a group are types and functions. -/
theorem Register.ofRegister_of_mem {options : EmitOptions} {r : Register} {structName : String}
    {part : List Item} (emitted : r.handleItems options structName = .ok part) :
    ∀ e ∈ entriesOfAll part, e.ofRegister = true := by
  obtain ⟨word, wrapper, _, wraps, rfl⟩ := handleItems_eq_ok.mp emitted
  have type : ∀ e ∈ entriesOfAll wrapper, e.ofRegister = true := by
    rw [entriesOfAll_wrapperItems wraps]
    split
    · exact List.forall_mem_singleton.mpr rfl
    · exact fun _ mem => absurd mem List.not_mem_nil
  have access : ∀ (address : Address) (type : String),
      ∀ e ∈ entriesOfAll (r.accessItems options address type), e.ofRegister = true := by
    intro address type
    rw [entriesOfAll_accessItems]
    intro e mem
    simp only [List.mem_append, List.mem_ite_nil_right, List.mem_singleton] at mem
    rcases mem with (⟨_, rfl⟩ | ⟨_, rfl⟩) | rfl <;> rfl
  intro e mem
  rw [entriesOfAll_append] at mem
  rcases List.mem_append.mp mem with own | own
  · exact type e own
  · simp only [entriesOfAll, entries, List.append_nil] at own
    exact access _ _ e own

/-- The declarations of a group have one entry, which is that of the group. -/
theorem PeripheralGroup.exists_isEntry {options : EmitOptions} {peripherals : List Peripheral}
    {group : PeripheralGroup} {part : List Item}
    (emitted : group.items options peripherals = .ok part) :
    ∃ entry, entriesOfAll part = [entry] ∧ group.IsEntry entry := by
  obtain ⟨registers, functions, _, made, rfl⟩ := items_eq_ok.mp emitted
  have constants : entriesOfAll group.constants = group.members.map fun m =>
      .constant m.peripheral.name group.structName
        (Item.handleValue group.structName m.peripheral.baseAddress) := by
    rw [entriesOfAll_eq_flatMap, PeripheralGroup.constants, List.flatMap_map]
    exact List.flatMap_pure_eq_map _ _
  refine ⟨.module group.moduleName (entriesOfAll group.constants ++ entriesOfAll functions), ?_,
    entriesOfAll functions, ?_, ?_⟩
  · rw [entriesOfAll_module, entriesOfAll_append, entriesOfAll_append]
    rfl
  · rw [constants]
  · intro e mem
    rw [entriesOfAll_eq_flatMap] at mem
    obtain ⟨item, memItem, own⟩ := List.mem_flatMap.mp mem
    obtain ⟨r, _, part, emittedPart, memPart⟩ := (mem_of_itemsOfEach made).mp memItem
    refine r.ofRegister_of_mem emittedPart e ?_
    rw [entriesOfAll_eq_flatMap]
    exact List.mem_flatMap.mpr ⟨item, memPart, own⟩

/-! ## Devices -/

/-- The entry of an individual peripheral is a module with the entries of its nodes. -/
def NamedPeripheral.IsEntry (options : EmitOptions) (named : NamedPeripheral) (entry : Entry) :
    Prop :=
  ∃ body,
    Node.itemsOfAll options named.member.peripheral.baseAddress named.member.peripheral.nodes =
      .ok body ∧
    entry = .module named.name (entriesOfAll body)

/-- The declarations of an individual peripheral have one entry, which is that of the peripheral. -/
theorem NamedPeripheral.exists_isEntry {options : EmitOptions} {named : NamedPeripheral}
    {part : List Item} (emitted : named.items options = .ok part) :
    ∃ entry, entriesOfAll part = [entry] ∧ named.IsEntry options entry := by
  obtain ⟨body, made, same⟩ := bind_eq_ok.mp emitted
  cases same
  exact ⟨_, entriesOfAll_module .., body, made, rfl⟩

/-- When each of several things has one entry, their entries are these, in order. -/
theorem exists_entries_of_itemsOfEach {α : Type} {items : α → Except Fault (List Item)}
    {things : List α} {all : List Item} (emitted : itemsOfEach items things = .ok all)
    {isEntry : α → Entry → Prop} (each : ∀ thing part, items thing = .ok part →
      ∃ entry, entriesOfAll part = [entry] ∧ isEntry thing entry) :
    List.Forall₂ isEntry things (entriesOfAll all) := by
  induction things generalizing all with
  | nil =>
    cases emitted
    exact .nil
  | cons thing rest ih =>
    obtain ⟨part, first, emitted⟩ := bind_eq_ok.mp emitted
    obtain ⟨others, later, same⟩ := bind_eq_ok.mp emitted
    cases same
    obtain ⟨entry, single, own⟩ := each thing part first
    rw [entriesOfAll_append, single]
    exact .cons own (ih later)

namespace Device

/-- The constants of a device itself. -/
def ownEntries (d : Device) : List Entry :=
  (d.cpu.bind (·.nvicPrioBits)).toList.map fun bits =>
    .constant "NVIC_PRIO_BITS" "u8" (decimal bits)

/-- The module of the interrupts, if there are any. -/
def interruptEntries (d : Device) : List Entry :=
  if d.interrupts.isEmpty then []
  else
    [.module interruptModule
      (d.interrupts.map fun i => .constant i.name "u32" (decimal i.value))]

variable {options : EmitOptions} {d : Device}

theorem entriesOfAll_priorityItems (d : Device) : entriesOfAll d.priorityItems = d.ownEntries := by
  unfold priorityItems ownEntries
  cases d.cpu.bind (·.nvicPrioBits) <;> rfl

/-- The interrupts have the entry of one module, or none if there are none. -/
theorem entriesOfAll_interruptItems (options : EmitOptions) (d : Device) :
    entriesOfAll (interruptItems options d.interrupts) = d.interruptEntries := by
  unfold interruptItems interruptEntries
  split
  · rfl
  · have constants : entriesOfAll (d.interrupts.flatMap (Interrupt.items options)) =
        d.interrupts.map fun i => .constant i.name "u32" (decimal i.value) := by
      induction d.interrupts with
      | nil => rfl
      | cons i rest ih =>
        rw [List.flatMap_cons, entriesOfAll_append, ih, Interrupt.items, entriesOfAll_append,
          entriesOfAll_docItems]
        rfl
    simp only [entriesOfAll, entries, constants, List.append_nil]

/-- **What the code of a device has.** It is one module. In it stand the constants of the device,
the groups, the individual peripherals and the interrupts. -/
theorem exists_entries {items : List Item} (emitted : d.items options = .ok items) :
    ∃ groups individuals,
      entriesOfAll items =
        [.module d.name (d.ownEntries ++ groups ++ individuals ++ d.interruptEntries)] ∧
      List.Forall₂ PeripheralGroup.IsEntry (d.arrangement options).groups groups ∧
      List.Forall₂ (NamedPeripheral.IsEntry options) (d.arrangement options).individuals
        individuals := by
  obtain ⟨groups, madeGroups, emitted⟩ := bind_eq_ok.mp emitted
  obtain ⟨individuals, madeIndividuals, same⟩ := bind_eq_ok.mp emitted
  cases same
  refine ⟨entriesOfAll groups, entriesOfAll individuals, ?_,
    exists_entries_of_itemsOfEach madeGroups fun _ _ => PeripheralGroup.exists_isEntry,
    exists_entries_of_itemsOfEach madeIndividuals fun _ _ => NamedPeripheral.exists_isEntry⟩
  simp [entriesOfAll, entries, entriesOfAll_priorityItems, entriesOfAll_interruptItems]

end Device

end RegisterMap
