import RegisterMap.Proofs.Emit.Bounds
import RegisterMap.Proofs.Emit.Served
import RegisterMap.Proofs.Grouping.Peripherals
import RegisterMap.Proofs.Reading.Grammar

/-!
# The accessors of a device stay inside their registers

The declarations of a device are nested, and accessors stand at many places in them: in the
modules of peripherals, of clusters and of groups. `AccessorsFit` says of one list of
declarations that accessors are only among the functions of a type that is declared right
before, and that they stay inside the word of that type. Lists of which this holds can be put
one behind the other and into modules, and this is how the declarations of a device are made,
so it holds of all of them, at every depth (`Device.convert_accessorsFit`).
-/

namespace RegisterMap

/-! ## Places in declarations -/

/-- Some declarations are all of others, or all of those in a module among them, at any
depth. -/
inductive Item.Inside (body : List Item) : List Item → Prop
  | whole : Inside body body
  | inModule {name : String} {inner items : List Item} (mem : Item.mod name inner ∈ items)
      (deeper : Inside body inner) : Inside body items

/-- A function is an accessor of a field of one of some registers and stays inside its word.
The type of the register, which wraps that word, is declared at the end of what stands in
front. -/
def AccessorOf (options : EmitOptions) (registers : List Register) (front : List Item)
    (type : String) (f : Function) : Prop :=
  ∃ r ∈ registers, ∃ word before conversion, r.name = type ∧ storageType r.size = .ok word ∧
    front = before ++ [.wrapper type word,
      .implementation ("From<" ++ word ++ "> for " ++ type) conversion] ∧
    (∃ a ∈ options.accessors r.fieldList,
      a.IsGetter options word r.access f ∨ a.IsSetter options word r.access f) ∧
    f.Fits r.size

/-- Accessors are only among the functions of types, and there they are accessors of the
register whose type it is. -/
structure AccessorsFit (options : EmitOptions) (registers : List Register) (body : List Item) :
    Prop where
  outside : ∀ f, Item.function f ∈ body → f.isAccessor = false
  inside : ∀ front type functions back, body = front ++ .implementation type functions :: back →
    ∀ item ∈ functions, (∃ text, item = .doc text) ∨ ∃ f, item = .function f ∧
      (f.isAccessor = true → AccessorOf options registers front type f)

/-- Accessors fit wherever they stand in some declarations. -/
def FitEverywhere (options : EmitOptions) (registers : List Register) (items : List Item) : Prop :=
  ∀ body, Item.Inside body items → AccessorsFit options registers body

/-- A declaration in which no accessor can stand. -/
def Item.isPlain : Item → Bool
  | .attribute _ | .doc _ | .useCore | .constant _ _ _ | .wrapper _ _ | .handle _ => true
  | .function f => !f.isAccessor
  | .implementation _ _ | .mod _ _ => false

section Places

variable {options : EmitOptions} {registers : List Register} {front back : List Item}

/-- An accessor of a type is one still with more declarations in front. -/
theorem AccessorOf.append {type : String} {f : Function}
    (h : AccessorOf options registers back type f) (front : List Item) :
    AccessorOf options registers (front ++ back) type f := by
  obtain ⟨r, mem, word, before, conversion, name, size, rfl, own, fits⟩ := h
  exact ⟨r, mem, word, front ++ before, conversion, name, size, (List.append_assoc ..).symm, own,
    fits⟩

/-- Accessors that fit do so behind other declarations. -/
theorem AccessorsFit.append (h : AccessorsFit options registers front)
    (h' : AccessorsFit options registers back) :
    AccessorsFit options registers (front ++ back) where
  outside f mem := (List.mem_append.mp mem).elim (h.outside f) (h'.outside f)
  inside before type functions after same := by
    rcases List.append_eq_append_iff.mp same with ⟨more, rfl, own⟩ | ⟨more, own, rest⟩
    · -- the functions are in the second list
      intro item mem
      refine (h'.inside more type functions after own item mem).imp_right ?_
      rintro ⟨f, rfl, fits⟩
      exact ⟨f, rfl, fun accessor => (fits accessor).append front⟩
    · cases more with
      | nil =>
        -- they are the first of the second list, in front of which all of the first one stands
        rw [List.append_nil] at own
        subst own
        intro item mem
        refine (h'.inside [] type functions after rest.symm item mem).imp_right ?_
        rintro ⟨f, rfl, fits⟩
        exact ⟨f, rfl, fun accessor => by simpa using (fits accessor).append front⟩
      | cons first more =>
        cases rest
        exact h.inside before type functions more own

/-- Where no accessor can stand, all of them fit. -/
theorem accessorsFit_of_plain {items : List Item} (plain : ∀ item ∈ items, item.isPlain = true) :
    AccessorsFit options registers items where
  outside f mem := by simpa [Item.isPlain] using plain _ mem
  inside front type functions back same := by
    have mem : Item.implementation type functions ∈ items := by simp [same]
    exact absurd (plain _ mem) Bool.false_ne_true

/-- Accessors that fit everywhere do so behind other declarations. -/
theorem FitEverywhere.append (h : FitEverywhere options registers front)
    (h' : FitEverywhere options registers back) :
    FitEverywhere options registers (front ++ back) := by
  intro body inside
  cases inside with
  | whole => exact (h front .whole).append (h' back .whole)
  | inModule mem deeper =>
    rcases List.mem_append.mp mem with first | later
    · exact h body (.inModule first deeper)
    · exact h' body (.inModule later deeper)

/-- Accessors that fit in some declarations do so in a module of these. -/
theorem FitEverywhere.mod {body : List Item} (h : FitEverywhere options registers body)
    (name : String) : FitEverywhere options registers [.mod name body] := by
  intro inner inside
  cases inside with
  | whole =>
    refine ⟨fun f mem => ?_, fun front type functions back same => ?_⟩
    · cases List.mem_singleton.mp mem
    · have mem : Item.implementation type functions ∈ [Item.mod name body] := by simp [same]
      cases List.mem_singleton.mp mem
  | inModule mem deeper =>
    cases List.mem_singleton.mp mem
    exact h inner deeper

/-- Where there are no modules, there is one place to look at. -/
theorem fitEverywhere_of_flat {items : List Item}
    (flat : ∀ name body, Item.mod name body ∉ items) (h : AccessorsFit options registers items) :
    FitEverywhere options registers items := by
  intro body inside
  cases inside with
  | whole => exact h
  | inModule mem _ => exact absurd mem (flat _ _)

/-- Where no accessor can stand, all of them fit everywhere. -/
theorem fitEverywhere_of_plain {items : List Item} (plain : ∀ item ∈ items, item.isPlain = true) :
    FitEverywhere options registers items :=
  fitEverywhere_of_flat (fun _ _ mem => absurd (plain _ mem) Bool.false_ne_true)
    (accessorsFit_of_plain plain)

theorem fitEverywhere_nil : FitEverywhere options registers [] :=
  fitEverywhere_of_plain fun _ mem => absurd mem List.not_mem_nil

theorem FitEverywhere.useCore {body : List Item} (h : FitEverywhere options registers body) :
    FitEverywhere options registers (.useCore :: body) := by
  have head : FitEverywhere options registers [.useCore] :=
    fitEverywhere_of_plain (by simp [Item.isPlain])
  exact head.append h

theorem isPlain_of_mem_docItems {description : Option String} {item : Item}
    (mem : item ∈ options.docItems description) : item.isPlain = true := by
  obtain ⟨_, rfl⟩ := eq_doc_of_mem_docItems mem
  rfl

/-- A module may have a description. -/
theorem FitEverywhere.module {body : List Item} (h : FitEverywhere options registers body)
    (description : Option String) (name : String) :
    FitEverywhere options registers (options.docItems description ++ [.mod name body]) :=
  (fitEverywhere_of_plain fun _ => isPlain_of_mem_docItems).append (h.mod name)

/-- Accessors fit in the declarations of several things if they do in those of each. -/
theorem fitEverywhere_itemsOfEach {α : Type} {items : α → Except Fault (List Item)}
    {things : List α} {all : List Item} (emitted : itemsOfEach items things = .ok all)
    (each : ∀ thing ∈ things, ∀ part, items thing = .ok part →
      FitEverywhere options registers part) : FitEverywhere options registers all := by
  induction things generalizing all with
  | nil =>
    cases emitted
    exact fitEverywhere_nil
  | cons thing rest ih =>
    obtain ⟨part, first, emitted⟩ := bind_eq_ok.mp emitted
    obtain ⟨others, later, same⟩ := bind_eq_ok.mp emitted
    cases same
    obtain ⟨own, eachRest⟩ := List.forall_mem_cons.mp each
    exact (own part first).append (ih later eachRest)

end Places

/-! ## Registers -/

section Registers

variable {options : EmitOptions} {registers : List Register} {r : Register} {word : String}
  {part : List Item}

/-- Functions of which none is an accessor may be those of any type. -/
theorem fitEverywhere_implementation {type : String} {functions : List Item}
    (plain : ∀ item ∈ functions, (∃ text, item = .doc text) ∨
      ∃ f, item = .function f ∧ f.isAccessor = false) :
    FitEverywhere options registers [.implementation type functions] := by
  refine fitEverywhere_of_flat (by simp) ⟨by simp, fun front target inside back same => ?_⟩
  have mem : Item.implementation target inside ∈ [Item.implementation type functions] := by
    simp [same]
  cases List.mem_singleton.mp mem
  intro item memItem
  refine (plain item memItem).imp_right ?_
  rintro ⟨f, rfl, other⟩
  exact ⟨f, rfl, fun accessor => absurd (other.symm.trans accessor) Bool.false_ne_true⟩

namespace Register

/-- The functions that reach a register are no accessors, and only descriptions stand among them. -/
theorem doc_or_function_of_mem_accessItems {address : Address} {type : String} {item : Item}
    (mem : item ∈ r.accessItems options address type) :
    (∃ text, item = .doc text) ∨ ∃ f, item = .function f ∧ f.isAccessor = false := by
  have one : ∀ {allowed : Bool} {f : Function}, f.isAccessor = false →
      item ∈ (if allowed then options.docItems r.description ++ [.function f] else []) →
        (∃ text, item = .doc text) ∨ ∃ f, item = .function f ∧ f.isAccessor = false := by
    intro allowed f other mem
    cases allowed with
    | false => exact absurd mem List.not_mem_nil
    | true =>
      rcases List.mem_append.mp mem with described | own
      · exact .inl (eq_doc_of_mem_docItems described)
      · exact .inr ⟨f, List.mem_singleton.mp own, other⟩
  simp only [accessItems, List.mem_append] at mem
  rcases mem with ((reads | writes) | described) | points
  · exact one rfl reads
  · exact one rfl writes
  · exact .inl (eq_doc_of_mem_docItems described)
  · exact .inr ⟨_, List.mem_singleton.mp points, rfl⟩

theorem isPlain_of_mem_accessItems {address : Address} {type : String} {item : Item}
    (mem : item ∈ r.accessItems options address type) : item.isPlain = true := by
  rcases doc_or_function_of_mem_accessItems mem with ⟨_, rfl⟩ | ⟨f, rfl, other⟩
  · rfl
  · rw [Item.isPlain, other, Bool.not_false]

/-- The functions of the type of a register are accessors of its fields. -/
theorem doc_or_accessor_of_mem {accessors : List Item}
    (made : itemsOfEach (AccessorSpec.items options word r.access)
      (options.accessors r.fieldList) = .ok accessors) {item : Item} (mem : item ∈ accessors) :
    (∃ text, item = .doc text) ∨ ∃ f, item = .function f ∧
      ∃ a ∈ options.accessors r.fieldList,
        a.IsGetter options word r.access f ∨ a.IsSetter options word r.access f := by
  obtain ⟨a, memA, part, own, memPart⟩ := (mem_of_itemsOfEach made).mp mem
  rcases AccessorSpec.doc_or_function_of_mem_items own memPart with described | ⟨f, rfl⟩
  · exact .inl described
  · exact .inr ⟨f, rfl, a, memA, (AccessorSpec.function_mem_items own).mp memPart⟩

/-- The functions of the type of a register fit behind the declaration of the type. -/
theorem fitEverywhere_wrapperItems (memR : r ∈ registers) (valid : r.Ranges BitRange.Valid)
    (found : r.wordType = .ok word) {wrapper : List Item}
    (emitted : r.wrapperItems options word = .ok wrapper) :
    FitEverywhere options registers wrapper := by
  cases wrapped : r.isWrapped options with
  | false =>
    rw [wrapperItems_of_not_wrapped wrapped emitted]
    exact fitEverywhere_nil
  | true =>
    obtain ⟨accessors, made, rfl⟩ := wrapperItems_of_wrapped wrapped emitted
    have attributes : FitEverywhere options registers
        [.attribute "repr(transparent)", .attribute "derive(Copy, Clone, PartialEq, Eq)"] :=
      fitEverywhere_of_plain (by simp [Item.isPlain])
    refine (fitEverywhere_of_plain fun _ => isPlain_of_mem_docItems).append
      (attributes.append (fitEverywhere_of_flat (by simp) ⟨by simp, ?_⟩))
    intro front type functions back same
    -- three declarations are left: the type, how it is made from a word, and its accessors
    rcases front with _ | ⟨_, _ | ⟨_, _ | ⟨_, more⟩⟩⟩
    · cases same
    · cases same
      intro item mem
      cases List.mem_singleton.mp mem
      exact .inr ⟨_, rfl, nofun⟩
    · cases same
      intro item mem
      refine (doc_or_accessor_of_mem made mem).imp_right ?_
      rintro ⟨f, rfl, a, memA, uses⟩
      have fits : f.Fits r.size := uses.elim (fits_of_isGetter valid found memA)
        (fits_of_isSetter valid found memA)
      exact ⟨f, rfl, fun _ => ⟨r, memR, word, [], _, rfl, storageType_of_wordType found, rfl,
        ⟨a, memA, uses⟩, fits⟩⟩
    · cases more <;> cases same

/-- The accessors of a register at a known address fit. -/
theorem fitEverywhere_items (memR : r ∈ registers) (valid : r.Ranges BitRange.Valid)
    {address : Nat} (emitted : r.items options address = .ok part) :
    FitEverywhere options registers part := by
  obtain ⟨word, found, emitted⟩ := bind_eq_ok.mp emitted
  obtain ⟨wrapper, wraps, same⟩ := bind_eq_ok.mp emitted
  cases same
  exact (fitEverywhere_wrapperItems memR valid found wraps).append
    (fitEverywhere_of_plain fun _ => isPlain_of_mem_accessItems)

/-- The accessors of a register that is reached through handles fit. -/
theorem fitEverywhere_handleItems (memR : r ∈ registers) (valid : r.Ranges BitRange.Valid)
    {structName : String} (emitted : r.handleItems options structName = .ok part) :
    FitEverywhere options registers part := by
  obtain ⟨word, wrapper, found, wraps, rfl⟩ := handleItems_eq_ok.mp emitted
  exact (fitEverywhere_wrapperItems memR valid found wraps).append
    (fitEverywhere_implementation fun _ => doc_or_function_of_mem_accessItems)

end Register

end Registers

/-! ## Nodes -/

section Nodes

variable {options : EmitOptions} {registers : List Register}

mutual

/-- The accessors of the registers in a node fit, at every depth. -/
theorem Node.fitEverywhere_items : ∀ (node : Node) {base : Nat} {part : List Item},
    (∀ r ∈ node.registers, r ∈ registers ∧ r.Ranges BitRange.Valid) →
    node.items options base = .ok part → FitEverywhere options registers part
  | .register r, _, _, known, emitted => by
    obtain ⟨memR, valid⟩ := known r (List.mem_singleton_self r)
    exact r.fitEverywhere_items memR valid emitted
  | .cluster c members, _, _, known, emitted => by
    obtain ⟨body, inside, same⟩ := bind_eq_ok.mp emitted
    cases same
    exact (fitEverywhere_itemsOfAll members known inside).useCore.module c.description c.name

/-- Accessors fit in the declarations of nodes, whose clusters are modules. -/
theorem Node.fitEverywhere_itemsOfAll : ∀ (nodes : List Node) {base : Nat} {all : List Item},
    (∀ r ∈ registersOfAll nodes, r ∈ registers ∧ r.Ranges BitRange.Valid) →
    itemsOfAll options base nodes = .ok all → FitEverywhere options registers all
  | [], _, _, _, emitted => by
    cases emitted
    exact fitEverywhere_nil
  | node :: rest, _, _, known, emitted => by
    obtain ⟨part, first, emitted⟩ := bind_eq_ok.mp emitted
    obtain ⟨others, later, same⟩ := bind_eq_ok.mp emitted
    cases same
    have own := fitEverywhere_items node (fun r mem => known r (List.mem_append_left _ mem)) first
    exact own.append
      (fitEverywhere_itemsOfAll rest (fun r mem => known r (List.mem_append_right _ mem)) later)

end

end Nodes

/-! ## Devices -/

namespace Device

variable {options : EmitOptions} {d : Device} {part items : List Item}

/-- The registers of a device are those of its peripherals, at any depth. -/
theorem mem_allRegisters {r : Register} :
    r ∈ d.allRegisters ↔ ∃ p ∈ d.peripherals, r ∈ Node.registersOfAll p.nodes :=
  List.mem_flatMap

/-- The accessors in the module of an individual peripheral fit. -/
theorem fitEverywhere_individual (valid : d.Ranges BitRange.Valid) {named : NamedPeripheral}
    (mem : named.member.peripheral ∈ d.peripherals) (emitted : named.items options = .ok part) :
    FitEverywhere options d.allRegisters part := by
  obtain ⟨body, inside, same⟩ := bind_eq_ok.mp emitted
  cases same
  have known : ∀ r ∈ Node.registersOfAll named.member.peripheral.nodes,
      r ∈ d.allRegisters ∧ r.Ranges BitRange.Valid := by
    intro r memR
    have memDevice : r ∈ d.allRegisters := mem_allRegisters.mpr ⟨_, mem, memR⟩
    exact ⟨memDevice, ranges_iff.mp valid r memDevice⟩
  exact (Node.fitEverywhere_itemsOfAll _ known inside).useCore.module _ named.name

/-- The accessors in the module of a group of peripherals fit. -/
theorem fitEverywhere_group (valid : d.Ranges BitRange.Valid) {group : PeripheralGroup}
    (members : ∀ m ∈ group.members, m.peripheral ∈ d.peripherals)
    (emitted : group.items options d.peripherals = .ok part) :
    FitEverywhere options d.allRegisters part := by
  obtain ⟨registers, functions, collected, made, rfl⟩ := PeripheralGroup.items_eq_ok.mp emitted
  have shared : FitEverywhere options d.allRegisters functions := by
    refine fitEverywhere_itemsOfEach made fun r memR part own => ?_
    obtain ⟨p, memP, memNode⟩ := PeripheralGroup.exists_of_mem_registers members collected memR
    have memDevice : r ∈ d.allRegisters := mem_allRegisters.mpr
      ⟨p, memP, Node.mem_registersOfAll.mpr ⟨_, memNode, List.mem_singleton_self r⟩⟩
    exact r.fitEverywhere_handleItems memDevice (ranges_iff.mp valid r memDevice) own
  have head : FitEverywhere options d.allRegisters
      ([.useCore, .attribute "derive(Copy, Clone, PartialEq, Eq)", .handle group.structName]
        ++ group.constants) := by
    refine fitEverywhere_of_plain fun item mem => ?_
    rcases List.mem_append.mp mem with first | constant
    · simp only [List.mem_cons, List.not_mem_nil, or_false] at first
      rcases first with rfl | rfl | rfl <;> rfl
    · obtain ⟨m, _, rfl⟩ := List.mem_map.mp constant
      rfl
  exact (head.append shared).module group.description group.moduleName

/-- There are no accessors in the module of interrupts. -/
theorem fitEverywhere_interruptItems (registers : List Register) (interrupts : List Interrupt) :
    FitEverywhere options registers (interruptItems options interrupts) := by
  unfold interruptItems
  split
  · exact fitEverywhere_nil
  · refine FitEverywhere.mod (fitEverywhere_of_plain fun item mem => ?_) interruptModule
    obtain ⟨i, _, own⟩ := List.mem_flatMap.mp mem
    rcases List.mem_append.mp own with described | constant
    · exact isPlain_of_mem_docItems described
    · cases List.mem_singleton.mp constant
      rfl

/-- The accessors in the declarations of a device fit. -/
theorem fitEverywhere_items (valid : d.Ranges BitRange.Valid)
    (emitted : d.items options = .ok items) : FitEverywhere options d.allRegisters items := by
  obtain ⟨groups, madeGroups, emitted⟩ := bind_eq_ok.mp emitted
  obtain ⟨individuals, madeIndividuals, same⟩ := bind_eq_ok.mp emitted
  cases same
  have inGroups : FitEverywhere options d.allRegisters groups :=
    fitEverywhere_itemsOfEach madeGroups fun _ mem _ own =>
      fitEverywhere_group valid (mem_of_mem_group mem) own
  have alone : FitEverywhere options d.allRegisters individuals :=
    fitEverywhere_itemsOfEach madeIndividuals fun _ mem _ own =>
      fitEverywhere_individual valid (mem_of_mem_individuals mem) own
  have priority : FitEverywhere options d.allRegisters d.priorityItems := by
    refine fitEverywhere_of_plain fun item mem => ?_
    unfold priorityItems at mem
    split at mem
    · cases List.mem_singleton.mp mem
      rfl
    · exact absurd mem List.not_mem_nil
  have attributes : FitEverywhere options d.allRegisters
      [.attribute "allow(non_snake_case)", .attribute "allow(dead_code)",
        .attribute "allow(non_camel_case_types)"] :=
    fitEverywhere_of_plain (by simp [Item.isPlain])
  have inside := ((priority.append inGroups).append alone).append
    (fitEverywhere_interruptItems d.allRegisters d.interrupts)
  exact (attributes.append (fitEverywhere_of_plain fun _ => isPlain_of_mem_docItems)).append
    (inside.mod d.name)

/-- **Accessors stay inside their registers.** When a device that was read is converted, its
code is that of declarations in which every accessor stands with the functions of the type of a
register of the device, and stays inside the word of that register for every index that it
admits, with its mask. -/
theorem convert_accessorsFit {e : Xml.Element} {d : Device} {options : EmitOptions}
    {text : String} (loaded : Device.ofElement e = .ok d)
    (succeeds : (d.convert options).outcome = .ok text) :
    ∃ items, (d.convert options).device.items options = .ok items ∧ text = Item.text items ∧
      ∀ body, Item.Inside body items →
        AccessorsFit options (d.convert options).device.allRegisters body := by
  obtain ⟨items, emitted, same⟩ := emitted_of_convert rfl succeeds
  have valid := ranges_convert (valid_of_ofElement loaded) options
  exact ⟨items, emitted, same, fitEverywhere_items valid emitted⟩

/-- The description of a device with a byte in a cluster, in which two numbered fields reach up
to the highest bit. -/
def describedTimer : Xml.Element :=
  .branch "device"
    [.leaf "name" "DEV", .leaf "version" "1", .leaf "description" "a device",
     .leaf "addressUnitBits" "8", .leaf "width" "32",
     .branch "peripherals" [.branch "peripheral"
       [.leaf "name" "TIM", .leaf "baseAddress" "0x4000",
        .branch "registers" [.branch "cluster"
          [.leaf "name" "CH", .leaf "addressOffset" "0x10",
           .branch "register"
             [.leaf "name" "CR", .leaf "addressOffset" "0", .leaf "size" "8",
              .branch "fields"
                [.branch "field" [.leaf "name" "EN1", .leaf "bitRange" "[7:5]"],
                 .branch "field" [.leaf "name" "EN0", .leaf "bitRange" "[4:2]"]]]]]]]]

/-- A device with two numbered fields in a cluster, the second of which has the highest bit. -/
theorem convert_accessorsFit_describedTimer :
    ∃ d text items, Device.ofElement describedTimer = .ok d ∧
      (d.convert {}).outcome = .ok text ∧ text = Item.text items ∧
      ∀ body, Item.Inside body items →
        AccessorsFit {} (d.convert {}).device.allRegisters body := by
  have succeeds : (Device.ofElement describedTimer >>= fun d => (d.convert {}).outcome).isOk =
      true := by decide +kernel
  obtain ⟨text, whole⟩ := exists_of_isOk succeeds
  obtain ⟨d, loaded, outcome⟩ := bind_eq_ok.mp whole
  obtain ⟨items, _, same, fit⟩ := convert_accessorsFit loaded outcome
  exact ⟨d, text, items, loaded, outcome, same, fit⟩

end Device

end RegisterMap
