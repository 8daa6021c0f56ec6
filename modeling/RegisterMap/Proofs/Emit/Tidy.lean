import RegisterMap.Proofs.Code.Blocks
import RegisterMap.Proofs.Emit.Accessors
import RegisterMap.Proofs.Emit.Collected
import RegisterMap.Proofs.Emit.Group
import RegisterMap.Proofs.Emit.Names

/-!
# The texts in declarations

The declarations of a device hold names, the types that go with them and a few fixed texts. They
are tidy (`Item.Tidy`) when what should be a name is one, and everything else leaves the line in
which it stands as it is. Of descriptions nothing is asked.

When the names that a device gives are names, its declarations are tidy (`Device.tidyAll_items`),
whatever its descriptions say.
-/

namespace RegisterMap

open Text

/-! ## Tidy declarations -/

/-- The types in a statement. -/
def Step.types : Step → List String
  | .bindMask type _ => [type]
  | .assign _ | .addBits _ | .keepBits _ => []
  | .choose yes no => yes.types ++ no.types

/-- The names and types in a function. -/
def Function.texts : Function → List String
  | .wrap inner type => [inner, type]
  | .read register _ type | .write register _ type | .pointer register _ type _ => [register, type]
  | .get name _ type _ body => name :: type :: body.steps.flatMap Step.types
  | .set name _ type _ body => name :: type :: body.steps.flatMap Step.types

/-- A declaration holds nothing that changes how its lines are read. -/
inductive Item.Tidy : Item → Prop
  | attr {text : String} (plain : isPlain text = true)
      (other : isDocLine ("#[" ++ text ++ "]").toList = false) : Tidy (.attribute text)
  | doc (description : String) : Tidy (.doc description)
  | useCore : Tidy .useCore
  | constant {name type value : String} (ofName : isName name = true) (ofType : isName type = true)
      (closed : IsClosed value) : Tidy (.constant name type value)
  | wrapper {name inner : String} (ofName : isName name = true) (ofInner : isName inner = true) :
      Tidy (.wrapper name inner)
  | handle {name : String} (ofName : isName name = true) : Tidy (.handle name)
  | function {f : Function} (names : AreNames f.texts) : Tidy (.function f)
  | implementation {target : String} {body : List Item} (plain : isPlain target = true)
      (inside : ∀ item ∈ body, Tidy item) : Tidy (.implementation target body)
  | mod {name : String} {body : List Item} (ofName : isName name = true)
      (inside : ∀ item ∈ body, Tidy item) : Tidy (.mod name body)

/-- Declarations are tidy. -/
def TidyAll (items : List Item) : Prop := ∀ item ∈ items, item.Tidy

theorem tidyAll_nil : TidyAll [] := fun _ mem => absurd mem List.not_mem_nil

theorem tidyAll_cons {item : Item} {rest : List Item} :
    TidyAll (item :: rest) ↔ item.Tidy ∧ TidyAll rest :=
  List.forall_mem_cons

theorem tidyAll_append {front back : List Item} :
    TidyAll (front ++ back) ↔ TidyAll front ∧ TidyAll back :=
  List.forall_mem_append

theorem tidyAll_singleton {item : Item} : TidyAll [item] ↔ item.Tidy :=
  List.forall_mem_singleton

section Described

variable (options : EmitOptions) (description : Option String)

theorem tidyAll_docItems : TidyAll (options.docItems description) := by
  intro item mem
  obtain ⟨text, rfl⟩ := eq_doc_of_mem_docItems mem
  exact .doc text

/-- A module may have a description. -/
theorem tidyAll_module {name : String} {body : List Item} (h : isName name = true)
    (inside : TidyAll body) : TidyAll (options.docItems description ++ [.mod name body]) :=
  tidyAll_append.mpr ⟨tidyAll_docItems options description, tidyAll_singleton.mpr (.mod h inside)⟩

/-- A function may have a description. -/
theorem tidyAll_function {f : Function} (names : AreNames f.texts) :
    TidyAll (options.docItems description ++ [.function f]) :=
  tidyAll_append.mpr
    ⟨tidyAll_docItems options description, tidyAll_singleton.mpr (.function names)⟩

end Described

/-- The declarations of several things are tidy if those of each are. -/
theorem tidyAll_itemsOfEach {α : Type} {items : α → Except Fault (List Item)} {things : List α}
    {all : List Item} (emitted : itemsOfEach items things = .ok all)
    (each : ∀ thing ∈ things, ∀ part, items thing = .ok part → TidyAll part) : TidyAll all := by
  intro item mem
  obtain ⟨thing, memThing, part, own, memPart⟩ := (mem_of_itemsOfEach emitted).mp mem
  exact each thing memThing part own item memPart

/-! ## Accessors -/

/-- The word of a size is a name. -/
theorem isName_of_storageType {size : Int} {word : String} (h : storageType size = .ok word) :
    isName word = true := by
  unfold storageType at h
  repeat' split at h
  all_goals cases h
  all_goals decide

/-- The type of the value of a field is a name if the word is one. -/
theorem EmitOptions.isName_valueType (options : EmitOptions) (width : Int) {word : String}
    (h : isName word = true) : isName (options.valueType width word) = true := by
  unfold valueType
  split
  · decide
  · exact h

/-- The body of a getter has no type but that of the word. -/
theorem Getter.areNames_of_ofField {width : Int} {word : String} {flag : Bool} {body : Getter}
    (made : Getter.ofField width word flag = .ok body) (h : isName word = true) :
    AreNames (body.steps.flatMap Step.types) := by
  cases flag with
  | true =>
    cases made
    exact areNames_nil
  | false =>
    obtain ⟨mask, _, rfl⟩ := map_eq_ok.mp made
    exact areNames_cons.mpr ⟨h, areNames_nil⟩

/-- The types in the body of a setter are names if the word is one. -/
theorem Setter.areNames_of_ofField {width : Int} {word : String} {flag : Bool} {body : Setter}
    (made : Setter.ofField width word flag = .ok body) (h : isName word = true) :
    AreNames (body.steps.flatMap Step.types) := by
  cases flag with
  | true =>
    cases made
    exact areNames_nil
  | false =>
    obtain ⟨mask, _, rfl⟩ := map_eq_ok.mp made
    exact areNames_cons.mpr ⟨h, areNames_nil⟩

/-- The functions of an accessor are tidy. -/
theorem AccessorSpec.tidyAll_items {options : EmitOptions} {word : String}
    {access : Option Access} {a : AccessorSpec} {part : List Item} (own : isName a.name = true)
    (h : isName word = true) (emitted : a.items options word access = .ok part) :
    TidyAll part := by
  have type := options.isName_valueType a.width h
  intro item mem
  rcases doc_or_function_of_mem_items emitted mem with ⟨text, rfl⟩ | ⟨f, rfl⟩
  · exact .doc text
  · refine .function ?_
    rcases (function_mem_items emitted).mp mem with ⟨_, body, made, rfl⟩ | ⟨_, body, made, rfl⟩
    · exact areNames_cons.mpr
        ⟨own, areNames_cons.mpr ⟨type, Getter.areNames_of_ofField made h⟩⟩
    · exact areNames_cons.mpr
        ⟨own, areNames_cons.mpr ⟨type, Setter.areNames_of_ofField made h⟩⟩

/-! ## Registers -/

namespace Register

variable {options : EmitOptions} {r : Register} {word : String} {part : List Item}

/-- The functions that reach a register are tidy if its name and its type are names. -/
theorem tidyAll_accessItems {type : String} (own : isName r.name = true)
    (ofType : isName type = true) (address : Address) :
    TidyAll (r.accessItems options address type) := by
  have names : ∀ f : Function, f.texts = [r.name, type] →
      TidyAll (options.docItems r.description ++ [.function f]) := by
    intro f same
    refine tidyAll_function options r.description ?_
    rw [same]
    exact areNames_cons.mpr ⟨own, areNames_cons.mpr ⟨ofType, areNames_nil⟩⟩
  have allowed : ∀ (given : Bool) (f : Function), f.texts = [r.name, type] →
      TidyAll (if given then options.docItems r.description ++ [.function f] else []) := by
    intro given f same
    split
    · exact names f same
    · exact tidyAll_nil
  rw [accessItems, List.append_assoc]
  exact tidyAll_append.mpr
    ⟨tidyAll_append.mpr ⟨allowed _ _ rfl, allowed _ _ rfl⟩, names _ rfl⟩

/-- The type of a register is tidy if the names in the register are names. -/
theorem tidyAll_wrapperItems (h : AreNames (Node.register r).names) (ofWord : isName word = true)
    (emitted : r.wrapperItems options word = .ok part) : TidyAll part := by
  obtain ⟨own, fields⟩ := areNames_cons.mp h
  cases wrapped : r.isWrapped options with
  | false =>
    rw [wrapperItems_of_not_wrapped wrapped emitted]
    exact tidyAll_nil
  | true =>
    obtain ⟨accessors, made, rfl⟩ := wrapperItems_of_wrapped wrapped emitted
    have tidy : TidyAll accessors := by
      apply tidyAll_itemsOfEach made
      intro a mem part emitted
      have own := isName_of_mem_accessors (List.forall_mem_map.mp fields) mem
      exact a.tidyAll_items own ofWord emitted
    -- two implementations: the one from the word, and the accessors
    have conversion : TidyAll [.function (.wrap word r.name)] :=
      tidyAll_singleton.mpr
        (.function (areNames_cons.mpr ⟨ofWord, areNames_cons.mpr ⟨own, areNames_nil⟩⟩))
    have target : isPlain ("From<" ++ word ++ "> for " ++ r.name) = true := by
      simp only [isPlain_append, isPlain_of_isName ofWord, isPlain_of_isName own]
      decide
    refine tidyAll_append.mpr ⟨tidyAll_docItems options r.description, ?_⟩
    simp only [tidyAll_cons]
    exact ⟨.attr (by decide) (by decide), .attr (by decide) (by decide),
      .wrapper own ofWord, .implementation target conversion,
      .implementation (isPlain_of_isName own) tidy, tidyAll_nil⟩

theorem isName_of_wordType (found : r.wordType = .ok word) : isName word = true :=
  isName_of_storageType (storageType_of_wordType found)

/-- The type of the value of a register is a name if that of the register and its word are. -/
theorem isName_valueType (own : isName r.name = true) (ofWord : isName word = true) :
    isName (r.valueType options word) = true := by
  unfold valueType
  split
  · exact own
  · exact ofWord

/-- The declarations for a register at a known address are tidy. -/
theorem tidyAll_items (h : AreNames (Node.register r).names) {address : Nat}
    (emitted : r.items options address = .ok part) : TidyAll part := by
  obtain ⟨word, found, emitted⟩ := bind_eq_ok.mp emitted
  obtain ⟨wrapper, wraps, same⟩ := bind_eq_ok.mp emitted
  cases same
  have own := (areNames_cons.mp h).1
  have ofWord := isName_of_wordType found
  exact tidyAll_append.mpr ⟨tidyAll_wrapperItems h ofWord wraps,
    tidyAll_accessItems own (isName_valueType own ofWord) _⟩

/-- The declarations for a register that is reached through handles are tidy. -/
theorem tidyAll_handleItems (h : AreNames (Node.register r).names) {structName : String}
    (ofStruct : isName structName = true)
    (emitted : r.handleItems options structName = .ok part) : TidyAll part := by
  obtain ⟨word, wrapper, found, wraps, rfl⟩ := handleItems_eq_ok.mp emitted
  have own := (areNames_cons.mp h).1
  have ofWord := isName_of_wordType found
  refine tidyAll_append.mpr ⟨tidyAll_wrapperItems h ofWord wraps, tidyAll_singleton.mpr ?_⟩
  exact .implementation (isPlain_of_isName ofStruct)
    (tidyAll_accessItems own (isName_valueType own ofWord) _)

end Register

/-! ## Nodes -/

namespace Node

variable {options : EmitOptions}

mutual

/-- The declarations for a node are tidy, at every depth. -/
theorem tidyAll_items : ∀ (node : Node) {base : Nat} {part : List Item}, AreNames node.names →
    node.items options base = .ok part → TidyAll part
  | .register r, _, _, h, emitted => r.tidyAll_items h emitted
  | .cluster c members, _, _, h, emitted => by
    obtain ⟨body, inside, same⟩ := bind_eq_ok.mp emitted
    cases same
    obtain ⟨own, others⟩ := areNames_cons.mp h
    exact tidyAll_module options c.description own
      (tidyAll_cons.mpr ⟨.useCore, tidyAll_itemsOfAll members others inside⟩)

/-- The declarations of nodes are tidy if the names in them are names. -/
theorem tidyAll_itemsOfAll : ∀ (nodes : List Node) {base : Nat} {all : List Item},
    AreNames (namesOfAll nodes) → itemsOfAll options base nodes = .ok all → TidyAll all
  | [], _, _, _, emitted => by
    cases emitted
    exact tidyAll_nil
  | node :: rest, _, _, h, emitted => by
    obtain ⟨part, first, emitted⟩ := bind_eq_ok.mp emitted
    obtain ⟨others, later, same⟩ := bind_eq_ok.mp emitted
    cases same
    obtain ⟨own, behind⟩ := areNames_append.mp h
    exact tidyAll_append.mpr ⟨tidyAll_items node own first, tidyAll_itemsOfAll rest behind later⟩

end

end Node

/-! ## Groups -/

/-- The value of a handle closes its braces. -/
theorem Item.isClosed_handleValue {name : String} (h : isName name = true) (base : Nat) :
    IsClosed (handleValue name base) := by
  have inside : IsClosed (" base_address: " ++ hex base ++ " ") :=
    isClosed_of_isPlain (by simp only [isPlain_append, isPlain_hex]; decide)
  have front : IsClosed (name ++ " ") :=
    isClosed_of_isPlain (by simp only [isPlain_append, isPlain_of_isName h]; decide)
  have same : handleValue name base =
      (name ++ " ") ++ ("\x7b" ++ (" base_address: " ++ hex base ++ " ") ++ "\x7d") := by
    simp [handleValue, ← String.toList_inj]
  rw [same]
  exact front.append inside.braces

/-- The declarations of a group are tidy if its own names and those in its members are names. -/
theorem PeripheralGroup.tidyAll_items {options : EmitOptions} {peripherals : List Peripheral}
    {group : PeripheralGroup} {part : List Item} (h : ∀ p ∈ peripherals, p.Named)
    (members : ∀ m ∈ group.members, m.peripheral ∈ peripherals)
    (ofModule : isName group.moduleName = true) (ofStruct : isName group.structName = true)
    (emitted : group.items options peripherals = .ok part) : TidyAll part := by
  obtain ⟨registers, functions, collected, made, rfl⟩ := items_eq_ok.mp emitted
  have shared : TidyAll functions := by
    apply tidyAll_itemsOfEach made
    intro r mem part own
    obtain ⟨p, memP, memNode⟩ := exists_of_mem_registers members collected mem
    exact r.tidyAll_handleItems (Node.areNames_of_mem (h p memP).nodes memNode) ofStruct own
  have constants : TidyAll group.constants := by
    refine List.forall_mem_map.mpr ?_
    intro m mem
    exact .constant (h _ (members m mem)).own ofStruct (Item.isClosed_handleValue ofStruct _)
  refine tidyAll_module options group.description ofModule ?_
  refine tidyAll_append.mpr ⟨tidyAll_append.mpr ⟨?_, constants⟩, shared⟩
  simp only [tidyAll_cons]
  exact ⟨.useCore, .attr (by decide) (by decide), .handle ofStruct, tidyAll_nil⟩

/-! ## Devices -/

/-- The declarations of an individual peripheral are tidy if its own name and those in it are
names. -/
theorem NamedPeripheral.tidyAll_items {options : EmitOptions} {named : NamedPeripheral}
    {part : List Item} (h : named.member.peripheral.Named) (own : isName named.name = true)
    (emitted : named.items options = .ok part) : TidyAll part := by
  obtain ⟨body, inside, same⟩ := bind_eq_ok.mp emitted
  cases same
  exact tidyAll_module options _ own
    (tidyAll_cons.mpr ⟨.useCore, Node.tidyAll_itemsOfAll _ h.nodes inside⟩)

/-- The module of interrupts is tidy if their names are names. -/
theorem tidyAll_interruptItems (options : EmitOptions) {interrupts : List Interrupt}
    (h : ∀ i ∈ interrupts, isName i.name = true) :
    TidyAll (interruptItems options interrupts) := by
  unfold interruptItems
  split
  · exact tidyAll_nil
  · refine tidyAll_singleton.mpr (.mod (by decide) ?_)
    intro item mem
    obtain ⟨i, memI, own⟩ := List.mem_flatMap.mp mem
    have constant : Item.Tidy (.constant i.name "u32" (decimal i.value)) :=
      .constant (h i memI) (by decide) (isClosed_of_isPlain (isPlain_decimal _))
    exact tidyAll_append.mpr
      ⟨tidyAll_docItems options i.description, tidyAll_singleton.mpr constant⟩ item own

namespace Device

variable {options : EmitOptions} {d : Device}

/-- The constants of a device are tidy. -/
theorem tidyAll_priorityItems (d : Device) : TidyAll d.priorityItems := by
  unfold priorityItems
  split
  · exact tidyAll_singleton.mpr
      (.constant (by decide) (by decide) (isClosed_of_isPlain (isPlain_decimal _)))
  · exact tidyAll_nil

/-- **The declarations of a device with names** are tidy. -/
theorem tidyAll_items (h : AreNames d.names) {items : List Item}
    (emitted : d.items options = .ok items) : TidyAll items := by
  obtain ⟨groups, madeGroups, emitted⟩ := bind_eq_ok.mp emitted
  obtain ⟨individuals, madeIndividuals, same⟩ := bind_eq_ok.mp emitted
  cases same
  obtain ⟨own, peripherals⟩ := named_of_areNames h
  have arranged := named_arrangement options peripherals
  have tidyGroups : TidyAll groups := by
    apply tidyAll_itemsOfEach madeGroups
    intro group mem part emitted
    obtain ⟨ofModule, ofStruct⟩ := arranged.groups group mem
    exact group.tidyAll_items peripherals (mem_of_mem_group mem) ofModule ofStruct emitted
  have tidyIndividuals : TidyAll individuals := by
    apply tidyAll_itemsOfEach madeIndividuals
    intro named mem part emitted
    have given := peripherals named.member.peripheral (mem_of_mem_individuals mem)
    exact named.tidyAll_items given (arranged.individuals named mem) emitted
  have interrupts : TidyAll (interruptItems options d.interrupts) := by
    apply tidyAll_interruptItems options
    intro i mem
    obtain ⟨p, memP, inside⟩ := exists_of_mem_interrupts mem
    exact (peripherals p memP).interrupts i inside
  have body := tidyAll_append.mpr ⟨tidyAll_append.mpr
    ⟨tidyAll_append.mpr ⟨tidyAll_priorityItems d, tidyGroups⟩, tidyIndividuals⟩, interrupts⟩
  have attributes : TidyAll [.attribute "allow(non_snake_case)", .attribute "allow(dead_code)",
      .attribute "allow(non_camel_case_types)"] := by
    simp only [tidyAll_cons]
    exact ⟨.attr (by decide) (by decide), .attr (by decide) (by decide),
      .attr (by decide) (by decide), tidyAll_nil⟩
  exact tidyAll_append.mpr ⟨tidyAll_append.mpr ⟨attributes, tidyAll_docItems options _⟩,
    tidyAll_singleton.mpr (.mod own body)⟩

end Device

end RegisterMap
