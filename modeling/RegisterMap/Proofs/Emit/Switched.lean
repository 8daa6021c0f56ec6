import RegisterMap.Proofs.Emit.Layout

/-!
# What a switch changes

Two emissions of a device that differ in some switches walk over it in the same way, as long as
those switches are the same that decide which types and accessors there are and how peripherals are
grouped. What a switch changes is then a relation between lists of declarations (`Switched`): what
it says of descriptions, of the accessors of fields and of declarations that are left alone, and
that it is kept when declarations are put together. Each function on the way from a device to its
declarations gets one law, which says that it gives corresponding declarations, or the same fault.
-/

namespace RegisterMap

open Text

/-- The declarations of two emissions with different switches are related, when those of their
parts are. -/
structure Switched (options options' : EmitOptions) (related : List Item → List Item → Prop) :
    Prop where
  withFields : options'.withFields = options.withFields
  groupFields : options'.groupFields = options.groupFields
  groupPeripherals : options'.groupPeripherals = options.groupPeripherals
  nil : related [] []
  append : ∀ {front front' back back' : List Item}, related front front' → related back back' →
    related (front ++ back) (front' ++ back')
  flat : ∀ item : Item, item.isFlat = true → related [item] [item]
  implementation : ∀ (target : String) {body body' : List Item}, related body body' →
    related [.implementation target body] [.implementation target body']
  mod : ∀ (name : String) {body body' : List Item}, related body body' →
    related [.mod name body] [.mod name body']
  docs : ∀ description : Option String,
    related (options.docItems description) (options'.docItems description)
  getter : ∀ (a : AccessorSpec) (word : String) (access : Option Access),
    Correspond related (a.getterItems options word access) (a.getterItems options' word access)
  setter : ∀ (a : AccessorSpec) (word : String) (access : Option Access),
    Correspond related (a.setterItems options word access) (a.setterItems options' word access)

namespace Switched

variable {options options' : EmitOptions} {related : List Item → List Item → Prop}
  (switched : Switched options options' related)
include switched

/-! ## Declarations that are put together -/

theorem cons {item item' : Item} {rest rest' : List Item} (own : related [item] [item'])
    (others : related rest rest') : related (item :: rest) (item' :: rest') :=
  switched.append own others

/-- Declarations that have none in them, and are no descriptions, are left alone. -/
theorem flatAll {items : List Item} (flat : ∀ item ∈ items, item.isFlat = true) :
    related items items := by
  induction items with
  | nil => exact switched.nil
  | cons item rest ih =>
    obtain ⟨own, others⟩ := List.forall_mem_cons.mp flat
    exact switched.cons (switched.flat item own) (ih others)

theorem ite {items items' : List Item} (allowed : Bool) (own : related items items') :
    related (if allowed then items else []) (if allowed then items' else []) := by
  cases allowed with
  | false => exact switched.nil
  | true => exact own

theorem function (description : Option String) (f : Function) :
    related (options.docItems description ++ [.function f])
      (options'.docItems description ++ [.function f]) :=
  switched.append (switched.docs description) (switched.flat _ rfl)

/-- A module with its description. -/
theorem module (description : Option String) (name : String) {body body' : List Item}
    (inside : related body body') :
    related (options.docItems description ++ [.mod name body])
      (options'.docItems description ++ [.mod name body']) :=
  switched.append (switched.docs description) (switched.mod name inside)

/-- Two emissions are related one behind the other if each is. -/
theorem both {first second first' second' : Except Fault (List Item)}
    (own : Correspond related first first') (other : Correspond related second second') :
    Correspond related (first >>= fun a => second >>= fun b => pure (a ++ b))
      (first' >>= fun a => second' >>= fun b => pure (a ++ b)) :=
  own.bind fun front => other.bind fun back => .value (switched.append front back)

/-- The emission of several things is related if that of each is. -/
theorem itemsOfEach {α : Type} {items items' : α → Except Fault (List Item)}
    (each : ∀ thing, Correspond related (items thing) (items' thing)) (things : List α) :
    Correspond related (itemsOfEach items things) (itemsOfEach items' things) := by
  induction things with
  | nil => exact .value switched.nil
  | cons thing rest ih => exact switched.both (each thing) ih

/-- Declarations of several things are related if those of each are. -/
theorem flatMap {α : Type} {items items' : α → List Item}
    (each : ∀ thing, related (items thing) (items' thing)) (things : List α) :
    related (things.flatMap items) (things.flatMap items') := by
  induction things with
  | nil => exact switched.nil
  | cons thing rest ih =>
    rw [List.flatMap_cons, List.flatMap_cons]
    exact switched.append (each thing) ih

/-! ## Registers -/

/-- The declarations of an accessor are related. -/
theorem accessorItems (a : AccessorSpec) (word : String) (access : Option Access) :
    Correspond related (a.items options word access) (a.items options' word access) :=
  switched.both (switched.getter a word access) (switched.setter a word access)

/-- Both emissions have the same accessors. -/
theorem accessors_eq (fields : List Field) :
    options'.accessors fields = options.accessors fields := by
  rw [EmitOptions.accessors, EmitOptions.accessors, switched.groupFields]

/-- A register gets a type of its own in both emissions or in none. -/
theorem isWrapped_eq (r : Register) : r.isWrapped options' = r.isWrapped options := by
  rw [Register.isWrapped, Register.isWrapped, switched.withFields]

/-- The value of a register has the same type in both emissions. -/
theorem valueType_eq (r : Register) (word : String) :
    r.valueType options' word = r.valueType options word := by
  rw [Register.valueType, Register.valueType, switched.isWrapped_eq]

/-- The declarations of the type of a register are related. -/
theorem wrapperItems (r : Register) (word : String) :
    Correspond related (r.wrapperItems options word) (r.wrapperItems options' word) := by
  have accessors := switched.itemsOfEach
    (fun a => switched.accessorItems a word r.access) (options.accessors r.fieldList)
  unfold Register.wrapperItems
  rw [switched.isWrapped_eq, switched.accessors_eq]
  cases r.isWrapped options with
  | false => exact .value switched.nil
  | true =>
    refine accessors.bind fun functions => .value ?_
    have conversion := switched.implementation ("From<" ++ word ++ "> for " ++ r.name)
      (switched.flat (.function (.wrap word r.name)) rfl)
    have bodies := switched.cons conversion (switched.implementation r.name functions)
    exact switched.append (switched.docs r.description) (switched.cons (switched.flat _ rfl)
      (switched.cons (switched.flat _ rfl) (switched.cons (switched.flat _ rfl) bodies)))

/-- The functions that reach a register are related. -/
theorem accessItems (r : Register) (address : Address) (type : String) :
    related (r.accessItems options address type) (r.accessItems options' address type) := by
  have reads := switched.ite r.isRead
    (switched.function r.description (.read r.name address type))
  have writes := switched.ite r.isWrite
    (switched.function r.description (.write r.name address type))
  have points := switched.flat (.function (.pointer r.name address type r.isWrite)) rfl
  exact switched.append (switched.append (switched.append reads writes)
    (switched.docs r.description)) points

/-- The declarations of a register at an address are related. -/
theorem registerItems (r : Register) (address : Nat) :
    Correspond related (r.items options address) (r.items options' address) := by
  unfold Register.items
  refine Correspond.bind_same fun word => (switched.wrapperItems r word).bind fun wrapper => ?_
  rw [switched.valueType_eq]
  exact .value (switched.append wrapper (switched.accessItems r _ _))

/-- The declarations of a register in a group are related. -/
theorem handleItems (r : Register) (structName : String) :
    Correspond related (r.handleItems options structName) (r.handleItems options' structName) := by
  unfold Register.handleItems
  refine Correspond.bind_same fun word => (switched.wrapperItems r word).bind fun wrapper => ?_
  rw [switched.valueType_eq]
  exact .value (switched.append wrapper (switched.implementation _ (switched.accessItems r _ _)))

/-! ## Nodes -/

mutual

/-- The declarations of a node are related. A cluster is a module of those of its nodes. -/
theorem nodeItems : ∀ (node : Node) (base : Nat),
    Correspond related (node.items options base) (node.items options' base)
  | .register r, base => switched.registerItems r _
  | .cluster c members, base => by
    rw [Node.items, Node.items]
    exact (nodeItemsOfAll members _).bind fun body =>
      .value (switched.module _ _ (switched.cons (switched.flat _ rfl) body))

/-- The declarations of nodes are related. -/
theorem nodeItemsOfAll : ∀ (nodes : List Node) (base : Nat),
    Correspond related (Node.itemsOfAll options base nodes) (Node.itemsOfAll options' base nodes)
  | [], _ => .value switched.nil
  | node :: rest, base => by
    rw [Node.itemsOfAll, Node.itemsOfAll]
    exact switched.both (nodeItems node base) (nodeItemsOfAll rest base)

end

/-! ## Devices -/

/-- The declarations of a group are related. -/
theorem groupItems (peripherals : List Peripheral) (group : PeripheralGroup) :
    Correspond related (group.items options peripherals) (group.items options' peripherals) := by
  have constants : ∀ item ∈ group.constants, item.isFlat = true :=
    List.forall_mem_map.mpr fun _ _ => rfl
  unfold PeripheralGroup.items
  refine Correspond.bind_same fun registers =>
    (switched.itemsOfEach (fun r => switched.handleItems r group.structName) registers).bind
      fun functions => .value (switched.module _ _ ?_)
  refine switched.append (switched.append (switched.flatAll ?_) (switched.flatAll constants))
    functions
  simp only [List.forall_mem_cons, List.not_mem_nil, false_implies, implies_true, Item.isFlat,
    and_self]

/-- The declarations of an individual peripheral are related. -/
theorem namedItems (named : NamedPeripheral) :
    Correspond related (named.items options) (named.items options') :=
  (switched.nodeItemsOfAll _ _).bind fun body =>
    .value (switched.module _ _ (switched.cons (switched.flat _ rfl) body))

/-- The declarations of interrupts are related. -/
theorem interruptItems (interrupts : List Interrupt) :
    related (interruptItems options interrupts) (interruptItems options' interrupts) := by
  have each : ∀ i : Interrupt, related (i.items options) (i.items options') := fun i =>
    switched.append (switched.docs i.description) (switched.flat _ rfl)
  unfold RegisterMap.interruptItems
  split
  · exact switched.nil
  · exact switched.mod _ (switched.flatMap each interrupts)

theorem priorityItems (d : Device) : related d.priorityItems d.priorityItems := by
  unfold Device.priorityItems
  split
  · exact switched.flat _ rfl
  · exact switched.nil

/-- Both emissions arrange the peripherals in the same way. -/
theorem arrangement_eq (d : Device) : d.arrangement options' = d.arrangement options := by
  rw [Device.arrangement, Device.arrangement, switched.groupPeripherals, switched.withFields]

/-- **What a switch changes in a device** is what it changes in its parts. If there are no
declarations, it is for the same fault. -/
theorem deviceItems (d : Device) : Correspond related (d.items options) (d.items options') := by
  have groups := switched.itemsOfEach (switched.groupItems d.peripherals)
    (d.arrangement options).groups
  have individuals := switched.itemsOfEach switched.namedItems
    (d.arrangement options).individuals
  unfold Device.items
  rw [switched.arrangement_eq]
  refine groups.bind fun groups => individuals.bind fun individuals => .value ?_
  refine switched.append (switched.append ?_ (switched.docs _)) (switched.mod _ ?_)
  · exact switched.cons (switched.flat _ rfl)
      (switched.cons (switched.flat _ rfl) (switched.flat _ rfl))
  · exact switched.append (switched.append (switched.append (switched.priorityItems d) groups)
      individuals) (switched.interruptItems _)

end Switched

end RegisterMap
