import RegisterMap.Proofs.Emit.Entries
import RegisterMap.Proofs.Grouping.FirstFit
import RegisterMap.Proofs.Text.Numeral

/-!
# Every register at its address

Without groups, the code of a device has a module for each peripheral, and the modules in it are
nested as the clusters are. `NodesLaid` says this of a list of nodes: where a register stands,
there are the functions that reach it, which all name one address, and where a cluster stands, there
is a module in which this holds of its nodes. The offsets of the clusters passed on the way inside
are added up, so the address of a register is that of its peripheral plus all offsets around it plus
its own.
-/

namespace RegisterMap

open Item

/-! ## Texts -/

namespace Function

theorem parameterList_nil : parameterList [] = "()" := by decide

theorem parameterList_value : parameterList ["value: T"] = "(value: T)" := by decide

theorem pointerType_eq (isMutable : Bool) (type : String) :
    pointerType isMutable type = (if isMutable then "*mut " else "*const ") ++ type := by
  have words : ∀ isMutable : Bool, "*" ++ (if isMutable then "mut" else "const") ++ " " =
      if isMutable then "*mut " else "*const " := by decide
  rw [← words]
  rfl

section Statements

/-! The functions that read and write cast the address first, wherever the register is. -/

variable (name type : String) (address : Address)

/-- A function that reads has a pointer in its body and a volatile read from it. -/
theorem lines_read : (Function.read name address type).lines =
    ["let ptr = " ++ address.render ++ " as *const " ++ type ++ ";",
      "core::ptr::read_volatile(ptr)"] := by
  have cast : " as *const " = " as " ++ "*const " := by decide
  rw [lines, pointerType_eq, cast, if_neg Bool.false_ne_true]
  simp only [String.append_assoc]

/-- A function that writes has a pointer in its body and a volatile write to it. -/
theorem lines_write : (Function.write name address type).lines =
    ["let ptr = " ++ address.render ++ " as *mut " ++ type ++ ";",
      "core::ptr::write_volatile(ptr, value.into());"] := by
  have cast : " as *mut " = " as " ++ "*mut " := by decide
  rw [lines, pointerType_eq, cast, if_pos rfl]
  simp only [String.append_assoc]

end Statements

variable (name type : String) (address : Nat)

/-- How the function that reads from an address is found in the code. -/
theorem entry_read : (Function.read name (.absolute address) type).entry =
    .function ("pub unsafe fn read_" ++ name ++ "() -> " ++ type)
      ["let ptr = " ++ Text.hex address ++ " as *const " ++ type ++ ";",
        "core::ptr::read_volatile(ptr)"] := by
  have arrow : "() -> " = "()" ++ " -> " := by decide
  have head : (Function.read name (.absolute address) type).signature =
      "pub unsafe fn read_" ++ name ++ parameterList [] ++ " -> " ++ type := rfl
  have place : (Address.absolute address).render = Text.hex address := rfl
  rw [Function.entry, lines_read, head, place, parameterList_nil, arrow]
  simp only [String.append_assoc]

/-- How the function that writes to an address is found in the code. -/
theorem entry_write : (Function.write name (.absolute address) type).entry =
    .function ("pub unsafe fn write_" ++ name ++ "<T: Into<" ++ type ++ ">>(value: T)")
      ["let ptr = " ++ Text.hex address ++ " as *mut " ++ type ++ ";",
        "core::ptr::write_volatile(ptr, value.into());"] := by
  have close : ">>(value: T)" = ">>" ++ "(value: T)" := by decide
  have head : (Function.write name (.absolute address) type).signature =
      "pub unsafe fn write_" ++ name ++ "<T: Into<" ++ type ++ ">>"
        ++ parameterList ["value: T"] := rfl
  have place : (Address.absolute address).render = Text.hex address := rfl
  rw [Function.entry, lines_write, head, place, parameterList_value, close]
  simp only [String.append_assoc]

/-- How the function that gives the pointer to an address is found in the code. -/
theorem entry_pointer (isMutable : Bool) :
    (Function.pointer name (.absolute address) type isMutable).entry =
      .function
        ("pub fn " ++ name ++ "_ptr() -> " ++ (if isMutable then "*mut " else "*const ") ++ type)
        [Text.hex address ++ " as " ++ (if isMutable then "*mut " else "*const ") ++ type] := by
  have arrow : "_ptr() -> " = "_ptr" ++ "()" ++ " -> " := by decide
  have written : (Function.pointer name (.absolute address) type isMutable).entry =
      .function ("pub fn " ++ name ++ "_ptr" ++ parameterList [] ++ " -> "
          ++ pointerType isMutable type)
        [Text.hex address ++ " as " ++ pointerType isMutable type] := rfl
  rw [written, parameterList_nil, pointerType_eq, arrow]
  simp only [String.append_assoc]

end Function

/-! ## Registers -/

namespace Register

/-- A register gets a type of its own: such types are wanted, and it has fields that are not the
register as a whole. -/
def NeedsType (options : EmitOptions) (r : Register) : Prop :=
  options.withFields = true ∧
    (2 ≤ r.fieldList.length ∨ ∃ f, r.fieldList = [f] ∧ f.width ≠ r.size)

/-- A register is wrapped exactly when it gets a type of its own. -/
theorem isWrapped_iff (options : EmitOptions) (r : Register) :
    r.isWrapped options = true ↔ r.NeedsType options := by
  have parts : r.hasParts = true ↔
      2 ≤ r.fieldList.length ∨ ∃ f, r.fieldList = [f] ∧ f.width ≠ r.size := by
    unfold hasParts
    rcases r.fieldList with _ | ⟨f, _ | ⟨g, rest⟩⟩ <;> simp
  rw [isWrapped, Bool.and_eq_true, parts, NeedsType]

/-- The functions of a register, given how its address and the type of its value are written. -/
def accessEntries (r : Register) (literal type : String) : List Entry :=
  (if r.isRead then
    [.function ("pub unsafe fn read_" ++ r.name ++ "() -> " ++ type)
      ["let ptr = " ++ literal ++ " as *const " ++ type ++ ";", "core::ptr::read_volatile(ptr)"]]
    else [])
  ++ (if r.isWrite then
    [.function ("pub unsafe fn write_" ++ r.name ++ "<T: Into<" ++ type ++ ">>(value: T)")
      ["let ptr = " ++ literal ++ " as *mut " ++ type ++ ";",
       "core::ptr::write_volatile(ptr, value.into());"]]
    else [])
  ++ [.function
    ("pub fn " ++ r.name ++ "_ptr() -> " ++ (if r.isWrite then "*mut " else "*const ") ++ type)
    [literal ++ " as " ++ (if r.isWrite then "*mut " else "*const ") ++ type]]

/-- Entries are those of a register at an address: its type, if it gets one, and the functions that
reach it, with a literal that is read as the address. -/
def LaidAt (options : EmitOptions) (r : Register) (address : Nat) (entries : List Entry) : Prop :=
  ∃ word literal, storageType r.size = .ok word ∧ readNumber literal = .ok address ∧
    ((r.NeedsType options ∧ entries = .type r.name word :: r.accessEntries literal r.name) ∨
      (¬ r.NeedsType options ∧ entries = r.accessEntries literal word))

/-- What is found of a register at an address are its functions, with the address as it is
written. -/
theorem entriesOfAll_accessItems_absolute {options : EmitOptions} (r : Register) (address : Nat)
    (type : String) : entriesOfAll (r.accessItems options (.absolute address) type) =
      r.accessEntries (Text.hex address) type := by
  rw [entriesOfAll_accessItems, accessEntries, Function.entry_read, Function.entry_write,
    Function.entry_pointer]

variable {options : EmitOptions} {r : Register} {address : Nat} {part : List Item}

/-- A register is laid at the address for which it is emitted. -/
theorem laidAt_items (emitted : r.items options address = .ok part) :
    r.LaidAt options address (entriesOfAll part) := by
  obtain ⟨word, found, emitted⟩ := bind_eq_ok.mp emitted
  obtain ⟨wrapper, wraps, same⟩ := bind_eq_ok.mp emitted
  cases same
  refine ⟨word, Text.hex address, storageType_of_wordType found, readNumber_hex address, ?_⟩
  rw [entriesOfAll_append, entriesOfAll_wrapperItems wraps, entriesOfAll_accessItems_absolute,
    valueType]
  cases wrapped : r.isWrapped options with
  | true => exact .inl ⟨(isWrapped_iff options r).mp wrapped, rfl⟩
  | false =>
    have bare : ¬ r.NeedsType options := by
      rw [← isWrapped_iff, wrapped]
      exact Bool.false_ne_true
    exact .inr ⟨bare, rfl⟩

end Register

/-! ## Nodes -/

/-- Entries are those of some nodes, at a base address and the offsets of the clusters around them:
each register is laid at its address, and each cluster is a module with the entries of its nodes. -/
inductive NodesLaid (options : EmitOptions) (base : Nat) :
    List Nat → List Node → List Entry → Prop
  | nil {offsets : List Nat} : NodesLaid options base offsets [] []
  | register {offsets : List Nat} {r : Register} {rest : List Node} {front back : List Entry}
      (own : r.LaidAt options (base + offsets.sum + r.addressOffset) front)
      (others : NodesLaid options base offsets rest back) :
      NodesLaid options base offsets (.register r :: rest) (front ++ back)
  | cluster {offsets : List Nat} {c : Cluster} {members rest : List Node}
      {inside back : List Entry}
      (own : NodesLaid options base (offsets ++ [c.addressOffset]) members inside)
      (others : NodesLaid options base offsets rest back) :
      NodesLaid options base offsets (.cluster c members :: rest) (.module c.name inside :: back)

namespace Node

variable {options : EmitOptions} {base : Nat}

mutual

/-- What is emitted for a node lays it in front of others. -/
theorem nodesLaid_items : ∀ (node : Node) {offsets : List Nat} {part : List Item},
    node.items options (base + offsets.sum) = .ok part →
    ∀ {rest : List Node} {back : List Entry}, NodesLaid options base offsets rest back →
      NodesLaid options base offsets (node :: rest) (entriesOfAll part ++ back)
  | .register r, _, _, emitted, _, _, others => .register (Register.laidAt_items emitted) others
  | .cluster c members, offsets, part, emitted, _, _, others => by
    obtain ⟨body, made, same⟩ := bind_eq_ok.mp emitted
    cases same
    -- one offset more is on the way to what is in the cluster
    have inside : base + offsets.sum + c.addressOffset =
        base + (offsets ++ [c.addressOffset]).sum := by
      rw [List.sum_append, List.sum_singleton, Nat.add_assoc]
    rw [inside] at made
    rw [entriesOfAll_module, entriesOfAll_useCore]
    exact .cluster (nodesLaid_itemsOfAll members made) others

/-- **Registers are emitted at their addresses.** What is emitted for some nodes lays them, however
deep clusters are nested in them. -/
theorem nodesLaid_itemsOfAll : ∀ (nodes : List Node) {offsets : List Nat} {all : List Item},
    itemsOfAll options (base + offsets.sum) nodes = .ok all →
      NodesLaid options base offsets nodes (entriesOfAll all)
  | [], _, _, emitted => by
    cases emitted
    exact .nil
  | node :: rest, _, _, emitted => by
    obtain ⟨first, made, emitted⟩ := bind_eq_ok.mp emitted
    obtain ⟨others, later, same⟩ := bind_eq_ok.mp emitted
    cases same
    rw [entriesOfAll_append]
    exact nodesLaid_items node made (nodesLaid_itemsOfAll rest later)

end

end Node

/-! ## Devices -/

namespace Arrangement

theorem peripheral_membersOf (peripherals : List Peripheral) :
    (membersOf peripherals).map (·.peripheral) = peripherals := by
  rw [membersOf, List.map_map]
  exact List.zipIdx_map_fst 0 peripherals

/-- Without groups every peripheral is an individual, under its name or a numbered one. -/
theorem individuals_separate (taken : List String) (peripherals : List Peripheral) :
    (separate taken peripherals).individuals.map
        (fun named => (named.member.peripheral, named.name)) =
      peripherals.zip (uniqueNames taken (peripherals.map (·.name))) := by
  have each : (separate taken peripherals).individuals.map
      (fun named => (named.member.peripheral, named.name)) =
        ((membersOf peripherals).map (·.peripheral)).zip
          (uniqueNames taken (peripherals.map (·.name))) := by
    rw [List.zip, List.zipWith_map_left]
    exact List.map_zipWith ..
  rw [each, peripheral_membersOf]

end Arrangement

namespace Device

/-- A timer with two clusters, one in the other, and a register in the inner one that can only be
read. -/
def innerStatus : Peripheral where
  name := "TIM"
  baseAddress := 0x40000000
  registers := some
    [.cluster { name := "CH", addressOffset := 0x100 }
      [.cluster { name := "IN", addressOffset := 0x20 }
        [.register
          { name := "SR", addressOffset := 4
            properties := { size := some 16, access := some .readOnly }
            fields := some [{ name := "RDY", bitRange := ⟨0, 0⟩ }] }]]]

end Device

end RegisterMap
