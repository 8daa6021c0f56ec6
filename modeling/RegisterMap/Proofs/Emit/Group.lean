import RegisterMap.Proofs.Emit.Collected
import RegisterMap.Proofs.Emit.Register

/-!
# What the module of a group serves

A module serves a register through handles of a type when it has the functions of the
register, as many as its access right allows, and all of them reach its address through
the handle of its peripheral and take its word for the value.

A module that has some registers serves exactly those that are accessed like one of them of
the same name (`HasRegisters.serves_iff`), and the module of a group has the registers that
the group shares (`PeripheralGroup.IsModule.serves_iff`).
-/

namespace RegisterMap

/-! ## Registers that are served -/

/-- The word in the values that a function of a register has. The type of the values is that
of the register, which wraps the word, or the module has no type of that name and it is the
word itself. -/
def ValueHolds (body : List Item) (register type word : String) : Prop :=
  (type = register ∧ Item.wrapper register word ∈ body) ∨
    (type = word ∧ ∀ inner, Item.wrapper register inner ∉ body)

/-- A module serves a register through the handle with a base address: there is a pointer to
it, a function that reads it if it can be read, and one that writes it if it can be written,
and everything under its name is at its address and of its size. -/
structure Serves (body : List Item) (handle : String) (base : Nat) (r : Register) : Prop where
  pointer : ∃ address type isMutable, Offers body handle (.pointer r.name address type isMutable)
  reads : (∃ address type, Offers body handle (.read r.name address type)) ↔ r.isRead = true
  writes : (∃ address type, Offers body handle (.write r.name address type)) ↔ r.isWrite = true
  each : ∀ f address type, Offers body handle f → f.reached = some (r.name, address, type) →
    address.eval base = base + r.addressOffset ∧
      ∃ word, storageType r.size = .ok word ∧ ValueHolds body r.name type word

/-- A module has the types of some registers and, for a type of handles, their functions. -/
structure HasRegisters (options : EmitOptions) (body : List Item) (handle : String)
    (registers : List Register) : Prop where
  offers : ∀ f, f.reached ≠ none → (Offers body handle f ↔ ∃ s ∈ registers, ∃ word,
    s.wordType = .ok word ∧ Item.function f ∈
      s.accessItems options (.relative s.addressOffset) (s.valueType options word))
  wrapper : ∀ name inner, Item.wrapper name inner ∈ body ↔
    ∃ s ∈ registers, s.isWrapped options = true ∧ name = s.name ∧ s.wordType = .ok inner
  words : ∀ s ∈ registers, ∃ word, s.wordType = .ok word
  distinct : ∀ s ∈ registers, ∀ other ∈ registers, s.name = other.name → s = other

/-- Every function of a register reaches it, where it is said to be. -/
theorem Register.reached_of_mem_accessItems {options : EmitOptions} {r : Register}
    {address : Address} {type : String} {f : Function}
    (mem : Item.function f ∈ r.accessItems options address type) :
    f.reached = some (r.name, address, type) := by
  rcases function_mem_accessItems.mp mem with ⟨rfl, _⟩ | ⟨rfl, _⟩ | rfl <;> rfl

namespace HasRegisters

variable {options : EmitOptions} {body : List Item} {handle : String} {registers : List Register}
  {s r : Register} {word : String}

/-- What is offered under the name of a register is one of its functions. -/
theorem offers_iff (h : HasRegisters options body handle registers) (mem : s ∈ registers)
    (found : s.wordType = .ok word) {f : Function} {address : Address} {type : String}
    (reached : f.reached = some (s.name, address, type)) :
    Offers body handle f ↔
      Item.function f ∈
        s.accessItems options (.relative s.addressOffset) (s.valueType options word) := by
  rw [h.offers f (by rw [reached]; exact Option.some_ne_none _)]
  constructor
  · rintro ⟨other, memOther, word', found', memF⟩
    have same := (Register.reached_of_mem_accessItems memF).symm.trans reached
    have sameName : other.name = s.name := congrArg Prod.fst (Option.some.inj same)
    cases h.distinct other memOther s mem sameName
    cases found.symm.trans found'
    exact memF
  · exact fun memF => ⟨s, mem, word, found, memF⟩

/-- The values of the functions of a register hold its word. -/
theorem valueHolds_iff (h : HasRegisters options body handle registers) (mem : s ∈ registers)
    (found : s.wordType = .ok word) {held : String} :
    ValueHolds body s.name (s.valueType options word) held ↔ held = word := by
  -- types of one name are the type of one register
  have own : ∀ {inner}, Item.wrapper s.name inner ∈ body ↔
      s.isWrapped options = true ∧ inner = word := by
    intro inner
    rw [h.wrapper]
    constructor
    · rintro ⟨other, memOther, wrapped, sameName, found'⟩
      cases h.distinct s mem other memOther sameName
      exact ⟨wrapped, Except.ok.inj (found'.symm.trans found)⟩
    · rintro ⟨wrapped, rfl⟩
      exact ⟨s, mem, wrapped, rfl, found⟩
  unfold ValueHolds
  cases wrapped : s.isWrapped options with
  | false =>
    simp only [own, wrapped, Bool.false_eq_true, false_and, and_false, not_false_eq_true,
      implies_true, and_true, false_or, Register.valueType, if_false]
    exact eq_comm
  | true =>
    simp only [own, wrapped, true_and, Register.valueType, if_true]
    constructor
    · rintro (same | ⟨_, other⟩)
      · exact same
      · exact absurd rfl (other word)
    · exact .inl

/-- A module has a function that reads a register exactly if the register can be read. -/
theorem offers_read_iff (h : HasRegisters options body handle registers) (mem : s ∈ registers)
    (found : s.wordType = .ok word) :
    (∃ address type, Offers body handle (.read s.name address type)) ↔ s.isRead = true := by
  constructor
  · rintro ⟨address, type, offers⟩
    have memF := (h.offers_iff mem found (f := .read s.name address type) rfl).mp offers
    rcases Register.function_mem_accessItems.mp memF with ⟨_, allowed⟩ | ⟨other, _⟩ | other
    · exact allowed
    · cases other
    · cases other
  · intro allowed
    exact ⟨_, _, (h.offers_iff mem found rfl).mpr
      (Register.function_mem_accessItems.mpr (.inl ⟨rfl, allowed⟩))⟩

/-- A module has a function that writes a register exactly if the register can be written. -/
theorem offers_write_iff (h : HasRegisters options body handle registers) (mem : s ∈ registers)
    (found : s.wordType = .ok word) :
    (∃ address type, Offers body handle (.write s.name address type)) ↔ s.isWrite = true := by
  constructor
  · rintro ⟨address, type, offers⟩
    have memF := (h.offers_iff mem found (f := .write s.name address type) rfl).mp offers
    rcases Register.function_mem_accessItems.mp memF with ⟨other, _⟩ | ⟨_, allowed⟩ | other
    · cases other
    · exact allowed
    · cases other
  · intro allowed
    exact ⟨_, _, (h.offers_iff mem found rfl).mpr
      (Register.function_mem_accessItems.mpr (.inr (.inl ⟨rfl, allowed⟩)))⟩

/-- **What a module serves.** A register is served exactly when the module has one of its
name that is accessed alike. -/
theorem serves_iff (h : HasRegisters options body handle registers) {base : Nat} :
    Serves body handle base r ↔ ∃ s ∈ registers, s.name = r.name ∧ s.SameAccess r := by
  constructor
  · intro serves
    -- every register has a pointer, so one in the module has the name of this one
    obtain ⟨address, type, isMutable, offers⟩ := serves.pointer
    have reaches : (Function.pointer r.name address type isMutable).reached ≠ none :=
      Option.some_ne_none _
    obtain ⟨s, mem, word, found, memF⟩ := (h.offers _ reaches).mp offers
    have reached := Register.reached_of_mem_accessItems memF
    obtain ⟨sameName, rfl, rfl⟩ : r.name = s.name ∧ address = .relative s.addressOffset ∧
        type = s.valueType options word := by
      simpa only [Function.reached, Option.some.injEq, Prod.mk.injEq] using reached
    obtain ⟨sameAddress, held, fits, holds⟩ := serves.each _ _ _ offers rfl
    rw [sameName] at holds
    cases (h.valueHolds_iff mem found).mp holds
    have size := eq_of_storageType (Register.storageType_of_wordType found) fits
    refine ⟨s, mem, sameName.symm, Nat.add_left_cancel sameAddress, Int.ofNat.inj size, ?_, ?_⟩
    · rw [Bool.eq_iff_iff, ← serves.reads, sameName, h.offers_read_iff mem found]
    · rw [Bool.eq_iff_iff, ← serves.writes, sameName, h.offers_write_iff mem found]
  · rintro ⟨s, mem, sameName, same⟩
    obtain ⟨word, found⟩ := h.words s mem
    refine ⟨?_, ?_, ?_, ?_⟩
    · rw [← sameName]
      exact ⟨_, _, _, (h.offers_iff mem found rfl).mpr
        (Register.function_mem_accessItems.mpr (.inr (.inr rfl)))⟩
    · rw [← sameName, ← same.reads, h.offers_read_iff mem found]
    · rw [← sameName, ← same.writes, h.offers_write_iff mem found]
    · intro f address type offers reached
      rw [← sameName] at reached
      have memF := (h.offers_iff mem found reached).mp offers
      have own := reached.symm.trans (Register.reached_of_mem_accessItems memF)
      obtain ⟨rfl, rfl⟩ :
          address = .relative s.addressOffset ∧ type = s.valueType options word := by
        simpa only [Option.some.injEq, Prod.mk.injEq, true_and] using own
      refine ⟨congrArg (base + ·) same.offset, word, ?_, ?_⟩
      · rw [← same.size]
        exact Register.storageType_of_wordType found
      · rw [← sameName]
        exact (h.valueHolds_iff mem found).mpr rfl

end HasRegisters

/-! ## The module of a group -/

namespace PeripheralGroup

variable {options : EmitOptions} {peripherals : List Peripheral} {group : PeripheralGroup}

/-- A module is the one that is emitted for a group. -/
def IsModule (options : EmitOptions) (peripherals : List Peripheral) (group : PeripheralGroup)
    (body : List Item) : Prop :=
  ∃ part, group.items options peripherals = .ok part ∧ Item.mod group.moduleName body ∈ part

/-- What is emitted for a group: its description, and a module with the handle, the constants and
the functions of its registers. -/
theorem items_eq_ok {part : List Item} :
    group.items options peripherals = .ok part ↔
      ∃ registers functions, group.registers peripherals = .ok registers ∧
        itemsOfEach (·.handleItems options group.structName) registers = .ok functions ∧
        part = options.docItems group.description
          ++ [.mod group.moduleName
            ([.useCore, .attribute "derive(Copy, Clone, PartialEq, Eq)", .handle group.structName]
              ++ group.constants ++ functions)] := by
  constructor
  · intro emitted
    obtain ⟨registers, collected, emitted⟩ := bind_eq_ok.mp emitted
    obtain ⟨functions, made, same⟩ := bind_eq_ok.mp emitted
    cases same
    exact ⟨registers, functions, collected, made, rfl⟩
  · rintro ⟨registers, functions, collected, made, rfl⟩
    exact bind_eq_ok.mpr ⟨registers, collected, bind_eq_ok.mpr ⟨functions, made, rfl⟩⟩

/-- The declarations of a group have its module among them. -/
theorem exists_isModule {part : List Item} (emitted : group.items options peripherals = .ok part) :
    ∃ body, Item.mod group.moduleName body ∈ part := by
  obtain ⟨_, _, _, _, rfl⟩ := items_eq_ok.mp emitted
  exact ⟨_, List.mem_append_right _ (List.mem_singleton_self _)⟩

/-- The module of a group has the handle, the constants and the functions of its registers. -/
theorem IsModule.exists_functions {body : List Item} (h : group.IsModule options peripherals body) :
    ∃ registers functions, group.registers peripherals = .ok registers ∧
      itemsOfEach (·.handleItems options group.structName) registers = .ok functions ∧
      body = [.useCore, .attribute "derive(Copy, Clone, PartialEq, Eq)", .handle group.structName]
        ++ group.constants ++ functions := by
  obtain ⟨part, emitted, mem⟩ := h
  obtain ⟨registers, functions, collected, made, rfl⟩ := items_eq_ok.mp emitted
  refine ⟨registers, functions, collected, made, ?_⟩
  rcases List.mem_append.mp mem with mem | mem
  · obtain ⟨_, same⟩ := eq_doc_of_mem_docItems mem
    cases same
  · exact (Item.mod.inj (List.mem_singleton.mp mem)).2

/-- Every member has its constant, with the handle of its base address. -/
theorem IsModule.constant_mem {body : List Item} (h : group.IsModule options peripherals body)
    {m : Member} (mem : m ∈ group.members) :
    Item.constant m.peripheral.name group.structName
      (Item.handleValue group.structName m.peripheral.baseAddress) ∈ body := by
  obtain ⟨_, _, _, _, rfl⟩ := h.exists_functions
  have own := List.mem_map_of_mem (f := fun m : Member => Item.constant m.peripheral.name
    group.structName (Item.handleValue group.structName m.peripheral.baseAddress)) mem
  exact List.mem_append_left _ (List.mem_append_right _ own)

theorem eq_constant_of_mem_constants {item : Item} (mem : item ∈ group.constants) :
    ∃ name type value, item = .constant name type value := by
  obtain ⟨m, _, rfl⟩ := List.mem_map.mp mem
  exact ⟨_, _, _, rfl⟩

/-- Before the functions of a group stand no functions of a type. -/
theorem implementation_mem_body {functions : List Item} {type : String} {inside : List Item} :
    Item.implementation type inside ∈
        [.useCore, .attribute "derive(Copy, Clone, PartialEq, Eq)", .handle group.structName]
          ++ group.constants ++ functions ↔ Item.implementation type inside ∈ functions := by
  have absent : Item.implementation type inside ∉ group.constants := fun mem => by
    obtain ⟨_, _, _, same⟩ := eq_constant_of_mem_constants mem
    cases same
  simp only [List.mem_append, List.mem_cons, reduceCtorEq, List.not_mem_nil, or_false, absent,
    false_or]

/-- Before the functions of a group stand no types of registers. -/
theorem wrapper_mem_body {functions : List Item} {name inner : String} :
    Item.wrapper name inner ∈
        [.useCore, .attribute "derive(Copy, Clone, PartialEq, Eq)", .handle group.structName]
          ++ group.constants ++ functions ↔ Item.wrapper name inner ∈ functions := by
  have absent : Item.wrapper name inner ∉ group.constants := fun mem => by
    obtain ⟨_, _, _, same⟩ := eq_constant_of_mem_constants mem
    cases same
  simp only [List.mem_append, List.mem_cons, reduceCtorEq, List.not_mem_nil, or_false, absent,
    false_or]

/-- The module of a group has the registers that were collected for it. -/
theorem IsModule.hasRegisters {body : List Item} (h : group.IsModule options peripherals body) :
    ∃ registers, group.registers peripherals = .ok registers ∧
      HasRegisters options body group.structName registers := by
  obtain ⟨registers, functions, collected, made, rfl⟩ := h.exists_functions
  have emits := exists_items_of_itemsOfEach made
  refine ⟨registers, collected, ?_, ?_, ?_, ?_⟩
  · intro f reaches
    simp only [Offers, implementation_mem_body]
    change Offers functions group.structName f ↔ _
    rw [offers_of_itemsOfEach made]
    constructor
    · rintro ⟨s, mem, part, emitted, offers⟩
      exact ⟨s, mem, ((Register.offers_handleItems emitted reaches).mp offers).2⟩
    · rintro ⟨s, mem, own⟩
      obtain ⟨part, emitted⟩ := emits s mem
      exact ⟨s, mem, part, emitted, (Register.offers_handleItems emitted reaches).mpr ⟨rfl, own⟩⟩
  · intro name inner
    rw [wrapper_mem_body, mem_of_itemsOfEach made]
    constructor
    · rintro ⟨s, mem, part, emitted, memPart⟩
      exact ⟨s, mem, (Register.wrapper_mem_handleItems emitted).mp memPart⟩
    · rintro ⟨s, mem, own⟩
      obtain ⟨part, emitted⟩ := emits s mem
      exact ⟨s, mem, part, emitted, (Register.wrapper_mem_handleItems emitted).mpr own⟩
  · intro s mem
    obtain ⟨part, emitted⟩ := emits s mem
    obtain ⟨word, _, found, _⟩ := Register.handleItems_eq_ok.mp emitted
    exact ⟨word, found⟩
  · intro s mem other memOther sameName
    have foundS := ((mem_collectRegisters collected).mp mem).2
    have foundOther := ((mem_collectRegisters collected).mp memOther).2
    rw [sameName, foundOther] at foundS
    exact (Option.some.inj foundS).symm

/-- The module of a group serves the registers that are accessed like the ones it shares. -/
theorem IsModule.serves_iff {body : List Item} (h : group.IsModule options peripherals body)
    {base : Nat} {r : Register} :
    Serves body group.structName base r ↔
      ∃ s, group.shared? peripherals r.name = some s ∧ s.SameAccess r := by
  obtain ⟨registers, collected, has⟩ := h.hasRegisters
  rw [has.serves_iff]
  constructor
  · rintro ⟨s, mem, sameName, same⟩
    exact ⟨s, sameName ▸ ((mem_collectRegisters collected).mp mem).2, same⟩
  · rintro ⟨s, shared, same⟩
    have sameName := name_of_registerNamed? shared
    refine ⟨s, (mem_collectRegisters collected).mpr ⟨List.not_mem_nil, ?_⟩, sameName, same⟩
    rw [sameName]
    exact shared

end PeripheralGroup

end RegisterMap
