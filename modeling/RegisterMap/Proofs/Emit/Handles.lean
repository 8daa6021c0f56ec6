import RegisterMap.Proofs.Emit.Addresses

/-!
# Registers with and without handles

A register is emitted in one of two forms. Alone, its functions name its address. In a group they
are functions of a handle and add the offset of the register to the base address of the handle. The
two forms are `AccessForm`s of one text (`Register.accessCode`), which says what is written for a
register but for how it is reached: its descriptions, its functions, the type of its value, and
whether its pointer is mutable. So nothing else can differ between them
(`Register.writeHandleTo_agrees`).
-/

namespace RegisterMap

open Text Item

/-! ## Forms -/

/-- How functions reach a register: their parameters, those of a function that also takes a value,
and the expression for the address. -/
structure AccessForm where
  parameters : String
  valueParameters : String
  address : String

namespace AccessForm

/-- Without a handle, at an address that is written down. -/
def alone (address : String) : AccessForm where
  parameters := "()"
  valueParameters := "(value: T)"
  address := address

/-- Through a handle, at an offset from its base address that is written down. -/
def ofHandle (offset : String) : AccessForm where
  parameters := "(&self)"
  valueParameters := "(&self, value: T)"
  address := "(self.base_address + " ++ offset ++ ")"

/-- The form of functions that know where a register is. -/
def of : Address → AccessForm
  | .absolute address => alone (hex address)
  | .relative offset => ofHandle (hex offset)

/-- The parameters of a form are those of functions that know their register at an address of this
kind. -/
theorem parameters_of (address : Address) :
    (of address).parameters = Function.parameterList address.parameters := by
  have handle : "(&self)" = Function.parameterList ["&self"] := by decide
  cases address with
  | absolute address => exact Function.parameterList_nil.symm
  | relative offset => exact handle

/-- A function that takes a value has it behind the parameters of its form. -/
theorem valueParameters_of (address : Address) : (of address).valueParameters =
    Function.parameterList (address.parameters ++ ["value: T"]) := by
  have handle : "(&self, value: T)" = Function.parameterList ["&self", "value: T"] := by decide
  cases address with
  | absolute address => exact Function.parameterList_value.symm
  | relative offset => exact handle

theorem address_of (address : Address) : (of address).address = address.render := by
  cases address <;> rfl

end AccessForm

namespace Register

/-- The functions of a register as they are written in a form, given the type of its value. -/
def accessCode (options : EmitOptions) (r : Register) (form : AccessForm) (type : String) :
    List Code :=
  let doc := codeOfAll (options.docItems r.description)
  let pointer := (if r.isWrite then "*mut " else "*const ") ++ type
  (if r.isRead then
    doc ++ [.block ("pub unsafe fn read_" ++ r.name ++ form.parameters ++ " -> " ++ type)
      [.line ("let ptr = " ++ form.address ++ " as *const " ++ type ++ ";"),
       .line "core::ptr::read_volatile(ptr)"]]
    else [])
  ++ (if r.isWrite then
    doc ++ [.block
      ("pub unsafe fn write_" ++ r.name ++ "<T: Into<" ++ type ++ ">>" ++ form.valueParameters)
      [.line ("let ptr = " ++ form.address ++ " as *mut " ++ type ++ ";"),
       .line "core::ptr::write_volatile(ptr, value.into());"]]
    else [])
  ++ doc
  ++ [.block ("pub fn " ++ r.name ++ "_ptr" ++ form.parameters ++ " -> " ++ pointer)
    [.line (form.address ++ " as " ++ pointer)]]

end Register

/-! ## What is written for a function -/

namespace Item

@[simp]
theorem codeOfAll_append (front back : List Item) :
    codeOfAll (front ++ back) = codeOfAll front ++ codeOfAll back := by
  induction front with
  | nil => rfl
  | cons item rest ih => rw [List.cons_append, codeOfAll, ih, codeOfAll, List.cons_append]

end Item

section Functions

variable (name : String) (address : Address) (type : String)

/-- A function that reads is the text of its form. -/
theorem code_read : (Item.function (.read name address type)).code =
    .block ("pub unsafe fn read_" ++ name ++ (AccessForm.of address).parameters ++ " -> " ++ type)
      [.line ("let ptr = " ++ (AccessForm.of address).address ++ " as *const " ++ type ++ ";"),
       .line "core::ptr::read_volatile(ptr)"] := by
  rw [AccessForm.parameters_of, AccessForm.address_of, code, Function.lines_read]
  rfl

/-- A function that writes is the text of its form. -/
theorem code_write : (Item.function (.write name address type)).code =
    .block ("pub unsafe fn write_" ++ name ++ "<T: Into<" ++ type ++ ">>"
        ++ (AccessForm.of address).valueParameters)
      [.line ("let ptr = " ++ (AccessForm.of address).address ++ " as *mut " ++ type ++ ";"),
       .line "core::ptr::write_volatile(ptr, value.into());"] := by
  rw [AccessForm.valueParameters_of, AccessForm.address_of, code, Function.lines_write]
  rfl

/-- A function that gives a pointer is the text of its form. -/
theorem code_pointer (isMutable : Bool) :
    (Item.function (.pointer name address type isMutable)).code =
      .block ("pub fn " ++ name ++ "_ptr" ++ (AccessForm.of address).parameters ++ " -> "
          ++ ((if isMutable then "*mut " else "*const ") ++ type))
        [.line ((AccessForm.of address).address ++ " as "
          ++ ((if isMutable then "*mut " else "*const ") ++ type))] := by
  rw [AccessForm.parameters_of, AccessForm.address_of, ← Function.pointerType_eq]
  rfl

end Functions

namespace Register

variable (options : EmitOptions) (r : Register)

/-- The functions of a register are written in the form of their address. -/
theorem codeOfAll_accessItems (address : Address) (type : String) :
    codeOfAll (r.accessItems options address type) =
      r.accessCode options (.of address) type := by
  have one : ∀ (allowed : Bool) (f : Function),
      codeOfAll (if allowed then options.docItems r.description ++ [.function f] else []) =
        if allowed then codeOfAll (options.docItems r.description) ++ [(Item.function f).code]
        else [] := by
    intro allowed f
    cases allowed with
    | false => rfl
    | true => exact codeOfAll_append ..
  rw [accessItems, codeOfAll_append, codeOfAll_append, codeOfAll_append, one, one, code_read,
    code_write, codeOfAll, code_pointer]
  rfl

/-! ## Both forms -/

/-- What is emitted for a register before the functions that reach it, and the type of its word. -/
def ownType : Except Fault (String × List Item) := do
  let word ← r.wordType
  let before ← r.wrapperItems options word
  return (word, before)

/-- Whatever follows the type of a register, it comes behind the same declarations, or there is the
same fault. -/
theorem ownType_then (after : String → List Item) :
    (do
      let word ← r.wordType
      let before ← r.wrapperItems options word
      return before ++ after word) =
        (r.ownType options).map fun (word, before) => before ++ after word := by
  rw [ownType]
  cases r.wordType with
  | error fault => rfl
  | ok word =>
    cases made : r.wrapperItems options word <;> simp only [bind, Except.bind, made] <;> rfl

/-- A register at an address has its type first and then its functions. -/
theorem items_eq_map (address : Nat) :
    r.items options address = (r.ownType options).map fun (word, before) =>
      before ++ r.accessItems options (.absolute address) (r.valueType options word) :=
  r.ownType_then options fun word =>
    r.accessItems options (.absolute address) (r.valueType options word)

/-- A register that is reached through handles has its type first and then its functions, as those
of the handle. -/
theorem handleItems_eq_map (structName : String) :
    r.handleItems options structName = (r.ownType options).map fun (word, before) =>
      before ++ [.implementation structName
        (r.accessItems options (.relative r.addressOffset) (r.valueType options word))] :=
  r.ownType_then options fun word => [.implementation structName
    (r.accessItems options (.relative r.addressOffset) (r.valueType options word))]

/-- Writes a register at an address, behind what a writer has written. -/
def writeTo (w : Writer) (address : Nat) : Except Fault Writer :=
  (r.items options address).map fun items => w.writeAll (codeOfAll items)

/-- Writes a register that is reached through handles, behind what a writer has written. -/
def writeHandleTo (w : Writer) (structName : String) : Except Fault Writer :=
  (r.handleItems options structName).map fun items => w.writeAll (codeOfAll items)

/-- **A register is written alike with and without handles.** Behind what a writer has written, the
two ways to emit a register fail alike, or both write the type of the register, if it has one, and
then the same functions. In a group these stand in a block for the type of handles, in the form of a
handle. The values are of the same type. The address that is written for the register alone is the
base address plus the offset that is written for the handle. -/
theorem writeHandleTo_agrees (options : EmitOptions) (r : Register) (base : Nat)
    (structName : String) (w : Writer) :
    (∃ fault, r.writeTo options w (base + r.addressOffset) = .error fault ∧
        r.writeHandleTo options w structName = .error fault) ∨
      ∃ word before literal offset distance,
        storageType r.size = .ok word ∧ r.wrapperItems options word = .ok before ∧
        r.writeTo options w (base + r.addressOffset) = .ok (w.writeAll (codeOfAll before
          ++ r.accessCode options (.alone literal) (r.valueType options word))) ∧
        r.writeHandleTo options w structName = .ok (w.writeAll (codeOfAll before
          ++ [.block ("impl " ++ structName)
            (r.accessCode options (.ofHandle offset) (r.valueType options word))])) ∧
        readNumber offset = .ok distance ∧ readNumber literal = .ok (base + distance) := by
  rw [writeTo, writeHandleTo, items_eq_map, handleItems_eq_map]
  cases made : r.ownType options with
  | error fault => exact .inl ⟨fault, rfl, rfl⟩
  | ok own =>
    obtain ⟨word, before⟩ := own
    obtain ⟨_, found, made⟩ := bind_eq_ok.mp made
    obtain ⟨_, wraps, same⟩ := bind_eq_ok.mp made
    cases same
    refine .inr ⟨word, before, hex (base + r.addressOffset), hex r.addressOffset,
      r.addressOffset, storageType_of_wordType found, wraps, ?_, ?_, readNumber_hex _,
      readNumber_hex _⟩
    · simp only [Except.map, codeOfAll_append, codeOfAll_accessItems]
      rfl
    · simp only [Except.map, codeOfAll_append, codeOfAll, code, codeOfAll_accessItems]
      rfl

end Register

end RegisterMap
