import RegisterMap.Code.Item
import RegisterMap.Emit.Options
import RegisterMap.Grouping.Fields

/-!
# Register types and field accessors

The value of a register is an unsigned integer of its size. A register with fields is
wrapped in a type of its own, whose functions read and write the fields; a register
whose only field is as wide as the register needs no such type.

A field that reaches beyond its register has no accessor. This is checked for all
fields of a register before anything is emitted for it, whether accessors are wanted
or not.
-/

namespace RegisterMap

open Text

/-- The description of what follows, if there is one and descriptions go along. -/
def EmitOptions.docItems (options : EmitOptions) (description : Option String) : List Item :=
  match description with
  | some text => if options.withDoc && text ≠ "" then [.doc text] else []
  | none => []

/-- Whether a field of a width is a truth value. -/
def EmitOptions.asFlag (options : EmitOptions) (width : Int) : Bool :=
  options.boolFields && width = 1

/-- The type of the value of a field. -/
def EmitOptions.valueType (options : EmitOptions) (width : Int) (word : String) : String :=
  if options.asFlag width then "bool" else word

/-- The unsigned integer type of a size. -/
def storageType (size : Int) : Except Fault String :=
  if size = 8 then .ok "u8"
  else if size = 16 then .ok "u16"
  else if size = 32 then .ok "u32"
  else if size = 64 then .ok "u64"
  else .error (.unsupported (.registerSize size))

/-- What an accessor is made from: the bits it reaches, its name, and who may use
it. -/
structure AccessorSpec where
  name : String
  position : Position
  width : Int
  access : Option Access
  description : Option String

/-- The accessor of a field. -/
def Field.accessor (f : Field) : AccessorSpec where
  name := f.name
  position := .fixed f.lsb
  width := f.width
  access := f.access
  description := f.description

/-- The accessor of several fields. -/
def FieldGroup.accessor (group : FieldGroup) : AccessorSpec where
  name := group.stem
  position := .indexed group.count group.lsb group.stride
  width := group.width
  access := group.access
  description := group.description

/-- The accessors of a list of fields: those of the groups first, if fields are
grouped. -/
def EmitOptions.accessors (options : EmitOptions) (fields : List Field) : List AccessorSpec :=
  if options.groupFields then
    (fieldGroups fields).map FieldGroup.accessor
      ++ (ungroupedFields fields).map Field.accessor
  else fields.map Field.accessor

/-- The getter of an accessor, if reading is allowed. -/
def AccessorSpec.getterItems (options : EmitOptions) (word : String)
    (registerAccess : Option Access) (a : AccessorSpec) : Except Fault (List Item) :=
  if Access.allowsRead (a.access <|> registerAccess) then
    (Getter.ofField a.width word (options.asFlag a.width)).map fun body =>
      options.docItems a.description
        ++ [.function (.get a.name a.position (options.valueType a.width word) a.width body)]
  else .ok []

/-- The setter of an accessor, if writing is allowed. -/
def AccessorSpec.setterItems (options : EmitOptions) (word : String)
    (registerAccess : Option Access) (a : AccessorSpec) : Except Fault (List Item) :=
  if Access.allowsWrite (a.access <|> registerAccess) then
    (Setter.ofField a.width word (options.asFlag a.width)).map fun body =>
      options.docItems a.description
        ++ [.function (.set a.name a.position (options.valueType a.width word) a.width body)]
  else .ok []

/-- The functions of an accessor. -/
def AccessorSpec.items (options : EmitOptions) (word : String)
    (registerAccess : Option Access) (a : AccessorSpec) : Except Fault (List Item) := do
  let getter ← a.getterItems options word registerAccess
  let setter ← a.setterItems options word registerAccess
  return getter ++ setter

/-- The declarations for several things, given those for each. -/
def itemsOfEach (items : α → Except Fault (List Item)) : List α → Except Fault (List Item)
  | [] => .ok []
  | thing :: rest => do
    let first ← items thing
    let others ← itemsOfEach items rest
    return first ++ others

namespace Register

/-- Whether a field ends inside its register. -/
def contains (r : Register) (f : Field) : Bool := f.bitRange.msb < r.size

/-- The type of the word of a register, once every field is known to be in it. -/
def wordType (r : Register) : Except Fault String := do
  let word ← storageType r.size
  match r.fieldList.find? fun f => !r.contains f with
  | some f =>
    .error (.unsupported (.fieldOutside r.name f.name f.bitRange.msb f.lsb r.size))
  | none => .ok word

/-- Whether a register has fields that are not the register as a whole. -/
def hasParts (r : Register) : Bool :=
  match r.fieldList with
  | [] => false
  | [f] => f.width ≠ r.size
  | _ => true

/-- Whether a register gets a type of its own. -/
def isWrapped (options : EmitOptions) (r : Register) : Bool := options.withFields && r.hasParts

/-- The type of the value of a register, given the type of its word. -/
def valueType (options : EmitOptions) (r : Register) (word : String) : String :=
  if r.isWrapped options then r.name else word

/-- The type of a register with its field accessors, given the type of its word. -/
def wrapperItems (options : EmitOptions) (r : Register) (word : String) :
    Except Fault (List Item) :=
  if r.isWrapped options then do
    let accessors ←
      itemsOfEach (AccessorSpec.items options word r.access) (options.accessors r.fieldList)
    return options.docItems r.description
      ++ [.attribute "repr(transparent)",
          .attribute "derive(Copy, Clone, PartialEq, Eq)",
          .wrapper r.name word,
          .implementation ("From<" ++ word ++ "> for " ++ r.name)
            [.function (.wrap word r.name)],
          .implementation r.name accessors]
  else .ok []

end Register

end RegisterMap
