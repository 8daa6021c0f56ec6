import RegisterMap.Fault
import RegisterMap.Model.Device

/-!
# What one sibling takes from another

A thing that is derived from a sibling keeps every member that it sets itself and
takes the others from the sibling. Members with one value are taken when they are
not set; lists are taken whole when the own list is absent or empty. Names, places
and the interrupts of a peripheral belong to the thing itself and are never taken.

`Derivable` collects what the resolution of references has to know about a kind of
thing, and the laws on which it rests: what a thing is called and of which kind it is
does not change, and what is settled is not derived any more. Its instances are fields,
nodes and peripherals.
-/

namespace RegisterMap

/-- A list if it has elements, otherwise another one. -/
def inheritList (own other : List α) : List α :=
  match own with
  | [] => other
  | _ :: _ => own

/-- A list if it is there and has elements, otherwise another one, which may be
absent or empty as well. -/
def inheritOptionalList (own other : Option (List α)) : Option (List α) :=
  match own with
  | some (_ :: _) => own
  | _ => other

/-- A field with what it does not set taken from another. -/
def Field.inherit (f source : Field) : Field :=
  { f with
    description := f.description <|> source.description
    access := f.access <|> source.access
    modifiedWriteValues := f.modifiedWriteValues <|> source.modifiedWriteValues
    readAction := f.readAction <|> source.readAction
    enumeratedValues := inheritList f.enumeratedValues source.enumeratedValues }

/-- A register with what it does not set taken from another. -/
def Register.inherit (r source : Register) : Register :=
  { r with
    dim := r.dim.fill source.dim
    displayName := r.displayName <|> source.displayName
    description := r.description <|> source.description
    alternateGroup := r.alternateGroup <|> source.alternateGroup
    alternateRegister := r.alternateRegister <|> source.alternateRegister
    dataType := r.dataType <|> source.dataType
    modifiedWriteValues := r.modifiedWriteValues <|> source.modifiedWriteValues
    readAction := r.readAction <|> source.readAction
    properties := r.properties.fill source.properties
    fields := inheritOptionalList r.fields source.fields }

/-- A cluster with what it does not set taken from another, the nodes apart. -/
def Cluster.inherit (c source : Cluster) : Cluster :=
  { c with
    dim := c.dim.fill source.dim
    description := c.description <|> source.description
    alternateCluster := c.alternateCluster <|> source.alternateCluster
    headerStructName := c.headerStructName <|> source.headerStructName
    properties := c.properties.fill source.properties }

/-- A node with what it does not set taken from another of its kind. A node of the
other kind has nothing to give. -/
def Node.inherit : Node → Node → Node
  | .register r, .register source => .register (r.inherit source)
  | .cluster c members, .cluster source sourceMembers =>
    .cluster (c.inherit source) (inheritList members sourceMembers)
  | node, _ => node

/-- A peripheral with what it does not set taken from another. -/
def Peripheral.inherit (p source : Peripheral) : Peripheral :=
  { p with
    dim := p.dim.fill source.dim
    version := p.version <|> source.version
    description := p.description <|> source.description
    alternatePeripheral := p.alternatePeripheral <|> source.alternatePeripheral
    groupName := p.groupName <|> source.groupName
    prependToName := p.prependToName <|> source.prependToName
    appendToName := p.appendToName <|> source.appendToName
    headerStructName := p.headerStructName <|> source.headerStructName
    disableCondition := p.disableCondition <|> source.disableCondition
    properties := p.properties.fill source.properties
    addressBlocks := inheritList p.addressBlocks source.addressBlocks
    registers := inheritOptionalList p.registers source.registers }

/-- Things of which one can be derived from a sibling. -/
class Derivable (α : Type) where
  /-- The kind of a thing; a thing takes members only from one of its kind. -/
  kind : α → Kind
  /-- The name of a thing. -/
  name : α → String
  /-- The name of the sibling from which a thing is derived. -/
  derivedFrom : α → Option String
  /-- A thing with what it does not set taken from another. -/
  inherit : α → α → α
  /-- A thing that is not derived any more. It remembers the sibling from which it
  was derived, unless it remembers one already. -/
  settle : String → α → α
  /-- Taking members from a sibling leaves the kind. -/
  kind_inherit : ∀ item source, kind (inherit item source) = kind item
  /-- Taking members from a sibling leaves the name. -/
  name_inherit : ∀ item source, name (inherit item source) = name item
  kind_settle : ∀ reference item, kind (settle reference item) = kind item
  name_settle : ∀ reference item, name (settle reference item) = name item
  derivedFrom_settle : ∀ reference item, derivedFrom (settle reference item) = none

namespace Derivable

instance : Derivable Field where
  kind _ := .field
  name f := f.name
  derivedFrom f := f.derivedFrom
  inherit := Field.inherit
  settle source f :=
    { f with derivedFrom := none, resolvedFrom := f.resolvedFrom <|> some source }
  kind_inherit _ _ := rfl
  name_inherit _ _ := rfl
  kind_settle _ _ := rfl
  name_settle _ _ := rfl
  derivedFrom_settle _ _ := rfl

instance : Derivable Node where
  kind
    | .register _ => .register
    | .cluster _ _ => .cluster
  name := Node.name
  derivedFrom := Node.derivedFrom
  inherit := Node.inherit
  settle source
    | .register r =>
      .register { r with derivedFrom := none, resolvedFrom := r.resolvedFrom <|> some source }
    | .cluster c members =>
      .cluster { c with derivedFrom := none, resolvedFrom := c.resolvedFrom <|> some source }
        members
  kind_inherit item source := by cases item <;> cases source <;> rfl
  name_inherit item source := by cases item <;> cases source <;> rfl
  kind_settle _ item := by cases item <;> rfl
  name_settle _ item := by cases item <;> rfl
  derivedFrom_settle _ item := by cases item <;> rfl

instance : Derivable Peripheral where
  kind _ := .peripheral
  name p := p.name
  derivedFrom p := p.derivedFrom
  inherit := Peripheral.inherit
  settle source p :=
    { p with derivedFrom := none, resolvedFrom := p.resolvedFrom <|> some source }
  kind_inherit _ _ := rfl
  name_inherit _ _ := rfl
  kind_settle _ _ := rfl
  name_settle _ _ := rfl
  derivedFrom_settle _ _ := rfl

end Derivable

end RegisterMap
