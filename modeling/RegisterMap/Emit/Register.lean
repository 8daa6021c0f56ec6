import RegisterMap.Emit.Field

/-!
# Registers

For a register there is a function that reads it, one that writes it, and one that
answers a pointer to it, the first two only as far as its access right allows. The
functions of an individual peripheral know the address of the register; those of a
group add its offset to the base address of a handle.
-/

namespace RegisterMap

namespace Register

/-- The functions that reach a register. -/
def accessItems (options : EmitOptions) (r : Register) (address : Address) (type : String) :
    List Item :=
  (if r.isRead then
    options.docItems r.description ++ [.function (.read r.name address type)] else [])
    ++ (if r.isWrite then
      options.docItems r.description ++ [.function (.write r.name address type)] else [])
    ++ options.docItems r.description
    ++ [.function (.pointer r.name address type r.isWrite)]

/-- A register at a known address. -/
def items (options : EmitOptions) (r : Register) (address : Nat) : Except Fault (List Item) := do
  let word ← r.wordType
  let wrapper ← r.wrapperItems options word
  return wrapper ++ r.accessItems options (.absolute address) (r.valueType options word)

/-- A register that is reached through handles. -/
def handleItems (options : EmitOptions) (r : Register) (structName : String) :
    Except Fault (List Item) := do
  let word ← r.wordType
  let wrapper ← r.wrapperItems options word
  return wrapper
    ++ [.implementation structName
      (r.accessItems options (.relative r.addressOffset) (r.valueType options word))]

end Register

namespace Node

mutual

/-- A node whose surroundings begin at an address. A cluster is a module of its
own. -/
def items (options : EmitOptions) (base : Nat) : Node → Except Fault (List Item)
  | .register r => r.items options (base + r.addressOffset)
  | .cluster c members => do
    let body ← itemsOfAll options (base + c.addressOffset) members
    return options.docItems c.description ++ [.mod c.name (.useCore :: body)]

/-- Nodes whose surroundings begin at an address. -/
def itemsOfAll (options : EmitOptions) (base : Nat) : List Node → Except Fault (List Item)
  | [] => .ok []
  | node :: rest => do
    let first ← node.items options base
    let others ← itemsOfAll options base rest
    return first ++ others

end

end Node

end RegisterMap
