import RegisterMap.Derivation.Scope

/-!
# Resolving the references of a device

References are resolved from the outside in: first among the peripherals, then, for
each peripheral in order, among its nodes, and so on inside each node. A list that a
thing has taken from a sibling is resolved at its new place too, and comes out as it
does there.

Lists of nodes are nested, and taking a list from a sibling does not nest it deeper
than the sibling did. `resolveLevels` therefore counts the levels down, and as many
levels as a list has are enough.
-/

namespace RegisterMap

/-- Resolves the references among the fields of a register. -/
def Register.resolve (r : Register) : Progress Register :=
  match r.fields with
  | none => { state := r }
  | some fields => (resolveScope fields).within fun resolved => { r with fields := some resolved }

namespace Node

/-- Resolves the references inside a node, given how those in a list of nodes are
resolved. -/
def resolveInside (resolveMembers : List Node → Progress (List Node)) :
    Node → Progress Node
  | .register r => r.resolve.within .register
  | .cluster c members => (resolveMembers members).within (.cluster c)

/-- Resolves the references in the outer levels of a list of nodes. -/
def resolveLevels : Nat → List Node → Progress (List Node)
  | 0, nodes => { state := nodes }
  | levels + 1, nodes =>
    (resolveScope nodes).andThen (Progress.forEach (resolveInside (resolveLevels levels)))

/-- Resolves the references in a list of nodes, at every level. -/
def resolveAll (nodes : List Node) : Progress (List Node) :=
  resolveLevels (depthOfAll nodes + 1) nodes

end Node

/-- Resolves the references among the nodes of a peripheral, at every level. -/
def Peripheral.resolve (p : Peripheral) : Progress Peripheral :=
  match p.registers with
  | none => { state := p }
  | some nodes =>
    (Node.resolveAll nodes).within fun resolved => { p with registers := some resolved }

/-- Resolves the references of a device, at every level. -/
def Device.resolve (d : Device) : Progress Device :=
  ((resolveScope d.peripherals).andThen (Progress.forEach Peripheral.resolve)).within
    fun resolved => { d with peripherals := resolved }

end RegisterMap
