import RegisterMap.Model.Properties
import RegisterMap.Model.Field

/-!
# Registers and clusters

A peripheral holds a list of nodes, and a node is a register or a cluster of further
nodes. Offsets are relative to what the node is in, so the address of a register is
the base address of its peripheral plus the offsets on the way down to it.
-/

namespace RegisterMap

/-- A register. -/
structure Register where
  name : String
  addressOffset : Nat
  /-- The sibling from which members not set here are to be taken. -/
  derivedFrom : Option String := none
  /-- The sibling from which they were taken. -/
  resolvedFrom : Option String := none
  dim : Dimension := {}
  displayName : Option String := none
  description : Option String := none
  alternateGroup : Option String := none
  alternateRegister : Option String := none
  properties : RegisterProperties := {}
  dataType : Option DataType := none
  modifiedWriteValues : Option ModifiedWriteValues := none
  readAction : Option ReadAction := none
  fields : Option (List Field) := none
  deriving DecidableEq, Repr

namespace Register

/-- The size in bits of a register for which none is set anywhere. -/
def defaultSize : Nat := 32

/-- The size of a register in bits. -/
def size (r : Register) : Nat := r.properties.size.getD defaultSize

/-- The access right of a register. -/
def access (r : Register) : Option Access := r.properties.access

/-- Whether a register can be read. -/
def isRead (r : Register) : Bool := Access.allowsRead r.access

/-- Whether a register can be written. -/
def isWrite (r : Register) : Bool := Access.allowsWrite r.access

/-- The fields of a register; a register without a list of fields has none. -/
def fieldList (r : Register) : List Field := r.fields.getD []

end Register

/-- A cluster, apart from the nodes in it. -/
structure Cluster where
  name : String
  addressOffset : Nat
  /-- The sibling from which members not set here are to be taken. -/
  derivedFrom : Option String := none
  /-- The sibling from which they were taken. -/
  resolvedFrom : Option String := none
  dim : Dimension := {}
  description : Option String := none
  alternateCluster : Option String := none
  headerStructName : Option String := none
  properties : RegisterProperties := {}
  deriving DecidableEq, Repr

/-- A register, or a cluster with the nodes in it. -/
inductive Node where
  | register (register : Register)
  | cluster (cluster : Cluster) (members : List Node)

namespace Node

/-- The name of a node. -/
def name : Node → String
  | .register r => r.name
  | .cluster c _ => c.name

/-- The sibling from which a node is to take the members not set in it. -/
def derivedFrom : Node → Option String
  | .register r => r.derivedFrom
  | .cluster c _ => c.derivedFrom

/-- The register that a node is, if it is one. -/
def register? : Node → Option Register
  | .register r => some r
  | .cluster _ _ => none

/-- The cluster that a node is, with the nodes in it, if it is one. -/
def cluster? : Node → Option (Cluster × List Node)
  | .register _ => none
  | .cluster c members => some (c, members)

mutual

/-- How deep lists of nodes are nested in a node. -/
def depth : Node → Nat
  | .register _ => 0
  | .cluster _ members => depthOfAll members + 1

/-- How deep lists of nodes are nested in the nodes of a list. -/
def depthOfAll : List Node → Nat
  | [] => 0
  | node :: rest => max node.depth (depthOfAll rest)

end

end Node

end RegisterMap
