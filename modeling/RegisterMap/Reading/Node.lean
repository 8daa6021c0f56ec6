import RegisterMap.Model.Register
import RegisterMap.Reading.Field

/-!
# Reading registers and clusters

An element with the tag `register` or `cluster` describes a node. The nodes in a
cluster are those of its children that have one of these two tags; its other children
are its members.

Members are read in a fixed order and the first fault ends the reading, so the order
decides which fault is reported for an element that has several.
-/

namespace RegisterMap

open Xml

/-- The register properties that an element sets. -/
def RegisterProperties.ofElement (e : Element) : Except Fault RegisterProperties := do
  let size ← e.optional "size" readNumber
  let access ← e.optional "access" (readWord Access)
  let protection ← e.optional "protection" (readWord Protection)
  let resetValue ← e.optional "resetValue" readNumber
  let resetMask ← e.optional "resetMask" readNumber
  return { size, access, protection, resetValue, resetMask }

/-- The dimension that an element sets. -/
def Dimension.ofElement (e : Element) : Except Fault Dimension := do
  let dim ← e.optional "dim" readNumber
  let dimIncrement ← e.optional "dimIncrement" readNumber
  return { dim, dimIncrement, dimIndex := e.member? "dimIndex" }

/-- The fields that the element of a register describes, if it has a list of them. -/
def Field.listOfElement (e : Element) : Except Fault (Option (List Field)) :=
  match e.child? "fields" with
  | some list => ((list.childrenTagged "field").mapM Field.ofElement).map some
  | none => .ok none

/-- The register that an element describes, whatever its tag. -/
def Register.ofElement (e : Element) : Except Fault Register := do
  let name ← e.required "register" "name"
  let addressOffset ← readNumber (← e.required "register" "addressOffset")
  let fields ← Field.listOfElement e
  let dim ← Dimension.ofElement e
  let properties ← RegisterProperties.ofElement e
  let dataType ← e.optional "dataType" (readWord DataType)
  let modifiedWriteValues ← e.optional "modifiedWriteValues" (readWord ModifiedWriteValues)
  let readAction ← e.optional "readAction" (readWord ReadAction)
  return { name, addressOffset
           derivedFrom := e.attribute? "derivedFrom"
           dim
           displayName := e.member? "displayName"
           description := e.member? "description"
           alternateGroup := e.member? "alternateGroup"
           alternateRegister := e.member? "alternateRegister"
           properties, dataType, modifiedWriteValues, readAction, fields }

namespace Node

/-- The cluster that an element describes, whatever its tag, given the outcome of
reading the nodes in it. -/
def clusterOf (e : Element) (nodes : Except Fault (List Node)) : Except Fault Node := do
  let name ← e.required "cluster" "name"
  let addressOffset ← readNumber (← e.required "cluster" "addressOffset")
  let members ← nodes
  let dim ← Dimension.ofElement e
  let properties ← RegisterProperties.ofElement e
  let c : Cluster :=
    { name, addressOffset
      derivedFrom := e.attribute? "derivedFrom"
      dim
      description := e.member? "description"
      alternateCluster := e.member? "alternateCluster"
      headerStructName := e.member? "headerStructName"
      properties }
  return .cluster c members

mutual

/-- The node that an element describes. -/
def ofElement : Element → Except Fault Node
  | e@⟨tag, _, _, children⟩ =>
    if tag = "register" then (Register.ofElement e).map .register
    else if tag = "cluster" then clusterOf e (ofChildren children)
    else .error (.unexpected .node tag)

/-- The nodes that those children of a cluster describe that are nodes. -/
def ofChildren : List Element → Except Fault (List Node)
  | [] => .ok []
  | e :: rest =>
    if e.tag = "register" ∨ e.tag = "cluster" then do
      let node ← ofElement e
      let others ← ofChildren rest
      return node :: others
    else ofChildren rest

end

/-- The cluster that an element describes, whatever its tag. -/
def clusterOfElement (e : Element) : Except Fault Node := clusterOf e (ofChildren e.children)

end Node

end RegisterMap
