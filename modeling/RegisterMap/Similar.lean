import RegisterMap.Model.Device

/-!
# Things that can share code

Two things are similar when the code emitted for one serves for the other. Similarity
looks at names, places, access rights and what writes and reads do; descriptions,
display names and reset values do not matter. When no field accessors are emitted,
fields do not matter either, and `ignoreFields` says so.

Two peripherals are also similar when one is derived from the other, or both from the
same one, whatever their registers.
-/

namespace RegisterMap

/-- Whether two lists have the same length and agree position by position. -/
def pairwiseSimilar (similar : α → α → Bool) : List α → List α → Bool
  | [], [] => true
  | a :: as, b :: bs => similar a b && pairwiseSimilar similar as bs
  | _, _ => false

/-- Whether registers with these properties can share code. -/
def RegisterProperties.similar (a b : RegisterProperties) : Bool :=
  a.size = b.size && a.access = b.access && a.protection = b.protection

/-- Whether two fields can share code. -/
def Field.similar (ignoreFields : Bool) (a b : Field) : Bool :=
  ignoreFields ||
    (a.name = b.name && a.bitRange = b.bitRange && a.access = b.access
      && a.modifiedWriteValues = b.modifiedWriteValues && a.readAction = b.readAction
      && a.enumeratedValues = b.enumeratedValues)

/-- Whether two registers can share code. -/
def Register.similar (ignoreFields : Bool) (a b : Register) : Bool :=
  a.name = b.name && a.addressOffset = b.addressOffset
    && a.properties.similar b.properties
    && a.modifiedWriteValues = b.modifiedWriteValues && a.readAction = b.readAction
    && (ignoreFields
      || pairwiseSimilar (Field.similar ignoreFields) a.fieldList b.fieldList)

/-- Whether two clusters can share code, the nodes in them apart. -/
def Cluster.similar (a b : Cluster) : Bool :=
  a.name = b.name && a.addressOffset = b.addressOffset && a.properties = b.properties

namespace Node

mutual

/-- Whether two nodes can share code. -/
def similar (ignoreFields : Bool) : Node → Node → Bool
  | .register a, .register b => a.similar ignoreFields b
  | .cluster a members, .cluster b others =>
    a.similar b && allSimilar ignoreFields members others
  | _, _ => false

/-- Whether two lists of nodes can share code. -/
def allSimilar (ignoreFields : Bool) : List Node → List Node → Bool
  | [], [] => true
  | a :: as, b :: bs => a.similar ignoreFields b && allSimilar ignoreFields as bs
  | _, _ => false

end

end Node

namespace Peripheral

/-- The peripheral from which one is or was derived. An empty reference counts as
none, as long as the peripheral is still derived from it. -/
def source (p : Peripheral) : Option String :=
  match p.derivedFrom with
  | none => p.resolvedFrom
  | some reference => if reference = "" then p.resolvedFrom else some reference

/-- Whether two peripherals can share code. -/
def similar (ignoreFields : Bool) (a b : Peripheral) : Bool :=
  a.source = some b.name || b.source = some a.name
    || (a.source.isSome && a.source = b.source)
    || Node.allSimilar ignoreFields a.nodes b.nodes

end Peripheral

end RegisterMap
