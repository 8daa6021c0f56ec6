import RegisterMap.Similar

/-!
# Similar things have the same outline

The outline of a thing keeps what similarity looks at and leaves everything else out: where
members were taken from, descriptions, display names, reset values and, when no field
accessors are wanted, the fields. Two fields, registers or nodes are similar exactly when
they have the same outline (`Field.similar_iff`, `Register.similar_iff`, `Node.similar_iff`),
so a law about similar things is a law about what their outline decides.

So nodes are divided into classes of similar ones (`Node.equivalence_similar`). Peripherals are also
similar because of what they are derived from. Each is similar to itself (`Peripheral.similar_self`)
and to those that are similar to it (`Peripheral.similar_comm`), but two that are similar to a third
need not be similar, unless none of them is derived from another
(`Peripheral.similar_iff_of_underived`).
-/

namespace RegisterMap

/-- Two lists are similar element by element exactly if the keys of their elements are the same,
where similarity is sameness of a key. -/
theorem pairwiseSimilar_iff {α β : Type} {similar : α → α → Bool} {key : α → β}
    (sameKey : ∀ a b, similar a b = true ↔ key a = key b) (as bs : List α) :
    pairwiseSimilar similar as bs = true ↔ as.map key = bs.map key := by
  induction as generalizing bs with
  | nil => cases bs <;> simp [pairwiseSimilar]
  | cons a as ih =>
    cases bs with
    | nil => simp [pairwiseSimilar]
    | cons b bs => simp [pairwiseSimilar, sameKey, ih]

/-! ## Fields -/

/-- What similarity looks at in a field. -/
def Field.outline (f : Field) : Field :=
  { f with derivedFrom := none, resolvedFrom := none, description := none }

/-- Two fields are similar exactly if they have the same outline. -/
theorem Field.similar_iff (a b : Field) : a.similar false b = true ↔ a.outline = b.outline := by
  simp [Field.similar, Field.outline, and_assoc]

/-! ## Registers -/

/-- What similarity looks at in the properties of a register. -/
def RegisterProperties.outline (properties : RegisterProperties) : RegisterProperties where
  size := properties.size
  access := properties.access
  protection := properties.protection

/-- Two sets of properties are similar exactly if they have the same outline. -/
theorem RegisterProperties.similar_iff (a b : RegisterProperties) :
    a.similar b = true ↔ a.outline = b.outline := by
  simp [RegisterProperties.similar, RegisterProperties.outline, and_assoc]

/-- What similarity looks at in a register. -/
def Register.outline (ignoreFields : Bool) (r : Register) : Register where
  name := r.name
  addressOffset := r.addressOffset
  properties := r.properties.outline
  modifiedWriteValues := r.modifiedWriteValues
  readAction := r.readAction
  fields := if ignoreFields then none else some (r.fieldList.map Field.outline)

/-- Two registers are similar exactly if they have the same outline. -/
theorem Register.similar_iff (ignoreFields : Bool) (a b : Register) :
    a.similar ignoreFields b = true ↔ a.outline ignoreFields = b.outline ignoreFields := by
  have fields := pairwiseSimilar_iff Field.similar_iff a.fieldList b.fieldList
  cases ignoreFields <;>
    simp [Register.similar, Register.outline, RegisterProperties.similar_iff, fields, and_assoc]

/-! ## Nodes -/

/-- What similarity looks at in a cluster, the nodes in it apart. -/
def Cluster.outline (c : Cluster) : Cluster where
  name := c.name
  addressOffset := c.addressOffset
  properties := c.properties

/-- Two clusters, the nodes in them apart, are similar exactly if they have the same outline. -/
theorem Cluster.similar_iff (a b : Cluster) : a.similar b = true ↔ a.outline = b.outline := by
  simp [Cluster.similar, Cluster.outline, and_assoc]

namespace Node

mutual

/-- What similarity looks at in a node. -/
def outline (ignoreFields : Bool) : Node → Node
  | .register r => .register (r.outline ignoreFields)
  | .cluster c members => .cluster c.outline (outlineAll ignoreFields members)

/-- What similarity looks at in each of some nodes. -/
def outlineAll (ignoreFields : Bool) : List Node → List Node
  | [] => []
  | node :: rest => node.outline ignoreFields :: outlineAll ignoreFields rest

end

mutual

/-- **Similarity is sameness of outlines.** -/
theorem similar_iff (ignoreFields : Bool) : ∀ a b : Node,
    a.similar ignoreFields b = true ↔ a.outline ignoreFields = b.outline ignoreFields
  | .register a, .register b => by
    rw [similar, Register.similar_iff, outline, outline, Node.register.injEq]
  | .cluster a members, .cluster b others => by
    rw [similar, Bool.and_eq_true, Cluster.similar_iff, allSimilar_iff ignoreFields members others,
      outline, outline, Node.cluster.injEq]
  | .register _, .cluster _ _ => by simp [similar, outline]
  | .cluster _ _, .register _ => by simp [similar, outline]

/-- Two lists of nodes are similar exactly if they have the same outlines. -/
theorem allSimilar_iff (ignoreFields : Bool) : ∀ as bs : List Node,
    allSimilar ignoreFields as bs = true ↔ outlineAll ignoreFields as = outlineAll ignoreFields bs
  | [], [] => by simp [allSimilar]
  | a :: as, b :: bs => by
    rw [allSimilar, Bool.and_eq_true, similar_iff ignoreFields a b,
      allSimilar_iff ignoreFields as bs, outlineAll, outlineAll, List.cons.injEq]
  | [], _ :: _ => by simp [allSimilar, outlineAll]
  | _ :: _, [] => by simp [allSimilar, outlineAll]

end

/-- **Similarity divides nodes into classes.** -/
theorem equivalence_similar (ignoreFields : Bool) :
    Equivalence fun a b : Node => a.similar ignoreFields b = true := by
  simp only [similar_iff]
  exact ⟨fun _ => rfl, Eq.symm, Eq.trans⟩

theorem allSimilar_comm (ignoreFields : Bool) (as bs : List Node) :
    allSimilar ignoreFields as bs = allSimilar ignoreFields bs as := by
  rw [Bool.eq_iff_iff, allSimilar_iff, allSimilar_iff]
  exact eq_comm

end Node

/-! ## Peripherals -/

namespace Peripheral

/-- A peripheral is similar to itself. -/
theorem similar_self (ignoreFields : Bool) (p : Peripheral) : p.similar ignoreFields p = true := by
  simp only [similar, (Node.allSimilar_iff ignoreFields p.nodes p.nodes).mpr rfl, Bool.or_true]

/-- A peripheral is similar to those that are similar to it. -/
theorem similar_comm (ignoreFields : Bool) (a b : Peripheral) :
    a.similar ignoreFields b = b.similar ignoreFields a := by
  -- that the sources are the same source may be asked of either of them
  have sources : (a.source.isSome && decide (a.source = b.source)) =
      (b.source.isSome && decide (b.source = a.source)) := by
    by_cases same : a.source = b.source
    · rw [same]
    · rw [decide_eq_false same, decide_eq_false (Ne.symm same), Bool.and_false, Bool.and_false]
  rw [similar, similar, sources, Node.allSimilar_comm, Bool.or_comm (decide (a.source = _))]

/-- Peripherals of which none is or was derived from another are similar when their nodes are. -/
theorem similar_iff_of_underived {a b : Peripheral} (underived : a.source = none)
    (underived' : b.source = none) (ignoreFields : Bool) :
    a.similar ignoreFields b = true ↔
      Node.outlineAll ignoreFields a.nodes = Node.outlineAll ignoreFields b.nodes := by
  rw [← Node.allSimilar_iff, similar, underived, underived']
  rfl

end Peripheral

end RegisterMap
