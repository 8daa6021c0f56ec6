import RegisterMap.Proofs.Similar

/-!
# What similarity makes of remarks

Descriptions, display names, reset values and reset masks are remarks: they say something about a
thing and are not to decide whether it can share code. A thing that is `stripped` has none left, and
things that are the same when they are stripped differ in remarks only.

Most remarks do not matter, but two kinds do. Clusters are compared with all their properties, reset
values included, and enumerated values with their descriptions, the latter unless fields are
ignored. These are the remarks in `Remarks.compared`. Changing any others changes no comparison, and
changing one of these changes some (`similar_restated_iff`). `resetCluster` and `describedMode` are
things for which they matter (`not_forall_similar_restated`).
-/

namespace RegisterMap

/-! ## Things without remarks -/

/-- The remarks that are kept when a thing is stripped. -/
structure Remarks where
  /-- Reset values and reset masks of clusters. -/
  clusterResets : Bool := false
  /-- Descriptions of enumerated values. -/
  valueDescriptions : Bool := false

/-- The remarks at which similarity looks. -/
def Remarks.compared (ignoreFields : Bool) : Remarks where
  clusterResets := true
  valueDescriptions := !ignoreFields

/-- Some enumerated values without their descriptions. -/
def EnumeratedValues.stripped (set : EnumeratedValues) : EnumeratedValues :=
  { set with values := set.values.map fun value => { value with description := none } }

/-- A field without remarks, apart from those that are kept. -/
def Field.stripped (kept : Remarks) (f : Field) : Field :=
  { f with
    description := none
    enumeratedValues :=
      if kept.valueDescriptions then f.enumeratedValues
      else f.enumeratedValues.map EnumeratedValues.stripped }

/-- A register without remarks, apart from those that are kept. -/
def Register.stripped (kept : Remarks) (r : Register) : Register :=
  { r with
    displayName := none
    description := none
    properties := r.properties.outline
    fields := r.fields.map fun fields => fields.map (Field.stripped kept) }

/-- A cluster without remarks, apart from those that are kept. -/
def Cluster.stripped (kept : Remarks) (c : Cluster) : Cluster :=
  { c with
    description := none
    properties := if kept.clusterResets then c.properties else c.properties.outline }

namespace Node

mutual

/-- A node without remarks at any depth, apart from those that are kept. -/
def stripped (kept : Remarks) : Node → Node
  | .register r => .register (r.stripped kept)
  | .cluster c members => .cluster (c.stripped kept) (strippedAll kept members)

/-- Nodes without remarks at any depth, apart from those that are kept. -/
def strippedAll (kept : Remarks) : List Node → List Node
  | [] => []
  | node :: rest => node.stripped kept :: strippedAll kept rest

end

end Node

/-- A peripheral without remarks at any depth, apart from those that are kept. -/
def Peripheral.stripped (kept : Remarks) (p : Peripheral) : Peripheral :=
  { p with
    description := none
    properties := p.properties.outline
    interrupts := p.interrupts.map fun i => { i with description := none }
    registers := p.registers.map (Node.strippedAll kept) }

/-! ## Similarity looks at no other remarks -/

theorem Register.fieldList_stripped (kept : Remarks) (r : Register) :
    (r.stripped kept).fieldList = r.fieldList.map (Field.stripped kept) := by
  cases own : r.fields <;> simp only [fieldList, stripped, own] <;> rfl

/-- Remarks that are not compared are not in the outline of a register. -/
theorem Register.outline_stripped (ignoreFields : Bool) (r : Register) :
    (r.stripped (.compared ignoreFields)).outline ignoreFields = r.outline ignoreFields := by
  have fields := fieldList_stripped (.compared ignoreFields) r
  cases ignoreFields with
  | true => rfl
  | false =>
    rw [outline, outline, fields, List.map_map]
    rfl

namespace Node

mutual

/-- Remarks that are not compared are not in the outline of a node. -/
theorem outline_stripped (ignoreFields : Bool) : ∀ node : Node,
    (node.stripped (.compared ignoreFields)).outline ignoreFields = node.outline ignoreFields
  | .register r => by rw [stripped, outline, outline, Register.outline_stripped]
  | .cluster c members => by
    rw [stripped, outline, outline, outlineAll_strippedAll ignoreFields members]
    rfl

/-- The outline of nodes is that of the nodes without the remarks at which similarity does not
look. -/
theorem outlineAll_strippedAll (ignoreFields : Bool) : ∀ nodes : List Node,
    outlineAll ignoreFields (strippedAll (.compared ignoreFields) nodes) =
      outlineAll ignoreFields nodes
  | [] => rfl
  | node :: rest => by
    rw [strippedAll, outlineAll, outlineAll, outline_stripped ignoreFields node,
      outlineAll_strippedAll ignoreFields rest]

end

end Node

/-! ## Similarity looks at these remarks -/

/-- Lists that agree in two ways element by element agree in what both decide. -/
theorem map_eq_map_of_both {α β γ δ : Type} {first : α → β} {second : α → γ} {both : α → δ}
    (each : ∀ a b, first a = first b → second a = second b → both a = both b) {as bs : List α}
    (sameFirst : as.map first = bs.map first) (sameSecond : as.map second = bs.map second) :
    as.map both = bs.map both := by
  induction as generalizing bs with
  | nil =>
    cases bs with
    | nil => rfl
    | cons b bs => cases sameFirst
  | cons a as ih =>
    cases bs with
    | nil => cases sameFirst
    | cons b bs =>
      obtain ⟨first, firsts⟩ := List.cons.inj sameFirst
      obtain ⟨second, seconds⟩ := List.cons.inj sameSecond
      rw [List.map_cons, List.map_cons, each a b first second, ih firsts seconds]

/-- The same for lists that may be missing, where the second comparison reads a missing list as an
empty one. -/
theorem optionMap_eq_of_both {α β γ δ : Type} {first : List α → β} {second : List α → γ}
    {both : List α → δ}
    (each : ∀ as bs, first as = first bs → second as = second bs → both as = both bs)
    {own other : Option (List α)} (sameFirst : own.map first = other.map first)
    (sameSecond : second (own.getD []) = second (other.getD [])) :
    own.map both = other.map both := by
  cases own with
  | none =>
    cases other with
    | none => rfl
    | some bs => cases sameFirst
  | some as =>
    cases other with
    | none => cases sameFirst
    | some bs => exact congrArg some (each as bs (Option.some.inj sameFirst) sameSecond)

/-- Fields that differ in remarks only and have the same outline differ in their own descriptions
only. -/
theorem Field.stripped_eq_of_outline {f g : Field} (restated : f.stripped {} = g.stripped {})
    (same : f.outline = g.outline) :
    f.stripped (.compared false) = g.stripped (.compared false) := by
  simp only [stripped, outline, Field.mk.injEq] at restated same
  simp [stripped, Remarks.compared, restated, same]

/-- Registers that differ in remarks only, and have one outline, do not differ in compared
remarks. -/
theorem Register.stripped_eq_of_outline {ignoreFields : Bool} {r s : Register}
    (restated : r.stripped {} = s.stripped {})
    (same : r.outline ignoreFields = s.outline ignoreFields) :
    r.stripped (.compared ignoreFields) = s.stripped (.compared ignoreFields) := by
  cases ignoreFields with
  | true => exact restated
  | false =>
    have each : ∀ fs gs : List Field, fs.map (Field.stripped {}) = gs.map (Field.stripped {}) →
        fs.map Field.outline = gs.map Field.outline →
          fs.map (Field.stripped (.compared false)) = gs.map (Field.stripped (.compared false)) :=
      fun _ _ => map_eq_map_of_both fun _ _ => Field.stripped_eq_of_outline
    have fields := optionMap_eq_of_both each (congrArg Register.fields restated)
      (Option.some.inj (congrArg Register.fields same))
    simp only [stripped, Register.mk.injEq] at restated
    simp [stripped, restated, fields]

/-- Clusters that differ in remarks only, and have one outline, do not differ in compared
remarks. -/
theorem Cluster.stripped_eq_of_outline {ignoreFields : Bool} {c d : Cluster}
    (restated : c.stripped {} = d.stripped {}) (same : c.outline = d.outline) :
    c.stripped (.compared ignoreFields) = d.stripped (.compared ignoreFields) := by
  simp only [stripped, outline, Cluster.mk.injEq] at restated same
  simp [stripped, restated, same]

namespace Node

mutual

/-- Nodes that differ in remarks only, and have one outline, do not differ in compared remarks. -/
theorem stripped_eq_of_outline (ignoreFields : Bool) : ∀ a b : Node,
    a.stripped {} = b.stripped {} → a.outline ignoreFields = b.outline ignoreFields →
      a.stripped (.compared ignoreFields) = b.stripped (.compared ignoreFields)
  | .register r, .register s, restated, same => by
    rw [stripped, stripped, Register.stripped_eq_of_outline (register.inj restated)
      (register.inj same)]
  | .cluster c members, .cluster d others, restated, same => by
    obtain ⟨own, inside⟩ := cluster.inj restated
    obtain ⟨ownSame, insideSame⟩ := cluster.inj same
    rw [stripped, stripped, Cluster.stripped_eq_of_outline own ownSame,
      strippedAll_eq_of_outlineAll ignoreFields members others inside insideSame]
  | .register _, .cluster _ _, restated, _ => by cases restated
  | .cluster _ _, .register _, restated, _ => by cases restated

/-- **What differs in remarks only, but has the same outline,** differs in those remarks only at
which similarity does not look. -/
theorem strippedAll_eq_of_outlineAll (ignoreFields : Bool) : ∀ as bs : List Node,
    strippedAll {} as = strippedAll {} bs →
      outlineAll ignoreFields as = outlineAll ignoreFields bs →
        strippedAll (.compared ignoreFields) as = strippedAll (.compared ignoreFields) bs
  | [], [], _, _ => rfl
  | a :: as, b :: bs, restated, same => by
    obtain ⟨first, rest⟩ := List.cons.inj restated
    obtain ⟨firstSame, restSame⟩ := List.cons.inj same
    rw [strippedAll, strippedAll, stripped_eq_of_outline ignoreFields a b first firstSame,
      strippedAll_eq_of_outlineAll ignoreFields as bs rest restSame]
  | [], _ :: _, restated, _ => by cases restated
  | _ :: _, [], restated, _ => by cases restated

end

/-- Nodes that differ only in remarks at which similarity does not look have the same outline. -/
theorem outline_eq_of_stripped {ignoreFields : Bool} {a b : Node}
    (restated : a.stripped (.compared ignoreFields) = b.stripped (.compared ignoreFields)) :
    a.outline ignoreFields = b.outline ignoreFields := by
  rw [← outline_stripped, restated, outline_stripped]

/-- Nodes that differ in remarks compare the same with all nodes exactly when they differ only in
remarks at which similarity does not look. -/
theorem similar_eq_iff (ignoreFields : Bool) {a a' : Node}
    (restated : a.stripped {} = a'.stripped {}) :
    (∀ b b' : Node, b.stripped (.compared ignoreFields) = b'.stripped (.compared ignoreFields) →
        a'.similar ignoreFields b' = a.similar ignoreFields b) ↔
      a.stripped (.compared ignoreFields) = a'.stripped (.compared ignoreFields) := by
  constructor
  · intro unchanged
    -- a node is similar to itself, so after the change it is similar to what it was
    have itself : a.similar ignoreFields a = true := (similar_iff ignoreFields a a).mpr rfl
    have same := (similar_iff ignoreFields a' a).mp ((unchanged a a rfl).trans itself)
    exact stripped_eq_of_outline ignoreFields a a' restated same.symm
  · intro kept b b' keptOther
    rw [Bool.eq_iff_iff, similar_iff, similar_iff, outline_eq_of_stripped kept,
      outline_eq_of_stripped keptOther]

end Node

/-! ## Peripherals -/

namespace Peripheral

variable {p p' : Peripheral}

theorem nodes_stripped (kept : Remarks) (p : Peripheral) :
    (p.stripped kept).nodes = Node.strippedAll kept p.nodes := by
  cases own : p.registers <;> simp only [nodes, stripped, own] <;> rfl

/-- A name is no remark. -/
theorem name_eq_of_stripped {kept : Remarks} (restated : p.stripped kept = p'.stripped kept) :
    p.name = p'.name := by
  have same : (p.stripped kept).name = (p'.stripped kept).name := congrArg name restated
  exact same

/-- What a peripheral is derived from is no remark. -/
theorem source_eq_of_stripped {kept : Remarks} (restated : p.stripped kept = p'.stripped kept) :
    p.source = p'.source := by
  have same : (p.stripped kept).source = (p'.stripped kept).source := congrArg source restated
  exact same

/-- Peripherals that differ in no compared remark have nodes with the same outlines. -/
theorem outlineAll_eq_of_stripped {ignoreFields : Bool}
    (restated : p.stripped (.compared ignoreFields) = p'.stripped (.compared ignoreFields)) :
    Node.outlineAll ignoreFields p.nodes = Node.outlineAll ignoreFields p'.nodes := by
  rw [← Node.outlineAll_strippedAll, ← nodes_stripped, restated, nodes_stripped,
    Node.outlineAll_strippedAll]

/-- Peripherals that differ in remarks only, and whose nodes have the same outlines, do not differ
in compared remarks. -/
theorem stripped_eq_of_outlineAll {ignoreFields : Bool} (restated : p.stripped {} = p'.stripped {})
    (same : Node.outlineAll ignoreFields p.nodes = Node.outlineAll ignoreFields p'.nodes) :
    p.stripped (.compared ignoreFields) = p'.stripped (.compared ignoreFields) := by
  have registers : p.registers.map (Node.strippedAll (.compared ignoreFields)) =
      p'.registers.map (Node.strippedAll (.compared ignoreFields)) :=
    optionMap_eq_of_both (Node.strippedAll_eq_of_outlineAll ignoreFields)
      (congrArg Peripheral.registers restated) same
  simp only [stripped, Peripheral.mk.injEq] at restated
  simp [stripped, restated, registers]

/-- There is a peripheral with some nodes that is only similar to those from a source whose nodes
are similar to these. -/
theorem exists_similar_eq_allSimilar (ignoreFields : Bool) (source : Option String)
    (registers : Option (List Node)) : ∃ probe : Peripheral, probe.registers = registers ∧
      ∀ p : Peripheral, p.source = source →
        p.similar ignoreFields probe = Node.allSimilar ignoreFields p.nodes probe.nodes := by
  obtain ⟨name, other⟩ : ∃ name : String, source ≠ some name := by
    by_cases empty : source = some ""
    · exact ⟨"P", by rw [empty]; decide⟩
    · exact ⟨"", empty⟩
  refine ⟨{ name, baseAddress := 0, registers }, rfl, ?_⟩
  rintro p rfl
  have underived : source { name, baseAddress := 0, registers } = none := rfl
  rw [similar, underived, decide_eq_false other, decide_eq_false (Option.some_ne_none _).symm]
  cases p.source <;> rfl

/-- Peripherals that differ in remarks compare the same with all peripherals exactly when they
differ only in remarks at which similarity does not look. -/
theorem similar_eq_iff (ignoreFields : Bool) (restated : p.stripped {} = p'.stripped {}) :
    (∀ q q' : Peripheral,
        q.stripped (.compared ignoreFields) = q'.stripped (.compared ignoreFields) →
        p'.similar ignoreFields q' = p.similar ignoreFields q) ↔
      p.stripped (.compared ignoreFields) = p'.stripped (.compared ignoreFields) := by
  constructor
  · intro unchanged
    obtain ⟨probe, registers, only⟩ :=
      exists_similar_eq_allSimilar ignoreFields p.source p.registers
    have own : probe.nodes = p.nodes := congrArg (·.getD []) registers
    have same := unchanged probe probe rfl
    have itself := (Node.allSimilar_iff ignoreFields p.nodes p.nodes).mpr rfl
    rw [only p rfl, only p' (source_eq_of_stripped restated).symm, own, itself,
      Node.allSimilar_iff] at same
    exact stripped_eq_of_outlineAll restated same.symm
  · intro kept q q' keptOther
    have inside : Node.allSimilar ignoreFields p'.nodes q'.nodes =
        Node.allSimilar ignoreFields p.nodes q.nodes := by
      rw [Bool.eq_iff_iff, Node.allSimilar_iff, Node.allSimilar_iff, outlineAll_eq_of_stripped kept,
        outlineAll_eq_of_stripped keptOther]
    rw [similar, similar, inside, name_eq_of_stripped kept, source_eq_of_stripped kept,
      name_eq_of_stripped keptOther, source_eq_of_stripped keptOther]

end Peripheral

/-! ## Which remarks matter -/

/-- **When remarks do not matter.** Changing remarks on a thing, at any depth, changes none of its
comparisons, whatever remarks at which similarity does not look are changed on the other side,
exactly when these are the only ones that are changed: no reset value or mask of a cluster and,
unless fields are ignored, no description of an enumerated value. -/
theorem similar_restated_iff (ignoreFields : Bool) :
    (∀ a a' : Node, a.stripped {} = a'.stripped {} →
      ((∀ b b' : Node,
          b.stripped (.compared ignoreFields) = b'.stripped (.compared ignoreFields) →
          a'.similar ignoreFields b' = a.similar ignoreFields b) ↔
        a.stripped (.compared ignoreFields) = a'.stripped (.compared ignoreFields))) ∧
    ∀ p p' : Peripheral, p.stripped {} = p'.stripped {} →
      ((∀ q q' : Peripheral,
          q.stripped (.compared ignoreFields) = q'.stripped (.compared ignoreFields) →
          p'.similar ignoreFields q' = p.similar ignoreFields q) ↔
        p.stripped (.compared ignoreFields) = p'.stripped (.compared ignoreFields)) :=
  ⟨fun _ _ => Node.similar_eq_iff ignoreFields, fun _ _ => Peripheral.similar_eq_iff ignoreFields⟩

/-- A cluster with a register, and a value to which registers in it are reset. -/
def resetCluster (value : Nat) : Node :=
  .cluster { name := "CH", addressOffset := 0, properties := { resetValue := some value } }
    [.register { name := "CR", addressOffset := 0 }]

/-- A register with a field of which a value is described. -/
def describedMode (description : String) : Node :=
  .register
    { name := "CR", addressOffset := 0
      fields := some
        [{ name := "MODE", bitRange := ⟨0, 0⟩
           enumeratedValues :=
             [{ values :=
                  [{ name := "ON", description := some description, value := some 1 }] }] }] }

/-- A described peripheral with one register. -/
def describedPort (description : String) : Peripheral where
  name := "PORT"
  baseAddress := 0x100
  description := some description
  registers := some [describedMode description]

/-- For a cluster another reset value changes a comparison. For a peripheral and its register other
descriptions change none when fields are ignored. -/
theorem similar_restated_iff_withDescriptions :
    ((resetCluster 0).stripped {} = (resetCluster 1).stripped {} ∧
      ¬ ∀ b b' : Node, b.stripped (.compared true) = b'.stripped (.compared true) →
        (resetCluster 1).similar true b' = (resetCluster 0).similar true b) ∧
    ((describedPort "on").stripped {} = (describedPort "enabled").stripped {} ∧
      ∀ q q' : Peripheral, q.stripped (.compared true) = q'.stripped (.compared true) →
        (describedPort "enabled").similar true q' = (describedPort "on").similar true q) := by
  obtain ⟨nodes, peripherals⟩ := similar_restated_iff true
  refine ⟨⟨rfl, fun unchanged => ?_⟩, rfl,
    (peripherals (describedPort "on") (describedPort "enabled") rfl).mpr rfl⟩
  cases (nodes (resetCluster 0) (resetCluster 1) rfl).mp unchanged

/-- The reset values of clusters matter, and so do the descriptions of enumerated values unless
fields are ignored. -/
theorem similar_resetCluster_describedMode :
    (∀ ignoreFields, (resetCluster 1).similar ignoreFields (resetCluster 0) = false) ∧
      (describedMode "on").similar false (describedMode "enabled") = false := by
  decide +kernel

/-- **Some remarks matter.** -/
theorem not_forall_similar_restated :
    ¬ ∀ (ignoreFields : Bool) (a a' b : Node), a.stripped {} = a'.stripped {} →
      a'.similar ignoreFields b = a.similar ignoreFields b := by
  intro unchanged
  have same := unchanged false (resetCluster 0) (resetCluster 1) (resetCluster 0) rfl
  have itself : (resetCluster 0).similar false (resetCluster 0) = true := by decide +kernel
  rw [itself] at same
  exact Bool.false_ne_true ((similar_resetCluster_describedMode.1 false).symm.trans same)

end RegisterMap
