import RegisterMap.Proofs.Emit.Register
import RegisterMap.Proofs.Similar

/-!
# The outline of a node decides its code

When descriptions are left out, the code of a node is the code of its outline, so nodes with
one outline have the same code, and the same fault if there is none (`Node.items_outline`).
Without field accessors the outline has no fields either. The fields of a node are looked at
even then, but only to find out whether they end inside their registers: the code of the node,
if there is any, is that of the outline (`Node.items_outline_of_ok`).

Each function on the way from a node to its code gets one law, which says what becomes of the
outline there. Among them is the grouping of fields: the groups of the outlines of some fields
are the outlines of their groups (`fieldGroups_outline`).
-/

namespace RegisterMap

open Text

/-! ## Groups of fields -/

/-- What is found of each item may be changed before or after all are found. -/
theorem mapM_option_map {α β γ : Type} (find : α → Option β) (change : β → γ) (items : List α) :
    items.mapM (fun a => (find a).map change) = (items.mapM find).map (List.map change) := by
  induction items with
  | nil => rfl
  | cons a rest ih =>
    rw [List.mapM_cons, List.mapM_cons, ih]
    cases find a with
    | none => rfl
    | some b => cases rest.mapM find <;> rfl

/-- What the outlines of the fields decide in a group. -/
def FieldGroup.outline (group : FieldGroup) : FieldGroup := { group with description := none }

/-- Whether fields are evenly spaced is decided by their outlines. -/
theorem evenlySpaced_outline (stride : Int) (fields : List Field) :
    evenlySpaced stride (fields.map Field.outline) = evenlySpaced stride fields := by
  induction fields with
  | nil => rfl
  | cons first rest ih =>
    cases rest with
    | nil => rfl
    | cons second rest =>
      rw [List.map_cons] at ih
      rw [List.map_cons, List.map_cons, evenlySpaced, evenlySpaced, ih]
      rfl

/-- The order of fields by their numbers is decided by their outlines. -/
theorem byNumber?_outline (fields : List Field) :
    byNumber? (fields.map Field.outline) = (byNumber? fields).map (List.map Field.outline) := by
  rw [byNumber?, byNumber?, ← mapM_option_map, List.length_map]
  simp only [List.find?_map]
  rfl

/-- The group that outlines of fields make is the outline of the group of the fields. -/
theorem FieldGroup.ofFields?_outline (wanted : String) (fields : List Field) :
    FieldGroup.ofFields? wanted (fields.map Field.outline) =
      (FieldGroup.ofFields? wanted fields).map FieldGroup.outline := by
  -- outlines have no descriptions, so their group has none
  have described : ((fields.map Field.outline).findSome? fun f => f.description.filter (· ≠ "")) =
      none := by
    simp [Field.outline]
  unfold FieldGroup.ofFields?
  split
  · rfl
  · rw [byNumber?_outline, described]
    rcases byNumber? fields with _ | _ | ⟨first, _ | ⟨second, rest⟩⟩
    · rfl
    · rfl
    · rfl
    · have spaced := evenlySpaced_outline (second.lsb - first.lsb) (first :: second :: rest)
      have alike : ((second :: rest).map Field.outline).all
          (fun f => f.width = first.width && f.access = first.access) =
            (second :: rest).all fun f => f.width = first.width && f.access = first.access :=
        List.all_map
      rw [Option.map_some, List.map_cons, List.map_cons, List.length_map]
      dsimp only
      rw [apply_ite (Option.map FieldGroup.outline)]
      refine ite_congr ?_ (fun _ => rfl) (fun _ => rfl)
      rw [← spaced, ← alike]
      rfl

/-- Which fields have a stem is decided by their outlines. -/
theorem fieldsWithStem_outline (fields : List Field) (wanted : String) :
    fieldsWithStem (fields.map Field.outline) wanted =
      (fieldsWithStem fields wanted).map Field.outline := by
  rw [fieldsWithStem, fieldsWithStem, List.filter_map]
  rfl

/-- The groups of the outlines of fields are the outlines of their groups. -/
theorem fieldGroups_outline (fields : List Field) :
    fieldGroups (fields.map Field.outline) = (fieldGroups fields).map FieldGroup.outline := by
  have each : groupOfStem? (fields.map Field.outline) =
      fun wanted => (groupOfStem? fields wanted).map FieldGroup.outline := by
    funext wanted
    rw [groupOfStem?, fieldsWithStem_outline, FieldGroup.ofFields?_outline, groupOfStem?]
  have stems : (fields.map Field.outline).map (stem ·.name) = fields.map (stem ·.name) := by
    rw [List.map_map]
    rfl
  rw [fieldGroups, fieldGroups, stems, each, List.map_filterMap]

/-- Which fields are in no group is decided by their outlines. -/
theorem ungroupedFields_outline (fields : List Field) :
    ungroupedFields (fields.map Field.outline) = (ungroupedFields fields).map Field.outline := by
  rw [ungroupedFields, ungroupedFields, fieldGroups_outline, List.filter_map]
  congr 1
  refine List.filter_congr fun f _ => ?_
  simp only [isUngrouped, List.any_map, Function.comp]
  rfl

/-! ## Accessors -/

/-- What the outlines of the fields decide in an accessor. -/
def AccessorSpec.outline (a : AccessorSpec) : AccessorSpec := { a with description := none }

/-- The accessors for the outlines of fields are the outlines of their accessors. -/
theorem accessors_outline (options : EmitOptions) (fields : List Field) :
    options.accessors (fields.map Field.outline) =
      (options.accessors fields).map AccessorSpec.outline := by
  unfold EmitOptions.accessors
  rw [fieldGroups_outline, ungroupedFields_outline]
  split
  · rw [List.map_append, List.map_map, List.map_map, List.map_map, List.map_map]
    rfl
  · rw [List.map_map, List.map_map]
    rfl

theorem itemsOfEach_map {α β : Type} (items : β → Except Fault (List Item)) (change : α → β)
    (things : List α) :
    itemsOfEach items (things.map change) =
      itemsOfEach (fun thing => items (change thing)) things := by
  induction things with
  | nil => rfl
  | cons thing rest ih => rw [List.map_cons, itemsOfEach, itemsOfEach, ih]

section Undescribed

variable {options : EmitOptions} (docsOff : options.withDoc = false)
include docsOff

theorem docItems_of_docsOff (description : Option String) : options.docItems description = [] := by
  cases description with
  | none => rfl
  | some text => simp [EmitOptions.docItems, docsOff]

/-- Without descriptions an accessor has the declarations of its outline. -/
theorem AccessorSpec.items_outline (a : AccessorSpec) (word : String) (access : Option Access) :
    a.outline.items options word access = a.items options word access := by
  unfold AccessorSpec.items AccessorSpec.getterItems AccessorSpec.setterItems
  simp only [docItems_of_docsOff docsOff]
  rfl

/-! ## Registers -/

namespace Register

variable (r : Register)

omit docsOff in
theorem fieldList_outline : (r.outline false).fieldList = r.fieldList.map Field.outline := rfl

omit docsOff in
/-- The word of a register is decided by its outline, which has the same fields with the same
ends. -/
theorem wordType_outline : (r.outline false).wordType = r.wordType := by
  have outside : (fun f => !(r.outline false).contains f) ∘ Field.outline =
      fun f => !r.contains f := rfl
  have size : (r.outline false).size = r.size := rfl
  rw [wordType, wordType, fieldList_outline, List.find?_map, outside, size]
  cases storageType r.size with
  | error fault => rfl
  | ok word => cases r.fieldList.find? fun f => !r.contains f <;> rfl

omit docsOff in
/-- Whether a register gets a type of its own is decided by its outline. -/
theorem isWrapped_outline : (r.outline false).isWrapped options = r.isWrapped options := by
  have parts : (r.outline false).hasParts = r.hasParts := by
    rw [hasParts, hasParts, fieldList_outline]
    rcases r.fieldList with _ | ⟨_, _ | _⟩ <;> rfl
  rw [isWrapped, isWrapped, parts]

/-- The type of a register is decided by its outline. -/
theorem wrapperItems_outline (word : String) :
    (r.outline false).wrapperItems options word = r.wrapperItems options word := by
  unfold wrapperItems
  rw [isWrapped_outline, fieldList_outline, accessors_outline, itemsOfEach_map]
  simp only [AccessorSpec.items_outline docsOff, docItems_of_docsOff docsOff]
  rfl

/-- The functions that reach a register are decided by its outline, with or without fields. -/
theorem accessItems_outline (ignoreFields : Bool) (address : Address) (type : String) :
    (r.outline ignoreFields).accessItems options address type =
      r.accessItems options address type := by
  unfold accessItems
  simp only [docItems_of_docsOff docsOff]
  rfl

/-- A register at an address is decided by its outline. -/
theorem items_outline (address : Nat) :
    (r.outline false).items options address = r.items options address := by
  unfold items valueType
  simp only [wordType_outline, wrapperItems_outline docsOff, isWrapped_outline,
    accessItems_outline docsOff]
  rfl

/-- Without field accessors the fields only have to end inside the register. -/
theorem items_outline_of_ok (fieldsOff : options.withFields = false) {address : Nat}
    {part : List Item} (emitted : r.items options address = .ok part) :
    (r.outline true).items options address = .ok part := by
  obtain ⟨word, found, emitted⟩ := bind_eq_ok.mp emitted
  obtain ⟨wrapper, wraps, same⟩ := bind_eq_ok.mp emitted
  cases same
  have bare : r.isWrapped options = false := by rw [isWrapped, fieldsOff, Bool.false_and]
  have bareOutline : (r.outline true).isWrapped options = false := by
    rw [isWrapped, fieldsOff, Bool.false_and]
  have own := storageType_of_wordType found
  have size : storageType (r.outline true).size = .ok word := own
  have wordOutline : (r.outline true).wordType = .ok word := bind_eq_ok.mpr ⟨word, size, rfl⟩
  have none : (r.outline true).wrapperItems options word = .ok [] := by
    rw [wrapperItems, bareOutline]
    rfl
  refine bind_eq_ok.mpr ⟨word, wordOutline, bind_eq_ok.mpr ⟨[], none, ?_⟩⟩
  rw [wrapperItems_of_not_wrapped bare wraps, accessItems_outline docsOff, valueType, valueType,
    bare, bareOutline]
  rfl

end Register

end Undescribed

/-! ## Nodes -/

namespace Node

variable {options : EmitOptions}

mutual

/-- **The outline decides the code**, when there are no descriptions. -/
theorem items_outline (docsOff : options.withDoc = false) : ∀ (node : Node) (base : Nat),
    (node.outline false).items options base = node.items options base
  | .register r, base => r.items_outline docsOff _
  | .cluster c members, base => by
    rw [outline, items, items, itemsOfAll_outline docsOff members, docItems_of_docsOff docsOff,
      docItems_of_docsOff docsOff]
    rfl

/-- Nodes have the declarations of their outlines, or the same fault. -/
theorem itemsOfAll_outline (docsOff : options.withDoc = false) : ∀ (nodes : List Node) (base : Nat),
    itemsOfAll options base (outlineAll false nodes) = itemsOfAll options base nodes
  | [], _ => rfl
  | node :: rest, base => by
    rw [outlineAll, itemsOfAll, itemsOfAll, items_outline docsOff node,
      itemsOfAll_outline docsOff rest]

end

mutual

/-- Without field accessors the outline has the code that the node has, if it has any. -/
theorem items_outline_of_ok (docsOff : options.withDoc = false)
    (fieldsOff : options.withFields = false) : ∀ (node : Node) {base : Nat} {part : List Item},
    node.items options base = .ok part → (node.outline true).items options base = .ok part
  | .register r, _, _, emitted => r.items_outline_of_ok docsOff fieldsOff emitted
  | .cluster c members, _, _, emitted => by
    obtain ⟨body, inside, same⟩ := bind_eq_ok.mp emitted
    cases same
    refine bind_eq_ok.mpr ⟨body, itemsOfAll_outline_of_ok docsOff fieldsOff members inside, ?_⟩
    rw [docItems_of_docsOff docsOff, docItems_of_docsOff docsOff]
    rfl

/-- Without field accessors, nodes that have declarations have those of their outlines without
fields. -/
theorem itemsOfAll_outline_of_ok (docsOff : options.withDoc = false)
    (fieldsOff : options.withFields = false) : ∀ (nodes : List Node) {base : Nat} {all : List Item},
    itemsOfAll options base nodes = .ok all →
      itemsOfAll options base (outlineAll true nodes) = .ok all
  | [], _, _, emitted => emitted
  | node :: rest, _, _, emitted => by
    obtain ⟨part, first, emitted⟩ := bind_eq_ok.mp emitted
    obtain ⟨others, later, same⟩ := bind_eq_ok.mp emitted
    cases same
    exact bind_eq_ok.mpr ⟨part, items_outline_of_ok docsOff fieldsOff node first,
      bind_eq_ok.mpr ⟨others, itemsOfAll_outline_of_ok docsOff fieldsOff rest later, rfl⟩⟩

end

end Node

/-- Writes the code of nodes whose surroundings begin at an address, behind what a writer has
written. -/
def Node.writeTo (w : Writer) (options : EmitOptions) (base : Nat) (nodes : List Node) :
    Except Fault Writer :=
  (Node.itemsOfAll options base nodes).map fun items => w.writeAll (Item.codeOfAll items)

/-- **Similar nodes share their code.** Without descriptions, two nodes that are similar are
written alike wherever they begin, with the same fault if there is one. If fields are ignored,
one of them may have a fault that the other has not, and what is written is the same when none
has. -/
theorem writeTo_eq_of_similar {options : EmitOptions} {a b : Node}
    (docsOff : options.withDoc = false) (similar : a.similar (!options.withFields) b = true)
    (w : Writer) (base : Nat) :
    (options.withFields = true →
        Node.writeTo w options base [a] = Node.writeTo w options base [b]) ∧
      (options.withFields = false → ∀ wa wb, Node.writeTo w options base [a] = .ok wa →
        Node.writeTo w options base [b] = .ok wb → wa = wb) := by
  have same := (Node.similar_iff (!options.withFields) a b).mp similar
  constructor
  · intro fieldsOn
    rw [fieldsOn, Bool.not_true] at same
    have outlines : Node.outlineAll false [a] = Node.outlineAll false [b] := by
      simp only [Node.outlineAll, same]
    rw [Node.writeTo, Node.writeTo, ← Node.itemsOfAll_outline docsOff [a],
      ← Node.itemsOfAll_outline docsOff [b], outlines]
  · -- without accessors the fields may still be refused, so both must have been written
    intro fieldsOff wa wb writesA writesB
    rw [fieldsOff, Bool.not_false] at same
    have outlines : Node.outlineAll true [a] = Node.outlineAll true [b] := by
      simp only [Node.outlineAll, same]
    obtain ⟨itemsA, emittedA, rfl⟩ := map_eq_ok.mp writesA
    obtain ⟨itemsB, emittedB, rfl⟩ := map_eq_ok.mp writesB
    have outlineA := Node.itemsOfAll_outline_of_ok docsOff fieldsOff [a] emittedA
    have outlineB := Node.itemsOfAll_outline_of_ok docsOff fieldsOff [b] emittedB
    rw [outlines, outlineB] at outlineA
    cases outlineA
    rfl

/-- A cluster in a cluster, with a register whose fields have numbered names. Everything that
can have a description has the given one. -/
def nestedChannels (description : String) : Node :=
  .cluster { name := "DMA", addressOffset := 0x40, description := some description }
    [.cluster { name := "CH", addressOffset := 8, description := some description }
      [.register
        { name := "CR", addressOffset := 4, description := some description
          fields := some
            [{ name := "EN0", bitRange := { lsb := 0, msb := 0 }, description := some description },
             { name := "EN1", bitRange := { lsb := 4, msb := 4 } }] }]]

/-- Two clusters with numbered fields, at two levels, that differ in every description. -/
theorem writeTo_eq_of_similar_nestedChannels :
    EmitOptions.withDoc { withDoc := false } = false ∧
      (nestedChannels "first").similar false (nestedChannels "second") = true ∧
      Node.writeTo {} { withDoc := false } 0x4000 [nestedChannels "first"] =
        Node.writeTo {} { withDoc := false } 0x4000 [nestedChannels "second"] := by
  have similar : (nestedChannels "first").similar false (nestedChannels "second") = true := by
    decide +kernel
  exact ⟨rfl, similar,
    (@writeTo_eq_of_similar { withDoc := false } _ _ rfl similar {} 0x4000).1 rfl⟩

end RegisterMap
