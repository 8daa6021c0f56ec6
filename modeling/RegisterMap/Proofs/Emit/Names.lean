import RegisterMap.Proofs.Emit.Interrupts
import RegisterMap.Proofs.Grouping.Fields
import RegisterMap.Proofs.Grouping.UniqueNames
import RegisterMap.Proofs.Text.Plain

/-!
# The names in the code of a device

The code of a device uses the names that the device gives to itself, its peripherals and their
handle types, its nodes, its fields and its interrupts (`Device.names`). It also uses names that the
device does not give: stems of groups of fields, beginnings that peripherals share, and numbered names.
When all given names are made of letters, digits and underscores, so are these.
-/

namespace RegisterMap

open Text

/-- Some texts are names. -/
def AreNames (texts : List String) : Prop := ∀ text ∈ texts, isName text = true

@[simp]
theorem areNames_nil : AreNames [] := fun _ mem => absurd mem List.not_mem_nil

@[simp]
theorem areNames_cons {text : String} {rest : List String} :
    AreNames (text :: rest) ↔ isName text = true ∧ AreNames rest :=
  List.forall_mem_cons

@[simp]
theorem areNames_append {front back : List String} :
    AreNames (front ++ back) ↔ AreNames front ∧ AreNames back :=
  List.forall_mem_append

/-! ## Given names -/

namespace Node

mutual

/-- The names in a node: its own, those of fields and those of the nodes in it. -/
def names : Node → List String
  | .register r => r.name :: r.fieldList.map (·.name)
  | .cluster c members => c.name :: namesOfAll members

/-- The names in some nodes. -/
def namesOfAll : List Node → List String
  | [] => []
  | node :: rest => node.names ++ namesOfAll rest

end

/-- The names in a node are among those of the nodes. -/
theorem areNames_of_mem {nodes : List Node} (h : AreNames (namesOfAll nodes)) {node : Node}
    (mem : node ∈ nodes) : AreNames node.names := by
  induction nodes with
  | nil => exact absurd mem List.not_mem_nil
  | cons first rest ih =>
    obtain ⟨own, others⟩ := areNames_append.mp h
    rcases List.mem_cons.mp mem with rfl | later
    · exact own
    · exact ih others later

end Node

/-- The names in a peripheral, that of its handle type among them. -/
def Peripheral.names (p : Peripheral) : List String :=
  p.name :: (p.headerStructName.toList ++ (Node.namesOfAll p.nodes ++ p.interrupts.map (·.name)))

/-- The names in a device. -/
def Device.names (d : Device) : List String := d.name :: d.peripherals.flatMap Peripheral.names

/-- The names in a peripheral are names. -/
structure Peripheral.Named (p : Peripheral) : Prop where
  own : isName p.name = true
  handle : ∀ name, p.headerStructName = some name → isName name = true
  nodes : AreNames (Node.namesOfAll p.nodes)
  interrupts : ∀ i ∈ p.interrupts, isName i.name = true

/-- If all names in a peripheral are names, then so are those it is emitted under. -/
theorem Peripheral.named_of_areNames {p : Peripheral} (h : AreNames p.names) : p.Named := by
  simp only [Peripheral.names, areNames_cons, areNames_append] at h
  obtain ⟨own, handle, nodes, interrupts⟩ := h
  refine ⟨own, ?_, nodes, ?_⟩
  · intro name given
    apply handle name
    rw [given]
    exact List.mem_singleton_self name
  · intro i mem
    exact interrupts i.name (List.mem_map_of_mem mem)

/-- If all names in a device are names, then so are those of its peripherals. -/
theorem Device.named_of_areNames {d : Device} (h : AreNames d.names) :
    isName d.name = true ∧ ∀ p ∈ d.peripherals, p.Named := by
  obtain ⟨own, others⟩ := areNames_cons.mp h
  refine ⟨own, ?_⟩
  intro p mem
  apply Peripheral.named_of_areNames
  intro name inside
  exact others name (List.mem_flatMap.mpr ⟨p, mem, inside⟩)

/-! ## Accessors -/

/-- The accessors of fields with names have names. -/
theorem isName_of_mem_accessors {options : EmitOptions} {fields : List Field}
    (h : ∀ f ∈ fields, isName f.name = true) {a : AccessorSpec}
    (mem : a ∈ options.accessors fields) : isName a.name = true := by
  have single : ∀ {some : List Field}, some ⊆ fields → a ∈ some.map Field.accessor →
      isName a.name = true := by
    intro some inside memSome
    obtain ⟨f, memF, rfl⟩ := List.mem_map.mp memSome
    exact h f (inside memF)
  unfold EmitOptions.accessors at mem
  split at mem
  · rcases List.mem_append.mp mem with grouped | alone
    · obtain ⟨group, memGroup, rfl⟩ := List.mem_map.mp grouped
      obtain ⟨f, memF, own⟩ := List.mem_map.mp (mem_fieldGroups.mp memGroup).1
      have name := isName_stem (h f memF)
      rwa [own] at name
    · exact single (List.filter_subset_self _) alone
  · exact single (List.Subset.refl fields) mem

/-! ## Arrangements -/

/-- The first text that is given is a name if all that are given are. -/
theorem isName_of_firstText {texts : List (Option String)} {given : String}
    (found : firstText texts = some given) (h : ∀ text, some text ∈ texts → isName text = true) :
    isName given = true := by
  obtain ⟨text, mem, kept⟩ := List.exists_of_findSome?_eq_some found
  obtain ⟨same, _⟩ := Option.filter_eq_some_iff.mp kept
  exact h given (same ▸ mem)

/-- The handle type of peripherals with names has a name. -/
theorem isName_groupStructName {peripherals : List Peripheral} (h : ∀ p ∈ peripherals, p.Named) :
    isName (groupStructName peripherals) = true := by
  unfold groupStructName
  split
  · next given found =>
    apply isName_of_firstText found
    intro text mem
    obtain ⟨p, memP, own⟩ := List.mem_map.mp mem
    exact (h p memP).handle text own
  · rcases peripherals with _ | ⟨first, others⟩
    · rfl
    · dsimp only
      split
      · exact isName_stem (h first List.mem_cons_self).own
      · apply isName_commonStart
        intro name mem
        obtain ⟨p, memP, rfl⟩ := List.mem_map.mp mem
        exact (h p memP).own

/-- A name with a number behind it is a name. -/
theorem isName_numbered {name : String} (h : isName name = true) (n : Nat) :
    isName (numbered name n) = true := by
  rw [numbered, isName_append, isName_append, h, isName_decimal]
  decide

/-- A name that is numbered until it is free is a name. -/
theorem isName_freeName (reserved : List String) {name : String} (h : isName name = true) :
    isName (freeName reserved name) = true := by
  unfold freeName
  split
  · exact isName_numbered h _
  · exact h

/-- Names that are numbered where they repeat are names, whatever is in use. -/
theorem areNames_uniqueNamesFrom {names : List String} (h : AreNames names)
    (used reserved : List String) : AreNames (uniqueNamesFrom used reserved names) := by
  induction names generalizing used reserved with
  | nil => exact areNames_nil
  | cons name rest ih =>
    obtain ⟨own, others⟩ := areNames_cons.mp h
    rw [uniqueNamesFrom]
    split
    · exact areNames_cons.mpr ⟨isName_freeName reserved own, ih others _ _⟩
    · exact areNames_cons.mpr ⟨own, ih others _ _⟩

/-- Names that are numbered where they repeat are names. -/
theorem areNames_uniqueNames {names : List String} (h : AreNames names) (taken : List String) :
    AreNames (uniqueNames taken names) :=
  areNames_uniqueNamesFrom h taken (names ++ taken)

/-- A group of peripherals with names has a name, for its module and its handle type alike. -/
theorem PeripheralGroup.isName_of_ofBucket? {bucket : Bucket Member} {group : PeripheralGroup}
    (made : ofBucket? bucket = some group) (h : ∀ m ∈ bucket.toList, m.peripheral.Named) :
    isName group.moduleName = true ∧ isName group.structName = true := by
  have name : isName (groupStructName (bucket.toList.map (·.peripheral))) = true := by
    apply isName_groupStructName
    intro p mem
    obtain ⟨m, memM, rfl⟩ := List.mem_map.mp mem
    exact h m memM
  dsimp only [ofBucket?] at made
  split at made
  · cases made
  · cases made
    exact ⟨name, name⟩

namespace Arrangement

/-- Every module of an arrangement has a name, and so has every handle type. -/
structure Named (arranged : Arrangement) : Prop where
  individuals : ∀ n ∈ arranged.individuals, isName n.name = true
  groups : ∀ g ∈ arranged.groups, isName g.moduleName = true ∧ isName g.structName = true

variable {peripherals : List Peripheral} (h : ∀ p ∈ peripherals, p.Named)
include h

/-- Without groups every module has a name. -/
theorem named_separate (taken : List String) : (separate taken peripherals).Named where
  individuals n mem := by
    have names : AreNames (peripherals.map (·.name)) :=
      List.forall_mem_map.mpr fun p memP => (h p memP).own
    obtain ⟨_, _, name, memName, rfl⟩ := mem_of_mem_zipWith mem
    exact areNames_uniqueNames names taken name memName
  groups _ mem := absurd mem List.not_mem_nil

/-- With groups every module has a name, and so has every handle type. -/
theorem named_grouped (ignoreFields : Bool) (taken : List String) :
    (grouped ignoreFields taken peripherals).Named := by
  let buckets := Bucket.firstFit (fun a b => a.peripheral.similar ignoreFields b.peripheral)
    (membersOf peripherals)
  have members : ∀ bucket ∈ buckets, ∀ m ∈ bucket.toList, m.peripheral.Named := by
    intro bucket memBucket m mem
    exact h m.peripheral (mem_of_mem_bucket memBucket mem)
  have groups : ∀ group ∈ buckets.filterMap PeripheralGroup.ofBucket?,
      isName group.moduleName = true ∧ isName group.structName = true := by
    intro group mem
    obtain ⟨bucket, memBucket, made⟩ := List.mem_filterMap.mp mem
    exact PeripheralGroup.isName_of_ofBucket? made (members bucket memBucket)
  have names : AreNames
      ((leftOver ignoreFields peripherals).flatMap Bucket.toList |>.map (·.peripheral.name)) := by
    refine List.forall_mem_map.mpr ?_
    intro m mem
    obtain ⟨bucket, memBucket, inside⟩ := List.mem_flatMap.mp mem
    exact (members bucket (List.mem_of_mem_filter memBucket) m inside).own
  have modules : AreNames ((buckets.filterMap PeripheralGroup.ofBucket?).map (·.moduleName)) := by
    refine List.forall_mem_map.mpr ?_
    intro group mem
    exact (groups group mem).1
  have unique := areNames_uniqueNames (areNames_append.mpr ⟨names, modules⟩) taken
  refine ⟨?_, ?_⟩
  · intro n mem
    obtain ⟨_, _, name, memName, rfl⟩ := mem_of_mem_zipWith mem
    exact unique name memName
  · intro group mem
    obtain ⟨before, memBefore, name, memName, rfl⟩ := mem_of_mem_zipWith mem
    exact ⟨unique name (List.mem_of_mem_drop memName), (groups before memBefore).2⟩

end Arrangement

namespace Device

variable {d : Device}

/-- The modules of a device with names have names, and so have its handle types. -/
theorem named_arrangement (options : EmitOptions) (h : ∀ p ∈ d.peripherals, p.Named) :
    (d.arrangement options).Named := by
  unfold arrangement
  split
  · exact Arrangement.named_grouped h _ _
  · exact Arrangement.named_separate h _

/-- The interrupts of a device are those of its peripherals. -/
theorem exists_of_mem_interrupts {i : Interrupt} (mem : i ∈ d.interrupts) :
    ∃ p ∈ d.peripherals, i ∈ p.interrupts := by
  have given : i ∈ d.givenInterrupts := List.mem_of_find?_eq_some (mem_interrupts_iff.mp mem)
  exact List.mem_flatMap.mp given

end Device

end RegisterMap
