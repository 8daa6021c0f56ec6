import RegisterMap.Proofs.Code.Lens
import RegisterMap.Proofs.Emit.Register
import RegisterMap.Proofs.Grouping.Fields

/-!
# The accessors of a register

The type of a register has a function for each way in which a field may be used. A field is
reached through an accessor of its own, or through that of its group with its number as the
index (`Reached`). Either way the accessor has the width and the access right of the field
and arrives at its position. The other way round, every index that an accessor admits is one
of a field (`exists_hits`).
-/

namespace RegisterMap

open Text

/-! ## Widths -/

/-- Only a field of one bit is a truth value. -/
theorem eq_one_of_asFlag {options : EmitOptions} {width : Int}
    (flag : options.asFlag width = true) : width = 1 := by
  simp only [EmitOptions.asFlag, Bool.and_eq_true, decide_eq_true_eq] at flag
  exact flag.2

section Widths

variable (options : EmitOptions) (width : Int) (word : String)

/-- A body that is one for truth values or made from a mask is there for a width of at least
one bit. -/
theorem exists_body_iff {β : Type} (forFlag : β) (forMask : Nat → β) :
    (∃ body, (if options.asFlag width then .ok forFlag else (fieldMask width).map forMask) =
      .ok body) ↔ 1 ≤ width := by
  by_cases flag : options.asFlag width = true
  · have one := eq_one_of_asFlag flag
    rw [if_pos flag, one]
    exact ⟨fun _ => Int.le_refl 1, fun _ => ⟨forFlag, rfl⟩⟩
  · rw [if_neg flag]
    constructor
    · rintro ⟨body, made⟩
      obtain ⟨mask, given, _⟩ := map_eq_ok.mp made
      exact (fieldMask_eq_ok.mp given).1
    · intro enough
      exact ⟨_, map_eq_ok.mpr ⟨_, fieldMask_eq_ok.mpr ⟨enough, rfl⟩, rfl⟩⟩

/-- There is a getter exactly for fields that have a bit. -/
theorem exists_getter_iff :
    (∃ body, Getter.ofField width word (options.asFlag width) = .ok body) ↔ 1 ≤ width :=
  exists_body_iff options width _ _

/-- There is a setter exactly for fields that have a bit. -/
theorem exists_setter_iff :
    (∃ body, Setter.ofField width word (options.asFlag width) = .ok body) ↔ 1 ≤ width :=
  exists_body_iff options width _ _

end Widths

/-! ## The functions of an accessor -/

/-- Every access right allows something. -/
theorem Access.allowsRead_or_allowsWrite (access : Option Access) :
    Access.allowsRead access = true ∨ Access.allowsWrite access = true := by
  cases access with
  | none => exact .inl rfl
  | some access => cases access <;> decide

namespace AccessorSpec

variable {options : EmitOptions} {word : String} {access : Option Access} {a : AccessorSpec}

/-- A function reads the bits of an accessor, which its access right allows. -/
def IsGetter (options : EmitOptions) (word : String) (access : Option Access) (a : AccessorSpec)
    (f : Function) : Prop :=
  Access.allowsRead (a.access <|> access) = true ∧
    ∃ body, Getter.ofField a.width word (options.asFlag a.width) = .ok body ∧
      f = .get a.name a.position (options.valueType a.width word) a.width body

/-- A function writes the bits of an accessor, which its access right allows. -/
def IsSetter (options : EmitOptions) (word : String) (access : Option Access) (a : AccessorSpec)
    (f : Function) : Prop :=
  Access.allowsWrite (a.access <|> access) = true ∧
    ∃ body, Setter.ofField a.width word (options.asFlag a.width) = .ok body ∧
      f = .set a.name a.position (options.valueType a.width word) a.width body

/-- The functions of an accessor are its getter and its setter. -/
theorem function_mem_items {part : List Item} (emitted : a.items options word access = .ok part)
    {f : Function} :
    Item.function f ∈ part ↔
      a.IsGetter options word access f ∨ a.IsSetter options word access f := by
  obtain ⟨getter, gets, emitted⟩ := bind_eq_ok.mp emitted
  obtain ⟨setter, sets, same⟩ := bind_eq_ok.mp emitted
  cases same
  rw [List.mem_append, function_mem_allowed gets, function_mem_allowed sets, IsGetter, IsSetter]

/-- Nothing but functions and descriptions is emitted for an accessor. -/
theorem doc_or_function_of_mem_items {part : List Item}
    (emitted : a.items options word access = .ok part) {item : Item} (mem : item ∈ part) :
    (∃ text, item = .doc text) ∨ ∃ f, item = .function f := by
  obtain ⟨getter, gets, emitted⟩ := bind_eq_ok.mp emitted
  obtain ⟨setter, sets, same⟩ := bind_eq_ok.mp emitted
  cases same
  exact (List.mem_append.mp mem).elim (doc_or_function_of_mem_allowed gets)
    (doc_or_function_of_mem_allowed sets)

/-- An accessor of at least one bit can be emitted, and no other one. -/
theorem exists_items_iff :
    (∃ part, a.items options word access = .ok part) ↔ 1 ≤ a.width := by
  constructor
  · rintro ⟨part, emitted⟩
    obtain ⟨getter, gets, emitted⟩ := bind_eq_ok.mp emitted
    obtain ⟨setter, sets, _⟩ := bind_eq_ok.mp emitted
    rcases Access.allowsRead_or_allowsWrite (a.access <|> access) with reads | writes
    · rw [getterItems, if_pos reads] at gets
      obtain ⟨body, made, _⟩ := map_eq_ok.mp gets
      exact (exists_getter_iff options a.width word).mp ⟨body, made⟩
    · rw [setterItems, if_pos writes] at sets
      obtain ⟨body, made, _⟩ := map_eq_ok.mp sets
      exact (exists_setter_iff options a.width word).mp ⟨body, made⟩
  · intro enough
    obtain ⟨getter, gets⟩ := (exists_getter_iff options a.width word).mpr enough
    obtain ⟨setter, sets⟩ := (exists_setter_iff options a.width word).mpr enough
    rw [items, getterItems, setterItems, gets, sets]
    split <;> split <;> exact ⟨_, rfl⟩

end AccessorSpec

/-! ## The functions of the type of a register -/

namespace Register

variable {options : EmitOptions} {r : Register} {word : String}

/-- The type of a register can be emitted when all accessors have bits. -/
theorem exists_wrapperItems_iff (wrapped : r.isWrapped options = true) :
    (∃ wrapper, r.wrapperItems options word = .ok wrapper) ↔
      ∀ a ∈ options.accessors r.fieldList, 1 ≤ a.width := by
  have each : (∃ accessors, itemsOfEach (AccessorSpec.items options word r.access)
      (options.accessors r.fieldList) = .ok accessors) ↔
        ∀ a ∈ options.accessors r.fieldList, 1 ≤ a.width := by
    rw [exists_itemsOfEach_iff]
    simp only [AccessorSpec.exists_items_iff]
  rw [← each]
  constructor
  · rintro ⟨wrapper, emitted⟩
    obtain ⟨accessors, made, _⟩ := wrapperItems_of_wrapped wrapped emitted
    exact ⟨accessors, made⟩
  · rintro ⟨accessors, made⟩
    rw [wrapperItems, if_pos wrapped]
    exact ⟨_, bind_eq_ok.mpr ⟨accessors, made, rfl⟩⟩

/-- Apart from wrapping a word, the type of a register has the functions of the accessors. -/
theorem offers_wrapperItems {wrapper : List Item} (wrapped : r.isWrapped options = true)
    (emitted : r.wrapperItems options word = .ok wrapper) {f : Function}
    (uses : ∀ inner type, f ≠ .wrap inner type) :
    Offers wrapper r.name f ↔ ∃ a ∈ options.accessors r.fieldList,
      a.IsGetter options word r.access f ∨ a.IsSetter options word r.access f := by
  obtain ⟨accessors, made, rfl⟩ := wrapperItems_of_wrapped wrapped emitted
  have inside : Item.function f ∈ accessors ↔ ∃ a ∈ options.accessors r.fieldList,
      a.IsGetter options word r.access f ∨ a.IsSetter options word r.access f := by
    rw [mem_of_itemsOfEach made]
    constructor
    · rintro ⟨a, memA, part, own, mem⟩
      exact ⟨a, memA, (AccessorSpec.function_mem_items own).mp mem⟩
    · rintro ⟨a, memA, reads⟩
      obtain ⟨part, own⟩ := exists_items_of_itemsOfEach made a memA
      exact ⟨a, memA, part, own, (AccessorSpec.function_mem_items own).mpr reads⟩
  rw [← inside]
  constructor
  · rintro ⟨body, mem, memBody⟩
    simp only [List.mem_append, implementation_not_mem_docItems, List.mem_cons, reduceCtorEq,
      Item.implementation.injEq, List.not_mem_nil, or_false, false_or] at mem
    -- the type has two lists of functions, of which the first only wraps the word
    rcases mem with ⟨_, rfl⟩ | ⟨_, rfl⟩
    · exact absurd (Item.function.inj (List.mem_singleton.mp memBody)) (uses word r.name)
    · exact memBody
  · intro mem
    exact ⟨accessors, by simp, mem⟩

end Register

/-! ## How a field is reached -/

/-- A field of a list is reached through an accessor with an index: through its own accessor,
whatever the index, or through that of its group with its number. -/
inductive Reached (fields : List Field) (f : Field) : AccessorSpec → Nat → Prop
  | alone (single : f ∈ ungroupedFields fields) (index : Nat) : Reached fields f f.accessor index
  | grouped {group : FieldGroup} (mem : group ∈ fieldGroups fields) {number : Nat}
      (named : IsNumbered group.stem number f.name) : Reached fields f group.accessor number

/-- An accessor with an index reaches the bits of a field, with the access right of the
field. -/
structure AccessorSpec.Hits (a : AccessorSpec) (index : Nat) (f : Field) : Prop where
  admits : a.position.admits index = true
  lsb : a.position.eval index = f.lsb
  width : a.width = f.width
  access : a.access = f.access

section Reached

variable {fields : List Field} {f : Field} {a : AccessorSpec} {index : Nat}

/-- The accessor of a field reaches its bits, whatever the index. -/
theorem Field.accessor_hits (f : Field) (index : Nat) : f.accessor.Hits index f :=
  ⟨rfl, rfl, rfl, rfl⟩

/-- The accessor of a group reaches the bits of a field with the number of the field as the
index. -/
theorem FieldGroup.accessor_hits {group : FieldGroup} (mem : group ∈ fieldGroups fields)
    {number : Nat} (memF : f ∈ fields) (named : IsNumbered group.stem number f.name) :
    group.accessor.Hits number f := by
  have stem := ((isNumbered_iff_of_mem mem).mp named).1
  obtain ⟨position, memEntry⟩ := FieldGroup.exists_mem_entries memF stem
  have regular := isRegular_of_mem mem
  obtain ⟨lsb, width, access⟩ := regular.layout _ memEntry number named
  obtain ⟨other, small, also⟩ := regular.complete _ memEntry
  have same : other = number := by
    have first := ((isNumbered_iff_of_mem mem).mp also).2
    rw [((isNumbered_iff_of_mem mem).mp named).2] at first
    exact (Option.some.inj first).symm
  subst same
  exact ⟨decide_eq_true small, lsb.symm, width.symm, access.symm⟩

/-- However a field is reached, its bits are. -/
theorem Reached.hits (reached : Reached fields f a index) (memF : f ∈ fields) : a.Hits index f := by
  cases reached with
  | alone _ => exact f.accessor_hits index
  | grouped mem named => exact FieldGroup.accessor_hits mem memF named

/-- Every field is reached. -/
theorem exists_reached (memF : f ∈ fields) : ∃ a index, Reached fields f a index := by
  by_cases single : isUngrouped (fieldGroups fields) f = true
  · exact ⟨f.accessor, 0, .alone (List.mem_filter.mpr ⟨memF, single⟩) 0⟩
  · rw [isUngrouped_iff, not_not, List.mem_map] at single
    obtain ⟨group, mem, own⟩ := single
    obtain ⟨position, memEntry⟩ := FieldGroup.exists_mem_entries memF own.symm
    obtain ⟨number, _, named⟩ := (isRegular_of_mem mem).complete _ memEntry
    exact ⟨group.accessor, number, .grouped mem named⟩

end Reached

/-! ## The accessors of a list of fields -/

section Accessors

variable {options : EmitOptions} {fields : List Field} {f : Field} {a : AccessorSpec}
  {index : Nat}

/-- An accessor through which a field is reached is one of the register. -/
theorem mem_accessors_of_reached (on : options.groupFields = true)
    (reached : Reached fields f a index) : a ∈ options.accessors fields := by
  rw [EmitOptions.accessors, if_pos on, List.mem_append]
  cases reached with
  | alone single => exact .inr (List.mem_map_of_mem single)
  | grouped mem _ => exact .inl (List.mem_map_of_mem mem)

/-- An accessor is that of a field or, if fields are grouped, that of a group. -/
theorem mem_accessors (mem : a ∈ options.accessors fields) :
    (∃ f ∈ fields, a = f.accessor) ∨ ∃ group ∈ fieldGroups fields, a = group.accessor := by
  rw [EmitOptions.accessors] at mem
  split at mem
  · rcases List.mem_append.mp mem with grouped | alone
    · obtain ⟨group, memGroup, rfl⟩ := List.mem_map.mp grouped
      exact .inr ⟨group, memGroup, rfl⟩
    · obtain ⟨f, single, rfl⟩ := List.mem_map.mp alone
      exact .inl ⟨f, List.mem_of_mem_filter single, rfl⟩
  · obtain ⟨f, memF, rfl⟩ := List.mem_map.mp mem
    exact .inl ⟨f, memF, rfl⟩

/-- There is an accessor for every field. -/
theorem exists_accessor (options : EmitOptions) (memF : f ∈ fields) :
    ∃ a ∈ options.accessors fields, ∃ index, a.Hits index f := by
  cases on : options.groupFields with
  | true =>
    obtain ⟨a, index, reached⟩ := exists_reached memF
    exact ⟨a, mem_accessors_of_reached on reached, index, reached.hits memF⟩
  | false =>
    have own : f.accessor ∈ options.accessors fields := by
      rw [EmitOptions.accessors, on]
      exact List.mem_map_of_mem memF
    exact ⟨f.accessor, own, 0, f.accessor_hits 0⟩

/-- Every accessor has an index, and each index that it admits is one of a field. -/
theorem exists_hits (mem : a ∈ options.accessors fields) :
    (∃ index, a.position.admits index = true) ∧
      ∀ index, a.position.admits index = true → ∃ f ∈ fields, a.Hits index f := by
  rcases mem_accessors mem with ⟨f, memF, rfl⟩ | ⟨group, memGroup, rfl⟩
  · exact ⟨⟨0, rfl⟩, fun index _ => ⟨f, memF, f.accessor_hits index⟩⟩
  · have regular := isRegular_of_mem memGroup
    have two := regular.two_le
    refine ⟨⟨0, decide_eq_true (by omega)⟩, fun index admitted => ?_⟩
    obtain ⟨entry, ⟨memEntry, named⟩, _⟩ := regular.numbered index (of_decide_eq_true admitted)
    have memF : entry.1 ∈ fields :=
      List.fst_mem_of_mem_zipIdx (FieldGroup.mem_entries.mp memEntry).1
    exact ⟨entry.1, memF, FieldGroup.accessor_hits memGroup memF named⟩

/-- All accessors have bits when all fields do. -/
theorem forall_accessors_one_le (options : EmitOptions) (fields : List Field) :
    (∀ a ∈ options.accessors fields, 1 ≤ a.width) ↔ ∀ f ∈ fields, 1 ≤ f.width := by
  constructor
  · intro each f memF
    obtain ⟨a, mem, index, hits⟩ := exists_accessor options memF
    rw [← hits.width]
    exact each a mem
  · intro each a mem
    obtain ⟨⟨index, admitted⟩, all⟩ := exists_hits mem
    obtain ⟨f, memF, hits⟩ := all index admitted
    rw [hits.width]
    exact each f memF

end Accessors

end RegisterMap
