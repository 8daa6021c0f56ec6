import RegisterMap.Proofs.Emit.Accessors

/-!
# Fields with and without grouping

Whether fields are grouped decides under which names their accessors are and where these find
the position of a field. What an accessor does is the same, since the accessor of a group has
the width and the access right of each of its fields, and stands for that field at its number
(`grouping_keeps_accessors`). Names alone do not tell fields apart, so the accessors that are
compared are those under one name at one position.
-/

namespace RegisterMap

open Text

/-- The same switches, with the one for the grouping of fields set. -/
def EmitOptions.grouping (options : EmitOptions) (on : Bool) : EmitOptions :=
  { options with groupFields := on }

section Grouping

variable {fields : List Field} {f : Field} {a : AccessorSpec} {index : Nat}

/-- Without the grouping of fields there is an accessor for each field. -/
theorem mem_accessors_ungrouped {options : EmitOptions} :
    a ∈ (options.grouping false).accessors fields ↔ ∃ f ∈ fields, a = f.accessor := by
  simp only [EmitOptions.accessors, EmitOptions.grouping, Bool.false_eq_true, if_false,
    List.mem_map, eq_comm]

/-- With it there is one for each group, and one for each field that is in none. -/
theorem mem_accessors_grouped {options : EmitOptions} :
    a ∈ (options.grouping true).accessors fields ↔
      (∃ group ∈ fieldGroups fields, a = group.accessor) ∨
        ∃ f ∈ ungroupedFields fields, a = f.accessor := by
  simp only [EmitOptions.accessors, EmitOptions.grouping, if_true, List.mem_append,
    List.mem_map, eq_comm]

/-- Fields of one name are all in a group or none of them is. -/
theorem mem_ungroupedFields_of_name {other : Field} (single : f ∈ ungroupedFields fields)
    (mem : other ∈ fields) (same : other.name = f.name) : other ∈ ungroupedFields fields := by
  refine List.mem_filter.mpr ⟨mem, ?_⟩
  have alone := (List.mem_filter.mp single).2
  rw [isUngrouped_iff] at alone ⊢
  rwa [same]

/-- There is one group for a stem. -/
theorem eq_of_stem {group other : FieldGroup} (mem : group ∈ fieldGroups fields)
    (memOther : other ∈ fieldGroups fields) (same : other.stem = group.stem) : other = group := by
  have made := (mem_fieldGroups.mp mem).2
  have madeOther := (mem_fieldGroups.mp memOther).2
  rw [same] at madeOther
  exact Option.some.inj (madeOther.symm.trans made)

/-- Among some accessors is one with a name, a position, a width and an access right. -/
def HasAccessor (accessors : List AccessorSpec) (name : String) (position : Position)
    (width : Int) (access : Option Access) : Prop :=
  ∃ a ∈ accessors, a.name = name ∧ a.position = position ∧ a.width = width ∧ a.access = access

/-- What is found under the name of a field at its position when fields are not grouped is
found where the field is reached when they are. -/
theorem hasAccessor_grouping_iff (options : EmitOptions) (memF : f ∈ fields)
    (reached : Reached fields f a index) (width : Int) (access : Option Access) :
    HasAccessor ((options.grouping false).accessors fields) f.name (.fixed f.lsb) width access ↔
      HasAccessor ((options.grouping true).accessors fields) a.name a.position width access := by
  constructor
  · rintro ⟨b, mem, name, position, rfl, rfl⟩
    obtain ⟨other, memOther, rfl⟩ := mem_accessors_ungrouped.mp mem
    cases reached with
    | alone single =>
      have also := mem_ungroupedFields_of_name single memOther name
      exact ⟨_, mem_accessors_grouped.mpr (.inr ⟨other, also, rfl⟩), name, position, rfl, rfl⟩
    | @grouped group memGroup _ named =>
      -- a field of the same name has the same number, so it lies in the group as this one does
      have namedOther : IsNumbered group.stem index other.name := by
        rwa [show other.name = f.name from name]
      have hits := FieldGroup.accessor_hits memGroup memOther namedOther
      exact ⟨_, mem_accessors_grouped.mpr (.inl ⟨group, memGroup, rfl⟩), rfl, rfl, hits.width,
        hits.access⟩
  · rintro ⟨b, mem, name, position, rfl, rfl⟩
    cases reached with
    | alone single =>
      rcases mem_accessors_grouped.mp mem with ⟨other, _, rfl⟩ | ⟨other, memOther, rfl⟩
      · cases position
      · have inside := List.mem_of_mem_filter memOther
        exact ⟨_, mem_accessors_ungrouped.mpr ⟨other, inside, rfl⟩, name, position, rfl, rfl⟩
    | grouped memGroup named =>
      rcases mem_accessors_grouped.mp mem with ⟨other, memOther, rfl⟩ | ⟨other, _, rfl⟩
      · cases eq_of_stem memGroup memOther name
        have hits := FieldGroup.accessor_hits memGroup memF named
        exact ⟨_, mem_accessors_ungrouped.mpr ⟨f, memF, rfl⟩, rfl, rfl, hits.width.symm,
          hits.access.symm⟩
      · cases position

end Grouping

section Functions

variable {options : EmitOptions} {r : Register} {word : String} {wrapper : List Item}
  {name type : String} {position : Position} {width : Int}

/-- Under a name and a position is a getter when there is an accessor that may be read. -/
theorem offers_get_iff (wrapped : r.isWrapped options = true)
    (emitted : r.wrapperItems options word = .ok wrapper) {body : Getter} :
    Offers wrapper r.name (.get name position type width body) ↔
      ∃ access, HasAccessor (options.accessors r.fieldList) name position width access ∧
        Access.allowsRead (access <|> r.access) = true ∧
        Getter.ofField width word (options.asFlag width) = .ok body ∧
        type = options.valueType width word := by
  rw [Register.offers_wrapperItems wrapped emitted (by simp)]
  constructor
  · rintro ⟨a, mem, ⟨reads, own, made, same⟩ | ⟨_, _, _, same⟩⟩
    · cases same
      exact ⟨a.access, ⟨a, mem, rfl, rfl, rfl, rfl⟩, reads, made, rfl⟩
    · cases same
  · rintro ⟨_, ⟨a, mem, rfl, rfl, rfl, rfl⟩, reads, made, rfl⟩
    exact ⟨a, mem, .inl ⟨reads, body, made, rfl⟩⟩

/-- Under a name and a position is a setter when there is an accessor that may be written. -/
theorem offers_set_iff (wrapped : r.isWrapped options = true)
    (emitted : r.wrapperItems options word = .ok wrapper) {body : Setter} :
    Offers wrapper r.name (.set name position type width body) ↔
      ∃ access, HasAccessor (options.accessors r.fieldList) name position width access ∧
        Access.allowsWrite (access <|> r.access) = true ∧
        Setter.ofField width word (options.asFlag width) = .ok body ∧
        type = options.valueType width word := by
  rw [Register.offers_wrapperItems wrapped emitted (by simp)]
  constructor
  · rintro ⟨a, mem, ⟨_, _, _, same⟩ | ⟨writes, own, made, same⟩⟩
    · cases same
    · cases same
      exact ⟨a.access, ⟨a, mem, rfl, rfl, rfl, rfl⟩, writes, made, rfl⟩
  · rintro ⟨_, ⟨a, mem, rfl, rfl, rfl, rfl⟩, writes, made, rfl⟩
    exact ⟨a, mem, .inr ⟨writes, body, made, rfl⟩⟩

end Functions

/-- What is emitted for a register without and with the grouping of fields gives one use of a
field: it is reached through some accessor and index, which arrive at its position, and under
the name of the accessor are the functions that are under the name of the field. There is a
getter if the field may be read, and a setter if it may be written. -/
structure SameUse (r : Register) (plain grouped : List Item) (f : Field) (a : AccessorSpec)
    (index : Nat) : Prop where
  reached : Reached r.fieldList f a index
  admits : a.position.admits index = true
  lsb : a.position.eval index = f.lsb
  get : ∀ type width body, Offers plain r.name (.get f.name (.fixed f.lsb) type width body) ↔
    Offers grouped r.name (.get a.name a.position type width body)
  set : ∀ type width body, Offers plain r.name (.set f.name (.fixed f.lsb) type width body) ↔
    Offers grouped r.name (.set a.name a.position type width body)
  reads : Access.allowsRead (f.access <|> r.access) = true →
    ∃ type body, Offers plain r.name (.get f.name (.fixed f.lsb) type f.width body)
  writes : Access.allowsWrite (f.access <|> r.access) = true →
    ∃ type body, Offers plain r.name (.set f.name (.fixed f.lsb) type f.width body)

/-- The type of a register is emitted without the grouping of fields when it is emitted with
it, and then both give one use of every field. -/
structure KeepsUse (options : EmitOptions) (r : Register) (word : String) : Prop where
  emitted : (∃ plain, r.wrapperItems (options.grouping false) word = .ok plain) ↔
    ∃ grouped, r.wrapperItems (options.grouping true) word = .ok grouped
  same : ∀ plain grouped, r.wrapperItems (options.grouping false) word = .ok plain →
    r.wrapperItems (options.grouping true) word = .ok grouped →
    ∀ f ∈ r.fieldList, ∃ a index, SameUse r plain grouped f a index

/-- A field that is reached through an accessor has the same use as through its own one. -/
theorem sameUse_of_reached {options : EmitOptions} {r : Register} {word : String}
    {plain grouped : List Item} (wrapped : r.isWrapped options = true)
    (single : r.wrapperItems (options.grouping false) word = .ok plain)
    (shared : r.wrapperItems (options.grouping true) word = .ok grouped) {f : Field}
    (memF : f ∈ r.fieldList) {a : AccessorSpec} {index : Nat}
    (reached : Reached r.fieldList f a index) : SameUse r plain grouped f a index := by
  -- grouping does not decide whether there is a type
  have wrappedPlain : r.isWrapped (options.grouping false) = true := wrapped
  have wrappedGrouped : r.isWrapped (options.grouping true) = true := wrapped
  have hits := reached.hits memF
  have own : f.accessor ∈ (options.grouping false).accessors r.fieldList :=
    mem_accessors_ungrouped.mpr ⟨f, memF, rfl⟩
  have enough : 1 ≤ f.width :=
    (Register.exists_wrapperItems_iff wrappedPlain).mp ⟨plain, single⟩ f.accessor own
  have here : HasAccessor ((options.grouping false).accessors r.fieldList) f.name (.fixed f.lsb)
      f.width f.access := ⟨f.accessor, own, rfl, rfl, rfl, rfl⟩
  refine ⟨reached, hits.admits, hits.lsb, fun type width body => ?_, fun type width body => ?_,
    fun reads => ?_, fun writes => ?_⟩
  · rw [offers_get_iff wrappedPlain single, offers_get_iff wrappedGrouped shared]
    simp only [hasAccessor_grouping_iff options memF reached]
    rfl
  · rw [offers_set_iff wrappedPlain single, offers_set_iff wrappedGrouped shared]
    simp only [hasAccessor_grouping_iff options memF reached]
    rfl
  · obtain ⟨body, made⟩ := (exists_getter_iff (options.grouping false) f.width word).mpr enough
    exact ⟨_, body, (offers_get_iff wrappedPlain single).mpr ⟨_, here, reads, made, rfl⟩⟩
  · obtain ⟨body, made⟩ := (exists_setter_iff (options.grouping false) f.width word).mpr enough
    exact ⟨_, body, (offers_set_iff wrappedPlain single).mpr ⟨_, here, writes, made, rfl⟩⟩

/-- **Grouping changes no field.** Every field of a list is single or in one group, and its
number gives its position in the group. So the functions that are emitted for a field on its
own are those that are emitted where grouping puts it. -/
theorem grouping_keeps_accessors (fields : List Field) :
    IsGrouping fields (fieldGroups fields) (ungroupedFields fields) ∧
      ∀ (options : EmitOptions) (r : Register) (word : String), r.fieldList = fields →
        r.isWrapped options = true → KeepsUse options r word := by
  refine ⟨isGrouping_fieldGroups fields, ?_⟩
  intro options r word _ wrapped
  constructor
  · have each : ∀ on, (∃ wrapper, r.wrapperItems (options.grouping on) word = .ok wrapper) ↔
        ∀ f ∈ r.fieldList, 1 ≤ f.width := by
      intro on
      have wrappedOn : r.isWrapped (options.grouping on) = true := wrapped
      rw [Register.exists_wrapperItems_iff wrappedOn, forall_accessors_one_le]
    rw [each, each]
  · intro plain grouped single shared f memF
    obtain ⟨a, index, reached⟩ := exists_reached memF
    exact ⟨a, index, sameUse_of_reached wrapped single shared memF reached⟩

/-- A register with two numbered fields, the second of them first, and another field in
between. -/
def withChannels : Register where
  name := "CR"
  addressOffset := 0
  fields := some
    [{ name := "CH1", bitRange := { lsb := 2, msb := 3 } },
     { name := "EN", bitRange := { lsb := 8, msb := 8 }, access := some .readOnly },
     { name := "CH0", bitRange := { lsb := 0, msb := 1 } }]

/-- Two numbered fields, the second of them first, and another field in between. -/
theorem grouping_keeps_accessors_withChannels :
    (fieldGroups withChannels.fieldList).map (·.stem) = ["CH"] ∧
      withChannels.isWrapped {} = true ∧
      ∃ plain grouped, withChannels.wrapperItems (EmitOptions.grouping {} false) "u32" = .ok plain ∧
        withChannels.wrapperItems (EmitOptions.grouping {} true) "u32" = .ok grouped ∧
        ∀ f ∈ withChannels.fieldList, ∃ a index, SameUse withChannels plain grouped f a index := by
  have wrapped : withChannels.isWrapped {} = true := by decide
  obtain ⟨_, keeps⟩ := grouping_keeps_accessors withChannels.fieldList
  have use := keeps {} withChannels "u32" rfl wrapped
  obtain ⟨plain, single⟩ : ∃ plain,
      withChannels.wrapperItems (EmitOptions.grouping {} false) "u32" = .ok plain := ⟨_, rfl⟩
  obtain ⟨grouped, shared⟩ := use.emitted.mp ⟨plain, single⟩
  exact ⟨by decide +kernel, wrapped, plain, grouped, single, shared, use.same _ _ single shared⟩

end RegisterMap
