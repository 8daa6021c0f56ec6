import RegisterMap.Proofs.Emit.Accessors

/-!
# The names of accessors

Among what is emitted for a register are a getter for each accessor that may be read and a setter
for each that may be written. A group of fields gets an accessor with a name that none of its fields
has, the stem of their names. A field of this name would have this stem too, because a stem does not
end in a digit and so is its own stem; then the field would be in the group. So the accessors are
named differently when the fields are (`nodup_map_name_accessors`), and so are the getters and the
setters (`accessorNames_differ`).
-/

namespace RegisterMap

open Text

/-! ## The functions among declarations -/

namespace Item

mutual

/-- The functions in a declaration. -/
def functions : Item → List Function
  | .attribute _ | .doc _ | .useCore | .constant _ _ _ | .wrapper _ _ | .handle _ => []
  | .function f => [f]
  | .implementation _ body | .mod _ body => functionsOfAll body

/-- The functions in some declarations. -/
def functionsOfAll : List Item → List Function
  | [] => []
  | item :: rest => item.functions ++ functionsOfAll rest

end

/-- The functions in declarations are those in the front ones and then those behind. -/
@[simp]
theorem functionsOfAll_append (front back : List Item) :
    functionsOfAll (front ++ back) = functionsOfAll front ++ functionsOfAll back := by
  induction front with
  | nil => rfl
  | cons item rest ih =>
    rw [List.cons_append, functionsOfAll, ih, functionsOfAll, List.append_assoc]

@[simp]
theorem functionsOfAll_docItems (options : EmitOptions) (description : Option String) :
    functionsOfAll (options.docItems description) = [] := by
  cases description with
  | none => rfl
  | some text =>
    simp only [EmitOptions.docItems]
    split <;> rfl

/-- What several things have is what each of them has. -/
theorem filterMap_functionsOfAll_itemsOfEach {α β : Type} {items : α → Except Fault (List Item)}
    {things : List α} {all : List Item} (emitted : itemsOfEach items things = .ok all)
    {pick : Function → Option β} {picked : α → List β}
    (each : ∀ thing part, items thing = .ok part →
      (functionsOfAll part).filterMap pick = picked thing) :
    (functionsOfAll all).filterMap pick = things.flatMap picked := by
  induction things generalizing all with
  | nil =>
    cases emitted
    rfl
  | cons thing rest ih =>
    obtain ⟨part, first, emitted⟩ := bind_eq_ok.mp emitted
    obtain ⟨others, later, same⟩ := bind_eq_ok.mp emitted
    cases same
    rw [functionsOfAll_append, List.filterMap_append, each thing part first, ih later,
      List.flatMap_cons]

end Item

open Item

/-- The name of a function that reads bits. -/
def Function.getterName? : Function → Option String
  | .get name _ _ _ _ => some name
  | .wrap _ _ | .read _ _ _ | .write _ _ _ | .pointer _ _ _ _ | .set _ _ _ _ _ => none

/-- The name of a function that replaces bits. -/
def Function.setterName? : Function → Option String
  | .set name _ _ _ _ => some ("set_" ++ name)
  | .wrap _ _ | .read _ _ _ | .write _ _ _ | .pointer _ _ _ _ | .get _ _ _ _ _ => none

theorem Function.getterName?_of_reached {f : Function} (reaches : f.reached.isSome = true) :
    f.getterName? = none := by
  cases f <;> first | rfl | cases reaches

theorem Function.setterName?_of_reached {f : Function} (reaches : f.reached.isSome = true) :
    f.setterName? = none := by
  cases f <;> first | rfl | cases reaches

/-- The names of the getters among some declarations. -/
def getterNames (items : List Item) : List String :=
  (functionsOfAll items).filterMap Function.getterName?

/-- The names of the setters among some declarations. -/
def setterNames (items : List Item) : List String :=
  (functionsOfAll items).filterMap Function.setterName?

/-! ## The accessors of a register -/

/-- An accessor may be read, given the access right of its register. -/
def AccessorSpec.isRead (registerAccess : Option Access) (a : AccessorSpec) : Bool :=
  Access.allowsRead (a.access <|> registerAccess)

/-- An accessor may be written, given the access right of its register. -/
def AccessorSpec.isWrite (registerAccess : Option Access) (a : AccessorSpec) : Bool :=
  Access.allowsWrite (a.access <|> registerAccess)

/-- A function that is emitted as far as it is allowed has its name then, whatever its body. -/
theorem filterMap_functionsOfAll_allowed {β γ : Type} {allowed : Bool} {made : Except Fault β}
    {function : β → Function} {options : EmitOptions} {description : Option String}
    {part : List Item}
    (emitted : (if allowed then
        made.map fun body => options.docItems description ++ [.function (function body)]
      else .ok []) = .ok part)
    {pick : Function → Option γ} {picked : Option γ}
    (named : ∀ body, pick (function body) = picked) :
    (functionsOfAll part).filterMap pick = if allowed then picked.toList else [] := by
  cases allowed with
  | false =>
    cases emitted
    rfl
  | true =>
    obtain ⟨body, _, rfl⟩ := map_eq_ok.mp emitted
    rw [functionsOfAll_append, functionsOfAll_docItems, List.nil_append, if_pos rfl, ← named body]
    simp only [functionsOfAll, functions, List.append_nil, List.filterMap_cons, List.filterMap_nil]
    cases pick (function body) <;> rfl

namespace AccessorSpec

variable {options : EmitOptions} {word : String} {access : Option Access} {a : AccessorSpec}
  {part : List Item}

/-- What the functions of an accessor have, comes from its getter and its setter, as far as they are
allowed. -/
theorem filterMap_functionsOfAll_items {β : Type} {pick : Function → Option β}
    {ofGetter ofSetter : Option β}
    (get : ∀ position type width body, pick (.get a.name position type width body) = ofGetter)
    (set : ∀ position type width body, pick (.set a.name position type width body) = ofSetter)
    (emitted : a.items options word access = .ok part) :
    (functionsOfAll part).filterMap pick =
      (if a.isRead access then ofGetter.toList else [])
        ++ if a.isWrite access then ofSetter.toList else [] := by
  obtain ⟨getter, gets, emitted⟩ := bind_eq_ok.mp emitted
  obtain ⟨setter, sets, same⟩ := bind_eq_ok.mp emitted
  cases same
  rw [functionsOfAll_append, List.filterMap_append,
    filterMap_functionsOfAll_allowed gets (get _ _ _),
    filterMap_functionsOfAll_allowed sets (set _ _ _)]
  rfl

/-- There is one getter for an accessor, if it may be read. -/
theorem getterNames_items (emitted : a.items options word access = .ok part) :
    getterNames part = if a.isRead access then [a.name] else [] := by
  have names : (functionsOfAll part).filterMap Function.getterName? =
      (if a.isRead access then (some a.name).toList else [])
        ++ if a.isWrite access then none.toList else [] :=
    filterMap_functionsOfAll_items (fun _ _ _ _ => rfl) (fun _ _ _ _ => rfl) emitted
  rwa [Option.toList_none, ite_self, List.append_nil] at names

/-- There is one setter for an accessor, if it may be written. -/
theorem setterNames_items (emitted : a.items options word access = .ok part) :
    setterNames part = if a.isWrite access then ["set_" ++ a.name] else [] := by
  have names : (functionsOfAll part).filterMap Function.setterName? =
      (if a.isRead access then none.toList else [])
        ++ if a.isWrite access then (some ("set_" ++ a.name)).toList else [] :=
    filterMap_functionsOfAll_items (fun _ _ _ _ => rfl) (fun _ _ _ _ => rfl) emitted
  rwa [Option.toList_none, ite_self, List.nil_append] at names

end AccessorSpec

namespace Register

variable {options : EmitOptions} {r : Register} {part : List Item}

/-- Declarations are what is emitted for a register: at some address, or for some type of
handles. -/
def EmittedAs (options : EmitOptions) (r : Register) (part : List Item) : Prop :=
  (∃ address, r.items options address = .ok part) ∨
    ∃ structName, r.handleItems options structName = .ok part

/-- The functions that reach a register have no part in what only those of accessors have. -/
theorem filterMap_functionsOfAll_accessItems {β : Type} {pick : Function → Option β}
    (silent : ∀ f, f.reached.isSome = true → pick f = none) (address : Address) (type : String) :
    (functionsOfAll (r.accessItems options address type)).filterMap pick = [] := by
  have one : ∀ (allowed : Bool) (f : Function), f.reached.isSome = true →
      (functionsOfAll
        (if allowed then options.docItems r.description ++ [.function f] else [])).filterMap pick =
          [] := by
    intro allowed f reaches
    cases allowed <;> simp [functionsOfAll, functions, silent f reaches]
  have last := silent (.pointer r.name address type r.isWrite) rfl
  rw [accessItems, functionsOfAll_append, functionsOfAll_append, functionsOfAll_append,
    List.filterMap_append, List.filterMap_append, List.filterMap_append, one _ _ rfl, one _ _ rfl,
    functionsOfAll_docItems]
  simp [functionsOfAll, functions, last]

/-- What is picked from the functions around a register word comes from the accessors one by one, if
nothing is picked from the function that wraps the word. -/
theorem filterMap_functionsOfAll_wrapperItems {β : Type} {pick : Function → Option β}
    (wraps : ∀ inner type, pick (.wrap inner type) = none) {word : String}
    {picked : AccessorSpec → List β}
    (each : ∀ a part, AccessorSpec.items options word r.access a = .ok part →
      (functionsOfAll part).filterMap pick = picked a)
    {wrapper : List Item} (emitted : r.wrapperItems options word = .ok wrapper) :
    (functionsOfAll wrapper).filterMap pick =
      if r.isWrapped options then (options.accessors r.fieldList).flatMap picked else [] := by
  cases wrapped : r.isWrapped options with
  | false =>
    rw [wrapperItems_of_not_wrapped wrapped emitted]
    rfl
  | true =>
    obtain ⟨accessors, made, rfl⟩ := wrapperItems_of_wrapped wrapped emitted
    rw [if_pos rfl, ← filterMap_functionsOfAll_itemsOfEach made each]
    simp [functionsOfAll, functions, wraps]

/-- What only the functions of accessors have, comes from the accessors of the register, if it has
a type of its own. -/
theorem EmittedAs.filterMap_functionsOfAll (emitted : r.EmittedAs options part) {β : Type}
    {pick : Function → Option β} (silent : ∀ f, f.reached.isSome = true → pick f = none)
    (wraps : ∀ inner type, pick (.wrap inner type) = none) {picked : AccessorSpec → List β}
    (each : ∀ a word part, AccessorSpec.items options word r.access a = .ok part →
      (functionsOfAll part).filterMap pick = picked a) :
    (functionsOfAll part).filterMap pick =
      if r.isWrapped options then (options.accessors r.fieldList).flatMap picked else [] := by
  rcases emitted with ⟨address, emitted⟩ | ⟨structName, emitted⟩
  · obtain ⟨word, _, emitted⟩ := bind_eq_ok.mp emitted
    obtain ⟨wrapper, made, same⟩ := bind_eq_ok.mp emitted
    cases same
    rw [functionsOfAll_append, List.filterMap_append, filterMap_functionsOfAll_accessItems silent,
      List.append_nil, filterMap_functionsOfAll_wrapperItems wraps (fun a => each a word) made]
  · obtain ⟨word, wrapper, _, made, rfl⟩ := handleItems_eq_ok.mp emitted
    rw [functionsOfAll_append, List.filterMap_append,
      filterMap_functionsOfAll_wrapperItems wraps (fun a => each a word) made]
    simp only [functionsOfAll, functions, List.append_nil,
      filterMap_functionsOfAll_accessItems silent]

end Register

theorem flatMap_ite_singleton {α β : Type} (keep : α → Bool) (f : α → β) (items : List α) :
    (items.flatMap fun a => if keep a then [f a] else []) = (items.filter keep).map f := by
  induction items with
  | nil => rfl
  | cons a rest ih => cases own : keep a <;> simp [own, ih]

namespace Register

variable {options : EmitOptions} {r : Register} {part : List Item}

/-- The getters that are emitted for a register are those of the accessors that may be read. -/
theorem EmittedAs.getterNames (emitted : r.EmittedAs options part) :
    getterNames part =
      if r.isWrapped options then
        ((options.accessors r.fieldList).filter (·.isRead r.access)).map (·.name)
      else [] := by
  rw [← flatMap_ite_singleton]
  exact emitted.filterMap_functionsOfAll (fun _ => Function.getterName?_of_reached) (fun _ _ => rfl)
    fun _ _ _ => AccessorSpec.getterNames_items

/-- The setters that are emitted for a register are those of the accessors that may be written. -/
theorem EmittedAs.setterNames (emitted : r.EmittedAs options part) :
    setterNames part =
      if r.isWrapped options then
        ((options.accessors r.fieldList).filter (·.isWrite r.access)).map ("set_" ++ ·.name)
      else [] := by
  rw [← flatMap_ite_singleton]
  exact emitted.filterMap_functionsOfAll (fun _ => Function.setterName?_of_reached) (fun _ _ => rfl)
    fun _ _ _ => AccessorSpec.setterNames_items

end Register

/-! ## Names that differ -/

section Names

variable {fields : List Field}

/-- A stem is its own stem. -/
theorem stem_stem (name : String) : stem (stem name) = stem name := by
  simp only [stem, String.toList_ofList, dropEndDigits_dropEndDigits]

/-- A field that is named like a group would be in it. -/
theorem stem_ne_name {group : FieldGroup} (mem : group ∈ fieldGroups fields) {f : Field}
    (single : f ∈ ungroupedFields fields) : group.stem ≠ f.name := by
  intro same
  obtain ⟨member, _, own⟩ := List.mem_map.mp (mem_fieldGroups.mp mem).1
  have named : stem f.name = group.stem := by rw [← same, ← own, stem_stem]
  have apart := isUngrouped_iff.mp (List.mem_filter.mp single).2
  exact apart (List.mem_map.mpr ⟨group, mem, named.symm⟩)

/-- The accessors have the names of the groups, then those of the fields that are in none. -/
theorem map_name_accessors (options : EmitOptions) (fields : List Field) :
    (options.accessors fields).map (·.name) =
      if options.groupFields then
        (fieldGroups fields).map (·.stem) ++ (ungroupedFields fields).map (·.name)
      else fields.map (·.name) := by
  rw [EmitOptions.accessors]
  split
  · rw [List.map_append, List.map_map, List.map_map]
    rfl
  · rw [List.map_map]
    rfl

/-- Accessors are named differently when the fields are, whether or not fields are grouped. -/
theorem nodup_map_name_accessors (options : EmitOptions) (names : (fields.map (·.name)).Nodup) :
    ((options.accessors fields).map (·.name)).Nodup := by
  rw [map_name_accessors]
  split
  · refine List.nodup_append.mpr ⟨nodup_map_stem_fieldGroups fields,
      names.sublist (List.filter_sublist.map _), ?_⟩
    intro stem memStem name memName
    obtain ⟨group, mem, rfl⟩ := List.mem_map.mp memStem
    obtain ⟨f, single, rfl⟩ := List.mem_map.mp memName
    exact stem_ne_name mem single
  · exact names

end Names

/-- Among what is emitted for a register are getters for the accessors that may be read, and setters
for those that may be written. No two getters have one name, and no two setters. -/
structure Register.AccessorsDiffer (options : EmitOptions) (r : Register) (part : List Item) :
    Prop where
  getters : getterNames part =
    if r.isWrapped options then
      ((options.accessors r.fieldList).filter (·.isRead r.access)).map (·.name)
    else []
  getters_nodup : (getterNames part).Nodup
  setters : setterNames part =
    if r.isWrapped options then
      ((options.accessors r.fieldList).filter (·.isWrite r.access)).map ("set_" ++ ·.name)
    else []
  setters_nodup : (setterNames part).Nodup

/-- Accessors are named differently if the fields are. -/
theorem Register.EmittedAs.accessorsDiffer {options : EmitOptions} {r : Register}
    {part : List Item} (emitted : r.EmittedAs options part)
    (names : (r.fieldList.map (·.name)).Nodup) : r.AccessorsDiffer options part := by
  have kept : ∀ keep : AccessorSpec → Bool,
      (((options.accessors r.fieldList).filter keep).map (·.name)).Nodup :=
    fun keep => (nodup_map_name_accessors options names).sublist (List.filter_sublist.map _)
  refine ⟨emitted.getterNames, ?_, emitted.setterNames, ?_⟩
  · rw [emitted.getterNames]
    split
    · exact kept _
    · exact List.nodup_nil
  · rw [emitted.setterNames]
    split
    · have prefixed := (kept (·.isWrite r.access)).map (f := ("set_" ++ ·))
        fun _ _ same => (String.append_right_inj "set_").mp same
      rwa [List.map_map] at prefixed
    · exact List.nodup_nil

/-- **Grouping fields brings in no name twice.** The groups of a list of fields have different,
non-empty stems, and no stem is the name of a field outside the groups. So when the fields of a
register are named differently, the getters that are emitted for it are, under the stems of groups
and the names of other fields, and so are the setters. -/
theorem accessorNames_differ (fields : List Field) :
    ((fieldGroups fields).map (·.stem)).Nodup ∧
      (∀ group ∈ fieldGroups fields,
        group.stem ≠ "" ∧ ∀ f ∈ ungroupedFields fields, group.stem ≠ f.name) ∧
      ∀ (options : EmitOptions) (r : Register) (part : List Item),
        r.fieldList = fields → (fields.map (·.name)).Nodup → r.EmittedAs options part →
          r.AccessorsDiffer options part := by
  refine ⟨nodup_map_stem_fieldGroups fields, fun group mem => ⟨?_, fun f => stem_ne_name mem⟩, ?_⟩
  · obtain ⟨_, named, _⟩ := FieldGroup.ofFields?_eq_some (mem_fieldGroups.mp mem).2
    exact named
  · rintro options r part rfl names emitted
    exact emitted.accessorsDiffer names

/-- A register with numbered fields beside a field that has their stem as its name, with others that
have digits in the middle of their names, and with names of digits only. -/
def oddlyNumbered : Register where
  name := "CR"
  addressOffset := 0
  fields := some
    [{ name := "CH0", bitRange := { lsb := 0, msb := 0 } },
     { name := "CH1", bitRange := { lsb := 1, msb := 1 } },
     { name := "CH", bitRange := { lsb := 2, msb := 3 } },
     { name := "T2CH1", bitRange := { lsb := 5, msb := 5 }, access := some .readOnly },
     { name := "T2CH0", bitRange := { lsb := 4, msb := 4 }, access := some .readOnly },
     { name := "0", bitRange := { lsb := 6, msb := 6 } },
     { name := "1", bitRange := { lsb := 7, msb := 7 } }]

/-- A group and a field that has the stem of the others as its name, beside names that are
digits. -/
theorem accessorNames_differ_oddlyNumbered :
    (fieldGroups oddlyNumbered.fieldList).map (·.stem) = ["T2CH"] ∧
      (oddlyNumbered.fieldList.map (·.name)).Nodup ∧
      ∃ part, oddlyNumbered.items {} 0x40000000 = .ok part ∧
        getterNames part = ["T2CH", "CH0", "CH1", "CH", "0", "1"] ∧ (getterNames part).Nodup ∧
        setterNames part = ["set_CH0", "set_CH1", "set_CH", "set_0", "set_1"] ∧
        (setterNames part).Nodup := by
  have names : (oddlyNumbered.fieldList.map (·.name)).Nodup := by decide
  obtain ⟨part, emitted⟩ : ∃ part, oddlyNumbered.items {} 0x40000000 = .ok part :=
    exists_of_isOk (by decide +kernel)
  obtain ⟨_, _, differ⟩ := accessorNames_differ oddlyNumbered.fieldList
  have own := differ {} oddlyNumbered part rfl names (.inl ⟨_, emitted⟩)
  refine ⟨by decide +kernel, names, part, emitted, ?_, own.getters_nodup, ?_, own.setters_nodup⟩
  · rw [own.getters]
    decide +kernel
  · rw [own.setters]
    decide +kernel

end RegisterMap
