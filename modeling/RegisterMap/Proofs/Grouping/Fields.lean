import RegisterMap.Grouping.Fields
import RegisterMap.Proofs.Text.Stem
import Mathlib.Data.List.Perm.Subperm
import Mathlib.Data.List.Nodup

/-!
# Every field has one place

Grouping puts every field of a register in one place: it stays as it is, or it is in one
group (`fieldGroups_place`). The fields of a group are those whose names have its stem. Their
numbers are the ones below the count, each of them once, since as many numbers as there are
fields all occur. So an index below the count stands for one field, and the base and the
stride of the group give the position of that field.

Fields are told apart by their positions in the list, so fields that are equal count as often
as they occur.
-/

namespace RegisterMap

open Text

/-! ## Lists -/

section Lists

variable {α β : Type}

/-- Something is found for each element of a list when all of it is. -/
theorem mapM_eq_some_iff {find : α → Option β} {items : List α} {found : List β} :
    items.mapM find = some found ↔ items.map find = found.map some := by
  induction items generalizing found with
  | nil => cases found <;> simp
  | cons item rest ih =>
    rw [List.mapM_cons, List.map_cons]
    cases first : find item with
    | none => cases found <;> simp
    | some b =>
      cases found with
      | nil => simp [Option.bind_eq_some_iff]
      | cons b' others =>
        simp only [Option.bind_eq_bind, Option.bind_some, Option.bind_eq_some_iff, Option.pure_def,
          Option.some.injEq, List.cons.injEq, List.map_cons, ← ih]
        constructor
        · rintro ⟨_, later, rfl, rfl⟩
          exact ⟨rfl, later⟩
        · rintro ⟨rfl, later⟩
          exact ⟨others, later, rfl, rfl⟩

/-- Items that are kept with their positions are those that are kept without. -/
theorem map_fst_filter_zipIdx (keep : α → Bool) (items : List α) :
    (items.zipIdx.filter fun entry => keep entry.1).map Prod.fst = items.filter keep := by
  have whole := List.zipIdx_map_fst 0 items
  conv_rhs => rw [← whole, List.filter_map]
  rfl

/-- Taking out what is repeated loses nothing. -/
theorem mem_distinct [DecidableEq α] {a : α} {items : List α} : a ∈ distinct items ↔ a ∈ items := by
  induction items with
  | nil => rfl
  | cons first rest ih =>
    rw [distinct, List.mem_cons, List.mem_cons, List.mem_filter, ih, decide_eq_true_eq]
    by_cases same : a = first <;> simp [same]

/-- After taking out what is repeated nothing is. -/
theorem nodup_distinct [DecidableEq α] (items : List α) : (distinct items).Nodup := by
  induction items with
  | nil => exact List.nodup_nil
  | cons first rest ih =>
    rw [distinct, List.nodup_cons, List.mem_filter, decide_eq_true_eq]
    exact ⟨fun mem => mem.2 rfl, ih.filter _⟩

/-- The elements of a list that have one of some keys, key by key, and the others, are all its
elements. -/
theorem filter_append_flatMap_perm [DecidableEq β] (key : α → β) (items : List α) {keys : List β}
    (nodup : keys.Nodup) :
    (items.filter (fun a => decide (key a ∉ keys))
      ++ keys.flatMap fun k => items.filter fun a => decide (key a = k)).Perm items := by
  induction keys with
  | nil => simp
  | cons k rest ih =>
    obtain ⟨new, nodup⟩ := List.nodup_cons.mp nodup
    -- what is left without the first key, and what has it, is what is left for the others
    have split : (items.filter (fun a => decide (key a ∉ k :: rest))
        ++ items.filter fun a => decide (key a = k)).Perm
          (items.filter fun a => decide (key a ∉ rest)) := by
      have parts := List.filter_append_perm (fun a => decide (key a = k))
        (items.filter fun a => decide (key a ∉ rest))
      refine (List.perm_append_comm.trans (.of_eq ?_)).trans parts
      rw [List.filter_filter, List.filter_filter]
      congr 1
      · refine List.filter_congr fun a _ => ?_
        by_cases own : key a = k <;> simp [own, new]
      · refine List.filter_congr fun a _ => ?_
        by_cases own : key a = k <;> simp [own]
    rw [List.flatMap_cons, ← List.append_assoc]
    exact (split.append_right _).trans (ih nodup)

end Lists

/-! ## Regular fields -/

/-- Fields at regular distances begin as many strides above the first one as there are fields
in between. -/
theorem lsb_of_evenlySpaced {stride : Int} {first : Field} {rest : List Field}
    (even : evenlySpaced stride (first :: rest) = true) {i : Nat} {f : Field}
    (here : (first :: rest)[i]? = some f) : f.lsb = first.lsb + i * stride := by
  induction rest generalizing first i with
  | nil =>
    cases i with
    | zero =>
      cases here
      simp
    | succ i => cases here
  | cons second rest ih =>
    have both : second.lsb - first.lsb = stride ∧ evenlySpaced stride (second :: rest) = true := by
      simpa only [evenlySpaced, Bool.and_eq_true, decide_eq_true_eq] using even
    cases i with
    | zero =>
      cases here
      simp
    | succ i =>
      have further := ih both.2 here
      rw [further, Nat.cast_succ, Int.add_mul]
      omega

/-- The fields of a group in the order of their numbers. -/
structure FieldGroup.Orders (group : FieldGroup) (members ordered : List Field) : Prop where
  two_le : 2 ≤ members.length
  count : group.count = members.length
  stride_pos : 0 < group.stride
  found : ∀ number < members.length, ∃ f, ordered[number]? = some f ∧
    members.find? (fun f => endNumber? f.name = some number) = some f
  layout : ∀ (number : Nat) (f : Field), ordered[number]? = some f →
    f.lsb = group.lsb + number * group.stride ∧ f.width = group.width ∧ f.access = group.access

/-- A group that is made has the stem, which is not empty, and its fields are in the order of their
numbers. -/
theorem FieldGroup.ofFields?_eq_some {wanted : String} {members : List Field} {group : FieldGroup}
    (made : FieldGroup.ofFields? wanted members = some group) :
    group.stem = wanted ∧ wanted ≠ "" ∧ ∃ ordered, group.Orders members ordered := by
  unfold FieldGroup.ofFields? at made
  split at made
  case isTrue => cases made
  case isFalse named =>
    split at made
    case h_2 => cases made
    case h_1 first second rest inOrder =>
      dsimp only at made
      split at made
      case isFalse => cases made
      case isTrue regular =>
        cases made
        -- a field was found for every number below how many there are
        have numbers : (List.range members.length).map
            (fun number => members.find? fun f => endNumber? f.name = some number) =
              (first :: second :: rest).map some := mapM_eq_some_iff.mp inOrder
        have length : members.length = rest.length + 2 := by
          simpa only [List.length_map, List.length_range, List.length_cons] using
            congrArg List.length numbers
        simp only [Bool.and_eq_true, decide_eq_true_eq, List.all_eq_true] at regular
        obtain ⟨⟨positive, alike⟩, even⟩ := regular
        refine ⟨rfl, named, first :: second :: rest, by omega, rfl, positive, ?_, ?_⟩
        · intro number below
          have here : number < (first :: second :: rest).length := by
            simp only [List.length_cons]
            omega
          have at_ := congrArg (·[number]?) numbers
          simp only [List.getElem?_map, List.getElem?_range below, Option.map_some,
            List.getElem?_eq_getElem here] at at_
          exact ⟨_, List.getElem?_eq_getElem here, Option.some.inj at_⟩
        · intro number f here
          refine ⟨lsb_of_evenlySpaced even here, ?_⟩
          rcases List.mem_cons.mp (List.mem_of_getElem? here) with rfl | mem
          · exact ⟨rfl, rfl⟩
          · exact alike f mem

/-- When as many numbers as there are fields all occur, each of them occurs once, and there
are no others. -/
theorem FieldGroup.Orders.numbers_perm {group : FieldGroup} {members ordered : List Field}
    (h : group.Orders members ordered) :
    (members.map fun f => endNumber? f.name).Perm ((List.range members.length).map some) := by
  have nodup : ((List.range members.length).map some).Nodup :=
    List.nodup_range.map (Option.some_injective Nat)
  have subset : (List.range members.length).map some ⊆ members.map fun f => endNumber? f.name := by
    intro number mem
    obtain ⟨n, below, rfl⟩ := List.mem_map.mp mem
    obtain ⟨f, _, found⟩ := h.found n (List.mem_range.mp below)
    have number : endNumber? f.name = some n := by
      simpa only [decide_eq_true_eq] using List.find?_some found
    exact List.mem_map.mpr ⟨f, List.mem_of_find?_eq_some found, number⟩
  refine ((List.subperm_of_subset nodup subset).perm_of_length_le ?_).symm
  rw [List.length_map, List.length_map, List.length_range]

/-! ## The fields of a group -/

/-- The fields of a list whose names have the stem of a group, with their positions. -/
def FieldGroup.entries (fields : List Field) (group : FieldGroup) : List (Field × Nat) :=
  fields.zipIdx.filter fun entry => Text.stem entry.1.name = group.stem

/-- A group has at least two fields, one for each number below its count, and its base, its
stride, its width and its access right are those of the fields. -/
structure FieldGroup.IsRegular (group : FieldGroup) (entries : List (Field × Nat)) : Prop where
  two_le : 2 ≤ group.count
  count : entries.length = group.count
  stride_pos : 0 < group.stride
  numbered : ∀ number < group.count,
    ∃! entry, entry ∈ entries ∧ IsNumbered group.stem number entry.1.name
  complete : ∀ entry ∈ entries, ∃ number < group.count, IsNumbered group.stem number entry.1.name
  layout : ∀ entry ∈ entries, ∀ number, IsNumbered group.stem number entry.1.name →
    entry.1.lsb = group.lsb + number * group.stride ∧ entry.1.width = group.width ∧
      entry.1.access = group.access

variable {fields : List Field} {group : FieldGroup}

theorem FieldGroup.mem_entries {entry : Field × Nat} :
    entry ∈ group.entries fields ↔ entry ∈ fields.zipIdx ∧ Text.stem entry.1.name = group.stem := by
  rw [FieldGroup.entries, List.mem_filter, decide_eq_true_eq]

/-- A field whose name has the stem of a group is at some position in it. -/
theorem FieldGroup.exists_mem_entries {f : Field} (mem : f ∈ fields)
    (own : Text.stem f.name = group.stem) :
    ∃ position, (f, position) ∈ group.entries fields := by
  obtain ⟨position, here⟩ := List.mem_iff_getElem?.mp mem
  exact ⟨position, mem_entries.mpr ⟨List.mk_mem_zipIdx_iff_getElem?.mpr here, own⟩⟩

/-- The fields of a group are those whose names have its stem. -/
theorem FieldGroup.map_fst_entries (fields : List Field) (group : FieldGroup) :
    (group.entries fields).map Prod.fst = fieldsWithStem fields group.stem := by
  rw [FieldGroup.entries, fieldsWithStem]
  exact map_fst_filter_zipIdx (fun f : Field => decide (Text.stem f.name = group.stem)) fields

/-- The groups are those that the stems of the names make. -/
theorem mem_fieldGroups :
    group ∈ fieldGroups fields ↔
      group.stem ∈ fields.map (stem ·.name) ∧ groupOfStem? fields group.stem = some group := by
  rw [fieldGroups, List.mem_filterMap]
  constructor
  · rintro ⟨wanted, mem, made⟩
    obtain ⟨rfl, _⟩ := FieldGroup.ofFields?_eq_some made
    exact ⟨mem_distinct.mp mem, made⟩
  · rintro ⟨mem, made⟩
    exact ⟨group.stem, mem_distinct.mpr mem, made⟩

/-- Groups are told apart by their stems. -/
theorem nodup_map_stem_fieldGroups (fields : List Field) :
    ((fieldGroups fields).map FieldGroup.stem).Nodup := by
  rw [fieldGroups, List.map_filterMap]
  refine (nodup_distinct _).filterMap fun wanted other found mem memOther => ?_
  obtain ⟨group, made, rfl⟩ := Option.map_eq_some_iff.mp mem
  obtain ⟨group', made', same⟩ := Option.map_eq_some_iff.mp memOther
  rw [← (FieldGroup.ofFields?_eq_some made).1, ← (FieldGroup.ofFields?_eq_some made').1, same]

/-- The stem of a group is the stem of names, so it does not end in a digit. -/
theorem isNumbered_iff_of_mem (mem : group ∈ fieldGroups fields) {number : Nat} {name : String} :
    IsNumbered group.stem number name ↔
      stem name = group.stem ∧ endNumber? name = some number := by
  obtain ⟨f, _, own⟩ := List.mem_map.mp (mem_fieldGroups.mp mem).1
  rw [← own]
  exact isNumbered_stem_iff

/-- Every group is regular. -/
theorem isRegular_of_mem (mem : group ∈ fieldGroups fields) :
    group.IsRegular (group.entries fields) := by
  obtain ⟨_, _, ordered, orders⟩ :=
    FieldGroup.ofFields?_eq_some (mem_fieldGroups.mp mem).2
  have members := FieldGroup.map_fst_entries fields group
  have length : (group.entries fields).length = group.count := by
    rw [orders.count, ← members, List.length_map]
  have numbers : ((group.entries fields).map fun entry => endNumber? entry.1.name).Perm
      ((List.range group.count).map some) := by
    have perm := orders.numbers_perm
    rwa [← orders.count, ← members, List.map_map] at perm
  -- as many numbers as fields all occur, so none occurs twice
  have nodup := numbers.nodup_iff.mpr (List.nodup_range.map (Option.some_injective Nat))
  have own : ∀ entry ∈ group.entries fields, stem entry.1.name = group.stem :=
    fun _ memEntry => (FieldGroup.mem_entries.mp memEntry).2
  have unique : ∀ entry ∈ group.entries fields, ∀ other ∈ group.entries fields,
      endNumber? entry.1.name = endNumber? other.1.name → entry = other :=
    fun entry memEntry other memOther same =>
      List.inj_on_of_nodup_map nodup memEntry memOther same
  have numbered : ∀ number < group.count, ∃ entry ∈ group.entries fields,
      endNumber? entry.1.name = some number ∧ ordered[number]? = some entry.1 := by
    intro number below
    obtain ⟨f, here, found⟩ := orders.found number (orders.count ▸ below)
    have memF := List.mem_of_find?_eq_some found
    rw [← members] at memF
    obtain ⟨entry, memEntry, rfl⟩ := List.mem_map.mp memF
    have number : endNumber? entry.1.name = some number := by
      simpa only [decide_eq_true_eq] using List.find?_some found
    exact ⟨entry, memEntry, number, here⟩
  have below : ∀ entry ∈ group.entries fields, ∃ number < group.count,
      endNumber? entry.1.name = some number := by
    intro entry memEntry
    have memNumber := numbers.mem_iff.mp (List.mem_map_of_mem memEntry)
    obtain ⟨number, memRange, same⟩ := List.mem_map.mp memNumber
    exact ⟨number, List.mem_range.mp memRange, same.symm⟩
  refine ⟨?_, length, ?_, ?_, ?_, ?_⟩
  · rw [orders.count]
    exact orders.two_le
  · exact orders.stride_pos
  · intro number small
    obtain ⟨entry, memEntry, numbered, _⟩ := numbered number small
    refine ⟨entry, ⟨memEntry, (isNumbered_iff_of_mem mem).mpr ⟨own entry memEntry, numbered⟩⟩, ?_⟩
    rintro other ⟨memOther, also⟩
    refine unique other memOther entry memEntry ?_
    rw [((isNumbered_iff_of_mem mem).mp also).2, numbered]
  · intro entry memEntry
    obtain ⟨number, small, numbered⟩ := below entry memEntry
    exact ⟨number, small, (isNumbered_iff_of_mem mem).mpr ⟨own entry memEntry, numbered⟩⟩
  · intro entry memEntry number isNumbered
    obtain ⟨_, same⟩ := (isNumbered_iff_of_mem mem).mp isNumbered
    obtain ⟨number', small, numbered'⟩ := below entry memEntry
    cases same.symm.trans numbered'
    obtain ⟨other, memOther, numberedOther, here⟩ := numbered number small
    cases unique entry memEntry other memOther (same.trans numberedOther.symm)
    exact orders.layout number entry.1 here

/-! ## The place of a field -/

/-- Groups and single fields are a grouping of some fields: single fields keep their order,
every field is single or in one group, and the groups are regular. -/
structure IsGrouping (fields : List Field) (groups : List FieldGroup) (single : List Field) :
    Prop where
  place : ∃ alone : List (Field × Nat), alone.Sublist fields.zipIdx ∧ alone.map Prod.fst = single ∧
    (alone ++ groups.flatMap (·.entries fields)).Perm fields.zipIdx
  regular : ∀ group ∈ groups, group.IsRegular (group.entries fields)

/-- A field is in no group exactly if no group has its stem. -/
theorem isUngrouped_iff {groups : List FieldGroup} {f : Field} :
    isUngrouped groups f = true ↔ stem f.name ∉ groups.map FieldGroup.stem := by
  simp [isUngrouped]

/-- The groups of fields, and the fields that are in none, are a grouping. -/
theorem isGrouping_fieldGroups (fields : List Field) :
    IsGrouping fields (fieldGroups fields) (ungroupedFields fields) where
  place := by
    refine ⟨fields.zipIdx.filter fun entry => isUngrouped (fieldGroups fields) entry.1,
      List.filter_sublist, map_fst_filter_zipIdx _ fields, ?_⟩
    have perm := filter_append_flatMap_perm (fun entry : Field × Nat => stem entry.1.name)
      fields.zipIdx (nodup_map_stem_fieldGroups fields)
    rw [List.flatMap_map] at perm
    refine (List.Perm.of_eq ?_).trans perm
    congr 1
    refine List.filter_congr fun entry _ => ?_
    rw [Bool.eq_iff_iff, isUngrouped_iff, decide_eq_true_eq]
  regular _ := isRegular_of_mem

end RegisterMap
