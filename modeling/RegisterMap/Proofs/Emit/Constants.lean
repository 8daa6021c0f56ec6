import RegisterMap.Proofs.Emit.Addresses
import RegisterMap.Proofs.Grouping.Order

/-!
# The constants of groups

The module of a group has a constant for each member, which is called like the peripheral. Modules
are numbered until their names are all different, but constants are not. So the constants in the
module of a group have different names exactly when no two of its members are named alike
(`Device.emit_constants_differ_iff`), as in every device whose peripherals all have names of their
own. Two similar peripherals of one name come into one group, and its module then has two constants
of that name (`Device.not_forall_constants_differ`).
-/

namespace RegisterMap

open Item

/-! ## The constants of a module -/

namespace Entry

/-- The name and the value of a constant. -/
def constant? : Entry → Option (String × String)
  | .constant name _ value => some (name, value)
  | .type _ _ | .function _ _ | .module _ _ => none

/-- What is in a module. -/
def inside : Entry → List Entry
  | .module _ entries => entries
  | .constant _ _ _ | .type _ _ | .function _ _ => []

/-- The constants of a module, by their names and values. -/
def constants (entry : Entry) : List (String × String) := entry.inside.filterMap constant?

/-- The names of the constants of a module. -/
def constantNames (entry : Entry) : List String := entry.constants.map Prod.fst

end Entry

namespace PeripheralGroup

/-- The constant for a member of a group, by its name and its value. -/
def constantOf (group : PeripheralGroup) (m : Member) : String × String :=
  (m.peripheral.name, handleValue group.structName m.peripheral.baseAddress)

variable {group : PeripheralGroup} {entry : Entry}

/-- The types and functions of registers in the module of a group are no constants. -/
theorem IsEntry.constants (h : group.IsEntry entry) :
    entry.constants = group.members.map group.constantOf := by
  obtain ⟨shared, rfl, others⟩ := h
  have silent : shared.filterMap Entry.constant? = [] := by
    refine List.filterMap_eq_nil_iff.mpr fun e mem => ?_
    have kind := others e mem
    cases e <;> first | rfl | cases kind
  rw [Entry.constants, Entry.inside, List.filterMap_append, silent, List.append_nil,
    List.filterMap_map]
  exact List.filterMap_eq_map_iff_forall_eq_some.mpr fun _ _ => rfl

/-- The constants of a group are named like its members, in the same order. -/
theorem IsEntry.constantNames (h : group.IsEntry entry) :
    entry.constantNames = group.members.map (·.peripheral.name) := by
  rw [Entry.constantNames, h.constants, List.map_map]
  rfl

/-- No two members of a group are peripherals of one name. -/
def NamesDiffer (group : PeripheralGroup) : Prop :=
  ∀ m ∈ group.members, ∀ other ∈ group.members, m.peripheral.name = other.peripheral.name →
    m.position = other.position

/-- The module of a group has a constant for each member. The names of the constants are different
exactly when those of the members are, and then the constant with the name of a member is the
handle of its base address. -/
structure HasConstants (group : PeripheralGroup) (entry : Entry) : Prop where
  isEntry : group.IsEntry entry
  constants : entry.constants = group.members.map group.constantOf
  nodup_iff : entry.constantNames.Nodup ↔ group.NamesDiffer
  own : entry.constantNames.Nodup → ∀ m ∈ group.members, ∀ value,
    (m.peripheral.name, value) ∈ entry.constants ↔
      value = handleValue group.structName m.peripheral.baseAddress

end PeripheralGroup

/-! ## Members of one name -/

namespace Arrangement

variable {ignoreFields : Bool} {taken : List String} {peripherals : List Peripheral}
  {group : PeripheralGroup}

/-- The members of a group have different positions. -/
theorem nodup_positions (mem : group ∈ (grouped ignoreFields taken peripherals).groups) :
    (group.members.map (·.position)).Nodup := by
  have ordered := (divides_grouped ignoreFields taken peripherals).ordered group mem
  have positions := (pairwise_membersOf peripherals).sublist ordered
  exact List.pairwise_map.mpr (positions.imp Nat.ne_of_lt)

/-- The members of a group stand at different positions, so their names are different exactly when
no two members have one name. -/
theorem nodup_names_iff (mem : group ∈ (grouped ignoreFields taken peripherals).groups) :
    (group.members.map (·.peripheral.name)).Nodup ↔ group.NamesDiffer := by
  have positions := nodup_positions mem
  constructor
  · intro names m memM other memOther same
    rw [List.inj_on_of_nodup_map names memM memOther same]
  · intro differ
    refine List.Nodup.map_on (fun m memM other memOther same => ?_) positions.of_map
    exact List.inj_on_of_nodup_map positions memM memOther (differ m memM other memOther same)

/-- No group has two members of one name when all peripherals are named differently. -/
theorem namesDiffer_of_nodup (names : (peripherals.map (·.name)).Nodup)
    (mem : group ∈ (grouped ignoreFields taken peripherals).groups) : group.NamesDiffer := by
  have ordered := (divides_grouped ignoreFields taken peripherals).ordered group mem
  rw [← nodup_names_iff mem]
  have all : ((membersOf peripherals).map (·.peripheral.name)).Nodup := by
    rw [← peripheral_membersOf peripherals, List.map_map] at names
    exact names
  exact all.sublist (ordered.map _)

/-- The module of a group has the constants of its members. -/
theorem hasConstants (mem : group ∈ (grouped ignoreFields taken peripherals).groups) {entry : Entry}
    (isEntry : group.IsEntry entry) : group.HasConstants entry := by
  refine ⟨isEntry, isEntry.constants, ?_, fun names m memM value => ?_⟩
  · rw [isEntry.constantNames]
    exact nodup_names_iff mem
  · have own : group.constantOf m ∈ entry.constants := by
      rw [isEntry.constants]
      exact List.mem_map_of_mem memM
    constructor
    · intro declared
      exact congrArg Prod.snd (List.inj_on_of_nodup_map names declared own rfl)
    · rintro rfl
      exact own

end Arrangement

/-! ## Devices -/

theorem forall_mem_iff_of_forall₂ {α β : Type} {related : α → β → Prop} {as : List α} {bs : List β}
    (all : List.Forall₂ related as bs) {p : α → Prop} {q : β → Prop}
    (each : ∀ a b, related a b → (q b ↔ p a)) : (∀ b ∈ bs, q b) ↔ ∀ a ∈ as, p a := by
  induction all with
  | nil => simp only [List.not_mem_nil, false_imp_iff, implies_true]
  | cons own _ ih => rw [List.forall_mem_cons, List.forall_mem_cons, each _ _ own, ih]

namespace Device

/-- **When the constants of groups have different names.** In the code of a device stands a module
for each group, with a constant for each member. The constants in one module have different names
exactly when its group has no two peripherals of one name, and in particular when no two peripherals
of the device have one. -/
theorem emit_constants_differ_iff {d : Device} {options : EmitOptions} {text : String}
    (grouping : options.groupPeripherals = true) (emitted : d.emit options = .ok text) :
    ∃ arranged items groups individuals,
      arranged = Arrangement.grouped (!options.withFields) d.takenNames d.peripherals ∧
      text = Item.text items ∧
      entriesOfAll items =
        [.module d.name (d.ownEntries ++ groups ++ individuals ++ d.interruptEntries)] ∧
      List.Forall₂ PeripheralGroup.HasConstants arranged.groups groups ∧
      ((∀ entry ∈ groups, entry.constantNames.Nodup) ↔
        ∀ group ∈ arranged.groups, group.NamesDiffer) ∧
      ((d.peripherals.map (·.name)).Nodup → ∀ entry ∈ groups, entry.constantNames.Nodup) := by
  obtain ⟨items, made, rfl⟩ := map_eq_ok.mp emitted
  obtain ⟨groups, individuals, entries, ofGroups, _⟩ := exists_entries made
  have arranged : d.arrangement options =
      Arrangement.grouped (!options.withFields) d.takenNames d.peripherals := if_pos grouping
  rw [arranged] at ofGroups
  have declared := ((List.forall₂_and_left _ _).mpr ⟨fun _ mem => mem, ofGroups⟩).imp
    fun group entry own => Arrangement.hasConstants own.1 own.2
  have differ := forall_mem_iff_of_forall₂ declared fun _ _ own => own.nodup_iff
  refine ⟨_, items, groups, individuals, rfl, rfl, entries, declared, differ, fun names => ?_⟩
  exact differ.mpr fun _ mem => Arrangement.namesDiffer_of_nodup names mem

/-- Two timers with the same register at different addresses, of which the second has a given
name. -/
def twoTimers (second : String) : Device where
  name := "DEV"
  version := "1"
  description := "a device"
  addressUnitBits := 8
  width := 32
  peripherals :=
    [{ name := "TIM", baseAddress := 0x100
       registers := some [.register { name := "CNT", addressOffset := 0 }] },
     { name := second, baseAddress := 0x200
       registers := some [.register { name := "CNT", addressOffset := 0 }] }]

/-- Two similar timers with names of their own have two constants. -/
theorem emit_constants_differ_iff_twoTimers :
    ∃ (text : String) (items : List Item) (entry : Entry) (individuals : List Entry),
      (twoTimers "TIM2").emit {} = .ok text ∧ text = Item.text items ∧
      entriesOfAll items = [.module "DEV" (entry :: individuals)] ∧
      entry.constants = [("TIM", "TIM \x7b base_address: 0x100 \x7d"),
        ("TIM2", "TIM \x7b base_address: 0x200 \x7d")] ∧
      entry.constantNames.Nodup := by
  obtain ⟨text, emitted⟩ : ∃ text, (twoTimers "TIM2").emit {} = .ok text :=
    exists_of_isOk (by decide +kernel)
  obtain ⟨_, items, groups, individuals, rfl, same, entries, declared, _, differ⟩ :=
    emit_constants_differ_iff rfl emitted
  have quiet : (twoTimers "TIM2").interruptEntries = [] := if_pos (by decide +kernel)
  have constants : (Arrangement.grouped false (twoTimers "TIM2").takenNames
      (twoTimers "TIM2").peripherals).groups.map (fun group => group.members.map group.constantOf) =
        [[("TIM", "TIM \x7b base_address: 0x100 \x7d"),
          ("TIM2", "TIM \x7b base_address: 0x200 \x7d")]] := by
    decide +kernel
  obtain ⟨group, single, own⟩ := List.map_eq_singleton_iff.mp constants
  rw [show (!EmitOptions.withFields {}) = false from rfl, single] at declared
  rw [quiet, List.append_nil] at entries
  cases declared with
  | cons has rest =>
    cases rest
    exact ⟨text, items, _, individuals, emitted, same, entries, has.constants.trans own,
      differ (by decide) _ List.mem_cons_self⟩

/-- **Constants of a group need not have different names.** Two timers of one name with the same
register are in one group, and both their constants have this name. -/
theorem not_forall_constants_differ :
    ¬ ∀ (d : Device) (options : EmitOptions) (text : String), options.groupPeripherals = true →
      d.emit options = .ok text →
      ∃ items groups individuals, text = Item.text items ∧
        entriesOfAll items =
          [.module d.name (d.ownEntries ++ groups ++ individuals ++ d.interruptEntries)] ∧
        List.Forall₂ PeripheralGroup.IsEntry (d.arrangement options).groups groups ∧
        ∀ entry ∈ groups, entry.constantNames.Nodup := by
  intro claim
  obtain ⟨text, emitted⟩ : ∃ text, (twoTimers "TIM").emit {} = .ok text :=
    exists_of_isOk (by decide +kernel)
  obtain ⟨_, _, _, _, _, declared, differ⟩ := claim (twoTimers "TIM") {} text rfl emitted
  have names : ((twoTimers "TIM").arrangement {}).groups.map
      (fun group => group.members.map (·.peripheral.name)) = [["TIM", "TIM"]] := by
    decide +kernel
  obtain ⟨group, single, own⟩ := List.map_eq_singleton_iff.mp names
  rw [single] at declared
  cases declared with
  | cons isEntry _ =>
    -- the one group has both timers, and so one name twice
    have twice := differ _ List.mem_cons_self
    rw [isEntry.constantNames, own] at twice
    exact absurd twice (by decide)

end Device

end RegisterMap
