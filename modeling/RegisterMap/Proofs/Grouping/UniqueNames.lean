import Mathlib.Data.List.Nodup
import Mathlib.Data.List.Perm.Subperm
import Mathlib.Order.Bounds.Defs
import RegisterMap.Proofs.Grouping.FirstFit

/-!
# Names are not repeated

A name that is handed out is new: it is not taken and was not handed out before. For a name that is
kept this is what is asked before it is kept. A numbered one is not reserved, and everything in use
is reserved all the time, which is the invariant of the pass (`uniqueNamesFrom_fresh`). That there
is always a number left is the pigeonhole principle: different numbers make different names, and one
more number is tried than there are reserved names (`freeName_not_mem`).
-/

namespace RegisterMap

open Text

/-! ## Numbered names -/

/-- Different numbers are written differently. -/
theorem decimal_injective : Function.Injective decimal := by
  intro m n same
  have digits : Nat.toDigits 10 m = Nat.toDigits 10 n := by
    simpa only [decimal, String.ofList_inj] using same
  rw [← Nat.ofDigitChars_ten_toDigits (n := m), digits, Nat.ofDigitChars_ten_toDigits]

/-- Different numbers make different names. -/
theorem numbered_injective (name : String) : Function.Injective (numbered name) := by
  intro m n same
  exact decimal_injective (String.append_right_inj _ |>.mp same)

/-- Of more numbers than there are reserved names, one makes a name that is not reserved. -/
theorem exists_numbered_not_mem (reserved : List String) (name : String) :
    ∃ n ∈ List.range (reserved.length + 1), numbered name n ∉ reserved := by
  by_contra none
  have all : (List.range (reserved.length + 1)).map (numbered name) ⊆ reserved := by
    intro candidate mem
    obtain ⟨n, memN, rfl⟩ := List.mem_map.mp mem
    by_contra free
    exact none ⟨n, memN, free⟩
  have different : ((List.range (reserved.length + 1)).map (numbered name)).Nodup :=
    List.nodup_range.map (numbered_injective name)
  have few := (different.subperm all).length_le
  rw [List.length_map, List.length_range] at few
  omega

/-- The number that makes a name free is always found, and it is the smallest one that makes a name
that is not reserved. -/
theorem exists_isLeast_freeName (reserved : List String) (name : String) :
    ∃ n, freeName reserved name = numbered name n ∧
      IsLeast {n | numbered name n ∉ reserved} n := by
  cases found : (List.range (reserved.length + 1)).find? fun n => numbered name n ∉ reserved with
  | none =>
    obtain ⟨n, mem, free⟩ := exists_numbered_not_mem reserved name
    exact absurd free (by simpa using List.find?_eq_none.mp found n mem)
  | some n =>
    have ⟨own, _, smaller⟩ := List.find?_range_eq_some.mp found
    have free : numbered name n ∉ reserved := of_decide_eq_true own
    refine ⟨n, by rw [freeName, found], free, fun m freeM => ?_⟩
    by_contra below
    have taken := smaller m (Nat.lt_of_not_le below)
    rw [Bool.not_eq_true', decide_eq_false_iff_not] at taken
    exact taken freeM

/-- A name that is numbered until it is free is not reserved. -/
theorem freeName_not_mem (reserved : List String) (name : String) :
    freeName reserved name ∉ reserved := by
  obtain ⟨n, same, least⟩ := exists_isLeast_freeName reserved name
  rw [same]
  exact least.1

/-! ## The pass over the names -/

/-- What is handed out for a name, given the names in use and those reserved. -/
def handedOut (used reserved : List String) (name : String) : String :=
  if name ∈ used then freeName reserved name else name

/-- **One step of the pass.** What is handed out is in use and reserved from then on. -/
theorem exists_uniqueNamesFrom_cons (used : List String) {reserved : List String} {name : String}
    (given : name ∈ reserved) : ∃ reserved',
      (∀ other, other ∈ reserved' ↔ other = handedOut used reserved name ∨ other ∈ reserved) ∧
      ∀ rest, uniqueNamesFrom used reserved (name :: rest) =
        handedOut used reserved name ::
          uniqueNamesFrom (handedOut used reserved name :: used) reserved' rest := by
  by_cases repeats : name ∈ used
  · refine ⟨freeName reserved name :: reserved, ?_, ?_⟩
    · simp only [handedOut, if_pos repeats, List.mem_cons, implies_true]
    · simp only [uniqueNamesFrom, handedOut, if_pos repeats, implies_true]
  · -- a name that is kept is reserved anyway
    refine ⟨reserved, ?_, ?_⟩
    · simp only [handedOut, if_neg repeats, iff_or_self, forall_eq, given]
    · simp only [uniqueNamesFrom, handedOut, if_neg repeats, implies_true]

/-- What is handed out is not in use. -/
theorem handedOut_not_mem {used reserved : List String} (inUse : used ⊆ reserved) (name : String) :
    handedOut used reserved name ∉ used := by
  by_cases repeats : name ∈ used
  · rw [handedOut, if_pos repeats]
    exact fun mem => freeName_not_mem reserved name (inUse mem)
  · rwa [handedOut, if_neg repeats]

/-- What is handed out is not in use and not repeated, as long as everything in use or still to come
is reserved. -/
theorem uniqueNamesFrom_fresh {names used reserved : List String} (inUse : used ⊆ reserved)
    (toCome : names ⊆ reserved) :
    (uniqueNamesFrom used reserved names).Nodup ∧
      ∀ name ∈ uniqueNamesFrom used reserved names, name ∉ used := by
  induction names generalizing used reserved with
  | nil => exact ⟨List.nodup_nil, fun _ mem => absurd mem List.not_mem_nil⟩
  | cons name rest ih =>
    obtain ⟨given, later⟩ := List.cons_subset.mp toCome
    obtain ⟨reserved', mem_reserved', step⟩ := exists_uniqueNamesFrom_cons used given
    have wider : reserved ⊆ reserved' := fun other mem => (mem_reserved' other).mpr (.inr mem)
    have inUse' : handedOut used reserved name :: used ⊆ reserved' :=
      List.cons_subset.mpr ⟨(mem_reserved' _).mpr (.inl rfl), List.Subset.trans inUse wider⟩
    obtain ⟨nodup, unused⟩ := ih inUse' (List.Subset.trans later wider)
    rw [step]
    refine ⟨List.nodup_cons.mpr ⟨fun mem => unused _ mem List.mem_cons_self, nodup⟩,
      List.forall_mem_cons.mpr ⟨handedOut_not_mem inUse name, fun other mem memUsed => ?_⟩⟩
    exact unused other mem (List.mem_cons_of_mem _ memUsed)

/-- **Names are not repeated**, and none of them is taken. -/
theorem nodup_uniqueNames (taken names : List String) :
    (uniqueNames taken names).Nodup ∧ ∀ name ∈ uniqueNames taken names, name ∉ taken :=
  uniqueNamesFrom_fresh (List.subset_append_right names taken) (List.subset_append_left names taken)

/-! ## Arrangements -/

namespace Arrangement

/-- The names of the modules of an arrangement: those of the groups, then those of the individual
peripherals. -/
def moduleNames (arranged : Arrangement) : List String :=
  arranged.groups.map (·.moduleName) ++ arranged.individuals.map (·.name)

/-- Going along a list with another one is going along the front of the other. -/
theorem zipWith_right {α β γ : Type} (f : β → γ) (as : List α) (bs : List β) :
    List.zipWith (fun _ b => f b) as bs = (bs.take as.length).map f := by
  induction as generalizing bs with
  | nil => rfl
  | cons a as ih =>
    cases bs with
    | nil => rfl
    | cons b bs =>
      rw [List.zipWith_cons_cons, ih, List.length_cons, List.take_succ_cons, List.map_cons]

/-- The individuals are given the first of the names. -/
theorem name_nameIndividuals (members : List Member) (names : List String) :
    (nameIndividuals members names).map (·.name) = names.take members.length := by
  rw [nameIndividuals, List.map_zipWith]
  exact (zipWith_right id members names).trans (List.map_id _)

/-- The groups are given the first of the names. -/
theorem moduleName_nameGroups (groups : List PeripheralGroup) (names : List String) :
    (nameGroups groups names).map (·.moduleName) = names.take groups.length := by
  rw [nameGroups, List.map_zipWith]
  exact (zipWith_right id groups names).trans (List.map_id _)

variable {ignoreFields : Bool} {taken : List String} {peripherals : List Peripheral}

/-- Without groups the modules have the names of the peripherals, with repetitions numbered. -/
theorem moduleNames_separate :
    (separate taken peripherals).moduleNames = uniqueNames taken (peripherals.map (·.name)) := by
  have enough : (uniqueNames taken (peripherals.map (·.name))).length =
      (membersOf peripherals).length := by
    rw [length_uniqueNames, List.length_map, membersOf, List.length_map, List.length_zipIdx]
  refine (name_nameIndividuals _ _).trans ?_
  rw [← enough, List.take_length]

/-- Individual peripherals are named first, but their modules stand behind those of the groups. -/
theorem moduleNames_grouped : ∃ names,
    (grouped ignoreFields taken peripherals).moduleNames.Perm (uniqueNames taken names) := by
  let buckets := Bucket.firstFit (fun a b => a.peripheral.similar ignoreFields b.peripheral)
    (membersOf peripherals)
  let groups := buckets.filterMap PeripheralGroup.ofBucket?
  let members :=
    (buckets.filter fun bucket => (PeripheralGroup.ofBucket? bucket).isNone).flatMap Bucket.toList
  let names := members.map (·.peripheral.name) ++ groups.map (·.moduleName)
  refine ⟨names, ?_⟩
  have individuals : (grouped ignoreFields taken peripherals).individuals.map (·.name) =
      (uniqueNames taken names).take members.length := name_nameIndividuals _ _
  have enough : ((uniqueNames taken names).drop members.length).length = groups.length := by
    rw [List.length_drop, length_uniqueNames, List.length_append, List.length_map, List.length_map,
      Nat.add_sub_cancel_left]
  have grouped : (grouped ignoreFields taken peripherals).groups.map (·.moduleName) =
      (uniqueNames taken names).drop members.length := by
    refine (moduleName_nameGroups groups _).trans ?_
    rw [← enough, List.take_length]
  rw [moduleNames, individuals, grouped]
  exact List.perm_append_comm.trans (.of_eq (List.take_append_drop _ _))

end Arrangement

namespace Device

/-- The names of the modules in an arrangement are different, and different from those in use. -/
theorem nodup_moduleNames_arrangement (options : EmitOptions) (d : Device) :
    ((d.arrangement options).moduleNames ++ d.takenNames).Nodup := by
  have handedOut : ∃ names, (d.arrangement options).moduleNames.Perm
      (uniqueNames d.takenNames names) := by
    unfold arrangement
    split
    · exact Arrangement.moduleNames_grouped
    · exact ⟨_, .of_eq Arrangement.moduleNames_separate⟩
  obtain ⟨names, perm⟩ := handedOut
  obtain ⟨nodup, fresh⟩ := nodup_uniqueNames d.takenNames names
  refine List.nodup_append.mpr ⟨perm.nodup_iff.mpr nodup, ?_, ?_⟩
  · unfold takenNames
    split
    · exact List.nodup_nil
    · exact List.nodup_singleton interruptModule
  · rintro name mem _ memTaken rfl
    exact fresh name (perm.mem_iff.mp mem) memTaken

end Device

end RegisterMap
