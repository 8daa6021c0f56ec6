import RegisterMap.Proofs.Grouping.Peripherals
import RegisterMap.Proofs.Similar

/-!
# The law of first fit

The buckets into which things are sorted are `Fitted`: each has its members in the order in which
they came, all of them similar to the first, and what is in a later bucket is not similar to the
first member of an earlier one, which would have taken it. Similarity is not transitive, so two
members of one bucket need not be similar, and a later bucket may well be similar to a member of an
earlier one that is not its first.

`Fitted.place` says that this stays so when one more thing comes in, whatever was in the buckets,
and `fitted_firstFit` that it holds when all are sorted. An arrangement of peripherals takes its
groups from such buckets, drops none and changes no member (`Arrangement.divides_grouped`).
-/

namespace RegisterMap

/-! ## Buckets -/

namespace Bucket

variable {α : Type} {similar : α → α → Bool}

/-- Some things are sorted into buckets by first fit. -/
structure Fitted (similar : α → α → Bool) (items : List α) (buckets : List (Bucket α)) : Prop where
  ordered : ∀ bucket ∈ buckets, bucket.toList.Sublist items
  alike : ∀ bucket ∈ buckets, ∀ item ∈ bucket.others, similar bucket.first item = true
  apart : buckets.Pairwise fun bucket later => ∀ item ∈ later.toList,
    similar bucket.first item = false

theorem fitted_nil : Fitted similar [] [] :=
  ⟨fun _ mem => absurd mem List.not_mem_nil, fun _ mem => absurd mem List.not_mem_nil, .nil⟩

/-- What is in a bucket after a thing was put into one is that thing or was in a bucket before. -/
theorem mem_bucket_of_place {buckets : List (Bucket α)} {item : α} {bucket : Bucket α}
    (memBucket : bucket ∈ place similar buckets item) {x : α} (mem : x ∈ bucket.toList) :
    x = item ∨ ∃ before ∈ buckets, x ∈ before.toList := by
  have all := (place_perm similar buckets item).mem_iff.mp
    (List.mem_flatMap.mpr ⟨bucket, memBucket, mem⟩)
  exact (List.mem_cons.mp all).imp id List.mem_flatMap.mp

/-- The buckets are fitted again when one more thing is put into the first that fits. -/
theorem Fitted.place {items : List α} {buckets : List (Bucket α)}
    (h : Fitted similar items buckets) (item : α) :
    Fitted similar (items ++ [item]) (place similar buckets item) := by
  induction buckets with
  | nil =>
    refine ⟨?_, ?_, List.pairwise_singleton _ _⟩
    · intro bucket mem
      cases List.mem_singleton.mp mem
      exact List.sublist_append_right items [item]
    · intro bucket mem
      cases List.mem_singleton.mp mem
      exact fun _ none => absurd none List.not_mem_nil
  | cons bucket rest ih =>
    obtain ⟨ordered, alike, apart⟩ := h
    obtain ⟨orderedFirst, orderedRest⟩ := List.forall_mem_cons.mp ordered
    obtain ⟨alikeFirst, alikeRest⟩ := List.forall_mem_cons.mp alike
    obtain ⟨apartFirst, apartRest⟩ := List.pairwise_cons.mp apart
    rw [Bucket.place]
    by_cases fits : similar bucket.first item = true
    · rw [if_pos fits]
      refine ⟨List.forall_mem_cons.mpr ⟨?_, ?_⟩, List.forall_mem_cons.mpr ⟨?_, alikeRest⟩,
        List.pairwise_cons.mpr ⟨apartFirst, apartRest⟩⟩
      · exact orderedFirst.append (List.Sublist.refl [item])
      · exact fun later mem => (orderedRest later mem).trans (List.sublist_append_left items [item])
      · intro x mem
        rcases List.mem_append.mp mem with own | new
        · exact alikeFirst x own
        · cases List.mem_singleton.mp new
          exact fits
    · rw [if_neg fits]
      have later := ih ⟨orderedRest, alikeRest, apartRest⟩
      refine ⟨List.forall_mem_cons.mpr ⟨?_, later.ordered⟩,
        List.forall_mem_cons.mpr ⟨alikeFirst, later.alike⟩,
        List.pairwise_cons.mpr ⟨fun after memAfter x mem => ?_, later.apart⟩⟩
      · exact orderedFirst.trans (List.sublist_append_left items [item])
      · -- the thing that came in went past the first bucket
        rcases mem_bucket_of_place memAfter mem with rfl | ⟨before, memBefore, own⟩
        · exact Bool.eq_false_iff.mpr fits
        · exact apartFirst before memBefore x own

/-- **First fit.** However many things are sorted into buckets, the buckets are fitted. -/
theorem fitted_firstFit (similar : α → α → Bool) (items : List α) :
    Fitted similar items (firstFit similar items) := by
  have started : ∀ (seen : List α) (buckets : List (Bucket α)), Fitted similar seen buckets →
      Fitted similar (seen ++ items) (items.foldl (Bucket.place similar) buckets) := by
    induction items with
    | nil =>
      intro seen buckets fitted
      rwa [List.append_nil]
    | cons item rest ih =>
      intro seen buckets fitted
      rw [List.append_cons]
      exact ih (seen ++ [item]) _ (fitted.place item)
  exact started [] [] fitted_nil

end Bucket

/-! ## Names -/

/-- Each name is replaced by one name. -/
theorem length_uniqueNamesFrom (used reserved names : List String) :
    (uniqueNamesFrom used reserved names).length = names.length := by
  induction names generalizing used reserved with
  | nil => rfl
  | cons name rest ih =>
    rw [uniqueNamesFrom]
    split <;> rw [List.length_cons, List.length_cons, ih]

/-- There is a name for each name. -/
theorem length_uniqueNames (taken names : List String) :
    (uniqueNames taken names).length = names.length :=
  length_uniqueNamesFrom taken (names ++ taken) names

/-- Going along a list with another one that is not shorter is going along the first. -/
theorem zipWith_left {α β γ : Type} (f : α → γ) {as : List α} {bs : List β}
    (enough : as.length ≤ bs.length) : List.zipWith (fun a _ => f a) as bs = as.map f := by
  induction as generalizing bs with
  | nil => rfl
  | cons a as ih =>
    cases bs with
    | nil => cases enough
    | cons b bs =>
      rw [List.zipWith_cons_cons, List.map_cons, ih (Nat.le_of_succ_le_succ enough)]

/-! ## Arrangements -/

/-- A group that is made of a bucket has its members, at least two of them, and a handle type with a
name. -/
theorem PeripheralGroup.ofBucket?_eq_some {bucket : Bucket Member} {group : PeripheralGroup}
    (made : ofBucket? bucket = some group) :
    group.members = bucket.toList ∧ group.structName ≠ "" ∧ bucket.others ≠ [] := by
  dsimp only [ofBucket?] at made
  split at made
  · cases made
  · rename_i enough
    cases made
    rw [Bool.or_eq_true, not_or, List.isEmpty_iff, decide_eq_true_iff] at enough
    exact ⟨rfl, enough.2, enough.1⟩

namespace Arrangement

/-- Some members are divided into groups and individuals. Each is in one place, and no group could
have been taken into an earlier one. -/
structure Divides (similar : Member → Member → Bool) (members : List Member)
    (arranged : Arrangement) : Prop where
  everyone : (arranged.groups.flatMap (·.members) ++ arranged.individuals.map (·.member)).Perm
    members
  several : ∀ group ∈ arranged.groups, 2 ≤ group.members.length
  ordered : ∀ group ∈ arranged.groups, group.members.Sublist members
  named : ∀ group ∈ arranged.groups, group.structName ≠ ""
  alike : ∀ group ∈ arranged.groups, ∀ first, group.members.head? = some first →
    ∀ m ∈ group.members, similar first m = true
  apart : arranged.groups.Pairwise fun group later => ∀ first, group.members.head? = some first →
    ∀ m ∈ later.members, similar first m = false

variable {ignoreFields : Bool} {taken : List String} {peripherals : List Peripheral}

/-- What makes a group goes into it, and what does not is left over. -/
theorem members_append_perm (buckets : List (Bucket Member)) :
    ((buckets.filterMap PeripheralGroup.ofBucket?).flatMap (·.members) ++
      (buckets.filter fun bucket => (PeripheralGroup.ofBucket? bucket).isNone).flatMap
        Bucket.toList).Perm (buckets.flatMap Bucket.toList) := by
  induction buckets with
  | nil => exact .refl _
  | cons bucket rest ih =>
    cases made : PeripheralGroup.ofBucket? bucket with
    | none =>
      rw [List.filterMap_cons_none made, List.filter_cons_of_pos (by rw [made]; rfl),
        List.flatMap_cons, List.flatMap_cons]
      refine (List.perm_append_comm_assoc _ _ _).trans (ih.append_left bucket.toList)
    | some group =>
      rw [List.filterMap_cons_some made, List.filter_cons_of_neg (by rw [made]; nofun),
        List.flatMap_cons, List.flatMap_cons, (PeripheralGroup.ofBucket?_eq_some made).1,
        List.append_assoc]
      exact ih.append_left bucket.toList

/-- Naming the modules of groups leaves everything else about them as it is. -/
theorem map_nameGroups {β : Type} {f : PeripheralGroup → β}
    (blind : ∀ group moduleName, f { group with moduleName } = f group)
    {groups : List PeripheralGroup} {names : List String} (enough : groups.length ≤ names.length) :
    (nameGroups groups names).map f = groups.map f := by
  simp only [nameGroups, List.map_zipWith, blind]
  exact zipWith_left f enough

/-- Giving names to individuals changes neither their members nor the order. -/
theorem member_nameIndividuals {members : List Member} {names : List String}
    (enough : members.length ≤ names.length) :
    (nameIndividuals members names).map (·.member) = members := by
  rw [nameIndividuals, List.map_zipWith]
  exact (zipWith_left id enough).trans (List.map_id members)

/-- Every group comes from a bucket of several peripherals. -/
theorem exists_bucket {group : PeripheralGroup}
    (mem : group ∈ (grouped ignoreFields taken peripherals).groups) :
    ∃ bucket ∈ Bucket.firstFit (fun a b => a.peripheral.similar ignoreFields b.peripheral)
        (membersOf peripherals),
      group.members = bucket.toList ∧ group.structName ≠ "" ∧ bucket.others ≠ [] := by
  obtain ⟨before, memBefore, _, _, rfl⟩ := mem_of_mem_zipWith mem
  obtain ⟨bucket, memBucket, made⟩ := List.mem_filterMap.mp memBefore
  have own := PeripheralGroup.ofBucket?_eq_some made
  exact ⟨bucket, memBucket, own⟩

/-- The buckets of similar peripherals that make no group. -/
def leftOver (ignoreFields : Bool) (peripherals : List Peripheral) : List (Bucket Member) :=
  (Bucket.firstFit (fun a b => a.peripheral.similar ignoreFields b.peripheral)
    (membersOf peripherals)).filter fun bucket => (PeripheralGroup.ofBucket? bucket).isNone

/-- The individual peripherals are the members of these buckets, bucket by bucket. -/
theorem members_individuals_grouped (ignoreFields : Bool) (taken : List String)
    (peripherals : List Peripheral) :
    (grouped ignoreFields taken peripherals).individuals.map (·.member) =
      (leftOver ignoreFields peripherals).flatMap Bucket.toList := by
  -- there are enough names for all
  refine member_nameIndividuals ?_
  simp only [length_uniqueNames, List.length_append, List.length_map, Nat.le_add_right]

/-- The groups are those that the buckets make, bucket by bucket, but for the names of their
modules. -/
theorem map_groups_grouped {β : Type} {f : PeripheralGroup → β}
    (blind : ∀ group moduleName, f { group with moduleName } = f group) (ignoreFields : Bool)
    (taken : List String) (peripherals : List Peripheral) :
    (grouped ignoreFields taken peripherals).groups.map f =
      ((Bucket.firstFit (fun a b => a.peripheral.similar ignoreFields b.peripheral)
        (membersOf peripherals)).filterMap PeripheralGroup.ofBucket?).map f := by
  -- there are enough names for all
  refine map_nameGroups blind ?_
  simp only [List.length_drop, length_uniqueNames, List.length_append, List.length_map,
    Nat.add_sub_cancel_left, Nat.le_refl]

section Buckets

variable {bucket : Bucket Member}
  (mem : bucket ∈ Bucket.firstFit (fun a b => a.peripheral.similar ignoreFields b.peripheral)
    (membersOf peripherals))
include mem

/-- What is in a bucket without a group is on its own. -/
theorem mem_individuals_of_bucket (taken : List String)
    (dissolved : PeripheralGroup.ofBucket? bucket = none) {m : Member}
    (inside : m ∈ bucket.toList) :
    m ∈ (grouped ignoreFields taken peripherals).individuals.map (·.member) := by
  have alone : bucket ∈ leftOver ignoreFields peripherals :=
    List.mem_filter.mpr ⟨mem, by rw [dissolved]; rfl⟩
  rw [members_individuals_grouped]
  exact List.mem_flatMap.mpr ⟨bucket, alone, inside⟩

/-- The group that a bucket makes is there, with its members and its handle type. -/
theorem exists_group_of_bucket (taken : List String) {group : PeripheralGroup}
    (made : PeripheralGroup.ofBucket? bucket = some group) :
    ∃ named ∈ (grouped ignoreFields taken peripherals).groups,
      named.members = bucket.toList ∧ named.structName = group.structName := by
  let seen (group : PeripheralGroup) := (group.members, group.structName)
  have inside : seen group ∈ (grouped ignoreFields taken peripherals).groups.map seen := by
    rw [map_groups_grouped fun _ _ => rfl]
    exact List.mem_map_of_mem (List.mem_filterMap.mpr ⟨bucket, mem, made⟩)
  obtain ⟨named, memNamed, same⟩ := List.mem_map.mp inside
  obtain ⟨members, structName⟩ := Prod.mk.inj same
  exact ⟨named, memNamed, members.trans (PeripheralGroup.ofBucket?_eq_some made).1, structName⟩

end Buckets

/-- **Similar peripherals are divided by first fit.** -/
theorem divides_grouped (ignoreFields : Bool) (taken : List String)
    (peripherals : List Peripheral) :
    (grouped ignoreFields taken peripherals).Divides
      (fun a b => a.peripheral.similar ignoreFields b.peripheral) (membersOf peripherals) := by
  let similar (a b : Member) := a.peripheral.similar ignoreFields b.peripheral
  let buckets := Bucket.firstFit similar (membersOf peripherals)
  have fitted : Bucket.Fitted similar (membersOf peripherals) buckets :=
    Bucket.fitted_firstFit similar (membersOf peripherals)
  -- naming changes neither the members of groups nor their order
  have groups : (grouped ignoreFields taken peripherals).groups.map (·.members) =
      (buckets.filterMap PeripheralGroup.ofBucket?).map (·.members) :=
    map_groups_grouped (fun _ _ => rfl) ignoreFields taken peripherals
  refine ⟨?_, fun group mem => ?_, fun group mem => ?_, fun group mem => ?_,
    fun group mem first isFirst m memM => ?_, ?_⟩
  · rw [List.flatMap_def, groups, members_individuals_grouped, ← List.flatMap_def]
    exact (members_append_perm buckets).trans (Bucket.firstFit_perm similar _)
  · obtain ⟨bucket, _, members, _, others⟩ := exists_bucket mem
    rw [members]
    exact Nat.succ_le_succ (List.length_pos_of_ne_nil others)
  · obtain ⟨bucket, memBucket, members, _⟩ := exists_bucket mem
    rw [members]
    exact fitted.ordered bucket memBucket
  · obtain ⟨_, _, _, named, _⟩ := exists_bucket mem
    exact named
  · obtain ⟨bucket, memBucket, members, _⟩ := exists_bucket mem
    rw [members] at isFirst memM
    cases isFirst
    rcases List.mem_cons.mp memM with rfl | other
    · exact Peripheral.similar_self ignoreFields _
    · exact fitted.alike bucket memBucket m other
  · have apart : ((grouped ignoreFields taken peripherals).groups.map (·.members)).Pairwise
        fun members later => ∀ first, members.head? = some first →
          ∀ m ∈ later, similar first m = false := by
      rw [groups, List.pairwise_map, List.pairwise_filterMap]
      refine fitted.apart.imp fun apart group made later madeLater first isFirst m memM => ?_
      rw [(PeripheralGroup.ofBucket?_eq_some made).1] at isFirst
      rw [(PeripheralGroup.ofBucket?_eq_some madeLater).1] at memM
      cases isFirst
      exact apart m memM
    exact List.pairwise_map.mp apart

end Arrangement

end RegisterMap
