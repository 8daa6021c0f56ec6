import RegisterMap.Emit.Device
import Mathlib.Data.List.Perm.Basic

/-!
# Which peripherals are arranged

Sorting things into buckets only reorders them (`Bucket.firstFit_perm`). So whatever the
arrangement of some peripherals has, in groups or as individuals, is one of them
(`mem_of_mem_group`, `mem_of_mem_individuals`).
-/

namespace RegisterMap

/-! ## Buckets -/

namespace Bucket

variable {α : Type} (similar : α → α → Bool)

/-- What is placed in a bucket is added to what is in all of them. -/
theorem place_perm (buckets : List (Bucket α)) (item : α) :
    ((place similar buckets item).flatMap toList).Perm (item :: buckets.flatMap toList) := by
  induction buckets with
  | nil => exact .refl _
  | cons bucket rest ih =>
    rw [place]
    by_cases fits : similar bucket.first item = true
    · rw [if_pos fits, List.flatMap_cons, List.flatMap_cons]
      have pushed : (bucket.push item).toList = bucket.toList ++ [item] := rfl
      rw [pushed, List.append_assoc]
      exact List.perm_middle
    · rw [if_neg fits, List.flatMap_cons, List.flatMap_cons]
      exact (ih.append_left bucket.toList).trans List.perm_middle

/-- **Sorting into buckets loses nothing** and brings in nothing. -/
theorem firstFit_perm (items : List α) :
    ((firstFit similar items).flatMap toList).Perm items := by
  have started : ∀ buckets : List (Bucket α),
      ((items.foldl (place similar) buckets).flatMap toList).Perm
        (buckets.flatMap toList ++ items) := by
    induction items with
    | nil =>
      intro buckets
      rw [List.foldl_nil, List.append_nil]
    | cons item rest ih =>
      intro buckets
      rw [List.foldl_cons]
      refine (ih (place similar buckets item)).trans ?_
      exact ((place_perm similar buckets item).append_right rest).trans List.perm_middle.symm
  exact started []

end Bucket

/-! ## Arrangements -/

/-- What stands in a combination of two lists is made of a thing of each. -/
theorem mem_of_mem_zipWith {α β γ : Type} {f : α → β → γ} {as : List α} {bs : List β} {c : γ}
    (mem : c ∈ List.zipWith f as bs) : ∃ a ∈ as, ∃ b ∈ bs, f a b = c := by
  obtain ⟨i, here⟩ := List.mem_iff_getElem?.mp mem
  obtain ⟨a, b, own, other, same⟩ := List.getElem?_zipWith_eq_some.mp here
  exact ⟨a, List.mem_of_getElem? own, b, List.mem_of_getElem? other, same⟩

namespace Arrangement

variable {ignoreFields : Bool} {taken : List String} {peripherals : List Peripheral}

/-- A member is the peripheral at its position. -/
theorem getElem?_of_mem_membersOf {m : Member} (mem : m ∈ membersOf peripherals) :
    peripherals[m.position]? = some m.peripheral := by
  obtain ⟨entry, memEntry, rfl⟩ := List.mem_map.mp mem
  exact List.mem_zipIdx_iff_getElem?.mp memEntry

theorem mem_of_mem_membersOf {m : Member} (mem : m ∈ membersOf peripherals) :
    m.peripheral ∈ peripherals :=
  List.mem_of_getElem? (getElem?_of_mem_membersOf mem)

/-- What is in a bucket of peripherals is one of them. -/
theorem mem_of_mem_bucket {similar : Member → Member → Bool} {bucket : Bucket Member} {m : Member}
    (memBucket : bucket ∈ Bucket.firstFit similar (membersOf peripherals))
    (mem : m ∈ bucket.toList) : m.peripheral ∈ peripherals := by
  refine mem_of_mem_membersOf ((Bucket.firstFit_perm similar _).mem_iff.mp ?_)
  exact List.mem_flatMap.mpr ⟨bucket, memBucket, mem⟩

/-- Without groups the individuals are peripherals that were there. -/
theorem mem_of_mem_separate {named : NamedPeripheral}
    (mem : named ∈ (separate taken peripherals).individuals) :
    named.member.peripheral ∈ peripherals := by
  obtain ⟨m, memM, _, _, rfl⟩ := mem_of_mem_zipWith mem
  exact mem_of_mem_membersOf memM

/-- With groups the individuals are peripherals that were there. -/
theorem mem_of_mem_grouped {named : NamedPeripheral}
    (mem : named ∈ (grouped ignoreFields taken peripherals).individuals) :
    named.member.peripheral ∈ peripherals := by
  obtain ⟨m, memM, _, _, rfl⟩ := mem_of_mem_zipWith mem
  obtain ⟨bucket, memBucket, inside⟩ := List.mem_flatMap.mp memM
  exact mem_of_mem_bucket (List.mem_of_mem_filter memBucket) inside

/-- The members of groups are peripherals that were there. -/
theorem mem_of_mem_groups {group : PeripheralGroup}
    (mem : group ∈ (grouped ignoreFields taken peripherals).groups) :
    ∀ m ∈ group.members, m.peripheral ∈ peripherals := by
  obtain ⟨before, memBefore, _, _, rfl⟩ := mem_of_mem_zipWith mem
  obtain ⟨bucket, memBucket, made⟩ := List.mem_filterMap.mp memBefore
  dsimp only [PeripheralGroup.ofBucket?] at made
  split at made
  · cases made
  · cases made
    exact fun m inside => mem_of_mem_bucket memBucket inside

end Arrangement

namespace Device

variable {options : EmitOptions} {d : Device}

/-- The individuals of a device are peripherals of it. -/
theorem mem_of_mem_individuals {named : NamedPeripheral}
    (mem : named ∈ (d.arrangement options).individuals) :
    named.member.peripheral ∈ d.peripherals := by
  unfold arrangement at mem
  split at mem
  · exact Arrangement.mem_of_mem_grouped mem
  · exact Arrangement.mem_of_mem_separate mem

/-- The members of a group of a device are peripherals of it. -/
theorem mem_of_mem_group {group : PeripheralGroup} (mem : group ∈ (d.arrangement options).groups) :
    ∀ m ∈ group.members, m.peripheral ∈ d.peripherals := by
  unfold arrangement at mem
  split at mem
  · exact Arrangement.mem_of_mem_groups mem
  · exact absurd mem List.not_mem_nil

end Device

end RegisterMap
