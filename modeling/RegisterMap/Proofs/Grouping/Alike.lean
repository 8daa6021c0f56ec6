import Mathlib.Data.List.Nodup
import RegisterMap.Proofs.Grouping.FirstFit

/-!
# Similar peripherals are together

First fit compares with the first member of a bucket only. Where similarity is sameness of a key,
that is enough: all members of a bucket have one key (`Bucket.Fitted.key_eq`), and no two buckets
have the same (`Bucket.Fitted.eq_of_key`). Nodes are such things, since their outline is the key.
Peripherals are when none of them is or was derived from another, and then two similar ones are
either in one group or both on their own, and all members of a group are similar to each other
(`similar_equivalence`).
-/

namespace RegisterMap

/-! ## Buckets of things with a key -/

namespace Bucket

variable {α β : Type} {similar : α → α → Bool} {key : α → β} {items : List α}
  {buckets : List (Bucket α)} {bucket other : Bucket α}

/-- The members of a bucket have the key of the first. -/
theorem Fitted.key_eq (h : Fitted similar items buckets)
    (sameKey : ∀ a ∈ items, ∀ b ∈ items, similar a b = true ↔ key a = key b)
    (mem : bucket ∈ buckets) {item : α} (inside : item ∈ bucket.toList) :
    key item = key bucket.first := by
  rcases List.mem_cons.mp inside with rfl | later
  · rfl
  · have kept := (h.ordered bucket mem).subset
    exact ((sameKey _ (kept List.mem_cons_self) item (kept inside)).mp
      (h.alike bucket mem item later)).symm

/-- Buckets are told apart by the keys of their first members. -/
theorem Fitted.eq_of_key (h : Fitted similar items buckets)
    (sameKey : ∀ a ∈ items, ∀ b ∈ items, similar a b = true ↔ key a = key b)
    (mem : bucket ∈ buckets) (memOther : other ∈ buckets)
    (same : key bucket.first = key other.first) : bucket = other := by
  have firstMem : ∀ {bucket : Bucket α}, bucket ∈ buckets → bucket.first ∈ items :=
    fun mem => (h.ordered _ mem).subset List.mem_cons_self
  have nodup : (buckets.map fun bucket => key bucket.first).Nodup := by
    refine List.pairwise_map.mpr (h.apart.imp_of_mem fun memBucket memLater apart same => ?_)
    have fits := (sameKey _ (firstMem memBucket) _ (firstMem memLater)).mpr same
    rw [apart _ List.mem_cons_self] at fits
    exact Bool.false_ne_true fits
  exact List.inj_on_of_nodup_map nodup mem memOther same

end Bucket

/-! ## Arrangements -/

namespace Arrangement

/-- Similar members are together in an arrangement: the members of a group are similar to each
other, and two that are similar are in one group or both on their own. -/
structure JoinsSimilar (similar : Member → Member → Bool) (members : List Member)
    (arranged : Arrangement) : Prop where
  alike : ∀ group ∈ arranged.groups, ∀ a ∈ group.members, ∀ b ∈ group.members, similar a b = true
  together : ∀ a ∈ members, ∀ b ∈ members, similar a b = true →
    (∃ group ∈ arranged.groups, a ∈ group.members ∧ b ∈ group.members) ∨
      (a ∈ arranged.individuals.map (·.member) ∧ b ∈ arranged.individuals.map (·.member))

variable {ignoreFields : Bool} {peripherals : List Peripheral}

/-- What is in one bucket is in one group, or all of it is on its own. -/
theorem together_of_bucket (taken : List String) {bucket : Bucket Member}
    (mem : bucket ∈ Bucket.firstFit (fun a b => a.peripheral.similar ignoreFields b.peripheral)
      (membersOf peripherals)) {a b : Member} (memA : a ∈ bucket.toList)
    (memB : b ∈ bucket.toList) :
    (∃ group ∈ (grouped ignoreFields taken peripherals).groups,
        a ∈ group.members ∧ b ∈ group.members) ∨
      (a ∈ (grouped ignoreFields taken peripherals).individuals.map (·.member) ∧
        b ∈ (grouped ignoreFields taken peripherals).individuals.map (·.member)) := by
  cases made : PeripheralGroup.ofBucket? bucket with
  | none =>
    exact .inr ⟨mem_individuals_of_bucket mem taken made memA,
      mem_individuals_of_bucket mem taken made memB⟩
  | some group =>
    obtain ⟨named, memNamed, own, _⟩ := exists_group_of_bucket mem taken made
    exact .inl ⟨named, memNamed, own ▸ memA, own ▸ memB⟩

/-- Peripherals of which none is or was derived from another are grouped by what they are like. -/
theorem joinsSimilar_grouped (taken : List String)
    (underived : ∀ p ∈ peripherals, p.source = none) :
    (grouped ignoreFields taken peripherals).JoinsSimilar
      (fun a b => a.peripheral.similar ignoreFields b.peripheral) (membersOf peripherals) := by
  let similar (a b : Member) := a.peripheral.similar ignoreFields b.peripheral
  let key (m : Member) := Node.outlineAll ignoreFields m.peripheral.nodes
  have fitted : Bucket.Fitted similar (membersOf peripherals)
      (Bucket.firstFit similar (membersOf peripherals)) :=
    Bucket.fitted_firstFit similar (membersOf peripherals)
  -- without references, similarity is sameness of the outlines of the nodes
  have sameKey : ∀ a ∈ membersOf peripherals, ∀ b ∈ membersOf peripherals,
      similar a b = true ↔ key a = key b := fun a memA b memB =>
    Peripheral.similar_iff_of_underived (underived _ (mem_of_mem_membersOf memA))
      (underived _ (mem_of_mem_membersOf memB)) ignoreFields
  constructor
  · intro group mem a memA b memB
    obtain ⟨bucket, memBucket, members, _⟩ := exists_bucket mem
    rw [members] at memA memB
    have kept := (fitted.ordered bucket memBucket).subset
    exact (sameKey a (kept memA) b (kept memB)).mpr
      ((fitted.key_eq sameKey memBucket memA).trans (fitted.key_eq sameKey memBucket memB).symm)
  · intro a memA b memB alike
    have placed : ∀ m ∈ membersOf peripherals,
        ∃ bucket ∈ Bucket.firstFit similar (membersOf peripherals), m ∈ bucket.toList :=
      fun m mem => List.mem_flatMap.mp ((Bucket.firstFit_perm similar _).mem_iff.mpr mem)
    obtain ⟨bucket, memBucket, insideA⟩ := placed a memA
    obtain ⟨other, memOther, insideB⟩ := placed b memB
    have same : bucket = other := by
      refine fitted.eq_of_key sameKey memBucket memOther ?_
      calc key bucket.first
        _ = key a := (fitted.key_eq sameKey memBucket insideA).symm
        _ = key b := (sameKey a memA b memB).mp alike
        _ = key other.first := fitted.key_eq sameKey memOther insideB
    exact together_of_bucket taken memBucket insideA (same ▸ insideB)

end Arrangement

/-- **Similarity is an equivalence where nothing is derived.** Nodes are divided into classes of
similar ones. A peripheral is similar to itself and to those that are similar to it, and peripherals
that are and were not derived from others are divided into classes as well. Grouping respects these
classes: members of a group are similar to each other, and similar peripherals are in one group or
both on their own. -/
theorem similar_equivalence (ignoreFields : Bool) :
    Equivalence (fun a b : Node => a.similar ignoreFields b = true) ∧
    (∀ p : Peripheral, p.similar ignoreFields p = true) ∧
    (∀ a b : Peripheral, a.similar ignoreFields b = true → b.similar ignoreFields a = true) ∧
    Equivalence (fun a b : { p : Peripheral // p.source = none } =>
      a.val.similar ignoreFields b.val = true) ∧
    ∀ (taken : List String) (peripherals : List Peripheral),
      (∀ p ∈ peripherals, p.source = none) →
        (Arrangement.grouped ignoreFields taken peripherals).JoinsSimilar
          (fun a b => a.peripheral.similar ignoreFields b.peripheral)
          (Arrangement.membersOf peripherals) := by
  refine ⟨Node.equivalence_similar ignoreFields, Peripheral.similar_self ignoreFields,
    fun a b alike => ?_, ?_, fun taken _ => Arrangement.joinsSimilar_grouped taken⟩
  · rwa [Peripheral.similar_comm]
  · have sameOutline := fun a b : { p : Peripheral // p.source = none } =>
      Peripheral.similar_iff_of_underived a.property b.property ignoreFields
    simp only [sameOutline]
    exact ⟨fun _ => rfl, Eq.symm, Eq.trans⟩

/-- Two serial ports, and between and behind them two peripherals that have one register in common
and no beginning of a name. -/
def portsAmongOthers : List Peripheral :=
  [{ name := "UART1", baseAddress := 0x100
     registers := some [.register { name := "DR", addressOffset := 4 }] },
   { name := "ADC", baseAddress := 0x200
     registers := some [.register { name := "CR", addressOffset := 0 }] },
   { name := "UART2", baseAddress := 0x300
     registers := some [.register { name := "DR", addressOffset := 4 }] },
   { name := "TIM", baseAddress := 0x400
     registers := some [.register { name := "CR", addressOffset := 0 }] }]

/-- Two similar ports are in a group, and the peripherals among them, which are similar but have no
common beginning, are on their own. -/
theorem similar_equivalence_portsAmongOthers :
    (∀ p ∈ portsAmongOthers, p.source = none) ∧
      (Arrangement.grouped false [] portsAmongOthers).groups.map
        (fun group => group.members.map (·.position)) = [[0, 2]] ∧
      (Arrangement.grouped false [] portsAmongOthers).individuals.map (·.member.position) =
        [1, 3] ∧
      (Arrangement.grouped false [] portsAmongOthers).JoinsSimilar
        (fun a b => a.peripheral.similar false b.peripheral)
        (Arrangement.membersOf portsAmongOthers) := by
  have underived : ∀ p ∈ portsAmongOthers, p.source = none := by decide
  obtain ⟨_, _, _, _, joins⟩ := similar_equivalence false
  exact ⟨underived, by decide +kernel, by decide +kernel, joins [] portsAmongOthers underived⟩

end RegisterMap
