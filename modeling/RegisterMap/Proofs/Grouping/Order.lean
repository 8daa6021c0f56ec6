import RegisterMap.Proofs.Grouping.FirstFit

/-!
# The order of the individual peripherals

The individual peripherals of an arrangement are collected bucket by bucket. The members of one
bucket are in the order of the device, and buckets are opened in that order
(`Bucket.firsts_firstFit`). A bucket that is dissolved for lack of a name has several members, and
there may be another individual peripheral between them in the device. It comes behind all of them
then, because its bucket was opened later.

So the order of the device is kept exactly when no dissolved bucket reaches beyond the beginning of
a later one without a group (`Arrangement.individuals_ordered_iff`), and in particular when none is
dissolved. `Arrangement.interleaved` is a device for which it is not kept. There the first of two
equal names is the one that is numbered.
-/

namespace RegisterMap

/-- Buckets are opened in the order in which their first members came. -/
theorem Bucket.firsts_firstFit {α : Type} (similar : α → α → Bool) (items : List α) :
    ((firstFit similar items).map (·.first)).Sublist items := by
  have placed : ∀ (buckets : List (Bucket α)) (item : α),
      ((place similar buckets item).map (·.first)).Sublist (buckets.map (·.first) ++ [item]) := by
    intro buckets item
    induction buckets with
    | nil => exact List.Sublist.refl [item]
    | cons bucket rest ih =>
      rw [place]
      split
      · exact List.sublist_append_left (bucket.first :: rest.map (·.first)) [item]
      · exact ih.cons_cons bucket.first
  -- the first members are some of the things seen so far, in their order
  have started : ∀ (seen : List α) (buckets : List (Bucket α)),
      (buckets.map (·.first)).Sublist seen →
        ((items.foldl (place similar) buckets).map (·.first)).Sublist (seen ++ items) := by
    induction items with
    | nil =>
      intro seen buckets opened
      rwa [List.append_nil]
    | cons item rest ih =>
      intro seen buckets opened
      rw [List.append_cons]
      exact ih (seen ++ [item]) _ ((placed buckets item).trans (opened.append_right [item]))
  exact started [] [] (List.Sublist.refl [])

/-- When each bucket is in order, all of them one behind the other are exactly if no bucket reaches
beyond the first member of a later one. -/
theorem Bucket.pairwise_flatMap_iff {α : Type} {before : α → α → Prop} [IsTrans α before]
    {buckets : List (Bucket α)} (inside : ∀ bucket ∈ buckets, bucket.toList.Pairwise before) :
    (buckets.flatMap toList).Pairwise before ↔
      buckets.Pairwise fun bucket later => ∀ item ∈ bucket.toList, before item later.first := by
  rw [List.pairwise_flatMap]
  constructor
  · rintro ⟨_, across⟩
    exact across.imp fun each item mem => each item mem _ List.mem_cons_self
  · intro apart
    refine ⟨inside, apart.imp_of_mem ?_⟩
    intro _ later _ memLater each item mem other memOther
    have first := each item mem
    have behind := (List.pairwise_cons.mp (inside _ memLater)).1
    rcases List.mem_cons.mp memOther with rfl | further
    · exact first
    · exact IsTrans.trans _ _ _ first (behind other further)

namespace Arrangement

/-- Peripherals are numbered in their order. -/
theorem pairwise_membersOf (peripherals : List Peripheral) :
    (membersOf peripherals).Pairwise fun a b => a.position < b.position := by
  have positions : (membersOf peripherals).map (·.position) = List.range peripherals.length := by
    rw [membersOf, List.map_map, List.range_eq_range']
    exact List.zipIdx_map_snd 0 peripherals
  apply List.pairwise_map.mp
  rw [positions]
  exact List.pairwise_lt_range

variable (ignoreFields : Bool) (taken : List String) (peripherals : List Peripheral)

/-- The individual peripherals are in order exactly when no bucket without a group reaches beyond
the first member of a later one. -/
theorem pairwise_individuals_iff :
    ((grouped ignoreFields taken peripherals).individuals.map (·.member)).Pairwise
        (fun a b => a.position < b.position) ↔
      (leftOver ignoreFields peripherals).Pairwise fun bucket later =>
        ∀ m ∈ bucket.toList, m.position < later.first.position := by
  have : IsTrans Member fun a b => a.position < b.position := ⟨fun _ _ _ => Nat.lt_trans⟩
  rw [members_individuals_grouped]
  apply Bucket.pairwise_flatMap_iff
  intro bucket mem
  have ordered := (Bucket.fitted_firstFit _ (membersOf peripherals)).ordered bucket
    (List.mem_of_mem_filter mem)
  exact (pairwise_membersOf peripherals).sublist ordered

/-- Individual peripherals keep their order when every group has found a name. -/
theorem individuals_ordered_of_named
    (named : (grouped ignoreFields taken peripherals).unnamed = []) :
    ((grouped ignoreFields taken peripherals).individuals.map (·.member.position)).Pairwise
      (· < ·) := by
  have single : ∀ bucket ∈ leftOver ignoreFields peripherals, bucket.others = [] := by
    intro bucket mem
    have dissolved : (leftOver ignoreFields peripherals).filter (!·.others.isEmpty) = [] :=
      List.map_eq_nil_iff.mp named
    simpa using List.filter_eq_nil_iff.mp dissolved bucket mem
  have opened : (leftOver ignoreFields peripherals).Pairwise fun bucket later =>
      bucket.first.position < later.first.position := by
    let similar (a b : Member) := a.peripheral.similar ignoreFields b.peripheral
    have firsts := Bucket.firsts_firstFit similar (membersOf peripherals)
    exact (List.pairwise_map.mp ((pairwise_membersOf peripherals).sublist firsts)).filter _
  have ordered := (pairwise_individuals_iff ignoreFields taken peripherals).mpr <| by
    apply opened.imp_of_mem
    intro bucket later memBucket _ before m mem
    rw [Bucket.toList, single bucket memBucket] at mem
    rw [List.mem_singleton.mp mem]
    exact before
  rw [List.pairwise_map] at ordered ⊢
  exact ordered

/-- **When individual peripherals keep their order.** They are in the order of the device exactly
when no bucket without a group has a member behind the first member of a later one. -/
theorem individuals_ordered_iff :
    ((grouped ignoreFields taken peripherals).individuals.map (·.member.position)).Pairwise
        (· < ·) ↔
      (leftOver ignoreFields peripherals).Pairwise fun bucket later =>
        ∀ m ∈ bucket.toList, m.position < later.first.position := by
  rw [← pairwise_individuals_iff ignoreFields taken, List.pairwise_map, List.pairwise_map]

/-- Peripherals of which the first and the last have one register in common and no beginning of a
name, with a namesake of the last between them. -/
def interleaved : List Peripheral :=
  [{ name := "ADC", baseAddress := 0x100
     registers := some [.register { name := "CR", addressOffset := 0 }] },
   { name := "TIM", baseAddress := 0x200
     registers := some [.register { name := "CNT", addressOffset := 0 }] },
   { name := "TIM", baseAddress := 0x300
     registers := some [.register { name := "CR", addressOffset := 0 }] }]

/-- The last of them comes before the second, and keeps the name that both have. -/
theorem individuals_interleaved :
    (grouped false [] interleaved).individuals.map (fun n => (n.name, n.member.position)) =
      [("ADC", 0), ("TIM", 2), ("TIM_0", 1)] := by
  decide +kernel

/-- **Individual peripherals need not keep their order.** -/
theorem not_forall_individuals_ordered :
    ¬ ∀ (ignoreFields : Bool) (taken : List String) (peripherals : List Peripheral),
      ((grouped ignoreFields taken peripherals).individuals.map (·.member.position)).Pairwise
        (· < ·) := by
  intro ordered
  have positions : (grouped false [] interleaved).individuals.map (·.member.position) =
      [0, 2, 1] := by
    have names := congrArg (List.map Prod.snd) individuals_interleaved
    rwa [List.map_map] at names
  exact absurd (positions ▸ ordered false [] interleaved) (by decide)

end Arrangement

end RegisterMap
