import Mathlib.Data.List.Nodup
import RegisterMap.Proofs.Grouping.Order
import RegisterMap.Proofs.Text.CommonStart

/-!
# Groups named by what their names have in common

The handle type of a group has the name that a member gives, or that of the first member without its
number. Where there is neither, the common start of all the names is left (`IsNamedByStart`), and
this may be empty. Since it is the greatest text with which all names begin, the names decide: the
group is there if one character begins all of them, and otherwise it is dissolved and its members
are emitted one by one (`Arrangement.dissolved_iff`, `Arrangement.exists_group_iff`).
-/

namespace RegisterMap

open Text

/-- A bucket of several peripherals of which none gives a header struct name, and the first has a
name that does not end in a digit. -/
structure IsNamedByStart (bucket : Bucket Member) : Prop where
  several : bucket.others ≠ []
  noHeader : ∀ m ∈ bucket.toList,
    m.peripheral.headerStructName = none ∨ m.peripheral.headerStructName = some ""
  noDigit : endsInDigit bucket.first.peripheral.name = false

/-- The names of the peripherals in a bucket. -/
def Bucket.names (bucket : Bucket Member) : List String :=
  bucket.toList.map (·.peripheral.name)

theorem Bucket.names_ne_nil (bucket : Bucket Member) : bucket.names ≠ [] := List.cons_ne_nil _ _

/-- No text is found when all that are given are empty. -/
theorem firstText_eq_none {texts : List (Option String)}
    (empty : ∀ text, some text ∈ texts → text = "") : firstText texts = none := by
  apply List.findSome?_eq_none_iff.mpr
  intro text mem
  apply Option.filter_eq_none_iff.mpr
  rintro given rfl
  simpa using empty given mem

namespace IsNamedByStart

variable {bucket : Bucket Member}

/-- The handle type of such a group is the common start of the names. -/
theorem groupStructName_eq (h : IsNamedByStart bucket) :
    groupStructName (bucket.toList.map (·.peripheral)) = commonStart bucket.names := by
  have unnamed :
      firstText ((bucket.toList.map (·.peripheral)).map (·.headerStructName)) = none := by
    apply firstText_eq_none
    intro given mem
    obtain ⟨p, memP, own⟩ := List.mem_map.mp mem
    obtain ⟨m, memM, rfl⟩ := List.mem_map.mp memP
    rcases h.noHeader m memM with none | empty
    · cases none.symm.trans own
    · exact (Option.some.inj (empty.symm.trans own)).symm
  unfold groupStructName
  rw [unnamed, Bucket.names, Bucket.toList, List.map_cons]
  dsimp only
  rw [h.noDigit, if_neg Bool.false_ne_true, ← List.map_cons, List.map_map]
  rfl

/-- The group is named by the common start, if there is one. -/
theorem ofBucket?_eq (h : IsNamedByStart bucket) :
    PeripheralGroup.ofBucket? bucket =
      if commonStart bucket.names = "" then none
      else some { moduleName := commonStart bucket.names, structName := commonStart bucket.names,
                  members := bucket.toList } := by
  have several : bucket.others.isEmpty = false := by
    simpa using h.several
  rw [PeripheralGroup.ofBucket?, h.groupStructName_eq, several]
  simp

end IsNamedByStart

namespace Arrangement

variable {ignoreFields : Bool} {peripherals : List Peripheral} {bucket : Bucket Member}
  (mem : bucket ∈ Bucket.firstFit (fun a b => a.peripheral.similar ignoreFields b.peripheral)
    (membersOf peripherals))
include mem

/-- A member of a bucket is on its own exactly when the bucket makes no group. -/
theorem mem_individuals_iff (taken : List String) {m : Member} (inside : m ∈ bucket.toList) :
    m ∈ (grouped ignoreFields taken peripherals).individuals.map (·.member) ↔
      PeripheralGroup.ofBucket? bucket = none := by
  refine ⟨fun alone => ?_, fun none => mem_individuals_of_bucket mem taken none inside⟩
  rw [Option.eq_none_iff_forall_ne_some]
  intro group made
  obtain ⟨named, memNamed, members, _⟩ := exists_group_of_bucket mem taken made
  have everyone := (divides_grouped ignoreFields taken peripherals).everyone
  -- positions tell the peripherals apart, so none is in two places
  have nodup : (membersOf peripherals).Nodup :=
    (pairwise_membersOf peripherals).imp fun before same =>
      Nat.ne_of_lt before (congrArg Member.position same)
  have apart := List.disjoint_of_nodup_append (everyone.nodup_iff.mpr nodup)
  exact apart (List.mem_flatMap.mpr ⟨named, memNamed, members ▸ inside⟩) alone

/-- A bucket named by what its names have in common is dissolved exactly when they do not all begin
with one character. -/
theorem dissolved_iff (taken : List String) (h : IsNamedByStart bucket) :
    (∀ m ∈ bucket.toList, m ∈ (grouped ignoreFields taken peripherals).individuals.map (·.member)) ↔
      ¬ ∃ c, ∀ name ∈ bucket.names, name.toList.head? = some c := by
  rw [← commonStart_eq_empty_iff bucket.names_ne_nil]
  have first : bucket.first ∈ bucket.toList := List.mem_cons_self
  constructor
  · intro alone
    have none := (mem_individuals_iff mem taken first).mp (alone _ first)
    rw [h.ofBucket?_eq] at none
    by_contra named
    rw [if_neg named] at none
    cases none
  · intro empty m inside
    rw [mem_individuals_iff mem taken inside, h.ofBucket?_eq, if_pos empty]

/-- It makes a group under their common start exactly when they do. -/
theorem exists_group_iff (taken : List String) (h : IsNamedByStart bucket) :
    (∃ group ∈ (grouped ignoreFields taken peripherals).groups,
        group.members = bucket.toList ∧ group.structName = commonStart bucket.names) ↔
      ∃ c, ∀ name ∈ bucket.names, name.toList.head? = some c := by
  rw [← not_iff_not, ← commonStart_eq_empty_iff bucket.names_ne_nil, not_iff_comm]
  constructor
  · intro named
    obtain ⟨group, memGroup, members, structName⟩ := exists_group_of_bucket mem taken
      (h.ofBucket?_eq.trans (if_neg named))
    exact ⟨group, memGroup, members, structName⟩
  · rintro ⟨group, memGroup, _, structName⟩
    obtain ⟨_, _, _, named, _⟩ := exists_bucket memGroup
    exact structName ▸ named

end Arrangement

/-- **The common start is the greatest.** It begins all of the names, and what begins all of them
begins it, so neither their order nor their repetition matters. A bucket that is named by it leaves
its members on their own exactly when no character begins all of their names, and makes a group of
this name exactly when one does. -/
theorem commonStart_greatest :
    (∀ names : List String, names ≠ [] →
      (∀ name ∈ names, (commonStart names).toList <+: name.toList) ∧
      (∀ text : String, (∀ name ∈ names, text.toList <+: name.toList) →
        text.toList <+: (commonStart names).toList) ∧
      ∀ others : List String, (∀ name, name ∈ others ↔ name ∈ names) →
        commonStart others = commonStart names) ∧
    ∀ (ignoreFields : Bool) (taken : List String) (peripherals : List Peripheral)
      (bucket : Bucket Member),
      bucket ∈ Bucket.firstFit (fun a b => a.peripheral.similar ignoreFields b.peripheral)
        (Arrangement.membersOf peripherals) →
      IsNamedByStart bucket →
        ((∀ m ∈ bucket.toList,
            m ∈ (Arrangement.grouped ignoreFields taken peripherals).individuals.map (·.member)) ↔
          ¬ ∃ c, ∀ name ∈ bucket.names, name.toList.head? = some c) ∧
        ((∃ group ∈ (Arrangement.grouped ignoreFields taken peripherals).groups,
            group.members = bucket.toList ∧ group.structName = commonStart bucket.names) ↔
          ∃ c, ∀ name ∈ bucket.names, name.toList.head? = some c) := by
  constructor
  · intro names given
    exact ⟨fun _ => commonStart_begins, fun _ => (prefix_commonStart_iff given).mpr,
      fun _ => commonStart_congr given⟩
  · intro ignoreFields taken peripherals bucket mem h
    exact ⟨Arrangement.dissolved_iff mem taken h, Arrangement.exists_group_iff mem taken h⟩

/-- Two ports whose names begin alike, among two peripherals of which this is not so. Each two have
a register in common. -/
def letteredPorts : List Peripheral :=
  [{ name := "GPIOA", baseAddress := 0x100
     registers := some [.register { name := "DR", addressOffset := 4 }] },
   { name := "ADC", baseAddress := 0x200
     registers := some [.register { name := "CR", addressOffset := 0 }] },
   { name := "GPIOB", baseAddress := 0x300
     headerStructName := some ""
     registers := some [.register { name := "DR", addressOffset := 4 }] },
   { name := "TIM", baseAddress := 0x400
     registers := some [.register { name := "CR", addressOffset := 0 }] }]

/-- The two pairs are sorted into two buckets, and both are named by what their names have in
common. -/
theorem exists_buckets_letteredPorts :
    ∃ ports others : Bucket Member,
      Bucket.firstFit (fun a b => a.peripheral.similar false b.peripheral)
        (Arrangement.membersOf letteredPorts) = [ports, others] ∧
      ports.names = ["GPIOA", "GPIOB"] ∧ others.names = ["ADC", "TIM"] ∧
      IsNamedByStart ports ∧ IsNamedByStart others := by
  refine ⟨_, _, rfl, rfl, rfl, ⟨?_, ?_, ?_⟩, ⟨?_, ?_, ?_⟩⟩
  · exact List.cons_ne_nil _ _
  · decide
  · decide
  · exact List.cons_ne_nil _ _
  · decide
  · decide

/-- Two ports with a common start become a group, and two peripherals without one do not. -/
theorem commonStart_greatest_letteredPorts :
    ∃ ports others : Bucket Member,
      Bucket.firstFit (fun a b => a.peripheral.similar false b.peripheral)
        (Arrangement.membersOf letteredPorts) = [ports, others] ∧
      ports.names = ["GPIOA", "GPIOB"] ∧ others.names = ["ADC", "TIM"] ∧
      IsNamedByStart ports ∧ IsNamedByStart others ∧
      (∃ group ∈ (Arrangement.grouped false [] letteredPorts).groups,
        group.members = ports.toList ∧ group.structName = "GPIO") ∧
      (∀ m ∈ others.toList,
        m ∈ (Arrangement.grouped false [] letteredPorts).individuals.map (·.member)) ∧
      "GP".toList <+: (commonStart ["GPIOA", "GPIOB"]).toList ∧
      commonStart ["GPIOB", "GPIOA", "GPIOB"] = commonStart ["GPIOA", "GPIOB"] := by
  obtain ⟨ports, others, buckets, namesPorts, namesOthers, ofPorts, ofOthers⟩ :=
    exists_buckets_letteredPorts
  obtain ⟨greatest, arranged⟩ := commonStart_greatest
  obtain ⟨_, bound, congr⟩ := greatest ["GPIOA", "GPIOB"] (List.cons_ne_nil _ _)
  have made := (arranged false [] letteredPorts ports (by simp [buckets]) ofPorts).2.mpr
    ⟨'G', by rw [namesPorts]; decide⟩
  have alone := (arranged false [] letteredPorts others (by simp [buckets]) ofOthers).1.mpr
  refine ⟨ports, others, buckets, namesPorts, namesOthers, ofPorts, ofOthers, ?_, alone ?_, ?_, ?_⟩
  · rwa [namesPorts] at made
  · rw [namesOthers]
    rintro ⟨c, begins⟩
    have first := begins "ADC" (by decide)
    cases first
    exact absurd (begins "TIM" (by decide)) (by decide)
  · exact bound "GP" (by decide)
  · exact congr _ fun name => by grind

end RegisterMap
