import RegisterMap.Proofs.Grouping.UniqueNames

/-!
# Which names are kept, and which number the others get

When the pass over some names comes to a position, those in use are the taken ones and what was
handed out before, and reserved are the given names besides (`exists_getElem?_uniqueNames`). A given
name is handed out before exactly when it was given before, because the names that are made up are
never given ones (`mem_take_uniqueNames_iff`). So whether a name is kept can be told from the given
names alone, and the number of one that is not is the smallest that makes a name which is neither
given nor taken nor made up before. `uniqueNames_numbersRepetitions` says so of every position, and
that a second pass finds nothing to do.
-/

namespace RegisterMap

/-! ## The pass, position by position -/

/-- **A run of the pass.** What was handed out is in use and reserved for the names that follow. -/
theorem exists_uniqueNamesFrom_append (used : List String) {before reserved : List String}
    (given : before ⊆ reserved) : ∃ used' reserved',
      (∀ other, other ∈ used' ↔ other ∈ uniqueNamesFrom used reserved before ∨ other ∈ used) ∧
      (∀ other, other ∈ reserved' ↔
        other ∈ uniqueNamesFrom used reserved before ∨ other ∈ reserved) ∧
      ∀ rest, uniqueNamesFrom used reserved (before ++ rest) =
        uniqueNamesFrom used reserved before ++ uniqueNamesFrom used' reserved' rest := by
  induction before generalizing used reserved with
  | nil =>
    refine ⟨used, reserved, ?_, ?_, fun _ => rfl⟩ <;>
      simp only [uniqueNamesFrom, List.not_mem_nil, false_or, implies_true]
  | cons name before ih =>
    obtain ⟨own, later⟩ := List.cons_subset.mp given
    obtain ⟨next, mem_next, step⟩ := exists_uniqueNamesFrom_cons used own
    have wider : reserved ⊆ next := fun other mem => (mem_next other).mpr (.inr mem)
    obtain ⟨used', reserved', mem_used', mem_reserved', run⟩ :=
      ih (handedOut used reserved name :: used) (List.Subset.trans later wider)
    refine ⟨used', reserved', fun other => ?_, fun other => ?_, fun rest => ?_⟩
    · rw [mem_used', step, List.mem_cons, List.mem_cons, or_left_comm, or_assoc]
    · rw [mem_reserved', step, mem_next, List.mem_cons, or_left_comm, or_assoc]
    · rw [List.cons_append, step, step, run, List.cons_append]

section Positions

variable {taken names : List String} {i : Nat} {name : String}

/-- What is in use and what is reserved when the pass comes to a position. -/
theorem exists_getElem?_uniqueNames (taken : List String) (here : names[i]? = some name) :
    ∃ used reserved,
      (∀ other, other ∈ used ↔ other ∈ (uniqueNames taken names).take i ∨ other ∈ taken) ∧
      (∀ other, other ∈ reserved ↔
        other ∈ (uniqueNames taken names).take i ∨ other ∈ names ∨ other ∈ taken) ∧
      (uniqueNames taken names)[i]? = some (handedOut used reserved name) := by
  obtain ⟨small, rfl⟩ := List.getElem?_eq_some_iff.mp here
  -- the pass is cut in front of the position, where it has handed out as many names
  have split : names.take i ++ names[i] :: names.drop (i + 1) = names := by
    rw [← List.drop_eq_getElem_cons, List.take_append_drop]
  have given : names.take i ⊆ names ++ taken :=
    List.Subset.trans (List.take_subset i names) (List.subset_append_left names taken)
  obtain ⟨used, reserved, mem_used, mem_reserved, run⟩ :=
    exists_uniqueNamesFrom_append taken given
  have own : names[i] ∈ reserved :=
    (mem_reserved _).mpr (.inr (List.mem_append_left taken (List.getElem_mem small)))
  obtain ⟨_, _, step⟩ := exists_uniqueNamesFrom_cons used own
  have whole := run (names[i] :: names.drop (i + 1))
  rw [split, step] at whole
  have length : (uniqueNamesFrom taken (names ++ taken) (names.take i)).length = i := by
    rw [length_uniqueNamesFrom, List.length_take_of_le (Nat.le_of_lt small)]
  refine ⟨used, reserved, fun other => ?_, fun other => ?_, ?_⟩
  · rw [mem_used, uniqueNames, whole, List.take_left' length]
  · rw [mem_reserved, uniqueNames, whole, List.take_left' length, List.mem_append]
  · rw [uniqueNames, whole, List.getElem?_append_right (Nat.le_of_eq length), length, Nat.sub_self,
      List.getElem?_cons_zero]

/-- Of what is reserved, only the name itself is handed out for a name, and only if it is not in
use. -/
theorem handedOut_eq_iff {used reserved : List String} {other : String} (given : name ∈ reserved) :
    handedOut used reserved other = name ↔ other = name ∧ name ∉ used := by
  by_cases repeats : other ∈ used
  · rw [handedOut, if_pos repeats]
    constructor
    · rintro rfl
      exact absurd given (freeName_not_mem reserved other)
    · rintro ⟨rfl, unused⟩
      exact absurd repeats unused
  · rw [handedOut, if_neg repeats]
    constructor
    · rintro rfl
      exact ⟨rfl, repeats⟩
    · exact And.left

/-- What is in front of a position stands at an earlier one. -/
theorem mem_take_iff {α : Type} {item : α} {items : List α} :
    item ∈ items.take i ↔ ∃ j < i, items[j]? = some item := by
  simp only [List.mem_iff_getElem?, List.getElem?_take, Option.ite_none_right_eq_some]

/-- A given name that is not taken was handed out before when it was given before. -/
theorem mem_take_uniqueNames_iff (given : name ∈ names) :
    name ∈ (uniqueNames taken names).take i ∨ name ∈ taken ↔
      name ∈ names.take i ∨ name ∈ taken := by
  have length := length_uniqueNames taken names
  constructor
  · rintro (mem | isTaken)
    · obtain ⟨j, before, handed⟩ := mem_take_iff.mp mem
      obtain ⟨small, _⟩ := List.getElem?_eq_some_iff.mp handed
      obtain ⟨other, here⟩ : ∃ other, names[j]? = some other :=
        ⟨_, List.getElem?_eq_getElem (length ▸ small)⟩
      obtain ⟨used, reserved, _, mem_reserved, own⟩ := exists_getElem?_uniqueNames taken here
      -- a name that is made up is not a given one
      have isReserved : name ∈ reserved := (mem_reserved name).mpr (.inr (.inl given))
      have same := ((handedOut_eq_iff isReserved).mp (Option.some.inj (own.symm.trans handed))).1
      exact .inl (mem_take_iff.mpr ⟨j, before, same ▸ here⟩)
    · exact .inr isTaken
  · rintro (mem | isTaken)
    · obtain ⟨j, before, here⟩ := mem_take_iff.mp mem
      obtain ⟨used, reserved, mem_used, mem_reserved, own⟩ :=
        exists_getElem?_uniqueNames taken here
      by_cases repeats : name ∈ used
      · refine ((mem_used name).mp repeats).imp (fun earlier => ?_) id
        obtain ⟨k, first, handed⟩ := mem_take_iff.mp earlier
        exact mem_take_iff.mpr ⟨k, Nat.lt_trans first before, handed⟩
      · rw [handedOut, if_neg repeats] at own
        exact .inl (mem_take_iff.mpr ⟨j, before, own⟩)
    · exact .inr isTaken

/-- A given name is not in use when the pass comes to it, if it is neither taken nor given
before. -/
theorem not_mem_used_iff {used : List String} (here : names[i]? = some name)
    (mem_used : ∀ other, other ∈ used ↔ other ∈ (uniqueNames taken names).take i ∨ other ∈ taken) :
    name ∉ used ↔ name ∉ taken ∧ name ∉ names.take i := by
  rw [mem_used, mem_take_uniqueNames_iff (List.mem_of_getElem? here), not_or, and_comm]

end Positions

/-! ## Kept and made up -/

/-- The names that were made up before a position: those handed out there for another name. -/
def madeUpBefore (names unique : List String) (i : Nat) : List String :=
  (renamings (names.take i) (unique.take i)).map Prod.snd

/-- What was handed out before a position and was never given was made up. -/
theorem mem_madeUpBefore_iff {names unique : List String} (length : unique.length = names.length)
    {i : Nat} {other : String} (new : other ∉ names) :
    other ∈ madeUpBefore names unique i ↔ other ∈ unique.take i := by
  simp only [madeUpBefore, renamings, List.mem_map, List.mem_filter, decide_eq_true_eq]
  constructor
  · rintro ⟨change, ⟨mem, _⟩, rfl⟩
    exact (List.of_mem_zip mem).2
  · intro mem
    obtain ⟨j, handed⟩ := List.mem_iff_getElem?.mp mem
    have small : j < (names.take i).length := by
      have inside := (List.getElem?_eq_some_iff.mp handed).1
      rwa [List.length_take, length, ← List.length_take] at inside
    have here := List.getElem?_eq_getElem small
    have both : ((names.take i)[j], other) ∈ (names.take i).zip (unique.take i) :=
      List.mem_of_getElem? (List.getElem?_zip_eq_some.mpr ⟨here, handed⟩)
    have given : (names.take i)[j] ∈ names := List.mem_of_mem_take (List.getElem_mem small)
    refine ⟨_, ⟨both, fun same => new ?_⟩, rfl⟩
    rwa [show (names.take i)[j] = other from same] at given

/-- Names are what some given ones become when those that are taken or repeated are numbered. There
is a name for each, none is repeated and none is taken; a name is kept where it comes first, if it
is not taken; and any other is replaced by its numbered form with the smallest number such that this
is neither given nor taken nor made up before. -/
structure NumbersRepetitions (taken names unique : List String) : Prop where
  length : unique.length = names.length
  nodup : unique.Nodup
  fresh : ∀ name ∈ unique, name ∉ taken
  kept : ∀ (i : Nat) (name : String), names[i]? = some name →
    (unique[i]? = some name ↔ name ∉ taken ∧ name ∉ names.take i)
  least : ∀ (i : Nat) (name : String), names[i]? = some name →
    ¬ (name ∉ taken ∧ name ∉ names.take i) →
      ∃ n, unique[i]? = some (numbered name n) ∧
        IsLeast {n | numbered name n ∉ names ∧ numbered name n ∉ taken ∧
          numbered name n ∉ madeUpBefore names unique i} n

/-- Names that are not repeated, and are not in use, are kept. -/
theorem uniqueNamesFrom_of_nodup {used reserved names : List String} (nodup : names.Nodup)
    (fresh : ∀ name ∈ names, name ∉ used) : uniqueNamesFrom used reserved names = names := by
  induction names generalizing used with
  | nil => rfl
  | cons name rest ih =>
    obtain ⟨new, nodup⟩ := List.nodup_cons.mp nodup
    obtain ⟨unused, later⟩ := List.forall_mem_cons.mp fresh
    rw [uniqueNamesFrom, if_neg unused, ih nodup fun other mem => ?_]
    rw [List.mem_cons, not_or]
    exact ⟨fun same => new (same ▸ mem), later other mem⟩

/-- **Names without repetition.** What is taken or repeated is numbered, each with the smallest
number there is, and everything else is kept. A second pass changes nothing. -/
theorem uniqueNames_numbersRepetitions (taken names : List String) :
    NumbersRepetitions taken names (uniqueNames taken names) ∧
      uniqueNames taken (uniqueNames taken names) = uniqueNames taken names := by
  have length := length_uniqueNames taken names
  obtain ⟨nodup, fresh⟩ := nodup_uniqueNames taken names
  refine ⟨⟨length, nodup, fresh, fun i name here => ?_, fun i name here repeats => ?_⟩,
    uniqueNamesFrom_of_nodup nodup fresh⟩
  · obtain ⟨used, reserved, mem_used, mem_reserved, own⟩ := exists_getElem?_uniqueNames taken here
    have given : name ∈ reserved :=
      (mem_reserved name).mpr (.inr (.inl (List.mem_of_getElem? here)))
    rw [own, Option.some_inj, handedOut_eq_iff given, ← not_mem_used_iff here mem_used]
    exact and_iff_right rfl
  · obtain ⟨used, reserved, mem_used, mem_reserved, own⟩ := exists_getElem?_uniqueNames taken here
    rw [← not_mem_used_iff here mem_used, not_not] at repeats
    obtain ⟨n, same, least⟩ := exists_isLeast_freeName reserved name
    rw [handedOut, if_pos repeats, same] at own
    -- what is not reserved is neither given nor taken nor made up before
    have free : ∀ other, other ∉ reserved ↔ other ∉ names ∧ other ∉ taken ∧
        other ∉ madeUpBefore names (uniqueNames taken names) i := by
      intro other
      rw [mem_reserved, not_or, not_or, and_comm, and_assoc]
      exact and_congr_right fun new => by rw [mem_madeUpBefore_iff length new]
    simp only [free] at least
    exact ⟨n, own, least⟩

example : uniqueNames ["A"] ["A", "A_0", "A"] = ["A_1", "A_0", "A_2"] := by decide +kernel

end RegisterMap
