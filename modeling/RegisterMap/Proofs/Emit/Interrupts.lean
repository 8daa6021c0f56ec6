import Mathlib.Data.String.Basic
import RegisterMap.Emit.Device
import RegisterMap.Proofs.Fault
import RegisterMap.Proofs.FirstOfEach

/-!
# The interrupts of a device

Peripherals may share an interrupt, and each gives it in its own list. The device lists an interrupt
for each name, the first that any peripheral gives, by number and then by name
(`Device.interrupts_listed`). Two interrupts of one number differ in their names, so the order
leaves nothing open. Where interrupts of one name are equal, the order of the peripherals does not
matter either.
-/

namespace RegisterMap

/-! ## The order of interrupts -/

namespace Interrupt

/-- An interrupt has a smaller number than another, or the same number and an earlier name. -/
def Precedes (a b : Interrupt) : Prop := a.value < b.value ∨ a.value = b.value ∧ a.name < b.name

variable {a b : Interrupt}

theorem before_iff :
    a.before b = true ↔ a.value < b.value ∨ a.value = b.value ∧ a.name ≤ b.name := by
  simp [before]

/-- The order of interrupts is transitive. -/
theorem before_trans (a b c : Interrupt) (first : a.before b = true) (second : b.before c = true) :
    a.before c = true := by
  rw [before_iff] at first second ⊢
  rcases first with less | ⟨same, names⟩
  · exact .inl (by omega)
  · rcases second with less | ⟨same', names'⟩
    · exact .inl (by omega)
    · exact .inr ⟨by omega, names.trans names'⟩

/-- Of two interrupts one comes before the other, or they are level. -/
theorem before_total (a b : Interrupt) : (a.before b || b.before a) = true := by
  rw [Bool.or_eq_true, before_iff, before_iff]
  rcases Nat.lt_trichotomy a.value b.value with less | same | greater
  · exact .inl (.inl less)
  · exact (String.le_total a.name b.name).imp (fun names => .inr ⟨same, names⟩)
      fun names => .inr ⟨same.symm, names⟩
  · exact .inr (.inl greater)

/-- Interrupts with different names are strictly ordered. -/
theorem Precedes.of_before (before : a.before b = true) (other : a.name ≠ b.name) :
    Precedes a b :=
  (before_iff.mp before).imp_right fun ⟨same, names⟩ => ⟨same, lt_of_le_of_ne names other⟩

/-- No two interrupts precede each other. -/
theorem Precedes.asymm (first : Precedes a b) (second : Precedes b a) : False := by
  rcases first with less | ⟨same, names⟩
  · rcases second with less' | ⟨same', _⟩ <;> omega
  · rcases second with less' | ⟨_, names'⟩
    · omega
    · exact lt_asymm names names'

end Interrupt

/-! ## The interrupts of a device -/

/-- The interrupts that are kept are the first ones of their names. -/
theorem firstOfEachName_eq_firsts (known : List String) (all : List Interrupt) :
    firstOfEachName known all = firsts (·.name) known all := by
  induction all generalizing known with
  | nil => rfl
  | cons i rest ih => rw [firstOfEachName, firsts, ih, ih]

namespace Device

/-- The interrupts that the peripherals of a device give, in order. -/
def givenInterrupts (d : Device) : List Interrupt := d.peripherals.flatMap (·.interrupts)

/-- The interrupts of a device are, up to order, the first of each name that is given. -/
theorem perm_interrupts (d : Device) :
    d.interrupts.Perm (firsts (·.name) [] d.givenInterrupts) := by
  rw [← firstOfEachName_eq_firsts]
  exact List.mergeSort_perm _ Interrupt.before

/-- The interrupts of a device have different names. -/
theorem nodup_names_interrupts (d : Device) : (d.interrupts.map (·.name)).Nodup :=
  ((perm_interrupts d).map _).nodup_iff.mpr (nodup_map_firsts (·.name) [] d.givenInterrupts)

/-- Of a name, the device has the first interrupt that is given. -/
theorem filter_interrupts (d : Device) (name : String) :
    d.interrupts.filter (·.name = name) = (d.givenInterrupts.find? (·.name = name)).toList := by
  have found := (perm_interrupts d).filter (·.name = name)
  rw [filter_firsts, if_neg List.not_mem_nil] at found
  cases first : d.givenInterrupts.find? (·.name = name) with
  | none =>
    rw [first] at found
    exact found.eq_nil
  | some i =>
    rw [first] at found
    exact List.perm_singleton.mp found

/-- An interrupt of a device is the first of its name that is given. -/
theorem mem_interrupts_iff {d : Device} {i : Interrupt} :
    i ∈ d.interrupts ↔ d.givenInterrupts.find? (·.name = i.name) = some i := by
  rw [← Option.mem_toList, ← filter_interrupts]
  simp

/-- Each interrupt of a device precedes those behind it. -/
theorem pairwise_interrupts (d : Device) : d.interrupts.Pairwise Interrupt.Precedes := by
  have sorted : d.interrupts.Pairwise (Interrupt.before · · = true) :=
    List.pairwise_mergeSort Interrupt.before_trans Interrupt.before_total _
  have different := List.pairwise_map.mp (nodup_names_interrupts d)
  exact (sorted.and different).imp fun ⟨before, other⟩ => .of_before before other

/-- The order leaves nothing open. -/
theorem eq_interrupts {d : Device} {listed : List Interrupt} (perm : listed.Perm d.interrupts)
    (ordered : listed.Pairwise Interrupt.Precedes) : listed = d.interrupts :=
  perm.eq_of_pairwise (fun _ _ _ _ first second => (first.asymm second).elim) ordered
    (pairwise_interrupts d)

/-- The interrupts of one name that a device has are equal. -/
def NamesakesEqual (d : Device) : Prop :=
  ∀ i ∈ d.givenInterrupts, ∀ other ∈ d.givenInterrupts, i.name = other.name → i = other

/-- Where namesakes are equal, it does not matter which of them is the first. -/
theorem NamesakesEqual.mem_interrupts_iff {d : Device} (equal : d.NamesakesEqual) {i : Interrupt} :
    i ∈ d.interrupts ↔ i ∈ d.givenInterrupts := by
  rw [Device.mem_interrupts_iff]
  constructor
  · exact List.mem_of_find?_eq_some
  · intro mem
    cases first : d.givenInterrupts.find? (·.name = i.name) with
    | none => exact absurd (decide_eq_true rfl) (List.find?_eq_none.mp first i mem)
    | some other =>
      have same : other.name = i.name := by simpa using List.find?_some first
      rw [equal other (List.mem_of_find?_eq_some first) i mem same]

/-- Another order of the peripherals gives the same interrupts, if namesakes are equal. -/
theorem interrupts_of_perm {d d' : Device} (perm : d.peripherals.Perm d'.peripherals)
    (equal : d.NamesakesEqual) : d'.interrupts = d.interrupts := by
  have given : d'.givenInterrupts.Perm d.givenInterrupts := perm.symm.flatMap_right _
  have equal' : d'.NamesakesEqual := fun i mem other memOther =>
    equal i (given.mem_iff.mp mem) other (given.mem_iff.mp memOther)
  have members : d'.interrupts.Perm d.interrupts := by
    refine (List.perm_ext_iff_of_nodup (nodup_names_interrupts d').of_map
      (nodup_names_interrupts d).of_map).mpr fun i => ?_
    rw [equal'.mem_interrupts_iff, equal.mem_interrupts_iff, given.mem_iff]
  exact eq_interrupts members (pairwise_interrupts d')

/-- The module of the interrupts is the last thing in the code of a device. -/
theorem exists_interruptItems {options : EmitOptions} {d : Device} {items : List Item}
    (emitted : d.items options = .ok items) :
    ∃ head body, items = head ++ [.mod d.name (body ++ interruptItems options d.interrupts)] := by
  obtain ⟨groups, _, emitted⟩ := bind_eq_ok.mp emitted
  obtain ⟨individuals, _, same⟩ := bind_eq_ok.mp emitted
  cases same
  exact ⟨_, _, rfl⟩

/-- **Each interrupt is listed once, in order.** What a device lists under a name is the first
interrupt of that name that a peripheral gives, and nothing if there is none. The numbers ascend,
and where they are equal the names do. If interrupts of one name are equal, another order of the
peripherals gives the same list, and the code of both devices ends with the same module. -/
theorem interrupts_listed (d : Device) :
    (∀ name, d.interrupts.filter (·.name = name) =
        (d.givenInterrupts.find? (·.name = name)).toList) ∧
      d.interrupts.Pairwise Interrupt.Precedes ∧
      ∀ d' : Device, d.peripherals.Perm d'.peripherals → d.NamesakesEqual →
        d'.interrupts = d.interrupts ∧
          ∀ options items items', d.items options = .ok items → d'.items options = .ok items' →
            ∃ head body head' body',
              items = head ++ [.mod d.name (body ++ interruptItems options d.interrupts)] ∧
              items' = head' ++ [.mod d'.name (body' ++ interruptItems options d.interrupts)] := by
  refine ⟨filter_interrupts d, pairwise_interrupts d, fun d' perm equal => ?_⟩
  have same := interrupts_of_perm perm equal
  refine ⟨same, fun options items items' emitted emitted' => ?_⟩
  obtain ⟨head, body, shape⟩ := exists_interruptItems emitted
  obtain ⟨head', body', shape'⟩ := exists_interruptItems emitted'
  rw [same] at shape'
  exact ⟨head, body, head', body', shape, shape'⟩

/-- Two timers share an interrupt. The last peripheral has one of the same number and one with a
smaller number. -/
def sharedInterrupts : Device where
  name := "DEV"
  version := "1"
  description := ""
  addressUnitBits := 8
  width := 32
  peripherals :=
    [{ name := "TIM1", baseAddress := 0x100, interrupts := [{ name := "TIM", value := 7 }] },
     { name := "TIM2", baseAddress := 0x200, interrupts := [{ name := "TIM", value := 7 }] },
     { name := "ADC", baseAddress := 0x300
       interrupts := [{ name := "ADC", value := 7 }, { name := "WDG", value := 3 }] }]

/-- The same peripherals from the last to the first. -/
def sharedReversed : Device :=
  { sharedInterrupts with peripherals := sharedInterrupts.peripherals.reverse }

theorem interrupts_sharedInterrupts : sharedInterrupts.interrupts =
    [{ name := "WDG", value := 3 }, { name := "ADC", value := 7 },
     { name := "TIM", value := 7 }] := by
  have found : firsts (·.name) [] sharedInterrupts.givenInterrupts =
      [{ name := "TIM", value := 7 }, { name := "ADC", value := 7 },
       { name := "WDG", value := 3 }] := by decide
  refine (eq_interrupts ?_ ?_).symm
  · refine .trans ?_ (perm_interrupts sharedInterrupts).symm
    rw [found]
    exact List.reverse_perm [_, _, _]
  · unfold Interrupt.Precedes
    decide

/-- Two timers share an interrupt, and the order of the peripherals does not matter. -/
theorem interrupts_listed_shared :
    sharedInterrupts.peripherals.Perm sharedReversed.peripherals ∧
      sharedInterrupts.NamesakesEqual ∧
      sharedInterrupts.interrupts.filter (·.name = "TIM") = [{ name := "TIM", value := 7 }] ∧
      sharedReversed.interrupts = sharedInterrupts.interrupts ∧
      ∃ items items', sharedInterrupts.items {} = .ok items ∧
        sharedReversed.items {} = .ok items' ∧
        ∃ head body head' body',
          items = head ++ [.mod "DEV" (body ++ interruptItems {} sharedInterrupts.interrupts)] ∧
          items' = head' ++
            [.mod "DEV" (body' ++ interruptItems {} sharedInterrupts.interrupts)] := by
  have perm : sharedInterrupts.peripherals.Perm sharedReversed.peripherals :=
    (List.reverse_perm _).symm
  have equal : sharedInterrupts.NamesakesEqual := by
    unfold NamesakesEqual
    decide
  obtain ⟨first, _, other⟩ := interrupts_listed sharedInterrupts
  obtain ⟨same, modules⟩ := other sharedReversed perm equal
  -- the sorted list is rewritten first, since sorting does not reduce
  obtain ⟨items, emitted⟩ : ∃ items, sharedInterrupts.items {} = .ok items := by
    apply exists_of_isOk
    unfold Device.items arrangement takenNames
    rw [interrupts_sharedInterrupts]
    decide +kernel
  obtain ⟨items', emitted'⟩ : ∃ items, sharedReversed.items {} = .ok items := by
    apply exists_of_isOk
    unfold Device.items arrangement takenNames
    rw [same, interrupts_sharedInterrupts]
    decide +kernel
  exact ⟨perm, equal, first "TIM", same, items, items', emitted, emitted',
    modules {} items items' emitted emitted'⟩

end Device

end RegisterMap
