import RegisterMap.Fault

/-!
# Answers that may be faults

An answer is a value or a fault. When what is put together from several answers is a value,
each of them was one, and these laws give it. When it is a fault, it is the first fault among
them (`faultOf_then`), so what holds of the faults of the parts holds of those of the whole
(`FaultsOnly`). Two ways to put an answer together from parts that correspond give answers that
correspond (`Correspond.bind`).
-/

namespace RegisterMap

variable {ε α β : Type}

section Answers

variable {first : Except ε α}

theorem ok_bind {value : α} {next : α → Except ε β} : (.ok value >>= next) = next value := rfl

/-- An answer that goes on from another is a value if both are. -/
theorem bind_eq_ok {next : α → Except ε β} {answer : β} :
    first >>= next = .ok answer ↔ ∃ value, first = .ok value ∧ next value = .ok answer := by
  cases first with
  | error fault => exact ⟨nofun, nofun⟩
  | ok value => exact ⟨fun h => ⟨value, rfl, h⟩, fun ⟨_, same, h⟩ => by cases same; exact h⟩

/-- An answer whose value is changed is a value if the answer is. -/
theorem map_eq_ok {change : α → β} {answer : β} :
    first.map change = .ok answer ↔ ∃ value, first = .ok value ∧ change value = answer := by
  cases first with
  | error fault => exact ⟨nofun, nofun⟩
  | ok value =>
    simp only [Except.map, Except.ok.injEq, exists_eq_left']

/-- What is checked to be a value is one. -/
theorem exists_of_isOk (h : first.isOk = true) : ∃ value, first = .ok value := by
  cases first with
  | error fault => cases h
  | ok value => exact ⟨value, rfl⟩

/-- When each element of a list is answered, each answer is that of an element. -/
theorem mem_of_mapM_eq_ok {answer : α → Except ε β} {items : List α} {values : List β}
    (answered : items.mapM answer = .ok values) :
    ∀ value ∈ values, ∃ item ∈ items, answer item = .ok value := by
  induction items generalizing values with
  | nil =>
    cases answered
    exact fun _ mem => absurd mem List.not_mem_nil
  | cons item rest ih =>
    rw [List.mapM_cons] at answered
    obtain ⟨first, own, answered⟩ := bind_eq_ok.mp answered
    obtain ⟨others, later, same⟩ := bind_eq_ok.mp answered
    cases same
    intro value mem
    rcases List.mem_cons.mp mem with rfl | memOthers
    · exact ⟨item, List.mem_cons_self, own⟩
    · obtain ⟨other, memRest, answer⟩ := ih later value memOthers
      exact ⟨other, List.mem_cons_of_mem _ memRest, answer⟩

/-- There are as many values as items, so there are none of both or some of both. -/
theorem isEmpty_of_mapM_eq_ok {answer : α → Except ε β} {items : List α} {values : List β}
    (answered : items.mapM answer = .ok values) : values.isEmpty = items.isEmpty := by
  cases items with
  | nil =>
    cases answered
    rfl
  | cons item rest =>
    rw [List.mapM_cons] at answered
    obtain ⟨_, _, answered⟩ := bind_eq_ok.mp answered
    obtain ⟨_, _, same⟩ := bind_eq_ok.mp answered
    cases same
    rfl

/-! ## Whether there is a value -/

/-- An answer is a value. -/
def Accepts (answer : Except ε α) : Prop := ∃ value, answer = .ok value

@[simp]
theorem accepts_ok {value : α} : Accepts (.ok value : Except ε α) := ⟨value, rfl⟩

@[simp]
theorem accepts_pure {value : α} : Accepts (pure value : Except ε α) := ⟨value, rfl⟩

@[simp]
theorem accepts_error {fault : ε} : ¬ Accepts (.error fault : Except ε α) := nofun

@[simp]
theorem accepts_map {change : α → β} : Accepts (first.map change) ↔ Accepts first := by
  cases first with
  | error fault => exact ⟨nofun, nofun⟩
  | ok value => exact ⟨fun _ => accepts_ok, fun _ => accepts_ok⟩

@[simp]
theorem accepts_fmap {change : α → β} : Accepts (change <$> first) ↔ Accepts first :=
  accepts_map

/-- An answer that goes on from another is a value exactly if both are. -/
theorem accepts_bind {next : α → Except ε β} :
    Accepts (first >>= next) ↔ ∃ value, first = .ok value ∧ Accepts (next value) := by
  cases first with
  | error fault => exact ⟨nofun, nofun⟩
  | ok value => exact ⟨fun h => ⟨value, rfl, h⟩, fun ⟨_, same, h⟩ => by cases same; exact h⟩

/-- Where it does not matter to what follows which value an answer is, only that it is one. -/
theorem accepts_then {next : α → Except ε β} {own later : Prop} (accepts : Accepts first ↔ own)
    (after : ∀ value, Accepts (next value) ↔ later) :
    Accepts (first >>= next) ↔ own ∧ later := by
  simp only [accepts_bind, after, exists_and_right, ← accepts]
  rfl

/-- The answers for items are values together exactly if each is. -/
theorem accepts_mapM {answer : α → Except ε β} {items : List α} :
    Accepts (items.mapM answer) ↔ ∀ item ∈ items, Accepts (answer item) := by
  induction items with
  | nil => exact ⟨nofun, fun _ => accepts_pure⟩
  | cons item rest ih =>
    rw [List.mapM_cons, List.forall_mem_cons, ← ih]
    exact accepts_then Iff.rfl fun _ => by simp

/-! ## Which fault an answer is -/

/-- The fault that an answer is, if it is one. -/
def faultOf : Except ε α → Option ε
  | .ok _ => none
  | .error fault => some fault

@[simp]
theorem faultOf_ok {value : α} : faultOf (.ok value : Except ε α) = none := rfl

@[simp]
theorem faultOf_error {fault : ε} : faultOf (.error fault : Except ε α) = some fault := rfl

@[simp]
theorem faultOf_map {change : α → β} : faultOf (first.map change) = faultOf first := by
  cases first <;> rfl

/-- An answer without a fault is a value. -/
theorem faultOf_eq_none : faultOf first = none ↔ ∃ value, first = .ok value := by
  cases first <;> simp

/-- The fault of an answer is what the answer is. -/
theorem faultOf_eq_some {fault : ε} : faultOf first = some fault ↔ first = .error fault := by
  cases first <;> simp

/-- Where it does not matter to the fault of what follows which value an answer is, the fault of
both is the first there is. -/
theorem faultOf_then {next : α → Except ε β} {later : Option ε}
    (after : ∀ value, first = .ok value → faultOf (next value) = later) :
    faultOf (first >>= next) = (faultOf first).or later := by
  cases first with
  | error fault => rfl
  | ok value => exact after value rfl

/-- What follows an answer does not change the fault when it is never one itself. -/
theorem faultOf_bind_left {next : α → Except ε β}
    (after : ∀ value, first = .ok value → faultOf (next value) = none) :
    faultOf (first >>= next) = faultOf first := by
  rw [faultOf_then after, Option.or_none]

end Answers

/-! ## Answers side by side -/

/-- Two answers correspond: they are the same fault, or two values of which something holds. -/
inductive Correspond (related : α → β → Prop) : Except ε α → Except ε β → Prop
  | fault (fault : ε) : Correspond related (.error fault) (.error fault)
  | value {a : α} {b : β} (own : related a b) : Correspond related (.ok a) (.ok b)

namespace Correspond

variable {α' β' : Type} {related : α → β → Prop} {first : Except ε α} {second : Except ε β}

/-- An answer corresponds to itself. -/
theorem refl {same : α → α → Prop} (each : ∀ a, same a a) (answer : Except ε α) :
    Correspond same answer answer := by
  cases answer with
  | error fault => exact .fault fault
  | ok value => exact .value (each value)

/-- Answers that go on from corresponding ones correspond if what comes next does. -/
theorem bind {later : α' → β' → Prop} {next : α → Except ε α'} {next' : β → Except ε β'}
    (own : Correspond related first second)
    (each : ∀ {a b}, related a b → Correspond later (next a) (next' b)) :
    Correspond later (first >>= next) (second >>= next') := by
  cases own with
  | fault fault => exact .fault fault
  | value own => exact each own

/-- Values may be changed if what holds of them holds after the change. -/
theorem map {later : α' → β' → Prop} {change : α → α'} {change' : β → β'}
    (own : Correspond (fun a b => later (change a) (change' b)) first second) :
    Correspond later (first.map change) (second.map change') := by
  cases own with
  | fault fault => exact .fault fault
  | value own => exact .value own

/-- Answers that are chosen by one condition correspond if those for each choice do. -/
theorem ite {other : Except ε α} {other' : Except ε β} (condition : Bool)
    (yes : Correspond related first second) (no : Correspond related other other') :
    Correspond related (if condition then first else other)
      (if condition then second else other') := by
  cases condition with
  | false => exact no
  | true => exact yes

/-- If corresponding values are equal after a change, then so are the answers. -/
theorem map_eq {change : α → β} (own : Correspond (change · = ·) first second) :
    first.map change = second := by
  cases own with
  | fault fault => rfl
  | value own => exact congrArg Except.ok own

/-- What follows the same answer. -/
theorem bind_same {later : α' → β' → Prop} {next : α → Except ε α'} {next' : α → Except ε β'}
    (each : ∀ a, Correspond later (next a) (next' a)) :
    Correspond later (first >>= next) (first >>= next') := by
  cases first with
  | error fault => exact .fault fault
  | ok value => exact each value

end Correspond

/-! ## The faults of an answer -/

/-- If an answer is a fault, it is one of some kind. -/
def FaultsOnly (kind : Fault → Prop) (answer : Except Fault α) : Prop :=
  ∀ fault, answer = .error fault → kind fault

section FaultsOnly

variable {kind : Fault → Prop} {first : Except Fault α}

@[simp]
theorem faultsOnly_ok {value : α} : FaultsOnly kind (.ok value) := nofun

@[simp]
theorem faultsOnly_pure {value : α} : FaultsOnly kind (pure value) := nofun

@[simp]
theorem faultsOnly_error {fault : Fault} :
    FaultsOnly kind (.error fault : Except Fault α) ↔ kind fault :=
  ⟨fun only => only fault rfl, fun own _ same => Except.error.inj same ▸ own⟩

/-- An answer that goes on from another has faults of a kind only if both do. -/
@[simp]
theorem faultsOnly_bind {next : α → Except Fault β} :
    FaultsOnly kind (first >>= next) ↔
      FaultsOnly kind first ∧ ∀ value, first = .ok value → FaultsOnly kind (next value) := by
  cases first with
  | error fault =>
    refine ⟨fun only => ⟨fun other same => ?_, nofun⟩, fun ⟨only, _⟩ other same => ?_⟩
    · exact only other (by rw [Except.error.inj same]; rfl)
    · exact only other (congrArg Except.error (Except.error.inj same))
  | ok value =>
    refine ⟨fun only => ⟨faultsOnly_ok, fun other same => ?_⟩, fun ⟨_, each⟩ => each value rfl⟩
    cases same
    exact only

@[simp]
theorem faultsOnly_map {change : α → β} :
    FaultsOnly kind (first.map change) ↔ FaultsOnly kind first := by
  cases first with
  | error fault => exact faultsOnly_error.trans faultsOnly_error.symm
  | ok value => exact ⟨fun _ => faultsOnly_ok, fun _ => faultsOnly_ok⟩

@[simp]
theorem faultsOnly_fmap {change : α → β} :
    FaultsOnly kind (change <$> first) ↔ FaultsOnly kind first :=
  faultsOnly_map

/-- The answers for items have faults of a kind only if each has. -/
theorem faultsOnly_mapM {answer : α → Except Fault β} {items : List α}
    (each : ∀ item ∈ items, FaultsOnly kind (answer item)) :
    FaultsOnly kind (items.mapM answer) := by
  induction items with
  | nil => exact faultsOnly_pure
  | cons item rest ih =>
    obtain ⟨own, others⟩ := List.forall_mem_cons.mp each
    rw [List.mapM_cons]
    exact faultsOnly_bind.mpr ⟨own, fun _ _ =>
      faultsOnly_bind.mpr ⟨ih others, fun _ _ => faultsOnly_pure⟩⟩

end FaultsOnly

end RegisterMap
