import RegisterMap.Derivation.Scope

/-!
# Laws of progress

How far a resolution gets is put together from steps: one after the other (`andThen`), or
the same one at each element of a list (`forEach`). The laws here say what the whole does
when the steps are known: what it answers, and when it can be taken again.

A step *rests* at a state when it goes nowhere from there and has no fault. It *repeats*
from a state when, taken again where it has led, it goes nowhere and stops for the reason
for which it stopped before, if it did.
-/

namespace RegisterMap

namespace Progress

variable {α β : Type}

/-! ## One step after another -/

@[simp]
theorem start_andThen (state : α) (step : α → Progress α) :
    ({ state } : Progress α).andThen step = step state := by
  simp only [andThen, List.nil_append]

/-- A step behind one that has not stopped goes on from where that has led. -/
theorem andThen_of_fault_none {progress : Progress α} (going : progress.fault = none)
    (step : α → Progress α) :
    (progress.andThen step).state = (step progress.state).state ∧
      (progress.andThen step).fault = (step progress.state).fault := by
  simp only [andThen, going, and_self]

/-- A step behind one that has stopped is not taken. -/
theorem andThen_of_fault_some {progress : Progress α} {fault : Fault}
    (stopped : progress.fault = some fault) (step : α → Progress α) :
    progress.andThen step = progress := by
  simp only [andThen, stopped]

theorem andThen_assoc (progress : Progress α) (step next : α → Progress α) :
    (progress.andThen step).andThen next =
      progress.andThen fun state => (step state).andThen next := by
  cases stopped : progress.fault with
  | some fault => simp only [andThen, stopped]
  | none =>
    cases stopped' : (step progress.state).fault with
    | some fault => simp only [andThen, stopped, stopped']
    | none => simp only [andThen, stopped, stopped', List.append_assoc]

/-- Only where the first step leads matters for the one behind it. -/
theorem andThen_congr {progress : Progress α} {step other : α → Progress α}
    (same : step progress.state = other progress.state) :
    progress.andThen step = progress.andThen other := by
  rw [andThen, andThen, same]

/-- Two steps succeed when the first does and the second does where the first has led. -/
theorem andThen_fault_eq_none_iff {progress : Progress α} {step : α → Progress α} :
    (progress.andThen step).fault = none ↔
      progress.fault = none ∧ (step progress.state).fault = none := by
  cases stopped : progress.fault with
  | some fault => simp only [andThen, stopped, reduceCtorEq, false_and]
  | none => simp only [andThen, stopped, true_and]

/-- What holds of the state that was reached, and is kept by a step, holds after it. -/
theorem andThen_keeps (keeps : α → Prop) {progress : Progress α} {step : α → Progress α}
    (before : keeps progress.state) (after : ∀ state, keeps state → keeps (step state).state) :
    keeps (progress.andThen step).state := by
  cases stopped : progress.fault with
  | some fault => rw [andThen_of_fault_some stopped]; exact before
  | none => rw [(andThen_of_fault_none stopped step).1]; exact after _ before

/-! ## A step at each element -/

/-- If the first element stops, then the others are as they were. -/
theorem forEach_cons_of_fault_some {step : α → Progress α} {item : α} {fault : Fault}
    (stopped : (step item).fault = some fault) (rest : List α) :
    forEach step (item :: rest) = (step item).within (· :: rest) := by
  simp only [forEach, stopped]

/-- If the first element does not stop, then the others are treated as they would be alone. -/
theorem forEach_cons_of_fault_none {step : α → Progress α} {item : α}
    (going : (step item).fault = none) (rest : List α) :
    (forEach step (item :: rest)).state = (step item).state :: (forEach step rest).state ∧
      (forEach step (item :: rest)).fault = (forEach step rest).fault := by
  simp only [forEach, going, and_self]

/-- Steps that do the same at each element do the same at the list. -/
theorem forEach_congr {step other : α → Progress α} {items : List α}
    (same : ∀ item ∈ items, step item = other item) : forEach step items = forEach other items := by
  induction items with
  | nil => rfl
  | cons item rest ih =>
    rw [forEach, forEach, same item List.mem_cons_self,
      ih fun other mem => same other (List.mem_cons_of_mem _ mem)]

/-- When every step succeeds, each element is where its step has led. -/
theorem forEach_of_fault_none {step : α → Progress α} {items : List α}
    (succeeds : (forEach step items).fault = none) :
    (∀ item ∈ items, (step item).fault = none) ∧
      (forEach step items).state = items.map fun item => (step item).state := by
  induction items with
  | nil => exact ⟨fun _ mem => absurd mem List.not_mem_nil, rfl⟩
  | cons item rest ih =>
    cases going : (step item).fault with
    | some fault =>
      rw [forEach_cons_of_fault_some going] at succeeds
      cases going.symm.trans succeeds
    | none =>
      obtain ⟨state, fault⟩ := forEach_cons_of_fault_none going rest
      obtain ⟨others, reached⟩ := ih (fault ▸ succeeds)
      exact ⟨List.forall_mem_cons.mpr ⟨going, others⟩, by rw [state, reached, List.map_cons]⟩

/-- What a step keeps at each element, the steps keep, also when one of them stops. -/
theorem forEach_keeps {step : α → Progress α} {keeps : α → Prop} {items : List α}
    (before : ∀ item ∈ items, keeps item)
    (after : ∀ item ∈ items, keeps (step item).state) :
    ∀ item ∈ (forEach step items).state, keeps item := by
  induction items with
  | nil => exact before
  | cons item rest ih =>
    obtain ⟨_, beforeRest⟩ := List.forall_mem_cons.mp before
    obtain ⟨first, afterRest⟩ := List.forall_mem_cons.mp after
    cases going : (step item).fault with
    | some fault =>
      rw [forEach_cons_of_fault_some going]
      exact List.forall_mem_cons.mpr ⟨first, beforeRest⟩
    | none =>
      rw [(forEach_cons_of_fault_none going rest).1]
      exact List.forall_mem_cons.mpr ⟨first, ih beforeRest afterRest⟩

/-! ## Steps taken again -/

/-- Two resolutions reach the same state and stop for the same reason. The merges on the
way there may differ. -/
structure SameEnd (progress other : Progress α) : Prop where
  state : progress.state = other.state
  fault : progress.fault = other.fault

/-- A step goes nowhere from a state, and has no fault. -/
def Rests (step : α → Progress α) (state : α) : Prop :=
  SameEnd (step state) { state }

/-- A step that is taken again where it has led goes nowhere from there, and stops for the
same reason. -/
def Repeats (step : α → Progress α) (start : α) : Prop :=
  SameEnd (step (step start).state) (step start)

/-- A step that repeats, and did not stop, rests where it has led. -/
theorem Repeats.rests {step : α → Progress α} {start : α} (h : Repeats step start)
    (succeeds : (step start).fault = none) : Rests step (step start).state :=
  ⟨h.state, h.fault.trans succeeds⟩

/-- A step that did not stop, and rests where it has led, repeats. -/
theorem Repeats.of_rests {step : α → Progress α} {start : α} (h : Rests step (step start).state)
    (succeeds : (step start).fault = none) : Repeats step start :=
  ⟨h.state, h.fault.trans succeeds.symm⟩

/-- A step that rests repeats. -/
theorem Rests.repeats {step : α → Progress α} {state : α} (h : Rests step state) :
    Repeats step state := by
  have reached : (step state).state = state := h.state
  exact .of_rests (reached.symm ▸ h) h.fault

section Steps

variable {step next : α → Progress α}

/-- Two steps that rest do so one after the other. -/
theorem Rests.andThen {state : α} (h : Rests step state) (h' : Rests next state) :
    Rests (fun state => (step state).andThen next) state := by
  obtain ⟨sameState, sameFault⟩ := andThen_of_fault_none h.fault next
  exact ⟨by rw [sameState, h.state, h'.state], by rw [sameFault, h.state, h'.fault]⟩

/-- Two steps repeat when each of them does, and the first rests where the second has
led. -/
theorem Repeats.andThen {start : α} (h : Repeats step start) (h' : Repeats next (step start).state)
    (rests : (step start).fault = none → Rests step (next (step start).state).state) :
    Repeats (fun state => (step state).andThen next) start := by
  change SameEnd ((step ((step start).andThen next).state).andThen next) ((step start).andThen next)
  cases stopped : (step start).fault with
  | some fault =>
    have again : (step (step start).state).fault = some fault := h.fault.trans stopped
    rw [andThen_of_fault_some stopped, andThen_of_fault_some again]
    exact h
  | none =>
    obtain ⟨state, fault⟩ := andThen_of_fault_none stopped next
    have rest := rests stopped
    obtain ⟨state', fault'⟩ := andThen_of_fault_none rest.fault next
    refine ⟨?_, ?_⟩
    · rw [state, state', rest.state, h'.state]
    · rw [state, fault, fault', rest.state, h'.fault]

/-- A step that rests at each element rests at the list. -/
theorem forEach_rests {items : List α} (h : ∀ item ∈ items, Rests step item) :
    Rests (forEach step) items := by
  induction items with
  | nil => exact ⟨rfl, rfl⟩
  | cons item rest ih =>
    obtain ⟨first, others⟩ := List.forall_mem_cons.mp h
    obtain ⟨state, fault⟩ := forEach_cons_of_fault_none first.fault rest
    exact ⟨by rw [state, first.state, (ih others).state], fault.trans (ih others).fault⟩

/-- A step that repeats from each element repeats from the list. -/
theorem forEach_repeats {items : List α} (h : ∀ item ∈ items, Repeats step item) :
    Repeats (forEach step) items := by
  induction items with
  | nil => exact ⟨rfl, rfl⟩
  | cons item rest ih =>
    obtain ⟨first, others⟩ := List.forall_mem_cons.mp h
    unfold Repeats
    cases going : (step item).fault with
    | some fault =>
      -- what comes behind the element that stops is as it was
      have again : (step (step item).state).fault = some fault := first.fault.trans going
      rw [forEach_cons_of_fault_some going]
      refine ⟨?_, ?_⟩
      · simp only [within, forEach_cons_of_fault_some again, first.state]
      · simp only [within, forEach_cons_of_fault_some again, again, going]
    | none =>
      obtain ⟨state, fault⟩ := forEach_cons_of_fault_none going rest
      have again := forEach_cons_of_fault_none (first.rests going).fault
        (forEach step rest).state
      refine ⟨?_, ?_⟩
      · rw [state, again.1, first.state, (ih others).state]
      · rw [state, fault, again.2, (ih others).fault]

/-- A step on a part of something rests when the step on the part does. -/
theorem Rests.within {part : α} (h : Rests step part) (whole : β → Progress β) (place : α → β)
    (inside : ∀ part, whole (place part) = (step part).within place) :
    Rests whole (place part) := by
  unfold Rests
  rw [inside]
  exact ⟨congrArg place h.state, h.fault⟩

/-- A step on a part of something repeats when the step on the part does. -/
theorem Repeats.within {part : α} (h : Repeats step part) (whole : β → Progress β) (place : α → β)
    (inside : ∀ part, whole (place part) = (step part).within place) :
    Repeats whole (place part) := by
  have again : whole ((step part).within place).state = (step (step part).state).within place :=
    inside _
  unfold Repeats
  rw [inside, again]
  exact ⟨congrArg place h.state, h.fault⟩

end Steps

end Progress

end RegisterMap
