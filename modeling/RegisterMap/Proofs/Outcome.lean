import RegisterMap.Proofs.Emit.Faults
import RegisterMap.Proofs.Reading.Faults

/-!
# What comes of a document

A document is read, its references are resolved, and its code is emitted. Each of these steps
has faults of its own, and a conversion has no others (`Device.outcome_of_element`). The fault
of a field without bits is none of them: every range that is read is valid, and stays valid in
whatever state resolution and the taking of properties leave the device.
-/

namespace RegisterMap

/-- The faults that resolution has. -/
inductive Fault.OfResolution : Fault → Prop
  | unresolved (kind : Kind) (name reference : String) :
      OfResolution (.unresolved kind name reference)
  | cycle (kind : Kind) (names : List String) : OfResolution (.cycle kind names)

/-! ## Progress -/

namespace Progress

variable {α β : Type} {kind : Fault → Prop}

/-- If a resolution stops, it is with a fault of some kind. -/
def StopsOnly (kind : Fault → Prop) (progress : Progress α) : Prop :=
  ∀ fault, progress.fault = some fault → kind fault

theorem stopsOnly_start (state : α) : StopsOnly kind { state } := nofun

/-- One step after another stops with the faults of both. -/
theorem StopsOnly.andThen {progress : Progress α} {step : α → Progress α}
    (before : progress.StopsOnly kind) (after : ∀ state, (step state).StopsOnly kind) :
    (progress.andThen step).StopsOnly kind := by
  cases stopped : progress.fault with
  | some fault =>
    rw [andThen_of_fault_some stopped]
    exact before
  | none =>
    intro fault same
    rw [(andThen_of_fault_none stopped step).2] at same
    exact after _ fault same

/-- A part that stops has the same faults as a part. -/
theorem StopsOnly.within {progress : Progress α} (part : progress.StopsOnly kind)
    (place : α → β) : (progress.within place).StopsOnly kind :=
  part

/-- A step at each element has the faults that it has at one. -/
theorem StopsOnly.forEach {step : α → Progress α} (each : ∀ item, (step item).StopsOnly kind)
    (items : List α) : (forEach step items).StopsOnly kind := by
  induction items with
  | nil => exact stopsOnly_start []
  | cons item rest ih =>
    cases going : (step item).fault with
    | some fault =>
      rw [forEach_cons_of_fault_some going]
      exact (each item).within _
    | none =>
      intro fault same
      rw [(forEach_cons_of_fault_none going rest).2] at same
      exact ih fault same

end Progress

open Progress

/-! ## Resolution -/

/-- The first thing at which the resolution of a scope cannot go on is dangling or on a
cycle. -/
theorem stopsOnly_resolveScope {α : Type} [Derivable α] (siblings : List α) :
    (resolveScope siblings).StopsOnly Fault.OfResolution := by
  intro fault stopped
  rcases good_or_exists_first siblings with good | ⟨first, found, inside, good, fails⟩
  · cases stopped.symm.trans (resolveScope_of_good good).1
  · cases stopped.symm.trans (resolveScope_of_fails inside good fails).1
    obtain ⟨_, _, _, _, _, dangling | cycle⟩ := fails
    · obtain ⟨_, _, _, _, _, rfl⟩ := dangling
      exact .unresolved _ _ _
    · obtain ⟨_, _, _, _, _, rfl⟩ := cycle
      exact .cycle _ _

/-- Resolving the fields of a register has the faults of resolution only. -/
theorem Register.stopsOnly_resolve (r : Register) : r.resolve.StopsOnly Fault.OfResolution := by
  cases own : r.fields with
  | none =>
    rw [resolve_of_no_fields own]
    exact stopsOnly_start r
  | some fields =>
    rw [resolve_of_fields own]
    exact (stopsOnly_resolveScope fields).within _

/-- Resolving nodes has the faults of resolution only, at any level. -/
theorem Node.stopsOnly_resolveLevels (levels : Nat) (nodes : List Node) :
    (resolveLevels levels nodes).StopsOnly Fault.OfResolution := by
  induction levels generalizing nodes with
  | zero => exact stopsOnly_start nodes
  | succ levels ih =>
    rw [resolveLevels]
    refine (stopsOnly_resolveScope nodes).andThen (StopsOnly.forEach fun node => ?_)
    cases node with
    | register r => exact r.stopsOnly_resolve.within _
    | cluster c members => exact (ih members).within _

/-- Resolving the registers of a peripheral has the faults of resolution only. -/
theorem Peripheral.stopsOnly_resolve (p : Peripheral) :
    p.resolve.StopsOnly Fault.OfResolution := by
  cases own : p.registers with
  | none =>
    rw [resolve_of_no_registers own]
    exact stopsOnly_start p
  | some nodes =>
    rw [resolve_of_registers own]
    exact (Node.stopsOnly_resolveLevels _ nodes).within _

/-- **A device whose references cannot be resolved** has one that names no sibling of its kind,
or references that lead around a cycle. -/
theorem Device.stopsOnly_resolve (d : Device) : d.resolve.StopsOnly Fault.OfResolution :=
  ((stopsOnly_resolveScope d.peripherals).andThen
    (StopsOnly.forEach Peripheral.stopsOnly_resolve)).within _

/-! ## The whole way -/

/-- **What comes of a document**, whatever it holds and however it is to be emitted. It cannot
be read, for a fault of reading, or a device is read. All ranges in the device are valid, also
as resolution leaves it and as the conversion leaves it. The conversion stops with a fault of
resolution, or everything is resolved, and it stops with a fault of emission or gives text. -/
theorem Device.outcome_of_element (e : Xml.Element) (options : EmitOptions) :
    (∃ fault, ofElement e = .error fault ∧ fault.OfReading) ∨
      ∃ d, ofElement e = .ok d ∧ d.Ranges BitRange.Valid ∧
        d.resolve.state.Ranges BitRange.Valid ∧
        (d.convert options).device.Ranges BitRange.Valid ∧
        ((∃ fault, d.resolve.fault = some fault ∧ fault.OfResolution ∧
            (d.convert options).outcome = .error fault) ∨
          d.resolve.fault = none ∧
            ((∃ fault, (d.convert options).outcome = .error fault ∧ fault.OfEmission) ∨
              ∃ text, (d.convert options).outcome = .ok text)) := by
  cases read : ofElement e with
  | error fault => exact .inl ⟨fault, rfl, faultsOnly_ofElement e fault read⟩
  | ok d =>
    have valid : d.Ranges BitRange.Valid := valid_of_ofElement read
    refine .inr ⟨d, rfl, valid, ranges_resolve valid, ranges_convert valid options, ?_⟩
    cases stopped : d.resolve.fault with
    | some fault =>
      exact .inl ⟨fault, rfl, d.stopsOnly_resolve fault stopped,
        (convert_of_fault_some stopped options).2⟩
    | none =>
      obtain ⟨left, emitted⟩ := convert_of_fault_none stopped options
      -- what is emitted is the device with properties from above, whose ranges are valid still
      have complete : d.resolve.state.cascade.Ranges BitRange.Valid :=
        ranges_cascade (ranges_resolve valid)
      refine .inr ⟨rfl, ?_⟩
      rw [emitted]
      cases outcome : d.resolve.state.cascade.emit options with
      | error fault => exact .inl ⟨fault, rfl, faultsOnly_emit complete options fault outcome⟩
      | ok text => exact .inr ⟨text, rfl⟩

end RegisterMap
