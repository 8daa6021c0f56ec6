import RegisterMap.Conversion
import RegisterMap.Proofs.Cascade

/-!
# Converting a device again

A conversion changes the device it is given, and leaves it in a state from which another
conversion gives what it would have given in the first place. Whatever the first one did,
and wherever it stopped, the second one resolves what is resolved, stops where it stopped,
and takes properties from above that were taken already.
-/

namespace RegisterMap

open Progress

namespace Device

variable {d : Device}

/-- A conversion of which the resolution stops gives its fault. -/
theorem convert_of_fault_some {fault : Fault} (stopped : d.resolve.fault = some fault)
    (options : EmitOptions) :
    (d.convert options).device = d.resolve.state ∧ (d.convert options).outcome = .error fault := by
  simp only [convert, stopped, and_self]

/-- A conversion of which the resolution succeeds gives what is emitted for the device
with every property taken from above. -/
theorem convert_of_fault_none (succeeds : d.resolve.fault = none) (options : EmitOptions) :
    (d.convert options).device = d.resolve.state.cascade ∧
      (d.convert options).outcome = d.resolve.state.cascade.emit options := by
  simp only [convert, succeeds, and_self]

/-- A device that is complete is converted to what is emitted for it. -/
theorem convert_of_settled (settled : d.Settled) (complete : d.cascade = d)
    (options : EmitOptions) :
    (d.convert options).device = d ∧ (d.convert options).outcome = d.emit options := by
  have rests := resolve_rests settled
  obtain ⟨device, outcome⟩ := convert_of_fault_none rests.fault options
  have reached : d.resolve.state = d := rests.state
  rw [device, outcome, reached, complete]
  exact ⟨rfl, rfl⟩

/-- **A device can be converted again.** After any conversion, another one gives what it
gives for the device as it was before, and leaves the device as the first one left it. -/
theorem convert_again (d : Device) (first second : EmitOptions) :
    ((d.convert first).device.convert second).outcome = (d.convert second).outcome ∧
      ((d.convert first).device.convert second).device = (d.convert first).device := by
  cases stopped : d.resolve.fault with
  | some fault =>
    have again := resolve_repeats d
    rw [(convert_of_fault_some stopped first).1, (convert_of_fault_some stopped second).2]
    obtain ⟨device, outcome⟩ := convert_of_fault_some (again.fault.trans stopped) second
    exact ⟨outcome, device.trans again.state⟩
  | none =>
    have settled : d.resolve.state.cascade.Settled := (settled_resolve stopped).cascade
    rw [(convert_of_fault_none stopped first).1, (convert_of_fault_none stopped second).2]
    exact (convert_of_settled settled (cascade_cascade _) second).symm

end Device

end RegisterMap
