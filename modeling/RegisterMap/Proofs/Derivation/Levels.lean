import RegisterMap.Derivation.Resolve
import RegisterMap.Proofs.Derivation.Again

/-!
# Resolving at every level

References are resolved inside every thing that was resolved, and no thing is nested
deeper for it: what takes a list from a sibling is as deep as one of the two was. So the
levels that `resolveLevels` counts down do not matter as long as there are enough of them
(`Node.resolveLevels_congr`), and `Node.resolveAll` is the recursion over the nodes that it
stands for (`Node.resolveAll_eq`).

When a device is resolved, nothing in it is derived any more, at any level: it is `Settled`.
A settled device is left as it is by another resolution, and so is one in which the
resolution has stopped, which then stops again with the same fault.
-/

namespace RegisterMap

open Derivable Progress

/-! ## How deep nodes are nested -/

namespace Node

/-- A bound for the depth of nodes is one for the depth of each. -/
theorem depthOfAll_le_iff {nodes : List Node} {bound : Nat} :
    depthOfAll nodes ≤ bound ↔ ∀ node ∈ nodes, node.depth ≤ bound := by
  induction nodes with
  | nil => simp only [depthOfAll, Nat.zero_le, List.not_mem_nil, false_implies, implies_true]
  | cons node rest ih => rw [depthOfAll, Nat.max_le, ih, List.forall_mem_cons]

/-- A node that takes from another is as deep as one of the two was, at most. -/
theorem depth_takeFrom_le {bound : Nat} (node source : Node) (own : node.depth ≤ bound)
    (other : source.depth ≤ bound) : (takeFrom node source).depth ≤ bound := by
  cases derived : Derivable.derivedFrom node with
  | none =>
    rw [takeFrom_of_free derived]
    exact own
  | some reference =>
    rw [takeFrom_of_derived derived]
    cases node with
    | register r => cases source <;> exact Nat.zero_le bound
    | cluster c members =>
      cases source with
      | register _ => exact own
      | cluster s others =>
        cases members with
        | nil => exact other
        | cons member rest => exact own

/-- Resolving a scope makes it no deeper. -/
theorem depthOfAll_resolveScope_le (nodes : List Node) :
    depthOfAll (resolveScope nodes).state ≤ depthOfAll nodes :=
  depthOfAll_le_iff.mpr
    (resolveScope_keeps depth_takeFrom_le (depthOfAll_le_iff.mp (Nat.le_refl _)))

/-- Resolving at some levels makes nodes no deeper. -/
theorem depthOfAll_resolveLevels_le (levels : Nat) (nodes : List Node) :
    depthOfAll (resolveLevels levels nodes).state ≤ depthOfAll nodes := by
  induction levels generalizing nodes with
  | zero => exact Nat.le_refl _
  | succ levels ih =>
    rw [resolveLevels]
    refine andThen_keeps (depthOfAll · ≤ depthOfAll nodes) (depthOfAll_resolveScope_le nodes) ?_
    intro state bounded
    have each := depthOfAll_le_iff.mp bounded
    refine depthOfAll_le_iff.mpr (forEach_keeps each fun node mem => ?_)
    cases node with
    | register r => exact Nat.zero_le _
    | cluster c members => exact (Nat.succ_le_succ (ih members)).trans (each _ mem)

/-- Any two numbers of levels give the same, when there are more than the nodes are deep. -/
theorem resolveLevels_congr {levels others : Nat} {nodes : List Node}
    (enough : depthOfAll nodes < levels) (enough' : depthOfAll nodes < others) :
    resolveLevels levels nodes = resolveLevels others nodes := by
  induction levels generalizing others nodes with
  | zero => exact absurd enough (Nat.not_lt_zero _)
  | succ levels ih =>
    cases others with
    | zero => exact absurd enough' (Nat.not_lt_zero _)
    | succ others =>
      rw [resolveLevels, resolveLevels]
      refine andThen_congr (forEach_congr fun node mem => ?_)
      have bounded := depthOfAll_le_iff.mp (depthOfAll_resolveScope_le nodes) node mem
      cases node with
      | register r => rfl
      | cluster c members =>
        rw [depth] at bounded
        have same : resolveLevels levels members = resolveLevels others members :=
          ih (by omega) (by omega)
        rw [resolveInside, resolveInside, same]

/-- The references in a list of nodes are resolved among the nodes first, and then in the
same way inside each of them. -/
theorem resolveAll_eq (nodes : List Node) :
    resolveAll nodes = (resolveScope nodes).andThen (forEach (resolveInside resolveAll)) := by
  rw [resolveAll, resolveLevels]
  refine andThen_congr (forEach_congr fun node mem => ?_)
  have bounded := depthOfAll_le_iff.mp (depthOfAll_resolveScope_le nodes) node mem
  cases node with
  | register r => rfl
  | cluster c members =>
    rw [depth] at bounded
    rw [resolveInside, resolveInside, resolveAll,
      resolveLevels_congr (by omega) (Nat.lt_succ_self _)]

end Node

/-! ## Settled devices -/

/-- Nothing in a node is derived, at any level. -/
inductive Node.Settled : Node → Prop
  | register {r : Register} : r.derivedFrom = none →
      (∀ f ∈ r.fieldList, f.derivedFrom = none) → Settled (.register r)
  | cluster {c : Cluster} {members : List Node} : c.derivedFrom = none →
      (∀ node ∈ members, Settled node) → Settled (.cluster c members)

/-- Neither a peripheral nor anything in it is derived. -/
def Peripheral.Settled (p : Peripheral) : Prop :=
  p.derivedFrom = none ∧ ∀ node ∈ p.nodes, node.Settled

/-- Nothing in a device is derived, at any level. -/
def Device.Settled (d : Device) : Prop := ∀ p ∈ d.peripherals, p.Settled

theorem Node.Settled.derivedFrom {node : Node} (h : node.Settled) :
    Derivable.derivedFrom node = none := by
  cases h with
  | register free _ => exact free
  | cluster free _ => exact free

/-! ## Registers -/

namespace Register

variable {r : Register}

theorem resolve_of_fields {fields : List Field} (own : r.fields = some fields) :
    r.resolve =
      (resolveScope fields).within fun resolved => { r with fields := some resolved } := by
  rw [resolve, own]

theorem resolve_of_no_fields (own : r.fields = none) : r.resolve = { state := r } := by
  rw [resolve, own]

/-- Resolving the fields of a register leaves its own reference. -/
theorem derivedFrom_resolve (r : Register) : r.resolve.state.derivedFrom = r.derivedFrom := by
  cases own : r.fields with
  | none => rw [resolve_of_no_fields own]
  | some fields => rw [resolve_of_fields own]; rfl

/-- A register without fields is left as it is. -/
theorem resolve_rests_of_no_fields (own : r.fields = none) : Rests resolve r := by
  unfold Rests
  rw [resolve_of_no_fields own]
  exact ⟨rfl, rfl⟩

/-- Resolving a register again gives the same, value or fault. -/
theorem resolve_repeats (r : Register) : Repeats resolve r := by
  cases own : r.fields with
  | none => exact (resolve_rests_of_no_fields own).repeats
  | some fields =>
    have whole : { r with fields := some fields } = r := by rw [← own]
    rw [← whole]
    exact (resolveScope_repeats fields).within resolve
      (fun resolved => { r with fields := some resolved }) fun _ => rfl

/-- A register none of whose fields is derived is left as it is. -/
theorem resolve_rests (free : ∀ f ∈ r.fieldList, f.derivedFrom = none) : Rests resolve r := by
  cases own : r.fields with
  | none => exact resolve_rests_of_no_fields own
  | some fields =>
    have whole : { r with fields := some fields } = r := by rw [← own]
    have inside : Rests resolveScope fields :=
      resolveScope_rests fun f mem => free f (by rwa [fieldList, own])
    rw [← whole]
    exact inside.within resolve (fun resolved => { r with fields := some resolved }) fun _ => rfl

/-- A register that is not derived is settled when its fields are resolved. -/
theorem settled_resolve (free : r.derivedFrom = none) (succeeds : r.resolve.fault = none) :
    (Node.register r.resolve.state).Settled := by
  refine .register ((derivedFrom_resolve r).trans free) ?_
  cases own : r.fields with
  | none => simp only [resolve_of_no_fields own, fieldList, own, Option.getD_none, List.not_mem_nil,
      false_implies, implies_true]
  | some fields =>
    rw [resolve_of_fields own] at succeeds ⊢
    exact derivedFrom_of_resolveScope succeeds

end Register

/-! ## Nodes -/

namespace Node

/-- Resolving what is in a node leaves its own reference. -/
theorem derivedFrom_resolveInside (resolveMembers : List Node → Progress (List Node))
    (node : Node) :
    Derivable.derivedFrom (resolveInside resolveMembers node).state =
      Derivable.derivedFrom node := by
  cases node with
  | register r => exact r.derivedFrom_resolve
  | cluster c members => rfl

/-- Resolving what is in a node repeats itself if resolving its members does. -/
theorem resolveInside_repeats {resolveMembers : List Node → Progress (List Node)}
    (h : ∀ members, Repeats resolveMembers members) (node : Node) :
    Repeats (resolveInside resolveMembers) node := by
  cases node with
  | register r => exact r.resolve_repeats.within _ Node.register fun _ => rfl
  | cluster c members => exact (h members).within _ (Node.cluster c) fun _ => rfl

/-- Resolving nodes again, at the same levels, gives the same, value or fault. -/
theorem resolveLevels_repeats (levels : Nat) (nodes : List Node) :
    Repeats (resolveLevels levels) nodes := by
  induction levels generalizing nodes with
  | zero => exact ⟨rfl, rfl⟩
  | succ levels ih =>
    refine (resolveScope_repeats nodes).andThen
      (forEach_repeats fun node _ => resolveInside_repeats ih node) fun succeeds => ?_
    -- what happens inside the nodes leaves the references among them
    have free := derivedFrom_of_resolveScope succeeds
    refine resolveScope_rests (forEach_keeps free fun node mem => ?_)
    rw [derivedFrom_resolveInside, free node mem]

/-- The number of levels with which nodes are resolved is enough for what they become. -/
theorem resolveAll_repeats (nodes : List Node) : Repeats resolveAll nodes := by
  have again : resolveAll (resolveAll nodes).state =
      resolveLevels (depthOfAll nodes + 1) (resolveAll nodes).state :=
    resolveLevels_congr (Nat.lt_succ_self _)
      (Nat.lt_succ_of_le (depthOfAll_resolveLevels_le _ nodes))
  unfold Repeats
  rw [again]
  exact resolveLevels_repeats _ nodes

/-- Settled nodes are left as they are. -/
theorem resolveLevels_rests (levels : Nat) {nodes : List Node}
    (settled : ∀ node ∈ nodes, node.Settled) : Rests (resolveLevels levels) nodes := by
  induction levels generalizing nodes with
  | zero => exact ⟨rfl, rfl⟩
  | succ levels ih =>
    refine (resolveScope_rests fun node mem => (settled node mem).derivedFrom).andThen
      (forEach_rests fun node mem => ?_)
    cases settled node mem with
    | register _ free => exact (Register.resolve_rests free).within _ Node.register fun _ => rfl
    | @cluster c _ _ inside => exact (ih inside).within _ (Node.cluster c) fun _ => rfl

/-- With enough levels, a resolution that succeeds leaves every node settled. -/
theorem settled_resolveLevels {levels : Nat} {nodes : List Node}
    (enough : depthOfAll nodes < levels)
    (succeeds : (resolveLevels levels nodes).fault = none) :
    ∀ node ∈ (resolveLevels levels nodes).state, node.Settled := by
  induction levels generalizing nodes with
  | zero => exact absurd enough (Nat.not_lt_zero _)
  | succ levels ih =>
    obtain ⟨first, inside⟩ := andThen_fault_eq_none_iff.mp succeeds
    obtain ⟨each, reached⟩ := forEach_of_fault_none inside
    rw [resolveLevels, (andThen_of_fault_none first _).1, reached]
    intro node mem
    obtain ⟨before, memBefore, rfl⟩ := List.mem_map.mp mem
    have free := derivedFrom_of_resolveScope first before memBefore
    have bounded := depthOfAll_le_iff.mp (depthOfAll_resolveScope_le nodes) before memBefore
    cases before with
    | register r => exact r.settled_resolve free (each _ memBefore)
    | cluster c members =>
      rw [depth] at bounded
      exact .cluster free (ih (by omega) (each _ memBefore))

end Node

/-! ## Peripherals -/

namespace Peripheral

variable {p : Peripheral}

theorem resolve_of_registers {nodes : List Node} (own : p.registers = some nodes) :
    p.resolve =
      (Node.resolveAll nodes).within fun resolved => { p with registers := some resolved } := by
  rw [resolve, own]

theorem resolve_of_no_registers (own : p.registers = none) : p.resolve = { state := p } := by
  rw [resolve, own]

/-- Resolving the registers of a peripheral leaves its own reference. -/
theorem derivedFrom_resolve (p : Peripheral) : p.resolve.state.derivedFrom = p.derivedFrom := by
  cases own : p.registers with
  | none => rw [resolve_of_no_registers own]
  | some nodes => rw [resolve_of_registers own]; rfl

/-- Resolving the registers of a peripheral leaves its properties. -/
theorem properties_resolve (p : Peripheral) : p.resolve.state.properties = p.properties := by
  cases own : p.registers with
  | none => rw [resolve_of_no_registers own]
  | some nodes => rw [resolve_of_registers own]; rfl

/-- A peripheral without registers is left as it is. -/
theorem resolve_rests_of_no_registers (own : p.registers = none) : Rests resolve p := by
  unfold Rests
  rw [resolve_of_no_registers own]
  exact ⟨rfl, rfl⟩

/-- Resolving a peripheral again gives the same, value or fault. -/
theorem resolve_repeats (p : Peripheral) : Repeats resolve p := by
  cases own : p.registers with
  | none => exact (resolve_rests_of_no_registers own).repeats
  | some nodes =>
    have whole : { p with registers := some nodes } = p := by rw [← own]
    rw [← whole]
    exact (Node.resolveAll_repeats nodes).within resolve
      (fun resolved => { p with registers := some resolved }) fun _ => rfl

/-- A settled peripheral is left as it is. -/
theorem resolve_rests (settled : p.Settled) : Rests resolve p := by
  cases own : p.registers with
  | none => exact resolve_rests_of_no_registers own
  | some nodes =>
    have whole : { p with registers := some nodes } = p := by rw [← own]
    have inside : Rests Node.resolveAll nodes :=
      Node.resolveLevels_rests _ fun node mem => settled.2 node (by rwa [Peripheral.nodes, own])
    rw [← whole]
    exact inside.within resolve (fun resolved => { p with registers := some resolved }) fun _ => rfl

/-- A peripheral that is not derived is settled when its registers are resolved. -/
theorem settled_resolve (free : p.derivedFrom = none) (succeeds : p.resolve.fault = none) :
    p.resolve.state.Settled := by
  refine ⟨(derivedFrom_resolve p).trans free, ?_⟩
  cases own : p.registers with
  | none => simp only [resolve_of_no_registers own, nodes, own, Option.getD_none, List.not_mem_nil,
      false_implies, implies_true]
  | some nodes =>
    rw [resolve_of_registers own] at succeeds ⊢
    exact Node.settled_resolveLevels (Nat.lt_succ_self _) succeeds

end Peripheral

/-! ## Devices -/

namespace Device

variable {d : Device}

/-- **A device is resolved once.** Resolving it again changes nothing and stops, if it did
before, with the same fault. -/
theorem resolve_repeats (d : Device) : Repeats resolve d := by
  have inside : Repeats (fun peripherals : List Peripheral =>
      (resolveScope peripherals).andThen (forEach Peripheral.resolve)) d.peripherals := by
    refine (resolveScope_repeats d.peripherals).andThen
      (forEach_repeats fun p _ => p.resolve_repeats) fun succeeds => ?_
    have free := derivedFrom_of_resolveScope succeeds
    refine resolveScope_rests (forEach_keeps free fun p mem => ?_)
    exact p.derivedFrom_resolve.trans (free p mem)
  exact inside.within resolve (fun resolved => { d with peripherals := resolved }) fun _ => rfl

/-- In a device that is settled there is nothing to resolve. -/
theorem resolve_rests (settled : d.Settled) : Rests resolve d := by
  have inside : Rests (fun peripherals : List Peripheral =>
      (resolveScope peripherals).andThen (forEach Peripheral.resolve)) d.peripherals :=
    (resolveScope_rests fun p mem => (settled p mem).1).andThen
      (forEach_rests fun p mem => Peripheral.resolve_rests (settled p mem))
  exact inside.within resolve (fun resolved => { d with peripherals := resolved }) fun _ => rfl

/-- When a device is resolved, its peripherals are resolved among themselves, and each of them
inside. -/
theorem peripherals_resolve (succeeds : d.resolve.fault = none) :
    (resolveScope d.peripherals).fault = none ∧
      (∀ p ∈ (resolveScope d.peripherals).state, p.resolve.fault = none) ∧
      d.resolve.state.peripherals = (resolveScope d.peripherals).state.map (·.resolve.state) := by
  have both : ((resolveScope d.peripherals).andThen (forEach Peripheral.resolve)).fault = none :=
    succeeds
  obtain ⟨first, inside⟩ := andThen_fault_eq_none_iff.mp both
  obtain ⟨each, reached⟩ := forEach_of_fault_none inside
  refine ⟨first, each, ?_⟩
  rw [← reached]
  exact (andThen_of_fault_none first (forEach Peripheral.resolve)).1

/-- A device that is resolved is settled. -/
theorem settled_resolve (succeeds : d.resolve.fault = none) : d.resolve.state.Settled := by
  obtain ⟨first, each, peripherals⟩ := peripherals_resolve succeeds
  intro p mem
  rw [peripherals] at mem
  obtain ⟨before, memBefore, rfl⟩ := List.mem_map.mp mem
  have free := derivedFrom_of_resolveScope first before memBefore
  exact before.settled_resolve free (each _ memBefore)

end Device

end RegisterMap
