import RegisterMap.Proofs.Cascade
import RegisterMap.Proofs.Derivation.Places

/-!
# Inherited lists

A thing that holds no list of its own takes that of its source, before anything in the list is
resolved. The list is then resolved twice, once where it was written and once where it was taken
to. Both give the same (`Node.contents_resolveInside`), because what becomes of a list depends on
the list alone. For the registers of a peripheral this goes on after properties are taken from
above, as long as the two peripherals have the same properties to give.
-/

namespace RegisterMap

open Derivable Progress

@[simp]
theorem RegisterProperties.empty_fill (others : RegisterProperties) :
    RegisterProperties.fill {} others = others := by
  cases others
  simp [RegisterProperties.fill]

/-- A list that is absent or empty is taken from the source as it is there. -/
theorem inheritOptionalList_of_empty {α : Type} {own : Option (List α)} (empty : own.getD [] = [])
    (other : Option (List α)) : inheritOptionalList own other = other := by
  rcases own with _ | _ | ⟨first, rest⟩
  · rfl
  · rfl
  · cases empty

/-! ## Nodes -/

namespace Node

/-- What a node holds: the fields of a register, or the nodes of a cluster. -/
def contents : Node → Option (List Field) ⊕ List Node
  | .register r => .inl r.fields
  | .cluster _ members => .inr members

/-- A node holds nothing: it is a register without fields, or a cluster without nodes. -/
def IsEmpty : Node → Prop
  | .register r => r.fieldList = []
  | .cluster _ members => members = []

/-- A node that holds nothing holds what its source does after it took from it. -/
theorem contents_takeFrom {node source : Node} (derived : Derivable.derivedFrom node ≠ none)
    (sameKind : kind source = kind node) (empty : node.IsEmpty) :
    (takeFrom node source).contents = source.contents := by
  obtain ⟨reference, named⟩ := Option.ne_none_iff_exists'.mp derived
  rw [takeFrom_of_derived named]
  cases node with
  | register r =>
    cases source with
    | register s => exact congrArg Sum.inl (inheritOptionalList_of_empty empty s.fields)
    | cluster _ _ => cases sameKind
  | cluster c members =>
    cases source with
    | register _ => cases sameKind
    | cluster s others =>
      cases empty
      rfl

/-- What two nodes hold is resolved alike if it is the same. -/
theorem contents_resolveInside {node other : Node} (same : node.contents = other.contents)
    (resolveMembers : List Node → Progress (List Node)) :
    (resolveInside resolveMembers node).state.contents =
      (resolveInside resolveMembers other).state.contents := by
  -- what a register holds afterwards depends on its fields only
  have ofRegister : ∀ {r : Register}, (resolveInside resolveMembers (.register r)).state.contents =
      .inl (r.fields.map fun fields => (resolveScope fields).state) := by
    intro r
    cases own : r.fields with
    | none =>
      simp only [resolveInside, Register.resolve_of_no_fields own, within, contents, own,
        Option.map_none]
    | some fields =>
      simp only [resolveInside, Register.resolve_of_fields own, within, contents, Option.map_some]
  cases node with
  | register r =>
    cases other with
    | register s => rw [ofRegister, ofRegister, Sum.inl.inj same]
    | cluster _ _ => cases same
  | cluster c members =>
    cases other with
    | register _ => cases same
    | cluster s others =>
      cases same
      rfl

end Node

/-- Of some nodes, those at two positions hold the same. -/
def SameContents (nodes : List Node) (position other : Nat) : Prop :=
  ∃ node source, nodes[position]? = some node ∧ nodes[other]? = some source ∧
    node.contents = source.contents

/-- A node that is derived and holds nothing comes to hold what its source holds. -/
theorem Node.sameContents_resolveAll {nodes : List Node}
    (succeeds : (resolveAll nodes).fault = none) {position : Nat} {node : Node}
    (here : nodes[position]? = some node) (derived : node.derivedFrom ≠ none)
    (empty : node.IsEmpty) :
    ∃ source, Link nodes position source ∧
      SameContents (resolveAll nodes).state position source := by
  rcases getElem?_resolveScope (fault_resolveScope succeeds) here with
    ⟨free, _⟩ | ⟨next, source, link, sameKind, there, now⟩
  · exact absurd free derived
  · obtain ⟨_, reached⟩ := getElem?_resolveAll succeeds now
    obtain ⟨_, reachedSource⟩ := getElem?_resolveAll succeeds there
    have same := contents_takeFrom derived sameKind empty
    exact ⟨next, link, _, _, reached, reachedSource, contents_resolveInside same resolveAll⟩

/-! ## Peripherals -/

/-- A peripheral without nodes takes those of its source, and one that sets no properties those
that the source has. -/
theorem Peripheral.takeFrom_of_empty {p : Peripheral} (derived : p.derivedFrom ≠ none)
    (source : Peripheral) :
    (p.nodes = [] → (takeFrom p source).registers = source.registers) ∧
      (p.properties = {} → (takeFrom p source).properties = source.properties) := by
  obtain ⟨reference, named⟩ := Option.ne_none_iff_exists'.mp derived
  rw [takeFrom_of_derived (show Derivable.derivedFrom p = some reference from named)]
  refine ⟨fun empty => inheritOptionalList_of_empty empty source.registers, fun unset => ?_⟩
  have filled : p.properties.fill source.properties = source.properties := by
    rw [unset, RegisterProperties.empty_fill]
  exact filled

/-- Of some peripherals, those at two positions have the same list of nodes. -/
def SameRegisters (peripherals : List Peripheral) (position other : Nat) : Prop :=
  ∃ p s, peripherals[position]? = some p ∧ peripherals[other]? = some s ∧
    p.registers = s.registers

namespace Device

variable {d : Device}

/-- A peripheral that is derived and has no nodes comes to have those of its source. After
properties are taken from above this is still so, if the one that is derived sets none. -/
theorem sameRegisters_resolve (succeeds : d.resolve.fault = none) {position : Nat} {p : Peripheral}
    (here : d.peripherals[position]? = some p) (derived : p.derivedFrom ≠ none)
    (empty : p.nodes = []) :
    ∃ source, Link d.peripherals position source ∧
      SameRegisters d.resolve.state.peripherals position source ∧
      (p.properties = {} → SameRegisters d.resolve.state.cascade.peripherals position source) := by
  rcases getElem?_resolveScope (peripherals_resolve succeeds).1 here with
    ⟨free, _⟩ | ⟨next, source, link, sameKind, there, now⟩
  · exact absurd free derived
  · obtain ⟨_, reached⟩ := getElem?_resolve succeeds now
    obtain ⟨_, reachedSource⟩ := getElem?_resolve succeeds there
    obtain ⟨nodes, properties⟩ := Peripheral.takeFrom_of_empty derived source
    have registers : (takeFrom p source).resolve.state.registers =
        source.resolve.state.registers := by
      rw [Peripheral.registers_resolve, Peripheral.registers_resolve, nodes empty]
    refine ⟨next, link, ⟨_, _, reached, reachedSource, registers⟩, fun unset => ?_⟩
    -- the registers of both are filled from the same properties
    have around : (takeFrom p source).resolve.state.properties =
        source.resolve.state.properties := by
      rw [Peripheral.properties_resolve, Peripheral.properties_resolve, properties unset]
    refine ⟨_, _, getElem?_cascade reached, getElem?_cascade reachedSource, ?_⟩
    simp only [Peripheral.cascade, registers, around]

/-- **A device is resolved at every depth.** Nothing in it is derived any more, and resolving it
again changes nothing. What held nothing of its own and was derived from a sibling holds what the
sibling holds, wherever the two stand. For peripherals this is still so after properties were taken
from above, if the one that is derived sets none. -/
theorem resolve_complete {d resolved : Device} (succeeds : d.resolve.fault = none)
    (reached : d.resolve.state = resolved) :
    resolved.Settled ∧
      (resolved.resolve.fault = none ∧ resolved.resolve.state = resolved) ∧
      (∀ position p, d.peripherals[position]? = some p → p.derivedFrom ≠ none → p.nodes = [] →
        ∃ source, Link d.peripherals position source ∧
          SameRegisters resolved.peripherals position source ∧
          (p.properties = {} → SameRegisters resolved.cascade.peripherals position source)) ∧
      ∀ path nodes position node, d.nodesAt? path = some nodes → nodes[position]? = some node →
        node.derivedFrom ≠ none → node.IsEmpty →
        ∃ source after, Link nodes position source ∧ resolved.nodesAt? path = some after ∧
          SameContents after position source := by
  subst reached
  have settled := settled_resolve succeeds
  have rests := resolve_rests settled
  refine ⟨settled, ⟨rests.fault, rests.state⟩, fun position p here derived empty =>
    sameRegisters_resolve succeeds here derived empty, ?_⟩
  intro path nodes position node found here derived empty
  -- a list with an element is not replaced by one of a source
  have filled : nodes ≠ [] := List.ne_nil_of_mem (List.mem_of_getElem? here)
  obtain ⟨inside, after⟩ := nodesAt?_resolve succeeds found filled
  obtain ⟨source, link, same⟩ := Node.sameContents_resolveAll inside here derived empty
  exact ⟨source, _, link, after, same⟩

/-- Two banks in a port, the second of them derived and without registers, and a second port that
is derived from the first. In the first bank a register takes its fields from another one, whose
fields are derived as well. -/
def copiedBanks : Device where
  name := "DEV"
  version := "1"
  description := "a device"
  addressUnitBits := 8
  width := 32
  peripherals :=
    [{ name := "PORTB", baseAddress := 0x200, derivedFrom := some "PORTA" },
     { name := "PORTA", baseAddress := 0x100
       registers := some
        [.cluster { name := "B1", addressOffset := 0x10, derivedFrom := some "B0" } [],
         .cluster { name := "B0", addressOffset := 0, properties := { size := some 16 } }
          [.register { name := "SET", addressOffset := 2, derivedFrom := some "OUT" },
           .register
            { name := "OUT", addressOffset := 0
              fields := some
                [{ name := "P1", bitRange := ⟨1, 1⟩, derivedFrom := some "P0" },
                 { name := "P0", bitRange := ⟨0, 0⟩, access := some .readWrite }] }]] }]

/-- A device in which a bank without registers takes those of another, whose fields are derived. -/
theorem resolve_complete_copiedBanks :
    copiedBanks.resolve.fault = none ∧ copiedBanks.resolve.state.Settled ∧
      (∃ source, Link copiedBanks.peripherals 0 source ∧
        SameRegisters copiedBanks.resolve.state.cascade.peripherals 0 source) ∧
      (∃ banks source after, copiedBanks.nodesAt? [1] = some banks ∧ Link banks 0 source ∧
        copiedBanks.resolve.state.nodesAt? [1] = some after ∧ SameContents after 0 source) ∧
      ∃ registers source after, copiedBanks.nodesAt? [1, 1] = some registers ∧
        Link registers 0 source ∧ copiedBanks.resolve.state.nodesAt? [1, 1] = some after ∧
        SameContents after 0 source := by
  have succeeds : copiedBanks.resolve.fault = none := by decide +kernel
  obtain ⟨settled, _, peripherals, nodes⟩ := resolve_complete succeeds rfl
  obtain ⟨port, ofPort, _, complete⟩ := peripherals 0 _ rfl (by decide) rfl
  obtain ⟨bank, banks, ofBank, nowBanks, sameBanks⟩ := nodes [1] _ 0 _ rfl rfl nofun rfl
  obtain ⟨set, registers, ofSet, nowRegisters, sameRegisters⟩ :=
    nodes [1, 1] _ 0 _ rfl rfl nofun rfl
  exact ⟨succeeds, settled, ⟨port, ofPort, complete rfl⟩,
    ⟨_, bank, banks, rfl, ofBank, nowBanks, sameBanks⟩,
    _, set, registers, rfl, ofSet, nowRegisters, sameRegisters⟩

end Device

end RegisterMap
