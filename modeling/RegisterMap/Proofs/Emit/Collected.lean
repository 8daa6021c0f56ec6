import RegisterMap.Proofs.Emit.Items

/-!
# The registers that a group shares

The module of a group has one register of each name: the first of that name among the
nodes of the peripherals from which its registers are collected
(`mem_collectRegisters`). Those of the leader come first. Registers of one name in lists
that are similar lie at the same offset and are accessed alike, so for a group whose
members have similar lists it does not matter which member leads.
-/

namespace RegisterMap

/-! ## The first register of a name -/

/-- The first register of a name among some nodes. -/
def registerNamed? (nodes : List Node) (wanted : String) : Option Register :=
  (nodes.filterMap Node.register?).find? fun r => r.name = wanted

theorem Node.eq_of_register? {node : Node} {r : Register} (own : node.register? = some r) :
    node = .register r := by
  cases node with
  | register _ => exact congrArg Node.register (Option.some.inj own)
  | cluster _ _ => cases own

theorem registerNamed?_register_cons (r : Register) (rest : List Node) (wanted : String) :
    registerNamed? (.register r :: rest) wanted =
      if r.name = wanted then some r else registerNamed? rest wanted := by
  by_cases same : r.name = wanted <;>
    simp [registerNamed?, Node.register?, same]

/-- The first register of a name is in the front nodes, if it is there at all, or else behind
them. -/
theorem registerNamed?_append (front back : List Node) (wanted : String) :
    registerNamed? (front ++ back) wanted =
      (registerNamed? front wanted).or (registerNamed? back wanted) := by
  simp only [registerNamed?, List.filterMap_append, List.find?_append]

theorem name_of_registerNamed? {nodes : List Node} {wanted : String} {r : Register}
    (found : registerNamed? nodes wanted = some r) : r.name = wanted := by
  simpa only [decide_eq_true_eq] using List.find?_some found

/-! ## Registers that are accessed alike -/

/-- Two registers lie at the same offset, are of one size, and can be read and written
alike. -/
structure Register.SameAccess (r other : Register) : Prop where
  offset : r.addressOffset = other.addressOffset
  size : r.size = other.size
  reads : r.isRead = other.isRead
  writes : r.isWrite = other.isWrite

/-- Similar registers have one name. -/
theorem Register.name_of_similar {ignoreFields : Bool} {r other : Register}
    (h : r.similar ignoreFields other = true) : r.name = other.name := by
  simp only [Register.similar, Bool.and_eq_true, decide_eq_true_eq] at h
  exact h.1.1.1.1.1

/-- Similar registers are accessed alike. -/
theorem Register.sameAccess_of_similar {ignoreFields : Bool} {r other : Register}
    (h : r.similar ignoreFields other = true) : r.SameAccess other := by
  simp only [Register.similar, RegisterProperties.similar, Bool.and_eq_true, decide_eq_true_eq] at h
  obtain ⟨⟨⟨⟨⟨_, offset⟩, ⟨size, access⟩, _⟩, _⟩, _⟩, _⟩ := h
  refine ⟨offset, ?_, ?_, ?_⟩
  · rw [Register.size, Register.size, size]
  · rw [Register.isRead, Register.isRead, Register.access, Register.access, access]
  · rw [Register.isWrite, Register.isWrite, Register.access, Register.access, access]

/-- In lists that are similar, the first registers of a name are. -/
theorem registerNamed?_of_allSimilar {ignoreFields : Bool} {nodes others : List Node}
    (h : Node.allSimilar ignoreFields nodes others = true) {wanted : String} {r : Register}
    (found : registerNamed? others wanted = some r) :
    ∃ s, registerNamed? nodes wanted = some s ∧ s.similar ignoreFields r = true := by
  induction nodes generalizing others with
  | nil =>
    cases others with
    | nil => cases found
    | cons _ _ => cases h
  | cons node rest ih =>
    cases others with
    | nil => cases h
    | cons other others =>
      obtain ⟨first, later⟩ := Bool.and_eq_true_iff.mp h
      cases node with
      | register a =>
        cases other with
        | register b =>
          -- similar registers have one name, so both searches stop here or both go on
          have sameName := Register.name_of_similar first
          rw [registerNamed?_register_cons] at found ⊢
          by_cases same : b.name = wanted
          · rw [if_pos same] at found
            cases found
            exact ⟨a, if_pos (sameName.trans same), first⟩
          · rw [if_neg same] at found
            rw [if_neg fun own => same (sameName.symm.trans own)]
            exact ih later found
        | cluster _ _ => cases first
      | cluster a members =>
        cases other with
        | register _ => cases first
        | cluster b others => exact ih later found

/-! ## What is collected -/

/-- Of each name that is not known, the first register is collected. -/
theorem mem_collectRegisters {group : String} {known : List String} {nodes : List Node}
    {registers : List Register} (collected : collectRegisters group known nodes = .ok registers)
    {r : Register} :
    r ∈ registers ↔ r.name ∉ known ∧ registerNamed? nodes r.name = some r := by
  induction nodes generalizing known registers with
  | nil =>
    cases collected
    simp [registerNamed?]
  | cons node rest ih =>
    cases node with
    | cluster c members => cases collected
    | register first =>
      rw [registerNamed?_register_cons]
      unfold collectRegisters at collected
      split at collected
      case isTrue old =>
        -- a name that is known is none that is looked for
        have other : r.name ∉ known → first.name ≠ r.name := fun unknown same =>
          unknown (same ▸ old)
        rw [ih collected]
        exact and_congr_right fun unknown => by rw [if_neg (other unknown)]
      case isFalse new =>
        obtain ⟨more, further, rfl⟩ := map_eq_ok.mp collected
        rw [List.mem_cons, ih further]
        by_cases same : first.name = r.name
        · rw [if_pos same]
          refine ⟨?_, fun ⟨_, found⟩ => .inl (Option.some.inj found).symm⟩
          rintro (rfl | ⟨others, _⟩)
          · exact ⟨new, rfl⟩
          · exact absurd (same ▸ List.mem_cons_self) others
        · have other : r ≠ first := fun equal => same (equal ▸ rfl)
          have fresh : r.name ∉ first.name :: known ↔ r.name ∉ known := by
            rw [List.mem_cons, not_or]
            exact ⟨And.right, fun unknown => ⟨fun equal => same equal.symm, unknown⟩⟩
          rw [if_neg same, fresh]
          exact ⟨fun h => h.resolve_left other, .inr⟩

/-! ## Where registers are collected -/

/-- The walk along the sources of a peripheral begins with it. -/
theorem exists_sourceWalk_eq_cons (peripherals : List Peripheral) (unseen : List Nat)
    (p : Peripheral) : ∃ rest, sourceWalk peripherals unseen p = p :: rest := by
  unfold sourceWalk
  split
  · exact ⟨[], rfl⟩
  · split
    · exact ⟨[], rfl⟩
    · split
      · exact ⟨[], rfl⟩
      · split
        · exact ⟨_, rfl⟩
        · exact ⟨[], rfl⟩

/-- Further on the walk passes peripherals of the device only. -/
theorem mem_of_mem_sourceWalk {peripherals : List Peripheral} {unseen : List Nat}
    {p q : Peripheral} (mem : q ∈ sourceWalk peripherals unseen p) : q = p ∨ q ∈ peripherals := by
  induction unseen, p using sourceWalk.induct peripherals with
  | case1 unseen p none =>
    rw [sourceWalk, none] at mem
    exact .inl (List.mem_singleton.mp mem)
  | case2 unseen p empty =>
    rw [sourceWalk, empty] at mem
    exact .inl (List.mem_singleton.mp mem)
  | case3 unseen p reference given named missing =>
    rw [sourceWalk] at mem
    simp only [given, named, missing, if_false] at mem
    exact .inl (List.mem_singleton.mp mem)
  | case4 unseen p reference given named source next found new ih =>
    rw [sourceWalk] at mem
    simp only [given, named, found, new, if_false, dif_pos] at mem
    -- the walk goes on to a peripheral that was found in the list
    have memSource : source ∈ peripherals :=
      List.fst_mem_of_mem_zipIdx (List.mem_of_find?_eq_some found)
    rcases List.mem_cons.mp mem with same | further
    · exact .inl same
    · rcases ih further with rfl | inside
      · exact .inr memSource
      · exact .inr inside
  | case5 unseen p reference given named source next found old =>
    rw [sourceWalk] at mem
    simp only [given, named, found, old, if_false, dif_neg, not_false_iff] at mem
    exact .inl (List.mem_singleton.mp mem)

namespace PeripheralGroup

variable {peripherals : List Peripheral} {group : PeripheralGroup}

/-- The register that a group has for a name. -/
def shared? (peripherals : List Peripheral) (group : PeripheralGroup) (wanted : String) :
    Option Register :=
  registerNamed? ((group.sources peripherals).flatMap (·.nodes)) wanted

/-- The leader of a group is one of its members. -/
theorem mem_of_leader? {m : Member} (leads : group.leader? = some m) : m ∈ group.members := by
  unfold leader? at leads
  split at leads
  case h_1 found =>
    cases leads
    exact List.mem_of_find?_eq_some found
  case h_2 => exact List.mem_of_head? leads

/-- The registers of a group are nodes of peripherals of the device, if its members are. -/
theorem exists_of_mem_registers {registers : List Register}
    (members : ∀ m ∈ group.members, m.peripheral ∈ peripherals)
    (collected : group.registers peripherals = .ok registers) {r : Register}
    (mem : r ∈ registers) : ∃ p ∈ peripherals, Node.register r ∈ p.nodes := by
  have found := ((mem_collectRegisters collected).mp mem).2
  obtain ⟨node, memNode, own⟩ := List.mem_filterMap.mp (List.mem_of_find?_eq_some found)
  cases Node.eq_of_register? own
  obtain ⟨p, memP, memNodes⟩ := List.mem_flatMap.mp memNode
  refine ⟨p, ?_, memNodes⟩
  unfold sources at memP
  split at memP
  case h_1 => exact absurd memP List.not_mem_nil
  case h_2 m leads =>
    rcases mem_of_mem_sourceWalk memP with rfl | inside
    · exact members m (mem_of_leader? leads)
    · exact inside

/-- The registers of the leader come first. -/
theorem shared?_of_leader {leader : Member} (leads : group.leader? = some leader) {wanted : String}
    {r : Register} (found : registerNamed? leader.peripheral.nodes wanted = some r) :
    group.shared? peripherals wanted = some r := by
  obtain ⟨rest, begins⟩ := exists_sourceWalk_eq_cons peripherals
    ((List.range peripherals.length).erase leader.position) leader.peripheral
  rw [shared?, sources, leads]
  simp only [begins, List.flatMap_cons, registerNamed?_append, found, Option.some_or]

/-- The register of a member whose nodes are similar to those of the first member is
accessed like the one that the group has for its name. -/
theorem exists_shared?_of_allSimilar {ignoreFields : Bool} {first m : Member}
    (leads : group.members.head? = some first)
    (similar : Node.allSimilar ignoreFields first.peripheral.nodes m.peripheral.nodes = true)
    {wanted : String} {r : Register} (found : registerNamed? m.peripheral.nodes wanted = some r) :
    ∃ s, group.shared? peripherals wanted = some s ∧ s.SameAccess r := by
  obtain ⟨s, foundFirst, alike⟩ := registerNamed?_of_allSimilar similar found
  have nonempty : first.peripheral.nodes.isEmpty = false := by
    cases nodes : first.peripheral.nodes with
    | nil =>
      rw [nodes] at foundFirst
      cases foundFirst
    | cons _ _ => rfl
  have leader : group.leader? = some first := by
    obtain ⟨others, members⟩ := List.head?_eq_some_iff.mp leads
    simp only [leader?, members, List.find?_cons, nonempty, Bool.not_false]
  exact ⟨s, shared?_of_leader leader foundFirst, Register.sameAccess_of_similar alike⟩

end PeripheralGroup

end RegisterMap
