import Mathlib.Data.List.Chain
import RegisterMap.Proofs.Emit.Collected
import RegisterMap.Proofs.FirstOfEach
import RegisterMap.Proofs.Grouping.Peripherals

/-!
# The walk along the sources of a group

The registers of a group are collected along the sources of its leader. A peripheral leads to the
first one of the name that it refers to, and a walk goes on until there is none or it has been
visited (`IsSourceWalk`). References may be those of any device, resolved or not: they may lead
nowhere or in a circle. Since a peripheral leads to one other at most, there is one such walk from a
position, and `sourceWalk` takes it.

The nodes that are passed on the walk decide what is collected
(`PeripheralGroup.registers_alongWalk`): if there is a cluster among them, the first one is refused,
and otherwise the registers are the first of each name.
-/

namespace RegisterMap

variable {peripherals : List Peripheral}

/-! ## Links -/

/-- A peripheral refers to a name: it is derived from it or, if it is derived from none, it was. An
empty name is none. -/
def Peripheral.RefersTo (p : Peripheral) (reference : String) : Prop :=
  reference ≠ "" ∧ (p.derivedFrom = some reference ∨
    (p.derivedFrom = none ∨ p.derivedFrom = some "") ∧ p.resolvedFrom = some reference)

/-- The peripheral at one position leads to that at another, the first of the name that it refers
to. -/
def LeadsTo (peripherals : List Peripheral) (position next : Nat) : Prop :=
  ∃ p q, peripherals[position]? = some p ∧ peripherals[next]? = some q ∧ p.RefersTo q.name ∧
    ∀ earlier < next, ∀ other, peripherals[earlier]? = some other → other.name ≠ q.name

/-- A peripheral refers to its source, if that has a name. -/
theorem Peripheral.refersTo_iff {p : Peripheral} {reference : String} :
    p.RefersTo reference ↔ p.source = some reference ∧ reference ≠ "" := by
  unfold RefersTo source
  cases derived : p.derivedFrom with
  | none => simp [and_comm]
  | some given =>
    by_cases empty : given = ""
    · simp only [empty, if_true, Option.some.injEq, reduceCtorEq, or_true, true_and]
      constructor
      · rintro ⟨named, same | was⟩
        · exact absurd same.symm named
        · exact ⟨was, named⟩
      · exact fun ⟨was, named⟩ => ⟨named, .inr was⟩
    · simp [empty, and_comm]

/-- What is found under a name is the first peripheral of that name. -/
theorem peripheralNamed_eq_some {wanted : String} {q : Peripheral} {next : Nat} :
    peripheralNamed peripherals wanted = some (q, next) ↔
      peripherals[next]? = some q ∧ q.name = wanted ∧
        ∀ earlier < next, ∀ other, peripherals[earlier]? = some other → other.name ≠ wanted := by
  rw [peripheralNamed, List.find?_eq_some_iff_getElem]
  simp only [decide_eq_true_eq, List.getElem_zipIdx, Nat.zero_add, List.length_zipIdx]
  constructor
  · rintro ⟨named, place, inside, same, before⟩
    cases same
    refine ⟨List.getElem?_eq_getElem inside, named, fun earlier less other there => ?_⟩
    obtain ⟨_, rfl⟩ := List.getElem?_eq_some_iff.mp there
    simpa using before earlier less
  · rintro ⟨here, named, before⟩
    obtain ⟨inside, rfl⟩ := List.getElem?_eq_some_iff.mp here
    refine ⟨named, next, inside, rfl, fun earlier less => ?_⟩
    simpa using before earlier less _ (List.getElem?_eq_getElem (Nat.lt_trans less inside))

/-- A peripheral leads to a position in the list only. -/
theorem LeadsTo.lt_length {position next : Nat} (leads : LeadsTo peripherals position next) :
    next < peripherals.length := by
  obtain ⟨_, _, _, there, _⟩ := leads
  exact (List.getElem?_eq_some_iff.mp there).1

/-- What a peripheral leads to is what the search for the name of its source finds. -/
theorem leadsTo_iff {position next : Nat} {p : Peripheral}
    (here : peripherals[position]? = some p) :
    LeadsTo peripherals position next ↔ ∃ reference q, p.source = some reference ∧ reference ≠ "" ∧
      peripheralNamed peripherals reference = some (q, next) := by
  constructor
  · rintro ⟨p', q, here', there, refers, before⟩
    cases here.symm.trans here'
    obtain ⟨given, named⟩ := Peripheral.refersTo_iff.mp refers
    exact ⟨q.name, q, given, named, peripheralNamed_eq_some.mpr ⟨there, rfl, before⟩⟩
  · rintro ⟨reference, q, given, named, found⟩
    obtain ⟨there, rfl, before⟩ := peripheralNamed_eq_some.mp found
    exact ⟨p, q, here, there, Peripheral.refersTo_iff.mpr ⟨given, named⟩, before⟩

/-- A peripheral leads to one other at most. -/
theorem LeadsTo.unique {position next other : Nat} (leads : LeadsTo peripherals position next)
    (leads' : LeadsTo peripherals position other) : next = other := by
  have here := leads.choose_spec.choose_spec.1
  obtain ⟨reference, _, given, _, found⟩ := (leadsTo_iff here).mp leads
  obtain ⟨reference', _, given', _, found'⟩ := (leadsTo_iff here).mp leads'
  cases given.symm.trans given'
  cases found.symm.trans found'
  rfl

/-! ## Walks -/

/-- A walk through the positions of peripherals: each leads to the next one, none is visited twice,
and it ends only where the last leads to none that has not been visited. -/
structure IsSourceWalk (peripherals : List Peripheral) (start : Nat) (visited : List Nat) :
    Prop where
  begins : visited.head? = some start
  inside : ∀ position ∈ visited, position < peripherals.length
  once : visited.Nodup
  follows : visited.IsChain (LeadsTo peripherals)
  ends : ∀ last, visited.getLast? = some last →
    ∀ next, LeadsTo peripherals last next → next ∈ visited

/-- Of two chains of links from one position, one begins with the other. -/
theorem isPrefix_or_isPrefix_of_isChain {start : Nat} {front other : List Nat}
    (chain : (start :: front).IsChain (LeadsTo peripherals))
    (chain' : (start :: other).IsChain (LeadsTo peripherals)) :
    front <+: other ∨ other <+: front := by
  induction front generalizing start other with
  | nil => exact .inl List.nil_prefix
  | cons next rest ih =>
    cases other with
    | nil => exact .inr List.nil_prefix
    | cons next' rest' =>
      obtain ⟨leads, chain⟩ := List.isChain_cons_cons.mp chain
      obtain ⟨leads', chain'⟩ := List.isChain_cons_cons.mp chain'
      cases leads.unique leads'
      exact (ih chain chain').imp (List.prefix_cons_inj next).mpr (List.prefix_cons_inj next).mpr

namespace IsSourceWalk

variable {start : Nat} {visited other : List Nat}

/-- A walk cannot be continued to another one. -/
theorem eq_of_isPrefix (h : IsSourceWalk peripherals start visited)
    (h' : IsSourceWalk peripherals start other) (begins : visited <+: other) : visited = other := by
  obtain ⟨more, rfl⟩ := begins
  cases more with
  | nil => rw [List.append_nil]
  | cons next rest =>
    obtain ⟨_, _, across⟩ := List.isChain_append.mp h'.follows
    obtain ⟨last, isLast⟩ : ∃ last, visited.getLast? = some last := by
      cases visited with
      | nil => cases h.begins
      | cons first others => exact ⟨_, List.getLast?_eq_some_getLast (List.cons_ne_nil _ _)⟩
    -- the last position of the shorter walk leads to the next one of the longer
    have again := h.ends last isLast next (across last isLast next rfl)
    have apart := (List.nodup_append.mp h'.once).2.2
    exact absurd rfl (apart next again next List.mem_cons_self)

/-- There is one walk from a position: of two, one begins the other, and the other cannot go on where
the one has ended. -/
theorem unique (h : IsSourceWalk peripherals start visited)
    (h' : IsSourceWalk peripherals start other) : visited = other := by
  obtain ⟨front, rfl⟩ := List.head?_eq_some_iff.mp h.begins
  obtain ⟨front', rfl⟩ := List.head?_eq_some_iff.mp h'.begins
  rcases isPrefix_or_isPrefix_of_isChain h.follows h'.follows with shorter | shorter
  · exact h.eq_of_isPrefix h' ((List.prefix_cons_inj start).mpr shorter)
  · exact (h'.eq_of_isPrefix h ((List.prefix_cons_inj start).mpr shorter)).symm

end IsSourceWalk

/-! ## The walk that is taken -/

section Step

variable {unseen : List Nat} {position next : Nat} {p : Peripheral}

/-- The walk goes on to the peripheral that is led to, if that has not been seen. -/
theorem sourceWalk_of_leadsTo (here : peripherals[position]? = some p)
    (leads : LeadsTo peripherals position next) (new : next ∈ unseen) :
    ∃ q, peripherals[next]? = some q ∧
      sourceWalk peripherals unseen p = p :: sourceWalk peripherals (unseen.erase next) q := by
  obtain ⟨reference, q, given, named, found⟩ := (leadsTo_iff here).mp leads
  refine ⟨q, (peripheralNamed_eq_some.mp found).1, ?_⟩
  conv_lhs => rw [sourceWalk]
  simp only [given, named, found, new, if_false, dif_pos]

/-- The walk ends if no peripheral that is led to is unseen. -/
theorem sourceWalk_of_end (here : peripherals[position]? = some p)
    (ends : ∀ next, LeadsTo peripherals position next → next ∉ unseen) :
    sourceWalk peripherals unseen p = [p] := by
  rw [sourceWalk]
  split
  · rfl
  next reference given =>
    split
    · rfl
    next named =>
      split
      · rfl
      next q next found =>
        exact dif_neg (ends next ((leadsTo_iff here).mpr ⟨reference, q, given, named, found⟩))

end Step

/-- Positions are visited after one, out of those that have not been seen. -/
structure WalksOn (peripherals : List Peripheral) (unseen : List Nat) (position : Nat)
    (rest : List Nat) : Prop where
  once : rest.Nodup
  fresh : rest ⊆ unseen
  follows : (position :: rest).IsChain (LeadsTo peripherals)
  ends : ∀ last, (position :: rest).getLast? = some last →
    ∀ next, LeadsTo peripherals last next → next ∈ unseen → next ∈ rest

/-- If nothing that is led to is unseen, then no position is visited any more. -/
theorem WalksOn.stop {unseen : List Nat} {position : Nat}
    (ends : ∀ next, LeadsTo peripherals position next → next ∉ unseen) :
    WalksOn peripherals unseen position [] where
  once := .nil
  fresh := List.nil_subset unseen
  follows := .singleton position
  ends := by
    rintro _ ⟨⟩ next leads new
    exact absurd new (ends next leads)

/-- A walk takes a step to an unseen position that is led to, and goes on from there. It does not come
back, since the position is taken out of the unseen ones. -/
theorem WalksOn.step {unseen rest : List Nat} {position next : Nat} (nodup : unseen.Nodup)
    (leads : LeadsTo peripherals position next) (new : next ∈ unseen)
    (h : WalksOn peripherals (unseen.erase next) next rest) :
    WalksOn peripherals unseen position (next :: rest) where
  once := List.nodup_cons.mpr ⟨fun again => nodup.not_mem_erase (h.fresh again), h.once⟩
  fresh := List.cons_subset.mpr ⟨new, List.Subset.trans h.fresh List.erase_subset⟩
  follows := List.isChain_cons_cons.mpr ⟨leads, h.follows⟩
  ends := by
    intro last isLast further leadsOn unvisited
    rw [List.getLast?_cons_cons] at isLast
    by_cases same : further = next
    · exact same ▸ List.mem_cons_self
    · refine List.mem_cons_of_mem _ (h.ends last isLast further leadsOn ?_)
      exact (List.mem_erase_of_ne same).mpr unvisited

/-- **A run of the walk.** It goes on through positions that have not been seen, as long as there
is one. -/
theorem exists_walksOn {unseen : List Nat} (nodup : unseen.Nodup) {position : Nat} {p : Peripheral}
    (here : peripherals[position]? = some p) :
    ∃ rest, WalksOn peripherals unseen position rest ∧
      (sourceWalk peripherals unseen p).map some = (position :: rest).map (peripherals[·]?) := by
  by_cases goesOn : ∃ next, LeadsTo peripherals position next ∧ next ∈ unseen
  · obtain ⟨next, leads, new⟩ := goesOn
    obtain ⟨q, there, step⟩ := sourceWalk_of_leadsTo here leads new
    obtain ⟨rest, walks, visited⟩ := exists_walksOn (nodup.erase next) there
    refine ⟨next :: rest, walks.step nodup leads new, ?_⟩
    rw [step, List.map_cons, visited, ← here, ← List.map_cons]
  · have ends : ∀ next, LeadsTo peripherals position next → next ∉ unseen :=
      fun next leads new => goesOn ⟨next, leads, new⟩
    refine ⟨[], .stop ends, ?_⟩
    rw [sourceWalk_of_end here ends, List.map_singleton, List.map_singleton, here]
termination_by unseen.length
decreasing_by
  rw [List.length_erase_of_mem new]
  have := List.length_pos_of_mem new
  omega

/-- The walk from a position, with all others unseen, is the one along its sources. -/
theorem exists_isSourceWalk {position : Nat} {p : Peripheral}
    (here : peripherals[position]? = some p) :
    ∃ visited, IsSourceWalk peripherals position visited ∧
      sourceWalk peripherals ((List.range peripherals.length).erase position) p =
        visited.filterMap (peripherals[·]?) := by
  have nodup : (List.range peripherals.length).Nodup := List.nodup_range
  obtain ⟨rest, walks, visited⟩ := exists_walksOn (nodup.erase position) here
  -- in the beginning, whatever is not the start is unseen
  have unseen : ∀ other, other ∈ (List.range peripherals.length).erase position ↔
      other ≠ position ∧ other < peripherals.length := fun other => by
    rw [nodup.mem_erase_iff, List.mem_range]
  refine ⟨position :: rest, ⟨rfl, ?_, ?_, walks.follows, ?_⟩, ?_⟩
  · intro other mem
    rcases List.mem_cons.mp mem with rfl | later
    · exact (List.getElem?_eq_some_iff.mp here).1
    · exact ((unseen other).mp (walks.fresh later)).2
  · exact List.nodup_cons.mpr ⟨fun again => ((unseen position).mp (walks.fresh again)).1 rfl,
      walks.once⟩
  · intro last isLast next leads
    by_cases same : next = position
    · exact same ▸ List.mem_cons_self
    · exact List.mem_cons_of_mem _
        (walks.ends last isLast next leads ((unseen next).mpr ⟨same, leads.lt_length⟩))
  · have whole := congrArg (List.filterMap id) visited
    rwa [List.filterMap_map, List.filterMap_map, Function.id_comp, List.filterMap_some] at whole

/-! ## What is collected -/

namespace Node

/-- There is a first cluster among some nodes, or there is none. -/
theorem forall_or_exists_cluster (nodes : List Node) :
    (∀ node ∈ nodes, node.cluster? = none) ∨ ∃ before c members after,
      nodes = before ++ .cluster c members :: after ∧ ∀ node ∈ before, node.cluster? = none := by
  induction nodes with
  | nil => exact .inl fun _ mem => absurd mem List.not_mem_nil
  | cons node rest ih =>
    cases node with
    | cluster c members =>
      exact .inr ⟨[], c, members, rest, rfl, fun _ mem => absurd mem List.not_mem_nil⟩
    | register r =>
      refine ih.imp (fun none => List.forall_mem_cons.mpr ⟨rfl, none⟩) ?_
      rintro ⟨before, c, members, after, rfl, none⟩
      exact ⟨.register r :: before, c, members, after, rfl, List.forall_mem_cons.mpr ⟨rfl, none⟩⟩

end Node

/-- Where there is no cluster, the first register of each name is collected. -/
theorem collectRegisters_of_registers (group : String) (known : List String) {nodes : List Node}
    (none : ∀ node ∈ nodes, node.cluster? = none) :
    collectRegisters group known nodes =
      .ok (firsts (·.name) known (nodes.filterMap Node.register?)) := by
  induction nodes generalizing known with
  | nil => rfl
  | cons node rest ih =>
    obtain ⟨own, others⟩ := List.forall_mem_cons.mp none
    cases node with
    | cluster _ _ => cases own
    | register r =>
      have own : (Node.register r).register? = some r := rfl
      rw [List.filterMap_cons_some own, collectRegisters]
      by_cases old : r.name ∈ known
      · rw [if_pos old, ih known others, firsts_of_known old]
      · rw [if_neg old, ih _ others, firsts_of_new old]
        rfl

/-- The first cluster is refused, whatever is before and behind it. -/
theorem collectRegisters_of_cluster (group : String) (known : List String) {before : List Node}
    (none : ∀ node ∈ before, node.cluster? = none) (c : Cluster) (members after : List Node) :
    collectRegisters group known (before ++ .cluster c members :: after) =
      .error (.unsupported (.clusterInGroup c.name group)) := by
  induction before generalizing known with
  | nil => rfl
  | cons node rest ih =>
    obtain ⟨own, others⟩ := List.forall_mem_cons.mp none
    cases node with
    | cluster _ _ => cases own
    | register r =>
      rw [List.cons_append, collectRegisters]
      split
      · exact ih known others
      · rw [ih _ others]
        rfl

namespace PeripheralGroup

variable {group : PeripheralGroup}

/-- A member leads a group: it is the first that has a node or, if none has one, the first. -/
def IsLeader (group : PeripheralGroup) (m : Member) : Prop :=
  (m.peripheral.nodes ≠ [] ∧ ∃ before after, group.members = before ++ m :: after ∧
      ∀ other ∈ before, other.peripheral.nodes = []) ∨
    ((∀ other ∈ group.members, other.peripheral.nodes = []) ∧ group.members.head? = some m)

/-- What is looked up as the leader of a group leads it. -/
theorem isLeader_of_leader? {m : Member} (leads : group.leader? = some m) : group.IsLeader m := by
  unfold leader? at leads
  split at leads
  case h_1 found =>
    cases leads
    obtain ⟨some, before, after, members, none⟩ := List.find?_eq_some_iff_append.mp found
    exact .inl ⟨by simpa using some, before, after, members, by simpa using none⟩
  case h_2 none => exact .inr ⟨by simpa using none, leads⟩

/-- Every group that has members has a leader. -/
theorem exists_leader? (nonempty : group.members ≠ []) : ∃ m, group.leader? = some m := by
  unfold leader?
  split
  · exact ⟨_, rfl⟩
  · exact ⟨_, List.head?_eq_some_head nonempty⟩

/-- What is collected for a group from some nodes: if there is a cluster, it is refused and the
first one is named, and otherwise there are the first registers of each name. -/
structure Collects (group : PeripheralGroup) (nodes : List Node)
    (registers : Except Fault (List Register)) : Prop where
  refuses : ∀ fault, registers = .error fault ↔
    ∃ before c members after, nodes = before ++ .cluster c members :: after ∧
      (∀ node ∈ before, node.cluster? = none) ∧
      fault = .unsupported (.clusterInGroup c.name group.structName)
  gives : (∀ node ∈ nodes, node.cluster? = none) →
    ∃ chosen, registers = .ok chosen ∧ AreFirsts (·.name) (nodes.filterMap Node.register?) chosen

/-- One pass over nodes refuses the first cluster, or collects the first registers of each name. -/
theorem collects_collectRegisters (group : PeripheralGroup) (nodes : List Node) :
    group.Collects nodes (collectRegisters group.structName [] nodes) where
  refuses fault := by
    constructor
    · intro refused
      rcases Node.forall_or_exists_cluster nodes with none | ⟨before, c, members, after, rfl, none⟩
      · rw [collectRegisters_of_registers _ _ none] at refused
        cases refused
      · rw [collectRegisters_of_cluster _ _ none] at refused
        cases refused
        exact ⟨before, c, members, after, rfl, none, rfl⟩
    · rintro ⟨before, c, members, after, rfl, none, rfl⟩
      exact collectRegisters_of_cluster _ _ none c members after
  gives none := ⟨_, collectRegisters_of_registers _ _ none, areFirsts_firsts _ _⟩

/-- **Registers are collected along the sources of the leader.** For a group of peripherals of any
device there is one walk along the sources of its leader, through peripherals of the device, and the
nodes that are passed on it decide what is collected. -/
theorem registers_alongWalk (members : ∀ m ∈ group.members,
      peripherals[m.position]? = some m.peripheral) (nonempty : group.members ≠ []) :
    ∃ leader visited, group.IsLeader leader ∧
      IsSourceWalk peripherals leader.position visited ∧
      (∀ other, IsSourceWalk peripherals leader.position other → other = visited) ∧
      group.sources peripherals = visited.filterMap (peripherals[·]?) ∧
      group.Collects ((visited.filterMap (peripherals[·]?)).flatMap (·.nodes))
        (group.registers peripherals) := by
  obtain ⟨leader, leads⟩ := exists_leader? nonempty
  obtain ⟨visited, walk, passed⟩ := exists_isSourceWalk (members leader (mem_of_leader? leads))
  have sources : group.sources peripherals = visited.filterMap (peripherals[·]?) := by
    rw [← passed, PeripheralGroup.sources, leads]
  refine ⟨leader, visited, isLeader_of_leader? leads, walk, fun _ other => other.unique walk,
    sources, ?_⟩
  rw [registers, sources]
  exact group.collects_collectRegisters _

/-- Two peripherals that refer to each other. The second one has a namesake with a cluster, which
is not reached. -/
def inACircle : List Peripheral :=
  [{ name := "A", baseAddress := 0x100, derivedFrom := some "B"
     registers := some [.register { name := "CR", addressOffset := 0 }] },
   { name := "B", baseAddress := 0x200, derivedFrom := some "", resolvedFrom := some "A"
     registers := some
      [.register { name := "SR", addressOffset := 8 },
       .register { name := "CR", addressOffset := 4 }] },
   { name := "B", baseAddress := 0x300
     registers := some [.cluster { name := "CH", addressOffset := 0 } []] }]

/-- The group of all of them. -/
def ofCircle : PeripheralGroup where
  moduleName := "G"
  structName := "G"
  members := Arrangement.membersOf inACircle

/-- Two peripherals that refer to each other are both passed, and no third one. -/
theorem registers_alongWalk_inACircle :
    (∀ m ∈ ofCircle.members, inACircle[m.position]? = some m.peripheral) ∧ ofCircle.members ≠ [] ∧
      (ofCircle.sources inACircle).map (·.baseAddress) = [0x100, 0x200] ∧
      (ofCircle.registers inACircle).toOption.map (·.map fun r => (r.name, r.addressOffset)) =
        some [("CR", 0), ("SR", 8)] ∧
      ∃ leader visited, ofCircle.IsLeader leader ∧
        IsSourceWalk inACircle leader.position visited ∧
        (∀ other, IsSourceWalk inACircle leader.position other → other = visited) ∧
        ofCircle.sources inACircle = visited.filterMap (inACircle[·]?) ∧
        ofCircle.Collects ((visited.filterMap (inACircle[·]?)).flatMap (·.nodes))
          (ofCircle.registers inACircle) := by
  have members : ∀ m ∈ ofCircle.members, inACircle[m.position]? = some m.peripheral :=
    fun m mem => Arrangement.getElem?_of_mem_membersOf mem
  have nonempty : ofCircle.members ≠ [] := List.cons_ne_nil _ _
  exact ⟨members, nonempty, by decide +kernel, by decide +kernel,
    registers_alongWalk members nonempty⟩

end PeripheralGroup

end RegisterMap
