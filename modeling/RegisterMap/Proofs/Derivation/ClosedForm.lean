import RegisterMap.Proofs.Derivation.Scope

/-!
# What a thing is after its scope is resolved

Member by member, a resolved thing is given by its chain in the scope as it was written:
the thing itself, the sibling it is derived from, the sibling that one is derived from,
and so on. A member with one value is the first value that is set on the chain; a list is
the first one with elements. The name, the place and the interrupts are the thing's own,
and the thing remembers the sibling that it named.

`Field.closedForm`, `Node.closedForm` and `Peripheral.closedForm` write this down, and
`resolveScope_closedForm` says that every scope that is resolved consists of these forms,
whatever the order of the siblings and however often a name or a source is used.
-/

namespace RegisterMap

open Derivable

/-! ## First values -/

/-- The first value that a member has on a chain. -/
def firstSet {α β : Type} (member : α → Option β) (chain : List α) : Option β :=
  chain.findSome? member

/-- The first list with elements that a member has on a chain. -/
def firstList {α β : Type} (member : α → List β) (chain : List α) : List β :=
  ((chain.map member).find? (!·.isEmpty)).getD []

/-- The first list with elements that a member has on a chain. If there is none, the
member is as at the end of the chain, absent or empty. -/
def firstOptionalList {α β : Type} (member : α → Option (List β)) (chain : List α) :
    Option (List β) :=
  ((chain.filterMap member).find? (!·.isEmpty)).or (chain.getLast?.bind member)

section First

variable {α β : Type}

@[simp]
theorem firstSet_singleton (member : α → Option β) (item : α) :
    firstSet member [item] = member item := by
  cases own : member item <;> simp only [firstSet, List.findSome?_cons, own, List.findSome?_nil]

@[simp]
theorem firstSet_cons (member : α → Option β) (item source : α) (rest : List α) :
    firstSet member (item :: source :: rest) =
      (member item <|> firstSet member (source :: rest)) := by
  cases own : member item <;> simp only [firstSet, List.findSome?_cons, own] <;> rfl

@[simp]
theorem firstList_singleton (member : α → List β) (item : α) :
    firstList member [item] = member item := by
  cases own : member item <;> simp [firstList, own]

@[simp]
theorem firstList_cons (member : α → List β) (item source : α) (rest : List α) :
    firstList member (item :: source :: rest) =
      inheritList (member item) (firstList member (source :: rest)) := by
  cases own : member item <;> simp [firstList, own, inheritList]

@[simp]
theorem firstOptionalList_singleton (member : α → Option (List β)) (item : α) :
    firstOptionalList member [item] = member item := by
  rcases own : member item with _ | _ | _ <;> simp [firstOptionalList, own]

@[simp]
theorem firstOptionalList_cons (member : α → Option (List β)) (item source : α) (rest : List α) :
    firstOptionalList member (item :: source :: rest) =
      inheritOptionalList (member item) (firstOptionalList member (source :: rest)) := by
  rcases own : member item with _ | _ | _ <;>
    simp [firstOptionalList, own, inheritOptionalList, List.getLast?_cons_cons]

end First

/-- The properties along a chain, each the first that is set. -/
def RegisterProperties.firstSet (chain : List RegisterProperties) : RegisterProperties where
  size := RegisterMap.firstSet (·.size) chain
  access := RegisterMap.firstSet (·.access) chain
  protection := RegisterMap.firstSet (·.protection) chain
  resetValue := RegisterMap.firstSet (·.resetValue) chain
  resetMask := RegisterMap.firstSet (·.resetMask) chain

/-- The dimension along a chain, each member the first that is set. -/
def Dimension.firstSet (chain : List Dimension) : Dimension where
  dim := RegisterMap.firstSet (·.dim) chain
  dimIncrement := RegisterMap.firstSet (·.dimIncrement) chain
  dimIndex := RegisterMap.firstSet (·.dimIndex) chain

@[simp]
theorem RegisterProperties.firstSet_singleton (own : RegisterProperties) :
    RegisterProperties.firstSet [own] = own := by
  simp [RegisterProperties.firstSet]

@[simp]
theorem RegisterProperties.firstSet_cons (own other : RegisterProperties)
    (rest : List RegisterProperties) :
    RegisterProperties.firstSet (own :: other :: rest) =
      own.fill (RegisterProperties.firstSet (other :: rest)) := by
  simp [RegisterProperties.firstSet, RegisterProperties.fill]

@[simp]
theorem Dimension.firstSet_singleton (own : Dimension) : Dimension.firstSet [own] = own := by
  simp [Dimension.firstSet]

@[simp]
theorem Dimension.firstSet_cons (own other : Dimension) (rest : List Dimension) :
    Dimension.firstSet (own :: other :: rest) = own.fill (Dimension.firstSet (other :: rest)) := by
  simp [Dimension.firstSet, Dimension.fill]

/-! ## The closed forms -/

/-- A field with what it takes along a chain of sources, the nearest of them first. -/
def Field.closedForm (f : Field) (sources : List Field) : Field :=
  let chain := f :: sources
  { f with
    derivedFrom := none
    resolvedFrom := f.resolvedFrom <|> f.derivedFrom
    description := firstSet (·.description) chain
    access := firstSet (·.access) chain
    modifiedWriteValues := firstSet (·.modifiedWriteValues) chain
    readAction := firstSet (·.readAction) chain
    enumeratedValues := firstList (·.enumeratedValues) chain }

/-- A register with what it takes along a chain of sources, the nearest of them first. -/
def Register.closedForm (r : Register) (sources : List Register) : Register :=
  let chain := r :: sources
  { r with
    derivedFrom := none
    resolvedFrom := r.resolvedFrom <|> r.derivedFrom
    dim := Dimension.firstSet (chain.map (·.dim))
    displayName := firstSet (·.displayName) chain
    description := firstSet (·.description) chain
    alternateGroup := firstSet (·.alternateGroup) chain
    alternateRegister := firstSet (·.alternateRegister) chain
    properties := RegisterProperties.firstSet (chain.map (·.properties))
    dataType := firstSet (·.dataType) chain
    modifiedWriteValues := firstSet (·.modifiedWriteValues) chain
    readAction := firstSet (·.readAction) chain
    fields := firstOptionalList (·.fields) chain }

/-- A cluster, the nodes in it apart, with what it takes along a chain of sources. -/
def Cluster.closedForm (c : Cluster) (sources : List Cluster) : Cluster :=
  let chain := c :: sources
  { c with
    derivedFrom := none
    resolvedFrom := c.resolvedFrom <|> c.derivedFrom
    dim := Dimension.firstSet (chain.map (·.dim))
    description := firstSet (·.description) chain
    alternateCluster := firstSet (·.alternateCluster) chain
    headerStructName := firstSet (·.headerStructName) chain
    properties := RegisterProperties.firstSet (chain.map (·.properties)) }

/-- A node with what it takes along a chain of sources of its kind. -/
def Node.closedForm : Node → List Node → Node
  | .register r, sources => .register (r.closedForm (sources.filterMap Node.register?))
  | .cluster c members, sources =>
    let others := sources.filterMap Node.cluster?
    .cluster (c.closedForm (others.map Prod.fst)) (firstList id (members :: others.map Prod.snd))

/-- A peripheral with what it takes along a chain of sources, the nearest of them first. -/
def Peripheral.closedForm (p : Peripheral) (sources : List Peripheral) : Peripheral :=
  let chain := p :: sources
  { p with
    derivedFrom := none
    resolvedFrom := p.resolvedFrom <|> p.derivedFrom
    dim := Dimension.firstSet (chain.map (·.dim))
    version := firstSet (·.version) chain
    description := firstSet (·.description) chain
    alternatePeripheral := firstSet (·.alternatePeripheral) chain
    groupName := firstSet (·.groupName) chain
    prependToName := firstSet (·.prependToName) chain
    appendToName := firstSet (·.appendToName) chain
    headerStructName := firstSet (·.headerStructName) chain
    disableCondition := firstSet (·.disableCondition) chain
    properties := RegisterProperties.firstSet (chain.map (·.properties))
    addressBlocks := firstList (·.addressBlocks) chain
    registers := firstOptionalList (·.registers) chain }

/-! ## Taking members one by one gives the closed form -/

/-- A field that is not derived is its own closed form. -/
theorem Field.closedForm_nil {f : Field} (free : derivedFrom f = none) : f.closedForm [] = f := by
  cases f
  cases free
  simp [Field.closedForm]

/-- What a field is after it took from its source, which it remembers if it remembers no other. -/
theorem Field.takeFrom_eq {f : Field} {reference : String}
    (derived : derivedFrom f = some reference) (source : Field) :
    takeFrom f source =
      { f.inherit source with
        derivedFrom := none, resolvedFrom := f.resolvedFrom <|> f.derivedFrom } := by
  have named : f.derivedFrom = some reference := derived
  rw [takeFrom_of_derived derived, named]
  rfl

/-- The closed form of a field takes from that of its source. -/
theorem Field.closedForm_cons {f : Field} {reference : String}
    (derived : derivedFrom f = some reference) (source : Field) (rest : List Field) :
    f.closedForm (source :: rest) = takeFrom f (source.closedForm rest) := by
  rw [Field.takeFrom_eq derived]
  simp [Field.closedForm, Field.inherit]

/-- A register that is not derived is its own closed form. -/
theorem Register.closedForm_nil {r : Register} (free : r.derivedFrom = none) :
    r.closedForm [] = r := by
  cases r
  cases free
  simp [Register.closedForm]

/-- The closed form of a register takes from that of its source. -/
theorem Register.closedForm_cons (r source : Register) (rest : List Register) :
    r.closedForm (source :: rest) =
      { r.inherit (source.closedForm rest) with
        derivedFrom := none, resolvedFrom := r.resolvedFrom <|> r.derivedFrom } := by
  simp [Register.closedForm, Register.inherit]

/-- A cluster that is not derived is its own closed form. -/
theorem Cluster.closedForm_nil {c : Cluster} (free : c.derivedFrom = none) :
    c.closedForm [] = c := by
  cases c
  cases free
  simp [Cluster.closedForm]

/-- The closed form of a cluster takes from that of its source. -/
theorem Cluster.closedForm_cons (c source : Cluster) (rest : List Cluster) :
    c.closedForm (source :: rest) =
      { c.inherit (source.closedForm rest) with
        derivedFrom := none, resolvedFrom := c.resolvedFrom <|> c.derivedFrom } := by
  simp [Cluster.closedForm, Cluster.inherit]

/-- A node that is not derived is its own closed form. -/
theorem Node.closedForm_nil {node : Node} (free : derivedFrom node = none) :
    node.closedForm [] = node := by
  cases node with
  | register r => simp only [Node.closedForm, List.filterMap_nil, r.closedForm_nil free]
  | cluster c members =>
    simp only [Node.closedForm, List.filterMap_nil, List.map_nil, c.closedForm_nil free,
      firstList_singleton, id_eq]

/-- The closed form of a node takes from that of its source, which is of the same kind. -/
theorem Node.closedForm_cons {node source : Node} {reference : String}
    (derived : derivedFrom node = some reference) (sameKind : kind source = kind node)
    (rest : List Node) :
    node.closedForm (source :: rest) = takeFrom node (source.closedForm rest) := by
  rw [takeFrom_of_derived derived]
  cases node with
  | register r =>
    cases source with
    | register s =>
      have named : r.derivedFrom = some reference := derived
      simp only [Node.closedForm, List.filterMap_cons, Node.register?, Register.closedForm_cons,
        named]
      rfl
    | cluster _ _ => cases sameKind
  | cluster c members =>
    cases source with
    | register _ => cases sameKind
    | cluster s others =>
      have named : c.derivedFrom = some reference := derived
      simp only [Node.closedForm, List.filterMap_cons, Node.cluster?, List.map_cons,
        Cluster.closedForm_cons, firstList_cons, named]
      rfl

/-- A peripheral that is not derived is its own closed form. -/
theorem Peripheral.closedForm_nil {p : Peripheral} (free : derivedFrom p = none) :
    p.closedForm [] = p := by
  cases p
  cases free
  simp [Peripheral.closedForm]

/-- What a peripheral is after it took from its source, which it remembers if it remembers no
other. -/
theorem Peripheral.takeFrom_eq {p : Peripheral} {reference : String}
    (derived : derivedFrom p = some reference) (source : Peripheral) :
    takeFrom p source =
      { p.inherit source with
        derivedFrom := none, resolvedFrom := p.resolvedFrom <|> p.derivedFrom } := by
  have named : p.derivedFrom = some reference := derived
  rw [takeFrom_of_derived derived, named]
  rfl

/-- The closed form of a peripheral takes from that of its source. -/
theorem Peripheral.closedForm_cons {p : Peripheral} {reference : String}
    (derived : derivedFrom p = some reference) (source : Peripheral) (rest : List Peripheral) :
    p.closedForm (source :: rest) = takeFrom p (source.closedForm rest) := by
  rw [Peripheral.takeFrom_eq derived]
  simp [Peripheral.closedForm, Peripheral.inherit]

section Derived

variable {α : Type} [Derivable α] {siblings : List α}

/-- Taking members along a chain is given by every function that agrees with it at the
end of a chain and at each step. -/
theorem Sources.derive_eq {closed : α → List α → α}
    (atEnd : ∀ item, derivedFrom item = none → closed item [] = item)
    (atStep : ∀ item reference source rest, derivedFrom item = some reference →
      kind source = kind item → closed item (source :: rest) = takeFrom item (closed source rest))
    {position : Nat} {sources : List Nat} (h : Sources siblings position sources) {item : α}
    (here : siblings[position]? = some item) :
    derive item (itemsAt siblings sources) = closed item (itemsAt siblings sources) := by
  induction h generalizing item with
  | free free =>
    obtain ⟨item', here', free⟩ := free
    cases here.symm.trans here'
    exact (atEnd item free).symm
  | @link position next rest link _ ih =>
    obtain ⟨item', reference, source, here', derived, found, sameKind⟩ := link
    cases here.symm.trans here'
    have there := getElem?_of_firstNamed found
    rw [itemsAt_cons there, atStep item reference source _ derived sameKind, derive, ih there]

/-- A later state of a scope consists of closed forms: at every position stands the
closed form of the thing that was there, over the things at its sources, all of its
kind. -/
def ConsistsOf (closed : α → List α → α) (original current : List α) : Prop :=
  current.length = original.length ∧
    ∀ position item, original[position]? = some item →
      ∃ sources chain, Sources original position sources ∧
        sources.map (original[·]?) = chain.map some ∧
        (∀ source ∈ chain, kind source = kind item) ∧
        current[position]? = some (closed item chain)

/-- The sources of a thing are all of its kind. -/
theorem Sources.same_kind {position : Nat} {sources : List Nat}
    (h : Sources siblings position sources) {item : α} (here : siblings[position]? = some item) :
    ∀ source ∈ itemsAt siblings sources, kind source = kind item := by
  induction h generalizing item with
  | free _ => exact fun _ mem => absurd mem List.not_mem_nil
  | @link position next rest link _ ih =>
    obtain ⟨_, source, _, there⟩ := link.exists_items
    have sameKind := link.same_kind here there
    intro other mem
    rw [itemsAt_cons there] at mem
    cases List.mem_cons.mp mem with
    | inl same => exact same ▸ sameKind
    | inr later => exact (ih there other later).trans sameKind

/-- What a resolved thing holds is its closed form, over the things at its sources. -/
theorem Resolved.exists_closed {closed : α → List α → α}
    (atEnd : ∀ item, derivedFrom item = none → closed item [] = item)
    (atStep : ∀ item reference source rest, derivedFrom item = some reference →
      kind source = kind item → closed item (source :: rest) = takeFrom item (closed source rest))
    {current : List α} {position : Nat} (h : Resolved siblings position current) {item : α}
    (here : siblings[position]? = some item) :
    ∃ sources chain, Sources siblings position sources ∧
      sources.map (siblings[·]?) = chain.map some ∧ (∀ source ∈ chain, kind source = kind item) ∧
      current[position]? = some (closed item chain) := by
  obtain ⟨item', sources, here', sourcesOf, now⟩ := h
  cases here.symm.trans here'
  refine ⟨sources, itemsAt siblings sources, sourcesOf, map_some_itemsAt fun p mem => ?_,
    sourcesOf.same_kind here, now.trans ?_⟩
  · obtain ⟨_, sourcesOfSource, _⟩ := sourcesOf.suffix (List.mem_cons_of_mem _ mem)
    exact sourcesOfSource.lt_length
  · rw [sourcesOf.derive_eq atEnd atStep here]

/-- A scope that is resolved consists of closed forms, if these take along a chain what things take
from their sources one by one. -/
theorem consistsOf_of_resolved {closed : α → List α → α}
    (atEnd : ∀ item, derivedFrom item = none → closed item [] = item)
    (atStep : ∀ item reference source rest, derivedFrom item = some reference →
      kind source = kind item → closed item (source :: rest) = takeFrom item (closed source rest))
    (succeeds : (resolveScope siblings).fault = none) :
    ConsistsOf closed siblings (resolveScope siblings).state := by
  obtain ⟨_, complete⟩ := resolveScope_of_good (resolveScope_fault_eq_none_iff.mp succeeds)
  refine ⟨complete.shape.length_eq, fun position item here => ?_⟩
  have inside := (List.getElem?_eq_some_iff.mp here).1
  exact (complete.resolved position ⟨position, List.mem_range.mpr inside, .refl⟩).exists_closed
    atEnd atStep here

end Derived

/-- **What resolved siblings are.** Fields, nodes and peripherals that are resolved are the
closed forms of what was written, for every list of siblings of the kind. -/
theorem resolveScope_closedForm :
    (∀ fields : List Field, (resolveScope fields).fault = none →
        ConsistsOf Field.closedForm fields (resolveScope fields).state) ∧
      (∀ nodes : List Node, (resolveScope nodes).fault = none →
        ConsistsOf Node.closedForm nodes (resolveScope nodes).state) ∧
      ∀ peripherals : List Peripheral, (resolveScope peripherals).fault = none →
        ConsistsOf Peripheral.closedForm peripherals (resolveScope peripherals).state :=
  ⟨fun _ => consistsOf_of_resolved (fun _ => Field.closedForm_nil)
      fun _ _ source rest derived _ => Field.closedForm_cons derived source rest,
    fun _ => consistsOf_of_resolved (fun _ => Node.closedForm_nil)
      fun _ _ _ rest derived sameKind => Node.closedForm_cons derived sameKind rest,
    fun _ => consistsOf_of_resolved (fun _ => Peripheral.closedForm_nil)
      fun _ _ source rest derived _ => Peripheral.closedForm_cons derived source rest⟩

/-- Fields with a shared source that is written behind both of them. -/
def sharedSource : List Field :=
  [{ name := "LOW", bitRange := ⟨0, 3⟩, derivedFrom := some "ANY" },
   { name := "HIGH", bitRange := ⟨4, 7⟩, derivedFrom := some "ANY", access := some .readOnly },
   { name := "ANY", bitRange := ⟨8, 11⟩, description := some "a level" }]

/-- Nodes written against the order of their references, the last of a name that is
there before. -/
def writtenBackwards : List Node :=
  [.register { name := "STATUS", addressOffset := 0, derivedFrom := some "CONTROL" },
   .register
    { name := "CONTROL", addressOffset := 4, derivedFrom := some "BASE",
      description := some "control" },
   .cluster { name := "BANK", addressOffset := 16 } [],
   .register { name := "BASE", addressOffset := 8, properties := { size := some 16 } },
   .register { name := "BASE", addressOffset := 12, properties := { size := some 8 } }]

/-- Peripherals of which the first takes its list of registers from the last, over one
whose list is empty. -/
def overEmptyList : List Peripheral :=
  [{ name := "UART0", baseAddress := 0, derivedFrom := some "UART1" },
   { name := "UART1", baseAddress := 0x100, derivedFrom := some "UART2", registers := some [] },
   { name := "UART2", baseAddress := 0x200, registers := some writtenBackwards }]

/-- The closed form in scopes whose sources come late, are shared, or have names that are there
twice. -/
theorem resolveScope_closedForm_writtenBackwards :
    ((resolveScope sharedSource).fault = none ∧
        ConsistsOf Field.closedForm sharedSource (resolveScope sharedSource).state) ∧
      ((resolveScope writtenBackwards).fault = none ∧
        ConsistsOf Node.closedForm writtenBackwards (resolveScope writtenBackwards).state) ∧
      (resolveScope overEmptyList).fault = none ∧
        ConsistsOf Peripheral.closedForm overEmptyList (resolveScope overEmptyList).state := by
  have fields : (resolveScope sharedSource).fault = none := by decide +kernel
  have nodes : (resolveScope writtenBackwards).fault = none := by decide +kernel
  have peripherals : (resolveScope overEmptyList).fault = none := by decide +kernel
  exact ⟨⟨fields, resolveScope_closedForm.1 sharedSource fields⟩,
    ⟨nodes, resolveScope_closedForm.2.1 writtenBackwards nodes⟩,
    peripherals, resolveScope_closedForm.2.2 overEmptyList peripherals⟩

end RegisterMap
