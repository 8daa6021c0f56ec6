import Mathlib.Data.List.Forall2
import RegisterMap.Proofs.Fault
import RegisterMap.Proofs.Reading.Grammar
import RegisterMap.Reading.Device

/-!
# The order of children

A reader finds the members and parts of an element by their tags. What it finds stays the same when
children with different tags change places, and when children are added whose tag no reader looks
for. The nodes of a cluster are found together, though, and a list of registers is read as a whole.

Elements are alike (`Xml.Element.Alike`) when everything that readers look for in them is alike, one
by one and in the same order. Elements with children in another order are alike, and so are elements
to which others were added. There is one law for each reader, which says that it reads the same from
elements that are alike, value or fault. So the law of the whole depends on those of the parts only.
-/

namespace RegisterMap

open Xml

/-- The tags of the members and parts that readers look for. Whether a tag is one of them is decided
by evaluation, and so the laws of the members rewrite under that condition. -/
def knownTags : List String :=
  ["name", "version", "description", "addressUnitBits", "width", "vendor", "vendorID", "series",
   "licenseText", "headerSystemFilename", "headerDefinitionsPrefix", "cpu", "peripherals",
   "revision", "endian", "mpuPresent", "fpuPresent", "nvicPrioBits", "vendorSystickConfig",
   "peripheral", "baseAddress", "alternatePeripheral", "groupName", "prependToName",
   "appendToName", "headerStructName", "disableCondition", "addressBlock", "interrupt",
   "registers", "offset", "size", "usage", "protection", "value", "register", "cluster",
   "addressOffset", "alternateCluster", "displayName", "alternateGroup", "alternateRegister",
   "dataType", "fields", "access", "resetValue", "resetMask", "dim", "dimIncrement", "dimIndex",
   "field", "bitOffset", "bitWidth", "lsb", "msb", "bitRange", "modifiedWriteValues",
   "readAction", "enumeratedValues", "enumeratedValue", "isDefault"]

instance : DecidablePred IsNodeTagged := fun e =>
  inferInstanceAs (Decidable (e.tag = "register" ∨ e.tag = "cluster"))

namespace Xml.Element

/-! ## Other orders and other children -/

/-- A condition that two neighbours do not both satisfy does not see that they change places. -/
theorem filter_swap {keep : Element → Bool} {a b : Element} {back : List Element}
    (one : ¬ (keep a = true ∧ keep b = true)) :
    (a :: b :: back).filter keep = (b :: a :: back).filter keep := by
  simp only [List.filter_cons]
  split_ifs with first second
  · exact absurd ⟨first, second⟩ one
  all_goals rfl

/-- The children of an element with some tag are in another order. Those with the same tag keep
theirs, so do the nodes of a cluster among each other, and a list of registers is left as it is. -/
structure Reordered (tag : String) (children children' : List Element) : Prop where
  perm : children.Perm children'
  sameTag : ∀ wanted, children.filter (·.tag = wanted) = children'.filter (·.tag = wanted)
  nodes : tag = "cluster" → children.filter IsNodeTagged = children'.filter IsNodeTagged
  registers : tag = "registers" → children = children'

/-- Elements are added to some children. No reader looks for their tags. -/
inductive Inserted : List Element → List Element → Prop
  | nil : Inserted [] []
  | keep (e : Element) {rest rest' : List Element} (others : Inserted rest rest') :
      Inserted (e :: rest) (e :: rest')
  | insert {e : Element} (unknown : e.tag ∉ knownTags) {rest rest' : List Element}
      (others : Inserted rest rest') : Inserted rest (e :: rest')

/-- The children of an element with some tag are more, if it is not a list of registers. -/
structure Enlarged (tag : String) (children children' : List Element) : Prop where
  more : Inserted children children'
  registers : tag = "registers" → children = children'

/-- An element that is changed at any depth: in each element that is in it, or in itself, the
children are changed in a way that may depend on its tag. -/
inductive Throughout (change : String → List Element → List Element → Prop) :
    Element → Element → Prop
  | mk {tag : String} {attributes : List (String × String)} {text : String}
      {children inside children' : List Element}
      (each : List.Forall₂ (Throughout change) children inside)
      (own : change tag inside children') :
      Throughout change ⟨tag, attributes, text, children⟩ ⟨tag, attributes, text, children'⟩

/-- An element in which children are in another order, at any depth. -/
def Rearranged : Element → Element → Prop := Throughout Reordered

/-- An element in which there are more children, at any depth. -/
def Extended : Element → Element → Prop := Throughout Enlarged

/-- Children may stay in their order. -/
theorem Reordered.refl (tag : String) (children : List Element) :
    Reordered tag children children :=
  ⟨.refl _, fun _ => rfl, fun _ => rfl, fun _ => rfl⟩

/-- Two neighbours with different tags change places. In a cluster they are not both nodes. -/
theorem Reordered.swap {tag : String} {a b : Element} (front back : List Element)
    (different : a.tag ≠ b.tag) (oneNode : tag = "cluster" → ¬ (IsNodeTagged a ∧ IsNodeTagged b))
    (list : tag ≠ "registers") :
    Reordered tag (front ++ a :: b :: back) (front ++ b :: a :: back) where
  perm := (List.Perm.swap b a back).append_left front
  sameTag wanted := by
    rw [List.filter_append, List.filter_append, filter_swap fun both => ?_]
    simp only [decide_eq_true_eq] at both
    exact different (both.1.trans both.2.symm)
  nodes cluster := by
    rw [List.filter_append, List.filter_append, filter_swap fun both => ?_]
    simp only [decide_eq_true_eq] at both
    exact oneNode cluster both
  registers same := absurd same list

theorem Inserted.refl (children : List Element) : Inserted children children := by
  induction children with
  | nil => exact .nil
  | cons e _ ih => exact .keep e ih

/-- Children that are added are not found by what finds children with known tags only. -/
theorem Inserted.filter_eq {children children' : List Element} (more : Inserted children children')
    {keep : Element → Bool} (known : ∀ e, keep e = true → e.tag ∈ knownTags) :
    children.filter keep = children'.filter keep := by
  induction more with
  | nil => rfl
  | keep e _ ih => rw [List.filter_cons, List.filter_cons, ih]
  | insert unknown _ ih =>
    rw [ih, List.filter_cons_of_neg fun kept => unknown (known _ kept)]

theorem Enlarged.refl (tag : String) (children : List Element) : Enlarged tag children children :=
  ⟨.refl children, fun _ => rfl⟩

namespace Throughout

variable {change : String → List Element → List Element → Prop}

mutual

/-- An element is itself, changed nowhere. -/
theorem refl (kept : ∀ tag children, change tag children children) :
    ∀ e : Element, Throughout change e e
  | ⟨tag, _, _, children⟩ => .mk (forall₂_refl kept children) (kept tag children)

/-- So is every element of a list. -/
theorem forall₂_refl (kept : ∀ tag children, change tag children children) :
    ∀ children : List Element, List.Forall₂ (Throughout change) children children
  | [] => .nil
  | e :: rest => .cons (refl kept e) (forall₂_refl kept rest)

end

/-- A change inside one of the children. -/
theorem inside (kept : ∀ tag children, change tag children children) {tag : String}
    {attributes : List (String × String)} {text : String} {e e' : Element}
    (front back : List Element) (own : Throughout change e e') :
    Throughout change ⟨tag, attributes, text, front ++ e :: back⟩
      ⟨tag, attributes, text, front ++ e' :: back⟩ :=
  .mk (List.rel_append (forall₂_refl kept front) (.cons own (forall₂_refl kept back))) (kept _ _)

end Throughout

/-! ## Elements that are alike -/

/-- What readers look for in two elements is alike. -/
inductive Alike : Element → Element → Prop
  | mk {tag : String} {attributes : List (String × String)} {text : String}
      {children children' : List Element}
      (found : ∀ wanted ∈ knownTags, List.Forall₂ Alike
        (children.filter (·.tag = wanted)) (children'.filter (·.tag = wanted)))
      (nodes : tag = "cluster" → List.Forall₂ Alike
        (children.filter IsNodeTagged) (children'.filter IsNodeTagged))
      (registers : tag = "registers" → List.Forall₂ Alike children children') :
      Alike ⟨tag, attributes, text, children⟩ ⟨tag, attributes, text, children'⟩

/-- Two lists whose elements are related, one by one, are so without the elements that a condition
excludes, if it does not tell related elements apart. -/
theorem forall₂_filter {related : Element → Element → Prop} {keep : Element → Bool}
    (same : ∀ e e', related e e' → keep e = keep e') {children children' : List Element}
    (each : List.Forall₂ related children children') :
    List.Forall₂ related (children.filter keep) (children'.filter keep) := by
  refine List.rel_filter (fun e e' own => ?_) each
  simp only [same e e' own]

/-- The first elements of lists that are related are related, if there are any. -/
theorem head?_rel {related : Element → Element → Prop} {children children' : List Element}
    (each : List.Forall₂ related children children') :
    Option.Rel related children.head? children'.head? := by
  cases each with
  | nil => exact .none
  | cons own _ => exact .some own

/-- What is read from two elements is the same if it is so of related ones. -/
theorem map_eq_of_rel {α : Type} {related : Element → Element → Prop} {read : Element → α}
    (same : ∀ e e', related e e' → read e = read e') {child child' : Option Element}
    (each : Option.Rel related child child') : child.map read = child'.map read := by
  cases each with
  | none => rfl
  | some own => rw [Option.map_some, Option.map_some, same _ _ own]

/-- Elements that are alike have one tag. -/
theorem Alike.tag_eq {e e' : Element} (alike : Alike e e') : e.tag = e'.tag := by
  cases alike
  rfl

theorem isNodeTagged_congr {e e' : Element} (alike : Alike e e') :
    decide (IsNodeTagged e) = decide (IsNodeTagged e') := by
  rw [decide_eq_decide, IsNodeTagged, IsNodeTagged, alike.tag_eq]

/-- What readers look for among the children of an element with some tag is the same. -/
structure LooksSame (tag : String) (children children' : List Element) : Prop where
  found : ∀ wanted ∈ knownTags,
    children.filter (·.tag = wanted) = children'.filter (·.tag = wanted)
  nodes : tag = "cluster" → children.filter IsNodeTagged = children'.filter IsNodeTagged
  registers : tag = "registers" → children = children'

/-- Readers do not see the order of children with different tags. -/
theorem Reordered.looksSame {tag : String} {children children' : List Element}
    (other : Reordered tag children children') : LooksSame tag children children' :=
  ⟨fun wanted _ => other.sameTag wanted, other.nodes, other.registers⟩

/-- Readers do not see children with unknown tags. The tags of nodes are known. -/
theorem Enlarged.looksSame {tag : String} {children children' : List Element}
    (other : Enlarged tag children children') : LooksSame tag children children' where
  found wanted known := other.more.filter_eq fun e own => by rwa [of_decide_eq_true own]
  nodes _ := other.more.filter_eq fun e own => by
    rcases of_decide_eq_true own with tagged | tagged <;> rw [tagged] <;> decide
  registers := other.registers

mutual

/-- A change that readers do not see in the children of any element makes elements alike. -/
theorem Throughout.alike {change : String → List Element → List Element → Prop}
    (harmless : ∀ tag children children', change tag children children' →
      LooksSame tag children children') : ∀ {e e' : Element}, Throughout change e e' → Alike e e'
  | ⟨_, _, _, children⟩, _, .mk each own => by
    have inside := forall₂_alike harmless each
    have same := harmless _ _ _ own
    refine .mk (fun wanted known => ?_) (fun cluster => ?_) fun list => ?_
    · rw [← same.found wanted known]
      exact forall₂_filter (fun _ _ alike => by rw [alike.tag_eq]) inside
    · rw [← same.nodes cluster]
      exact forall₂_filter (fun _ _ alike => isNodeTagged_congr alike) inside
    · rw [← same.registers list]
      exact inside

/-- So do such changes in the elements of a list. -/
theorem Throughout.forall₂_alike {change : String → List Element → List Element → Prop}
    (harmless : ∀ tag children children', change tag children children' →
      LooksSame tag children children') : ∀ {children children' : List Element},
    List.Forall₂ (Throughout change) children children' → List.Forall₂ Alike children children'
  | [], _, .nil => .nil
  | _ :: _, _, .cons first others => .cons (first.alike harmless) (forall₂_alike harmless others)

end

/-- Elements with children in another order are alike. -/
theorem Rearranged.alike {e e' : Element} (rearranged : Rearranged e e') : Alike e e' :=
  Throughout.alike (fun _ _ _ => Reordered.looksSame) rearranged

/-- Elements with more children are alike. -/
theorem Extended.alike {e e' : Element} (extended : Extended e e') : Alike e e' :=
  Throughout.alike (fun _ _ _ => Enlarged.looksSame) extended

/-! ## What readers find in elements that are alike -/

namespace Alike

variable {e e' : Element} {wanted : String}

theorem attribute?_eq (alike : Alike e e') (name : String) :
    e.attribute? name = e'.attribute? name := by
  cases alike
  rfl

theorem text_eq (alike : Alike e e') : e.text = e'.text := by
  cases alike
  rfl

/-- Elements that are alike have children that are alike under every known tag. -/
theorem childrenTagged (alike : Alike e e') (known : wanted ∈ knownTags) :
    List.Forall₂ Alike (e.childrenTagged wanted) (e'.childrenTagged wanted) := by
  cases alike with
  | mk found => exact found wanted known

/-- Lists of registers that are alike have children that are alike, with any tag. -/
theorem children (alike : Alike e e') (list : e.tag = "registers") :
    List.Forall₂ Alike e.children e'.children := by
  cases alike with
  | mk _ _ registers => exact registers list

/-- The first child with a tag is the first of the children with it. -/
theorem child? (alike : Alike e e') (known : wanted ∈ knownTags) :
    Option.Rel Alike (e.child? wanted) (e'.child? wanted) := by
  have first : ∀ e : Element, e.child? wanted = (e.childrenTagged wanted).head? := fun e =>
    List.head?_filter.symm
  rw [first, first]
  exact head?_rel (alike.childrenTagged known)

/-- Elements that are alike have the same members. -/
theorem member?_eq (alike : Alike e e') (known : wanted ∈ knownTags) :
    e.member? wanted = e'.member? wanted :=
  map_eq_of_rel (fun _ _ own => by rw [own.text_eq]) (alike.child? known)

/-- A member that must be there is the same, or missing in both. -/
theorem required_eq (alike : Alike e e') (known : wanted ∈ knownTags) (thing : String) :
    e.required thing wanted = e'.required thing wanted := by
  rw [required, required, alike.member?_eq known]

/-- A member that may be there is read alike. -/
theorem optional_eq {α : Type} (alike : Alike e e') (known : wanted ∈ knownTags)
    (read : String → Except Fault α) : e.optional wanted read = e'.optional wanted read := by
  rw [optional, optional, alike.member?_eq known]

end Alike

end Xml.Element

/-! ## Readers -/

/-- What is read from children one by one is the same if it is so of children that are alike. -/
theorem mapM_eq_mapM {α : Type} {read : Element → Except Fault α}
    {children children' : List Element} (each : List.Forall₂ Element.Alike children children')
    (same : ∀ child ∈ children, ∀ child', child.Alike child' → read child = read child') :
    children.mapM read = children'.mapM read := by
  induction each with
  | nil => rfl
  | cons own _ ih =>
    obtain ⟨first, others⟩ := List.forall_mem_cons.mp same
    rw [List.mapM_cons, List.mapM_cons, first _ own, ih others]

/-- A reader reads the same from elements that are alike. -/
def ReadsAlike {α : Type} (read : Element → α) : Prop :=
  ∀ {e e' : Element}, e.Alike e' → read e = read e'

namespace ReadsAlike

variable {α : Type} {read : Element → Except Fault α} {e e' : Element} {wanted : String}

/-- What a reader reads from the children with a known tag is the same. -/
theorem mapM_childrenTagged (same : ReadsAlike read) (alike : e.Alike e')
    (known : wanted ∈ knownTags) :
    (e.childrenTagged wanted).mapM read = (e'.childrenTagged wanted).mapM read :=
  mapM_eq_mapM (alike.childrenTagged known) fun _ _ _ own => same own

end ReadsAlike

/-- A reader that looks for the first child with a tag reads the same from elements that are alike,
if what it reads from such a child is the same. -/
theorem match_child?_eq {β : Type} {e e' : Element} {wanted : String} {found : Element → β}
    {missing : β} (alike : e.Alike e') (known : wanted ∈ knownTags)
    (same : ∀ child child' : Element, child.tag = wanted → child.Alike child' →
      found child = found child') :
    (match e.child? wanted with | some child => found child | none => missing) =
      match e'.child? wanted with | some child => found child | none => missing := by
  have tagged : ∀ child, e.child? wanted = some child → child.tag = wanted :=
    fun child own => by simpa using List.find?_some own
  have alikeChild := alike.child? known
  revert tagged
  match e.child? wanted, e'.child? wanted, alikeChild with
  | _, _, .none => exact fun _ => rfl
  | _, _, .some own => exact fun tagged => same _ _ (tagged _ rfl) own

/-! ## Fields -/

/-- A range of bits is read alike. This is the first of the laws that go along a reader. -/
theorem BitRange.ofElement_alike : ReadsAlike BitRange.ofElement := fun alike => by
  simp +decide only [ofElement, alike.member?_eq]

theorem EnumeratedValue.ofElement_alike : ReadsAlike EnumeratedValue.ofElement := fun alike => by
  simp +decide only [ofElement, alike.member?_eq, alike.required_eq]

theorem EnumeratedValues.ofElement_alike : ReadsAlike EnumeratedValues.ofElement := fun alike => by
  simp +decide only [ofElement, alike.member?_eq, alike.optional_eq, alike.attribute?_eq,
    EnumeratedValue.ofElement_alike.mapM_childrenTagged alike]

theorem Field.ofElement_alike : ReadsAlike Field.ofElement := fun alike => by
  simp +decide only [ofElement, alike.member?_eq, alike.required_eq, alike.optional_eq,
    alike.attribute?_eq, BitRange.ofElement_alike alike,
    EnumeratedValues.ofElement_alike.mapM_childrenTagged alike]

/-! ## Registers and clusters -/

theorem RegisterProperties.ofElement_alike : ReadsAlike RegisterProperties.ofElement :=
  fun alike => by
    simp +decide only [ofElement, alike.optional_eq]

theorem Dimension.ofElement_alike : ReadsAlike Dimension.ofElement := fun alike => by
  simp +decide only [ofElement, alike.member?_eq, alike.optional_eq]

theorem Field.listOfElement_alike : ReadsAlike Field.listOfElement := fun alike =>
  match_child?_eq alike (by decide) fun _ _ _ inside =>
    congrArg (Except.map some)
      (Field.ofElement_alike.mapM_childrenTagged inside (by decide))

theorem Register.ofElement_alike : ReadsAlike Register.ofElement := fun alike => by
  simp +decide only [ofElement, alike.member?_eq, alike.required_eq, alike.optional_eq,
    alike.attribute?_eq, Field.listOfElement_alike alike, Dimension.ofElement_alike alike,
    RegisterProperties.ofElement_alike alike]

namespace Node

/-- A cluster is read alike if the nodes in it are. -/
theorem clusterOf_alike (nodes : Except Fault (List Node)) : ReadsAlike (clusterOf · nodes) :=
  fun alike => by
    simp +decide only [clusterOf, alike.member?_eq, alike.required_eq, alike.attribute?_eq,
      Dimension.ofElement_alike alike, RegisterProperties.ofElement_alike alike]

/-- What is read from the children of a cluster is read from those tagged as nodes. -/
theorem ofChildren_eq (children : List Element) :
    ofChildren children = (children.filter IsNodeTagged).mapM ofElement := by
  induction children with
  | nil => rfl
  | cons e rest ih =>
    rw [ofChildren]
    by_cases tagged : IsNodeTagged e
    · have kept : (e :: rest).filter IsNodeTagged = e :: rest.filter IsNodeTagged :=
        List.filter_cons_of_pos (decide_eq_true tagged)
      rw [if_pos ‹_ ∨ _›, kept, List.mapM_cons, ih]
    · have dropped : (e :: rest).filter IsNodeTagged = rest.filter IsNodeTagged :=
        List.filter_cons_of_neg (mt of_decide_eq_true tagged)
      rw [if_neg (show ¬ (_ ∨ _) from tagged), dropped, ih]

/-- Nodes are read alike, at any depth. -/
theorem ofElement_alike : ∀ {e e' : Element}, e.Alike e' → ofElement e = ofElement e'
  | ⟨tag, attributes, text, children⟩, ⟨_, _, _, children'⟩, .mk found nodes registers => by
    have alike : Element.Alike ⟨tag, attributes, text, children⟩
        ⟨tag, attributes, text, children'⟩ := .mk found nodes registers
    rw [ofElement, ofElement]
    by_cases register : tag = "register"
    · rw [if_pos register, if_pos register, Register.ofElement_alike alike]
    · rw [if_neg register, if_neg register]
      by_cases cluster : tag = "cluster"
      · have inside : ofChildren children = ofChildren children' := by
          rw [ofChildren_eq, ofChildren_eq]
          exact mapM_eq_mapM (nodes cluster) fun child mem _ own =>
            ofElement_alike own
        rw [if_pos cluster, if_pos cluster, inside]
        exact clusterOf_alike _ alike
      · rw [if_neg cluster, if_neg cluster]
termination_by e => sizeOf e
decreasing_by
  -- the nodes in a cluster are some of its children
  have smaller := List.sizeOf_lt_of_mem (List.mem_of_mem_filter mem)
  simp only [Element.mk.sizeOf_spec]
  omega

/-- A list of registers is read alike. It is looked at as a whole. -/
theorem listOfElement_alike : ReadsAlike listOfElement := fun alike =>
  match_child?_eq alike (by decide) fun _ _ tagged list =>
    congrArg (Except.map some)
      (mapM_eq_mapM (list.children tagged) fun _ _ _ own => ofElement_alike own)

end Node

/-! ## Peripherals and devices -/

theorem AddressBlock.ofElement_alike : ReadsAlike AddressBlock.ofElement := fun alike => by
  simp +decide only [ofElement, alike.required_eq, alike.optional_eq]

theorem Interrupt.ofElement_alike : ReadsAlike Interrupt.ofElement := fun alike => by
  simp +decide only [ofElement, alike.member?_eq, alike.required_eq]

theorem Peripheral.ofElement_alike : ReadsAlike Peripheral.ofElement := fun alike => by
  simp +decide only [ofElement, alike.member?_eq, alike.required_eq, alike.attribute?_eq,
    Node.listOfElement_alike alike, Dimension.ofElement_alike alike,
    RegisterProperties.ofElement_alike alike,
    AddressBlock.ofElement_alike.mapM_childrenTagged alike,
    Interrupt.ofElement_alike.mapM_childrenTagged alike]

theorem Cpu.ofElement_alike : ReadsAlike Cpu.ofElement := fun alike => by
  simp +decide only [ofElement, alike.required_eq, alike.optional_eq]

namespace Device

theorem cpuOfElement_alike : ReadsAlike cpuOfElement := fun alike =>
  match_child?_eq alike (by decide) fun _ _ _ inside =>
    congrArg (Except.map some) (Cpu.ofElement_alike inside)

/-- The list of peripherals is not the same in elements that are alike. What is read from it is. -/
theorem peripheralList_bind_eq {β : Type} {e e' : Element} {next : Element → Except Fault β}
    (alike : e.Alike e') (same : ReadsAlike next) :
    peripheralList e >>= next = peripheralList e' >>= next := by
  have found := alike.child? (show "peripherals" ∈ knownTags by decide)
  rw [peripheralList, peripheralList]
  match e.child? "peripherals", e'.child? "peripherals", found with
  | _, _, .none => rfl
  | _, _, .some own => exact same own

/-- A device is read alike. -/
theorem ofElement_alike : ReadsAlike ofElement := by
  intro e e' alike
  simp +decide only [ofElement, alike.member?_eq, alike.required_eq, cpuOfElement_alike alike,
    RegisterProperties.ofElement_alike alike]
  -- behind the five members, two of them numbers, the list is looked for
  refine bind_congr fun _ => bind_congr fun _ => bind_congr fun _ => bind_congr fun _ =>
    bind_congr fun _ => bind_congr fun _ => bind_congr fun _ => ?_
  refine peripheralList_bind_eq alike fun own => ?_
  rw [Peripheral.ofElement_alike.mapM_childrenTagged own (by decide)]

/-- The same device or the same fault is read from an element with children in another order, and
from one with children that no reader looks for. -/
theorem ofElement_unordered (e e' : Element) :
    (e.Rearranged e' → ofElement e = ofElement e') ∧
      (e.Extended e' → ofElement e = ofElement e') :=
  ⟨fun rearranged => ofElement_alike rearranged.alike,
    fun extended => ofElement_alike extended.alike⟩

/-- The list of peripherals with one that has nothing but a cluster. -/
def channelPeripherals (cluster : Element) : Element :=
  .branch "peripherals" [.branch "peripheral"
    [.leaf "name" "TIM", .leaf "baseAddress" "0x4000", .branch "registers" [cluster]]]

/-- A change in the cluster is a change in the list. -/
theorem throughout_channelPeripherals
    {change : String → List Element → List Element → Prop}
    (kept : ∀ tag children, change tag children children) {cluster cluster' : Element}
    (own : Element.Throughout change cluster cluster') :
    Element.Throughout change (channelPeripherals cluster) (channelPeripherals cluster') :=
  .inside kept [] [] (.inside kept [.leaf "name" "TIM", .leaf "baseAddress" "0x4000"] []
    (.inside kept [] [] own))

/-- A device with other orders at two depths, and one with an unknown child at two depths. -/
theorem ofElement_unordered_channel :
    let name : Element := .leaf "name" "DEV"
    let version : Element := .leaf "version" "1"
    let others : List Element :=
      [.leaf "description" "", .leaf "addressUnitBits" "8", .leaf "width" "32"]
    let own : Element := .leaf "name" "CH"
    let offset : Element := .leaf "addressOffset" "0x10"
    let control : Element := .branch "register" [.leaf "name" "CR", .leaf "addressOffset" "0"]
    let status : Element := .branch "register" [.leaf "name" "SR", .leaf "addressOffset" "4"]
    let note : Element := .branch "vendorExtensions" [.leaf "name" "X", .leaf "dim" "none"]
    let plain : Element := .branch "device" (name :: version :: others ++
      [channelPeripherals (.branch "cluster" [own, offset, control, status])])
    let rearranged : Element := .branch "device" (version :: name :: others ++
      [channelPeripherals (.branch "cluster" [own, control, offset, status])])
    let extended : Element := .branch "device" (note :: name :: version :: others ++
      [channelPeripherals (.branch "cluster" [own, offset, control, note, status])])
    (ofElement plain).isOk = true ∧
      plain.Rearranged rearranged ∧ ofElement plain = ofElement rearranged ∧
      plain.Extended extended ∧ ofElement plain = ofElement extended := by
  intro name version others own offset control status note plain rearranged extended
  have otherCluster : (Element.branch "cluster" [own, offset, control, status]).Rearranged
      (.branch "cluster" [own, control, offset, status]) :=
    .mk (Element.Throughout.forall₂_refl .refl _)
      (.swap [own] [status] (by decide) (fun _ => by decide) (by decide))
  have other : plain.Rearranged rearranged :=
    .mk (List.rel_append (Element.Throughout.forall₂_refl .refl (name :: version :: others))
        (.cons (throughout_channelPeripherals .refl otherCluster) .nil))
      (.swap [] _ (by decide) (fun _ => by decide) (by decide))
  have unknown : note.tag ∉ knownTags := by decide
  have moreInCluster : (Element.branch "cluster" [own, offset, control, status]).Extended
      (.branch "cluster" [own, offset, control, note, status]) :=
    .mk (Element.Throughout.forall₂_refl .refl _)
      ⟨.keep own (.keep offset (.keep control (.insert unknown (.refl [status])))), nofun⟩
  have more : plain.Extended extended :=
    .mk (List.rel_append (Element.Throughout.forall₂_refl .refl (name :: version :: others))
        (.cons (throughout_channelPeripherals .refl moreInCluster) .nil))
      ⟨.insert unknown (.refl _), nofun⟩
  exact ⟨by decide +kernel, other, (ofElement_unordered _ _).1 other, more,
    (ofElement_unordered _ _).2 more⟩

end Device

end RegisterMap
