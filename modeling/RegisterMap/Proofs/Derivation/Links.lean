import RegisterMap.Derivation.Chain
import Mathlib.Logic.Relation
import Mathlib.Data.List.Chain

/-!
# The links between siblings

References make a graph of the positions in a list of siblings. A thing that is not
derived is the end of a walk (`Free`); a thing whose reference finds a sibling of its
kind has one `Link`; a thing whose reference finds none is `Dangling`. Every position
is exactly one of the three, and a thing has at most one link, so a walk along links
is determined by where it begins.

`Sources` is the walk from a position to a thing that is not derived. `Bad` says that
there is no such walk: it ends at a dangling reference or comes back to where it was.
The laws here are about the graph alone; what the search `walk` does with it is in
`RegisterMap.Proofs.Derivation.Walk`.
-/

namespace RegisterMap

variable {α : Type} [Derivable α] {siblings : List α}

open Derivable Relation

/-! ## The first sibling of a name -/

/-- The position of the first sibling of a name depends only on the names. -/
theorem firstNamed_position (siblings : List α) (wanted : String) :
    (firstNamed siblings wanted).map Prod.snd =
      (siblings.map name).findIdx? fun found => decide (found = wanted) := by
  rw [List.findIdx?_map, List.findIdx?_eq_fst_find?_zipIdx]
  rfl

/-- The thing that a name finds stands at the position that is found with it. -/
theorem getElem?_of_firstNamed {wanted : String} {source : α} {position : Nat}
    (found : firstNamed siblings wanted = some (source, position)) :
    siblings[position]? = some source :=
  List.mem_zipIdx_iff_getElem?.mp (List.mem_of_find?_eq_some found)

theorem name_of_firstNamed {wanted : String} {source : α} {position : Nat}
    (found : firstNamed siblings wanted = some (source, position)) : name source = wanted := by
  simpa only [decide_eq_true_eq] using List.find?_some found

/-- Lists of siblings with the same names have the first of a name at the same place. -/
theorem firstNamed_congr {others : List α} (names : others.map name = siblings.map name)
    {wanted : String} {source : α} {position : Nat}
    (found : firstNamed siblings wanted = some (source, position)) :
    ∃ other, firstNamed others wanted = some (other, position) ∧
      others[position]? = some other := by
  have same : (firstNamed others wanted).map Prod.snd = some position := by
    rw [firstNamed_position, names, ← firstNamed_position, found]
    rfl
  obtain ⟨⟨other, _⟩, foundOther, rfl⟩ := Option.map_eq_some_iff.mp same
  exact ⟨other, foundOther, getElem?_of_firstNamed foundOther⟩

/-! ## Links -/

/-- The thing at one position is derived from the thing at another: its reference
names it, and both are of one kind. -/
def Link (siblings : List α) (position next : Nat) : Prop :=
  ∃ item reference source, siblings[position]? = some item ∧
    derivedFrom item = some reference ∧
    firstNamed siblings reference = some (source, next) ∧ kind source = kind item

/-- The thing at a position is not derived. -/
def Free (siblings : List α) (position : Nat) : Prop :=
  ∃ item, siblings[position]? = some item ∧ derivedFrom item = none

/-- The thing at a position is derived, and its reference names no sibling or one of
another kind. The fault says so. -/
def Dangling (siblings : List α) (position : Nat) (fault : Fault) : Prop :=
  ∃ item reference, siblings[position]? = some item ∧ derivedFrom item = some reference ∧
    (∀ source next, firstNamed siblings reference = some (source, next) →
      kind source ≠ kind item) ∧
    fault = .unresolved (kind item) (name item) reference

/-- The things that are reached along links. -/
abbrev Reaches (siblings : List α) : Nat → Nat → Prop := ReflTransGen (Link siblings)

/-- Following references from a position leads nowhere: to a reference that names no
sibling of its kind, or to a thing that is reached again. -/
def Bad (siblings : List α) (position : Nat) : Prop :=
  ∃ reached, Reaches siblings position reached ∧
    ((∃ fault, Dangling siblings reached fault) ∨ TransGen (Link siblings) reached reached)

/-- A link leads from a position in the scope to one in the scope. -/
theorem Link.lt_length {position next : Nat} (link : Link siblings position next) :
    position < siblings.length ∧ next < siblings.length := by
  obtain ⟨_, _, _, here, _, found, _⟩ := link
  exact ⟨(List.getElem?_eq_some_iff.mp here).1,
    (List.getElem?_eq_some_iff.mp (getElem?_of_firstNamed found)).1⟩

/-- There are things at both ends of a link. -/
theorem Link.exists_items {position next : Nat} (link : Link siblings position next) :
    ∃ item source, siblings[position]? = some item ∧ siblings[next]? = some source := by
  obtain ⟨item, _, source, here, _, found, _⟩ := link
  exact ⟨item, source, here, getElem?_of_firstNamed found⟩

/-- A thing has at most one link. -/
theorem Link.unique {position next other : Nat} (link : Link siblings position next)
    (link' : Link siblings position other) : next = other := by
  obtain ⟨item, reference, source, here, derived, found, _⟩ := link
  obtain ⟨item', reference', source', here', derived', found', _⟩ := link'
  cases here.symm.trans here'
  cases derived.symm.trans derived'
  cases found.symm.trans found'
  rfl

/-- A thing that is not derived has no link. -/
theorem Free.not_link {position next : Nat} (free : Free siblings position) :
    ¬ Link siblings position next := by
  rintro ⟨item, _, _, here, derived, _⟩
  obtain ⟨item', here', free⟩ := free
  cases here.symm.trans here'
  cases derived.symm.trans free

/-- A dangling reference is no link. -/
theorem Dangling.not_link {position next : Nat} {fault : Fault}
    (dangling : Dangling siblings position fault) : ¬ Link siblings position next := by
  rintro ⟨item, reference, source, here, derived, found, sameKind⟩
  obtain ⟨item', reference', here', derived', noKin, _⟩ := dangling
  cases here.symm.trans here'
  cases derived.symm.trans derived'
  exact noKin _ _ found sameKind

theorem Dangling.not_free {position : Nat} {fault : Fault}
    (dangling : Dangling siblings position fault) : ¬ Free siblings position := by
  rintro ⟨item, here, free⟩
  obtain ⟨item', _, here', derived, _⟩ := dangling
  cases here.symm.trans here'
  cases derived.symm.trans free

/-- A dangling reference is reported by one fault. -/
theorem Dangling.unique {position : Nat} {fault other : Fault}
    (dangling : Dangling siblings position fault) (dangling' : Dangling siblings position other) :
    fault = other := by
  obtain ⟨item, reference, here, derived, _, rfl⟩ := dangling
  obtain ⟨item', reference', here', derived', _, rfl⟩ := dangling'
  cases here.symm.trans here'
  cases derived.symm.trans derived'
  rfl

/-- A thing of which a link leads to the next is derived from the name of the next. -/
theorem Link.names_next {position next : Nat} (link : Link siblings position next) :
    ∃ item source, siblings[position]? = some item ∧ siblings[next]? = some source ∧
      derivedFrom item = some (name source) := by
  obtain ⟨item, reference, source, here, derived, found, _⟩ := link
  refine ⟨item, source, here, getElem?_of_firstNamed found, ?_⟩
  rw [name_of_firstNamed found, derived]

theorem Link.derivedFrom_ne_none {position next : Nat} (link : Link siblings position next)
    {item : α} (here : siblings[position]? = some item) : derivedFrom item ≠ none := by
  obtain ⟨item', _, _, here', derived, _⟩ := link
  cases here.symm.trans here'
  exact Option.ne_none_iff_exists'.mpr ⟨_, derived⟩

/-- Things that are linked are of one kind. -/
theorem Link.same_kind {position next : Nat} (link : Link siblings position next)
    {item source : α} (here : siblings[position]? = some item)
    (there : siblings[next]? = some source) : kind source = kind item := by
  obtain ⟨item', _, source', here', _, found, sameKind⟩ := link
  cases here.symm.trans here'
  cases there.symm.trans (getElem?_of_firstNamed found)
  exact sameKind

/-! ## What is reached -/

/-- Of two things reached from one, one is reached from the other. -/
theorem Reaches.total {position a b : Nat} (toA : Reaches siblings position a)
    (toB : Reaches siblings position b) : Reaches siblings a b ∨ Reaches siblings b a :=
  ReflTransGen.total_of_right_unique (fun _ _ _ => Link.unique) toA toB

/-- A thing without a link reaches only itself. -/
theorem Reaches.eq_of_not_link {position reached : Nat} (path : Reaches siblings position reached)
    (ends : ∀ next, ¬ Link siblings position next) : reached = position := by
  cases path.cases_head with
  | inl same => exact same.symm
  | inr step =>
    obtain ⟨next, link, _⟩ := step
    exact absurd link (ends next)

/-- What is reached from a cycle is on it. -/
theorem Reaches.cyclic {position reached : Nat} (path : Reaches siblings position reached)
    (cycle : TransGen (Link siblings) position position) :
    TransGen (Link siblings) reached reached := by
  induction path with
  | refl => exact cycle
  | tail _ link ih =>
    obtain ⟨next, link', back⟩ := TransGen.head'_iff.mp ih
    cases link.unique link'
    exact TransGen.tail' back link

/-- A thing on a cycle has a link. -/
theorem exists_link_of_cyclic {position : Nat}
    (cycle : TransGen (Link siblings) position position) : ∃ next, Link siblings position next := by
  obtain ⟨next, link, _⟩ := TransGen.head'_iff.mp cycle
  exact ⟨next, link⟩

/-- A walk that can be extended forever and one that ends do not begin at one place. -/
theorem Reaches.not_cyclic_of_end {position last reached : Nat}
    (toEnd : Reaches siblings position last) (ends : ∀ next, ¬ Link siblings last next)
    (path : Reaches siblings position reached) :
    ¬ TransGen (Link siblings) reached reached := by
  intro cycle
  have onCycle : TransGen (Link siblings) last last := by
    cases path.total toEnd with
    | inl back => exact back.cyclic cycle
    | inr forth => exact forth.eq_of_not_link ends ▸ cycle
  obtain ⟨next, link⟩ := exists_link_of_cyclic onCycle
  exact ends next link

/-! ## Sources -/

/-- The positions from which a thing takes members: that of the sibling it is derived
from, that of the sibling that one is derived from, and so on to a thing that is not
derived. -/
inductive Sources (siblings : List α) : Nat → List Nat → Prop
  | free {position : Nat} : Free siblings position → Sources siblings position []
  | link {position next : Nat} {rest : List Nat} : Link siblings position next →
      Sources siblings next rest → Sources siblings position (next :: rest)

namespace Sources

variable {position : Nat} {sources : List Nat}

/-- Only a position in the scope has sources. -/
theorem lt_length (h : Sources siblings position sources) : position < siblings.length := by
  cases h with
  | free free =>
    obtain ⟨_, here, _⟩ := free
    exact (List.getElem?_eq_some_iff.mp here).1
  | link link _ => exact link.lt_length.1

/-- The sources of a thing are determined by where the walk begins. -/
theorem unique (h : Sources siblings position sources) {others : List Nat}
    (h' : Sources siblings position others) : sources = others := by
  induction h generalizing others with
  | free free =>
    cases h' with
    | free _ => rfl
    | link link _ => exact absurd link free.not_link
  | link link _ ih =>
    cases h' with
    | free free => exact absurd link free.not_link
    | link link' rest =>
      cases link.unique link'
      rw [ih rest]

/-- Everything on the way is reached, and has the rest of the way as its sources. -/
theorem suffix (h : Sources siblings position sources) {reached : Nat}
    (mem : reached ∈ position :: sources) :
    ∃ rest, Sources siblings reached rest ∧ rest.length ≤ sources.length ∧
      Reaches siblings position reached := by
  induction h with
  | free free =>
    cases List.mem_singleton.mp mem
    exact ⟨[], .free free, Nat.le_refl 0, .refl⟩
  | link link rest ih =>
    cases List.mem_cons.mp mem with
    | inl same => exact ⟨_, same ▸ .link link rest, Nat.le_refl _, same ▸ .refl⟩
    | inr later =>
      obtain ⟨more, sourcesOf, shorter, path⟩ := ih later
      exact ⟨more, sourcesOf, Nat.le_succ_of_le shorter, .head link path⟩

/-- Whatever is reached from a thing is the thing or one of its sources. -/
theorem mem_of_reaches (h : Sources siblings position sources) {reached : Nat}
    (path : Reaches siblings position reached) : reached ∈ position :: sources := by
  induction h with
  | free free =>
    cases path.eq_of_not_link (fun _ => free.not_link)
    exact List.mem_singleton_self _
  | link link rest ih =>
    cases path.cases_head with
    | inl same => exact same ▸ List.mem_cons_self
    | inr step =>
      obtain ⟨next, link', path⟩ := step
      cases link.unique link'
      exact List.mem_cons_of_mem _ (ih path)

/-- No thing is met twice on the way to the end. -/
theorem nodup (h : Sources siblings position sources) : (position :: sources).Nodup := by
  induction h with
  | free _ => exact List.pairwise_singleton _ _
  | @link position next rest link sourcesOfNext ih =>
    refine List.nodup_cons.mpr ⟨fun again => ?_, ih⟩
    -- the sources of a thing met again would be a part of themselves
    obtain ⟨more, sourcesOf, shorter, _⟩ := sourcesOfNext.suffix again
    have same := sourcesOf.unique (.link link sourcesOfNext)
    simp only [same, List.length_cons] at shorter
    omega

/-- What leads to a thing with sources has sources. -/
theorem of_reaches {start : Nat} (h : Sources siblings position sources)
    (path : Reaches siblings start position) : ∃ more, Sources siblings start more := by
  induction path using ReflTransGen.head_induction_on with
  | refl => exact ⟨sources, h⟩
  | head link _ ih =>
    obtain ⟨more, sourcesOf⟩ := ih
    exact ⟨_, .link link sourcesOf⟩

/-- Where there are sources, the walk ends at a thing that is not derived. -/
theorem exists_free (h : Sources siblings position sources) :
    ∃ last, Reaches siblings position last ∧ Free siblings last := by
  induction h with
  | free free => exact ⟨_, .refl, free⟩
  | link link _ ih =>
    obtain ⟨last, path, free⟩ := ih
    exact ⟨last, .head link path, free⟩

/-- A walk that ends at a thing that is not derived meets nothing bad. -/
theorem not_bad (h : Sources siblings position sources) : ¬ Bad siblings position := by
  rintro ⟨reached, path, ends⟩
  obtain ⟨last, toLast, free⟩ := h.exists_free
  cases ends with
  | inl dangling =>
    obtain ⟨fault, dangling⟩ := dangling
    cases path.total toLast with
    | inl forth =>
      exact dangling.not_free (forth.eq_of_not_link (fun _ => dangling.not_link) ▸ free)
    | inr back =>
      exact dangling.not_free (back.eq_of_not_link (fun _ => free.not_link) ▸ free)
  | inr cycle => exact toLast.not_cyclic_of_end (fun _ => free.not_link) path cycle

end Sources

end RegisterMap
