import RegisterMap.Proofs.Derivation.Progress
import RegisterMap.Proofs.Derivation.Walk
import Mathlib.Data.Nat.Find

/-!
# Scopes that are resolved in part

While a scope is being resolved, some of its things hold what they take along their
whole chain and the others are as they were written. `Partly` says which are which:
everything that is reached from the positions done is resolved, and nothing else is
touched. One step keeps this (`Partly.step`), and a step at a position whose walk fails
in the scope as it was written fails in the same way now (`Partly.stop`), because no
thing on a walk that fails can have been resolved before.

So the outcome of a resolution is a matter of the scope as it was written: it succeeds
when no position is bad (`resolveScope_of_good`), and stops at the first that is
(`resolveScope_of_fails`).
-/

namespace RegisterMap

open Derivable Relation

variable {α : Type} [Derivable α]

/-- The first position is resolved before the others. -/
theorem resolvePositions_cons (position : Nat) (rest : List Nat) (siblings : List α) :
    resolvePositions (position :: rest) siblings =
      (resolveAt position siblings).andThen (resolvePositions rest) := by
  -- from any progress, since a fold carries it along
  have run : ∀ (positions : List Nat) (progress : Progress (List α)),
      positions.foldl (fun progress position => progress.andThen (resolveAt position)) progress =
        progress.andThen (resolvePositions positions) := by
    intro positions
    induction positions with
    | nil =>
      intro progress
      cases stopped : progress.fault <;>
        simp only [List.foldl_nil, Progress.andThen, stopped, resolvePositions, List.append_nil]
      cases progress
      cases stopped
      rfl
    | cons position rest ih =>
      intro progress
      have first : resolvePositions (position :: rest) =
          fun siblings : List α =>
            (resolveAt position siblings).andThen (resolvePositions rest) := by
        funext siblings
        rw [resolvePositions, List.foldl_cons, Progress.start_andThen, ih]
      rw [List.foldl_cons, ih, first, Progress.andThen_assoc]
  rw [resolvePositions, List.foldl_cons, Progress.start_andThen, run]

/-! ## What a thing takes along its sources -/

/-- A thing that is not derived takes nothing. -/
theorem takeFrom_of_free {item : α} (free : derivedFrom item = none) (source : α) :
    takeFrom item source = item := by
  rw [takeFrom, free]

theorem takeFrom_of_derived {item : α} {reference : String}
    (derived : derivedFrom item = some reference) (source : α) :
    takeFrom item source = settle reference (inherit item source) := by
  rw [takeFrom, derived]

theorem kind_takeFrom (item source : α) : kind (takeFrom item source) = kind item := by
  unfold takeFrom
  split
  · rw [kind_settle, kind_inherit]
  · rfl

theorem name_takeFrom (item source : α) : name (takeFrom item source) = name item := by
  unfold takeFrom
  split
  · rw [name_settle, name_inherit]
  · rfl

theorem derivedFrom_takeFrom (item source : α) : derivedFrom (takeFrom item source) = none := by
  unfold takeFrom
  split
  · exact derivedFrom_settle _ _
  · assumption

/-- A thing with what it takes from its sources, the nearest of them first: the source
takes members from those behind it before the thing takes them from the source. -/
def derive (item : α) : List α → α
  | [] => item
  | source :: rest => takeFrom item (derive source rest)

/-- The things at some positions. -/
def itemsAt (siblings : List α) (positions : List Nat) : List α :=
  positions.filterMap (siblings[·]?)

omit [Derivable α] in
/-- The things at some positions are looked up one by one. -/
theorem itemsAt_cons {siblings : List α} {position : Nat} {item : α}
    (here : siblings[position]? = some item) (rest : List Nat) :
    itemsAt siblings (position :: rest) = item :: itemsAt siblings rest := by
  simp only [itemsAt, List.filterMap_cons, here]

omit [Derivable α] in
/-- At positions in the scope there are things. -/
theorem map_some_itemsAt {siblings : List α} {positions : List Nat}
    (inside : ∀ p ∈ positions, p < siblings.length) :
    positions.map (siblings[·]?) = (itemsAt siblings positions).map some := by
  induction positions with
  | nil => rfl
  | cons p rest ih =>
    have here := List.getElem?_eq_getElem (inside p List.mem_cons_self)
    rw [itemsAt_cons here, List.map_cons, List.map_cons, here,
      ih fun q mem => inside q (List.mem_cons_of_mem _ mem)]

/-- A thing that has taken from its sources is not derived any more. -/
theorem Sources.derivedFrom_derive {siblings : List α} {position : Nat} {sources : List Nat}
    (h : Sources siblings position sources) {item : α} (here : siblings[position]? = some item) :
    derivedFrom (derive item (itemsAt siblings sources)) = none := by
  cases h with
  | free free =>
    obtain ⟨item', here', free⟩ := free
    cases here.symm.trans here'
    exact free
  | link link _ =>
    obtain ⟨_, source, _, there⟩ := link.exists_items
    rw [itemsAt_cons there]
    exact derivedFrom_takeFrom _ _

/-! ## Scopes with the same names and kinds -/

/-- A change of one element that keeps a member keeps the list of that member. -/
theorem map_modify_of_keeps {β γ : Type} {change : β → β} {member : β → γ}
    (keeps : ∀ b, member (change b) = member b) (list : List β) (position : Nat) :
    (list.modify position change).map member = list.map member := by
  induction list generalizing position with
  | nil => rw [List.modify_nil]
  | cons b rest ih =>
    cases position with
    | zero => rw [List.modify_zero_cons, List.map_cons, List.map_cons, keeps]
    | succ position => rw [List.modify_succ_cons, List.map_cons, List.map_cons, ih]

/-- Two lists of siblings agree in what references look at in a sibling. -/
structure SameShape (siblings others : List α) : Prop where
  names : others.map name = siblings.map name
  kinds : others.map kind = siblings.map kind

namespace SameShape

variable {siblings others : List α}

theorem refl (siblings : List α) : SameShape siblings siblings := ⟨rfl, rfl⟩

theorem symm (h : SameShape siblings others) : SameShape others siblings :=
  ⟨h.names.symm, h.kinds.symm⟩

theorem trans {more : List α} (h : SameShape siblings others) (h' : SameShape others more) :
    SameShape siblings more :=
  ⟨h'.names.trans h.names, h'.kinds.trans h.kinds⟩

theorem length_eq (h : SameShape siblings others) : others.length = siblings.length := by
  simpa only [List.length_map] using congrArg List.length h.names

/-- A reference that finds a sibling finds one of that kind at that place in the other
list. -/
theorem firstNamed (h : SameShape siblings others) {wanted : String} {source : α} {position : Nat}
    (found : firstNamed siblings wanted = some (source, position)) :
    ∃ other, RegisterMap.firstNamed others wanted = some (other, position) ∧
      kind other = kind source := by
  obtain ⟨other, foundOther, there⟩ := firstNamed_congr h.names found
  refine ⟨other, foundOther, ?_⟩
  have kinds := congrArg (·[position]?) h.kinds
  simpa only [List.getElem?_map, there, getElem?_of_firstNamed found, Option.map_some,
    Option.some.injEq] using kinds

/-- A link is there still, if its thing was not touched. -/
theorem link (h : SameShape siblings others) {position next : Nat}
    (same : others[position]? = siblings[position]?) (link : Link siblings position next) :
    Link others position next := by
  obtain ⟨item, reference, source, here, derived, found, sameKind⟩ := link
  obtain ⟨other, foundOther, kindOther⟩ := h.firstNamed found
  exact ⟨item, reference, other, same.trans here, derived, foundOther, kindOther.trans sameKind⟩

/-- A reference dangles still, if its thing was not touched. -/
theorem dangling (h : SameShape siblings others) {position : Nat} {fault : Fault}
    (same : others[position]? = siblings[position]?) (dangling : Dangling siblings position fault) :
    Dangling others position fault := by
  obtain ⟨item, reference, here, derived, noKin, rfl⟩ := dangling
  refine ⟨item, reference, same.trans here, derived, fun source next found sameKind => ?_, rfl⟩
  obtain ⟨other, foundOther, kindOther⟩ := h.symm.firstNamed found
  exact noKin other next foundOther (kindOther.trans sameKind)

/-- The names at some positions are the same. -/
theorem namesAt (h : SameShape siblings others) (positions : List Nat) :
    namesAt others positions = namesAt siblings positions := by
  simp only [RegisterMap.namesAt, ← List.getElem?_map, h.names]

/-- A walk that fails does so in every scope of the same shape in which the things on it
are the same. -/
theorem fails (h : SameShape siblings others) {position : Nat} {fault : Fault}
    (same : ∀ reached, Reaches siblings position reached → others[reached]? = siblings[reached]?)
    (fails : Fails siblings position fault) : Fails others position fault := by
  obtain ⟨path, last, head, chain, nodup, blocked⟩ := fails
  have sameOnPath : ∀ p ∈ path ++ [last], others[p]? = siblings[p]? :=
    fun p mem => same p (reaches_of_head? head chain mem)
  have sameLast := sameOnPath last (List.mem_append_right path (List.mem_singleton_self last))
  refine ⟨path, last, head, ?_, nodup, ?_⟩
  · exact chain.imp_of_mem_imp fun p _ mem _ => h.link (sameOnPath p mem)
  · rcases blocked with dangling | ⟨next, item, again, link, here, rfl⟩
    · exact .inl (h.dangling sameLast dangling)
    · refine .inr ⟨next, item, again, h.link sameLast link, sameLast.trans here, ?_⟩
      rw [h.namesAt]

/-- Taking members changes neither names nor kinds. -/
theorem takeFromAt (siblings : List α) (position sourcePosition : Nat) :
    SameShape siblings (takeFromAt siblings position sourcePosition) := by
  unfold RegisterMap.takeFromAt
  split
  · exact ⟨map_modify_of_keeps (fun item => name_takeFrom item _) _ _,
      map_modify_of_keeps (fun item => kind_takeFrom item _) _ _⟩
  · exact .refl siblings

/-- Taking members along a chain changes nothing that references look at. -/
theorem mergeAlong (siblings : List α) : ∀ chain, SameShape siblings (mergeAlong siblings chain)
  | [] => .refl siblings
  | [_] => .refl siblings
  | position :: next :: rest => by
    rw [RegisterMap.mergeAlong]
    exact (mergeAlong siblings (next :: rest)).trans (takeFromAt _ position next)

end SameShape

/-! ## Partly resolved scopes -/

/-- In a later state of a scope, the thing at a position holds what it takes from its
sources in the scope as it was written. -/
def Resolved (original : List α) (position : Nat) (current : List α) : Prop :=
  ∃ item sources, original[position]? = some item ∧ Sources original position sources ∧
    current[position]? = some (derive item (itemsAt original sources))

/-- What is reached from some positions. -/
def Touched (original : List α) (done : List Nat) (position : Nat) : Prop :=
  ∃ start ∈ done, Reaches original start position

/-- A scope in which everything reached from the positions done is resolved, and nothing
else is changed. -/
structure Partly (original : List α) (done : List Nat) (current : List α) : Prop where
  shape : SameShape original current
  resolved : ∀ position, Touched original done position → Resolved original position current
  untouched : ∀ position, ¬ Touched original done position →
    current[position]? = original[position]?

/-- A thing that is resolved is not derived any more. -/
theorem Resolved.free {original current : List α} {position : Nat}
    (h : Resolved original position current) : Free current position := by
  obtain ⟨item, sources, here, sourcesOf, now⟩ := h
  exact ⟨_, now, sourcesOf.derivedFrom_derive here⟩

namespace Partly

variable {original current : List α} {done : List Nat}

/-- In the beginning nothing is resolved. -/
theorem start (original : List α) : Partly original [] original where
  shape := .refl original
  resolved _ touched := by simp only [Touched, List.not_mem_nil, false_and, exists_false] at touched
  untouched _ _ := rfl

/-- Merging along the chain of a thing resolves what is reached from it and leaves the
rest. The chain that is merged along ends where the scope is resolved already. -/
theorem exists_mergeAlong (h : Partly original done current) {position : Nat} {sources : List Nat}
    (sourcesOf : Sources original position sources) :
    ∃ chain, Sources current position chain ∧
      (∀ p, Reaches original position p →
        Resolved original p (mergeAlong current (position :: chain))) ∧
      ∀ p, ¬ Reaches original position p →
        (mergeAlong current (position :: chain))[p]? = current[p]? := by
  induction sourcesOf with
  | @free position free =>
    have now : Resolved original position current := by
      by_cases touched : Touched original done position
      · exact h.resolved position touched
      · have ⟨item, here, _⟩ := free
        exact ⟨item, [], here, .free free, (h.untouched position touched).trans here⟩
    refine ⟨[], .free now.free, fun p path => ?_, fun _ _ => rfl⟩
    exact path.eq_of_not_link (fun _ => free.not_link) ▸ now
  | @link position next rest link sourcesOfNext ih =>
    by_cases touched : Touched original done position
    · refine ⟨[], .free (h.resolved position touched).free, fun p path => ?_, fun _ _ => rfl⟩
      obtain ⟨start, mem, toPosition⟩ := touched
      exact h.resolved p ⟨start, mem, toPosition.trans path⟩
    · obtain ⟨chain, sourcesNow, resolved, untouched⟩ := ih
      have same := h.untouched position touched
      have sourcesOf : Sources original position (next :: rest) := .link link sourcesOfNext
      have notBack : ¬ Reaches original next position := fun back =>
        (List.nodup_cons.mp sourcesOf.nodup).1 (sourcesOfNext.mem_of_reaches back)
      obtain ⟨item, _, here, _⟩ := link.exists_items
      -- the source is complete before anything is taken from it
      obtain ⟨source, sources, there, sourcesOfSource, complete⟩ := resolved next .refl
      cases sourcesOfSource.unique sourcesOfNext
      have step : mergeAlong current (position :: next :: chain) =
          (mergeAlong current (next :: chain)).modify position
            (takeFrom · (derive source (itemsAt original rest))) := by
        rw [mergeAlong, takeFromAt]
        simp only [complete]
      refine ⟨next :: chain, .link (h.shape.link same link) sourcesNow, fun p path => ?_,
        fun p away => ?_⟩
      · rw [step]
        by_cases self : p = position
        · subst self
          refine ⟨item, next :: rest, here, sourcesOf, ?_⟩
          rw [List.getElem?_modify_eq, untouched p notBack, same, here, itemsAt_cons there]
          rfl
        · obtain ⟨next', link', path⟩ := path.cases_head.resolve_left (Ne.symm self)
          cases link.unique link'
          obtain ⟨item', sources', here', sourcesOf', now⟩ := resolved p path
          exact ⟨item', sources', here', sourcesOf', by
            rw [List.getElem?_modify_ne _ _ (Ne.symm self), now]⟩
      · have other : position ≠ p := fun self => away (self ▸ .refl)
        rw [step, List.getElem?_modify_ne _ _ other]
        exact untouched p fun path => away (.head link path)

/-- What is reached from one position more is reached from the others or from it. -/
theorem touched_append {position p : Nat} :
    Touched original (done ++ [position]) p ↔
      Touched original done p ∨ Reaches original position p := by
  simp only [Touched, List.mem_append, List.mem_singleton, or_and_right, exists_or,
    exists_eq_left]

/-- Resolving at a position that has sources succeeds, and resolves what is reached from
it. -/
theorem step (h : Partly original done current) {position : Nat} {sources : List Nat}
    (sourcesOf : Sources original position sources) :
    (resolveAt position current).fault = none ∧
      Partly original (done ++ [position]) (resolveAt position current).state := by
  obtain ⟨chain, sourcesNow, resolved, untouched⟩ := h.exists_mergeAlong sourcesOf
  have merged : (resolveAt position current).state = mergeAlong current (position :: chain) := by
    simp only [resolveAt, sourcesNow.chainFrom?]
  refine ⟨by simp only [resolveAt, sourcesNow.chainFrom?], ?_⟩
  rw [merged]
  refine ⟨h.shape.trans (.mergeAlong current _), fun p touched => ?_, fun p away => ?_⟩
  · by_cases path : Reaches original position p
    · exact resolved p path
    · obtain ⟨item, sources, here, sourcesOf, now⟩ :=
        h.resolved p ((touched_append.mp touched).resolve_right path)
      exact ⟨item, sources, here, sourcesOf, (untouched p path).trans now⟩
  · rw [touched_append, not_or] at away
    exact (untouched p away.2).trans (h.untouched p away.1)

/-- A walk that fails in the scope as it was written still does. -/
theorem fails (h : Partly original done current) {position : Nat} {fault : Fault}
    (fails : Fails original position fault) : Fails current position fault := by
  refine h.shape.fails (fun p path => h.untouched p fun touched => ?_) fails
  -- a thing that is resolved has sources, and so has what leads to it
  obtain ⟨_, _, _, sourcesOf, _⟩ := h.resolved p touched
  obtain ⟨_, sourcesOf⟩ := sourcesOf.of_reaches path
  exact sourcesOf.not_bad fails.bad

/-- Resolving at a position from which the walk fails stops with that fault and changes
nothing. -/
theorem stop (h : Partly original done current) {position : Nat} {fault : Fault}
    (fails : Fails original position fault) :
    resolveAt position current = { state := current, fault := some fault } := by
  simp only [resolveAt, (h.fails fails).chainFrom?]

/-- When the positions done were not derived in the first place, nothing is changed. -/
theorem eq_of_free (h : Partly original done current) (free : ∀ p ∈ done, Free original p) :
    current = original := by
  refine List.ext_getElem? fun p => ?_
  by_cases touched : Touched original done p
  · obtain ⟨start, mem, path⟩ := touched
    cases path.eq_of_not_link fun _ => (free start mem).not_link
    obtain ⟨item, sources, here, sourcesOf, now⟩ := h.resolved p ⟨p, mem, .refl⟩
    cases sourcesOf.unique (.free (free p mem))
    exact now.trans here.symm
  · exact h.untouched p touched

/-- Resolving at positions none of which is bad succeeds. -/
theorem run (h : Partly original done current) (positions : List Nat)
    (inside : ∀ p ∈ positions, p < original.length) (good : ∀ p ∈ positions, ¬ Bad original p) :
    (resolvePositions positions current).fault = none ∧
      Partly original (done ++ positions) (resolvePositions positions current).state := by
  induction positions generalizing current done with
  | nil =>
    rw [List.append_nil]
    exact ⟨rfl, h⟩
  | cons position rest ih =>
    obtain ⟨sources, sourcesOf⟩ :=
      exists_sources_of_not_bad (inside position List.mem_cons_self)
        (good position List.mem_cons_self)
    obtain ⟨going, after⟩ := h.step sourcesOf
    obtain ⟨sameState, sameFault⟩ :=
      Progress.andThen_of_fault_none going (resolvePositions rest)
    rw [resolvePositions_cons, sameState, sameFault, List.append_cons]
    exact ih after (fun p mem => inside p (List.mem_cons_of_mem _ mem))
      fun p mem => good p (List.mem_cons_of_mem _ mem)

end Partly

/-! ## The outcome of a resolution -/

/-- Positions behind others are resolved where those have led. -/
theorem resolvePositions_append (front back : List Nat) (siblings : List α) :
    resolvePositions (front ++ back) siblings =
      (resolvePositions front siblings).andThen (resolvePositions back) := by
  induction front generalizing siblings with
  | nil => exact (Progress.start_andThen siblings (resolvePositions back)).symm
  | cons position rest ih =>
    rw [List.cons_append, resolvePositions_cons, resolvePositions_cons, Progress.andThen_assoc]
    congr 1
    funext state
    exact ih state

variable {siblings : List α}

/-- A scope without bad positions is resolved, at every position. -/
theorem resolveScope_of_good (good : ∀ p < siblings.length, ¬ Bad siblings p) :
    (resolveScope siblings).fault = none ∧
      Partly siblings (List.range siblings.length) (resolveScope siblings).state :=
  (Partly.start siblings).run _ (fun _ mem => List.mem_range.mp mem)
    fun p mem => good p (List.mem_range.mp mem)

/-- A scope with a bad position stops at the first one, with its fault. What is reached
from the positions before it is resolved by then. -/
theorem resolveScope_of_fails {position : Nat} {fault : Fault}
    (inside : position < siblings.length) (good : ∀ p < position, ¬ Bad siblings p)
    (fails : Fails siblings position fault) :
    (resolveScope siblings).fault = some fault ∧
      Partly siblings (List.range position) (resolveScope siblings).state := by
  obtain ⟨going, before⟩ := (Partly.start siblings).run (List.range position)
    (fun p mem => (List.mem_range.mp mem).trans inside)
    fun p mem => good p (List.mem_range.mp mem)
  have stopped := before.stop fails
  obtain ⟨more, order⟩ : ∃ more, List.range siblings.length =
      List.range position ++ position :: more := by
    obtain ⟨k, length⟩ := Nat.exists_eq_add_of_lt inside
    refine ⟨((List.range k).map Nat.succ).map (position + ·), ?_⟩
    rw [length, Nat.add_assoc, List.range_add, List.range_succ_eq_map, List.map_cons, Nat.add_zero]
  rw [resolveScope, order, resolvePositions_append]
  obtain ⟨sameState, sameFault⟩ :=
    Progress.andThen_of_fault_none going (resolvePositions (position :: more))
  rw [sameState, sameFault, resolvePositions_cons, stopped,
    Progress.andThen_of_fault_some rfl]
  exact ⟨rfl, before⟩

/-- No position is bad, or one is the first. -/
theorem good_or_exists_first (siblings : List α) :
    (∀ p < siblings.length, ¬ Bad siblings p) ∨
      ∃ first fault, first < siblings.length ∧ (∀ p < first, ¬ Bad siblings p) ∧
        Fails siblings first fault := by
  by_cases bad : ∃ p, p < siblings.length ∧ Bad siblings p
  · obtain ⟨first, ⟨inside, isBad⟩, least⟩ :
        ∃ first, (first < siblings.length ∧ Bad siblings first) ∧
          ∀ p < first, ¬ (p < siblings.length ∧ Bad siblings p) := by
      classical exact ⟨Nat.find bad, Nat.find_spec bad, fun p lt => Nat.find_min bad lt⟩
    obtain ⟨fault, fails⟩ := (bad_iff_exists_fails inside).mp isBad
    exact .inr ⟨first, fault, inside, fun p lt isBad => least p lt ⟨lt.trans inside, isBad⟩, fails⟩
  · exact .inl fun p inside isBad => bad ⟨p, inside, isBad⟩

/-- A resolution succeeds exactly when no position is bad. -/
theorem resolveScope_fault_eq_none_iff :
    (resolveScope siblings).fault = none ↔ ∀ p < siblings.length, ¬ Bad siblings p := by
  refine ⟨fun succeeds => ?_, fun good => (resolveScope_of_good good).1⟩
  rcases good_or_exists_first siblings with good | ⟨first, fault, inside, good, fails⟩
  · exact good
  · cases succeeds.symm.trans (resolveScope_of_fails inside good fails).1

end RegisterMap
