import RegisterMap.Proofs.Derivation.Links

/-!
# The search for a chain

`chainFrom?` decides what the links between siblings say. It answers the sources of a
thing when there are any (`Sources.chainFrom?`), and otherwise the fault at which the
walk along links stops (`Fails.chainFrom?`): a dangling reference, or the first thing that
is met again. One of them holds at every position (`sources_or_fails`), so the search needs
no bound of its own.
-/

namespace RegisterMap

open Derivable Relation

variable {α : Type} {siblings : List α}

/-- The positions that a walk has not entered. -/
structure Unentered (siblings : List α) (path unseen : List Nat) : Prop where
  nodup : unseen.Nodup
  mem_iff : ∀ position, position ∈ unseen ↔ position < siblings.length ∧ position ∉ path

/-- In the beginning, all but the first position have not been entered. -/
theorem Unentered.start (siblings : List α) (position : Nat) :
    Unentered siblings ([] ++ [position]) ((List.range siblings.length).erase position) where
  nodup := List.nodup_range.erase position
  mem_iff p := by
    rw [List.nodup_range.mem_erase_iff, List.mem_range, List.nil_append, List.mem_singleton]
    exact and_comm

/-- A position that is entered is taken out. -/
theorem Unentered.enter {path unseen : List Nat} (h : Unentered siblings path unseen) (next : Nat) :
    Unentered siblings (path ++ [next]) (unseen.erase next) where
  nodup := h.nodup.erase next
  mem_iff p := by
    rw [h.nodup.mem_erase_iff, h.mem_iff, List.mem_append, List.mem_singleton]
    tauto

/-- What comes behind the path, in a walk through different things, is not entered. -/
theorem Unentered.mem_of_nodup {path unseen rest : List Nat} {next : Nat}
    (h : Unentered siblings path unseen) (nodup : (path ++ next :: rest).Nodup)
    (inside : next < siblings.length) : next ∈ unseen := by
  refine (h.mem_iff next).mpr ⟨inside, fun old => ?_⟩
  exact (List.nodup_append.mp nodup).2.2 next old next List.mem_cons_self rfl

variable [Derivable α]

/-- What stops a walk at a thing, after the things on a path: the thing is dangling, or
its link leads to a thing of the walk. A cycle is reported by the names from that thing
on, with its own name at the end once more. -/
def Blocked (siblings : List α) (path : List Nat) (last : Nat) (fault : Fault) : Prop :=
  Dangling siblings last fault ∨
    ∃ next item, next ∈ path ++ [last] ∧ Link siblings last next ∧
      siblings[last]? = some item ∧
      fault = .cycle (kind item)
        (namesAt siblings ((path ++ [last]).dropWhile (· ≠ next) ++ [next]))

/-- The walk from a position stops with a fault: along links, through different things,
it comes to one at which it is blocked. -/
def Fails (siblings : List α) (position : Nat) (fault : Fault) : Prop :=
  ∃ path last, (path ++ [last]).head? = some position ∧ (path ++ [last]).IsChain (Link siblings) ∧
    (path ++ [last]).Nodup ∧ Blocked siblings path last fault

/-- Only a thing of the scope can block a walk. -/
theorem Blocked.lt_length {path : List Nat} {last : Nat} {fault : Fault}
    (h : Blocked siblings path last fault) : last < siblings.length := by
  rcases h with ⟨_, _, here, _⟩ | ⟨_, _, _, link, _⟩
  · exact (List.getElem?_eq_some_iff.mp here).1
  · exact link.lt_length.1

/-! ## One step of the search -/

section Step

variable {path unseen : List Nat} {item : α} {position next : Nat}

/-- At a thing that is not derived the search ends with its path. -/
theorem walk_of_free (here : siblings[position]? = some item) (free : Free siblings position) :
    walk siblings path unseen item position = .ok (path ++ [position]) := by
  obtain ⟨item', here', free⟩ := free
  cases here.symm.trans here'
  rw [walk, free]

/-- At a dangling reference the search ends with its fault. -/
theorem walk_of_dangling {fault : Fault} (here : siblings[position]? = some item)
    (dangling : Dangling siblings position fault) :
    walk siblings path unseen item position = .error fault := by
  obtain ⟨item', reference, here', derived, noKin, rfl⟩ := dangling
  cases here.symm.trans here'
  rw [walk, derived]
  cases found : firstNamed siblings reference with
  | none => simp only [found]
  | some entry => simp only [found, ne_eq, noKin _ _ found, not_false_eq_true, if_true]

/-- A link to a thing that was not entered is followed. -/
theorem walk_of_link_new (here : siblings[position]? = some item)
    (link : Link siblings position next) (new : next ∈ unseen) :
    ∃ source, siblings[next]? = some source ∧
      walk siblings path unseen item position =
        walk siblings (path ++ [position]) (unseen.erase next) source next := by
  obtain ⟨item', reference, source, here', derived, found, sameKind⟩ := link
  cases here.symm.trans here'
  refine ⟨source, getElem?_of_firstNamed found, ?_⟩
  conv_lhs => rw [walk, derived]
  simp only [found, ne_eq, sameKind, not_true_eq_false, if_false, new, dif_pos]

/-- A link to a thing that was entered before ends the search with a cycle, which is reported from
that thing on. -/
theorem walk_of_link_old (here : siblings[position]? = some item)
    (link : Link siblings position next) (old : next ∉ unseen) :
    walk siblings path unseen item position =
      .error (.cycle (kind item)
        (namesAt siblings ((path ++ [position]).dropWhile (· ≠ next) ++ [next]))) := by
  obtain ⟨item', reference, source, here', derived, found, sameKind⟩ := link
  cases here.symm.trans here'
  rw [walk, derived]
  simp only [found, ne_eq, sameKind, not_true_eq_false, if_false, old, dif_neg, not_false_eq_true]

end Step

/-- Every thing is free, dangling or linked. -/
theorem free_or_dangling_or_link {position : Nat} (inside : position < siblings.length) :
    Free siblings position ∨ (∃ fault, Dangling siblings position fault) ∨
      ∃ next, Link siblings position next := by
  have here : siblings[position]? = some siblings[position] := List.getElem?_eq_getElem inside
  cases derived : derivedFrom siblings[position] with
  | none => exact .inl ⟨_, here, derived⟩
  | some reference =>
    refine .inr ?_
    by_cases kin : ∃ source next, firstNamed siblings reference = some (source, next) ∧
        kind source = kind siblings[position]
    · obtain ⟨source, next, found, sameKind⟩ := kin
      exact .inr ⟨next, _, _, _, here, derived, found, sameKind⟩
    · refine .inl ⟨_, _, _, here, derived, fun source next found sameKind => ?_, rfl⟩
      exact kin ⟨source, next, found, sameKind⟩

/-! ## The search finds what is there -/

/-- The search follows sources to their end, if it has not entered one of them. -/
theorem walk_eq_ok {position : Nat} {sources : List Nat} (h : Sources siblings position sources) :
    ∀ {path unseen : List Nat} {item : α}, siblings[position]? = some item →
      Unentered siblings (path ++ [position]) unseen → (path ++ position :: sources).Nodup →
      walk siblings path unseen item position = .ok (path ++ position :: sources) := by
  induction h with
  | free free =>
    intro path unseen item here _ _
    exact walk_of_free here free
  | @link position next rest link _ ih =>
    intro path unseen item here unentered nodup
    rw [List.append_cons] at nodup ⊢
    have new : next ∈ unseen := unentered.mem_of_nodup nodup link.lt_length.2
    obtain ⟨source, there, step⟩ := walk_of_link_new here link new
    rw [step]
    exact ih there (unentered.enter next) nodup

/-- The search follows links to a thing that is blocked, and ends with the fault. -/
theorem walk_eq_error {last : Nat} {fault : Fault} :
    ∀ (more : List Nat) {path before unseen : List Nat} {item : α} {position : Nat},
    siblings[position]? = some item →
    Unentered siblings (path ++ [position]) unseen →
    path ++ position :: more = before ++ [last] →
    (position :: more).IsChain (Link siblings) → (path ++ position :: more).Nodup →
    Blocked siblings before last fault → walk siblings path unseen item position = .error fault
  | [], path, before, unseen, item, position, here, unentered, ends, _, _, blocked => by
    obtain ⟨rfl, same⟩ := List.append_inj' ends rfl
    cases same
    cases blocked with
    | inl dangling => exact walk_of_dangling here dangling
    | inr cycle =>
      obtain ⟨next, item', again, link, here', rfl⟩ := cycle
      cases here.symm.trans here'
      exact walk_of_link_old here link fun new => ((unentered.mem_iff next).mp new).2 again
  | next :: more, path, before, unseen, item, position, here, unentered, ends, chain, nodup,
      blocked => by
    obtain ⟨link, chain⟩ := List.isChain_cons_cons.mp chain
    rw [List.append_cons] at nodup ends
    have new : next ∈ unseen := unentered.mem_of_nodup nodup link.lt_length.2
    obtain ⟨source, there, step⟩ := walk_of_link_new here link new
    rw [step]
    exact walk_eq_error more there (unentered.enter next) ends chain nodup blocked

/-- Whatever the search answers is so: the walk has an end, or it is blocked. -/
theorem walk_sound {path unseen : List Nat} {item : α} {position : Nat}
    (here : siblings[position]? = some item)
    (unentered : Unentered siblings (path ++ [position]) unseen)
    (chain : (path ++ [position]).IsChain (Link siblings)) (nodup : (path ++ [position]).Nodup) :
    (∃ sources, Sources siblings position sources) ∨
      ∃ before last fault, path ++ [position] <+: before ++ [last] ∧
        (before ++ [last]).IsChain (Link siblings) ∧ (before ++ [last]).Nodup ∧
        Blocked siblings before last fault := by
  have inside : position < siblings.length := (List.getElem?_eq_some_iff.mp here).1
  rcases free_or_dangling_or_link inside with free | ⟨fault, dangling⟩ | ⟨next, link⟩
  · exact .inl ⟨[], .free free⟩
  · exact .inr ⟨path, position, fault, List.prefix_refl _, chain, nodup, .inl dangling⟩
  · by_cases new : next ∈ unseen
    · -- a new thing makes a longer walk, along links and through different things
      have extended : (path ++ [position] ++ [next]).IsChain (Link siblings) := by
        rw [List.append_assoc, List.singleton_append, List.isChain_split]
        exact ⟨chain, List.isChain_pair.mpr link⟩
      have fresh : (path ++ [position] ++ [next]).Nodup :=
        List.nodup_append.mpr ⟨nodup, List.pairwise_singleton _ _, fun old mem other same => by
          cases List.mem_singleton.mp same
          exact fun eq => ((unentered.mem_iff next).mp new).2 (eq ▸ mem)⟩
      obtain ⟨_, source, _, there⟩ := link.exists_items
      rcases walk_sound there (unentered.enter next) extended fresh with
        ⟨rest, sources⟩ | ⟨before, last, fault, starts, rest⟩
      · exact .inl ⟨next :: rest, .link link sources⟩
      · exact .inr ⟨before, last, fault, (List.prefix_append _ _).trans starts, rest⟩
    · -- an old one is on the path, since everything else in the scope is unseen
      refine .inr ⟨path, position, _, List.prefix_refl _, chain, nodup,
        .inr ⟨next, item, ?_, link, here, rfl⟩⟩
      by_contra fresh
      exact new ((unentered.mem_iff next).mpr ⟨link.lt_length.2, fresh⟩)
termination_by unseen.length
decreasing_by
  rw [List.length_erase_of_mem new]
  have := List.length_pos_of_mem new
  omega

/-! ## The answers of the search -/

/-- If a thing has sources, then the search answers the thing and them. -/
theorem Sources.chainFrom? {position : Nat} {sources : List Nat}
    (h : Sources siblings position sources) :
    chainFrom? siblings position = .ok (position :: sources) := by
  have here := List.getElem?_eq_getElem h.lt_length
  simp only [RegisterMap.chainFrom?, here]
  exact walk_eq_ok h here (.start siblings position) h.nodup

/-- If the walk along links fails, then the search answers the fault at which it does. -/
theorem Fails.chainFrom? {position : Nat} {fault : Fault} (h : Fails siblings position fault) :
    chainFrom? siblings position = .error fault := by
  obtain ⟨path, last, head, chain, nodup, blocked⟩ := h
  obtain ⟨more, ends⟩ := List.head?_eq_some_iff.mp head
  rw [ends] at chain nodup
  have inside : position < siblings.length := by
    cases more with
    | nil =>
      have same : last = position := by simpa using congrArg List.getLast? ends
      exact same ▸ blocked.lt_length
    | cons next more => exact (List.isChain_cons_cons.mp chain).1.lt_length.1
  have here := List.getElem?_eq_getElem inside
  simp only [RegisterMap.chainFrom?, here]
  exact walk_eq_error more here (.start siblings position) ends.symm chain nodup blocked

/-- At every position there are sources, or the walk fails. -/
theorem sources_or_fails {position : Nat} (inside : position < siblings.length) :
    (∃ sources, Sources siblings position sources) ∨ ∃ fault, Fails siblings position fault := by
  have here := List.getElem?_eq_getElem inside
  rcases walk_sound here (.start siblings position) (List.isChain_singleton position)
      (List.pairwise_singleton _ position) with sources | ⟨path, last, fault, starts, rest⟩
  · exact .inl sources
  · obtain ⟨more, ends⟩ := starts
    exact .inr ⟨fault, path, last, by rw [← ends]; rfl, rest⟩

/-! ## Bad positions -/

/-- Along a chain of links everything is reached from the first. -/
theorem reaches_of_isChain {position : Nat} {more : List Nat}
    (chain : (position :: more).IsChain (Link siblings)) {reached : Nat}
    (mem : reached ∈ position :: more) : Reaches siblings position reached := by
  induction more generalizing position with
  | nil => exact List.mem_singleton.mp mem ▸ .refl
  | cons next more ih =>
    obtain ⟨link, chain⟩ := List.isChain_cons_cons.mp chain
    cases List.mem_cons.mp mem with
    | inl same => exact same ▸ .refl
    | inr later => exact .head link (ih chain later)

/-- Along links everything is reached from where they begin. -/
theorem reaches_of_head? {position : Nat} {positions : List Nat}
    (head : positions.head? = some position) (chain : positions.IsChain (Link siblings))
    {reached : Nat} (mem : reached ∈ positions) : Reaches siblings position reached := by
  obtain ⟨more, rfl⟩ := List.head?_eq_some_iff.mp head
  exact reaches_of_isChain chain mem

/-- A thing that links back to the walk on which it was reached is on a cycle. -/
theorem cyclic_of_blocked {path : List Nat} {last next : Nat}
    (chain : (path ++ [last]).IsChain (Link siblings)) (again : next ∈ path ++ [last])
    (link : Link siblings last next) : TransGen (Link siblings) last last := by
  obtain ⟨before, after, split⟩ := List.append_of_mem again
  rw [split] at chain
  have mem : last ∈ next :: after := by
    have ends : (next :: after).getLast? = some last := by
      simpa using (congrArg List.getLast? split).symm
    exact List.mem_of_getLast? ends
  exact TransGen.head' link (reaches_of_isChain (List.isChain_split.mp chain).2 mem)

/-- A position from which the walk fails is bad. -/
theorem Fails.bad {position : Nat} {fault : Fault} (h : Fails siblings position fault) :
    Bad siblings position := by
  obtain ⟨path, last, head, chain, nodup, blocked⟩ := h
  have toLast : Reaches siblings position last :=
    reaches_of_head? head chain (List.mem_append_right path (List.mem_singleton_self last))
  rcases blocked with dangling | ⟨next, item, again, link, _⟩
  · exact ⟨last, toLast, .inl ⟨fault, dangling⟩⟩
  · exact ⟨last, toLast, .inr (cyclic_of_blocked chain again link)⟩

/-- A position is bad exactly when the search from it stops with a fault. -/
theorem bad_iff_exists_fails {position : Nat} (inside : position < siblings.length) :
    Bad siblings position ↔ ∃ fault, Fails siblings position fault := by
  refine ⟨fun bad => ?_, fun ⟨_, h⟩ => h.bad⟩
  rcases sources_or_fails inside with ⟨_, sources⟩ | fails
  · exact absurd bad sources.not_bad
  · exact fails

/-- A position that is not bad has sources. -/
theorem exists_sources_of_not_bad {position : Nat} (inside : position < siblings.length)
    (good : ¬ Bad siblings position) : ∃ sources, Sources siblings position sources := by
  rcases sources_or_fails inside with sources | ⟨_, fails⟩
  · exact sources
  · exact absurd fails.bad good

end RegisterMap
