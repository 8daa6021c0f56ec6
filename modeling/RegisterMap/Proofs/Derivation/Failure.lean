import RegisterMap.Proofs.Derivation.Scope

/-!
# When and how the resolution of a scope stops

The resolution of a scope stops exactly when a position is bad, and the first bad
position in the order of the scope determines the fault (`resolveScope_fault`). All of
it is said of the scope as it was written: what was resolved before the fault was found
neither hides a cycle nor makes one.

A cycle is reported through a `Lasso`. From the bad position the walk enters the cycle
at some thing, goes once around, and is back at that thing; no thing is met twice before.
-/

namespace RegisterMap

open Derivable Relation

variable {α : Type} [Derivable α] {siblings : List α}

/-- The walk from a position goes through `entry` to `first`, and from `first` through
`loop` back to it. Up to there all things on it are different. -/
structure Lasso (siblings : List α) (position first : Nat) (entry loop : List Nat) : Prop where
  begins : (entry ++ [first]).head? = some position
  links : (entry ++ first :: (loop ++ [first])).IsChain (Link siblings)
  fresh : (entry ++ first :: loop).Nodup

/-- The thing at one position is derived from the name of the thing at another. -/
def NamesNext (siblings : List α) (position next : Nat) : Prop :=
  ∃ item source, siblings[position]? = some item ∧ siblings[next]? = some source ∧
    derivedFrom item = some (name source)

/-- A fault that reports the names around a cycle, from one position back to it. -/
def ReportsCycle (siblings : List α) (fault : Fault) (first : Nat) (loop : List Nat) : Prop :=
  ∃ item names, siblings[first]? = some item ∧
    (first :: (loop ++ [first])).IsChain (NamesNext siblings) ∧
    names.map some = (first :: (loop ++ [first])).map (siblings[·]?.map name) ∧
    fault = .cycle (kind item) names

/-- The names at positions of the scope are those of the things there. -/
theorem map_some_namesAt {positions : List Nat} (inside : ∀ p ∈ positions, p < siblings.length) :
    (namesAt siblings positions).map some = positions.map (siblings[·]?.map name) := by
  have names : namesAt siblings positions = (itemsAt siblings positions).map name :=
    (List.map_filterMap ..).symm
  calc (namesAt siblings positions).map some
      = ((itemsAt siblings positions).map some).map (Option.map name) := by
        rw [names, List.map_map, List.map_map]
        rfl
    _ = positions.map (siblings[·]?.map name) := by
        rw [← map_some_itemsAt inside, List.map_map]
        rfl

/-- A chain of links that ends inside the scope is inside it. -/
theorem lt_length_of_isChain {positions : List Nat} {end_ : Nat}
    (chain : (positions ++ [end_]).IsChain (Link siblings)) (inside : end_ < siblings.length) :
    ∀ p ∈ positions ++ [end_], p < siblings.length := by
  induction positions with
  | nil =>
    intro p mem
    exact List.mem_singleton.mp mem ▸ inside
  | cons first rest ih =>
    intro p mem
    cases List.mem_cons.mp mem with
    | inl same =>
      obtain ⟨next, more, later⟩ : ∃ next more, rest ++ [end_] = next :: more := by
        cases rest <;> exact ⟨_, _, rfl⟩
      rw [List.cons_append, later] at chain
      exact same ▸ (List.isChain_cons_cons.mp chain).1.lt_length.1
    | inr later => exact ih chain.tail p later

/-- A walk that is blocked at a thing it has met is a lasso, and its fault reports the
cycle. -/
theorem exists_lasso {position last next : Nat} {path : List Nat} {item : α}
    (head : (path ++ [last]).head? = some position)
    (chain : (path ++ [last]).IsChain (Link siblings)) (nodup : (path ++ [last]).Nodup)
    (again : next ∈ path ++ [last]) (link : Link siblings last next)
    (here : siblings[last]? = some item) :
    ∃ entry first loop, Lasso siblings position first entry loop ∧
      ReportsCycle siblings (.cycle (kind item)
        (namesAt siblings ((path ++ [last]).dropWhile (· ≠ next) ++ [next]))) first loop := by
  -- the cycle begins where the walk comes back to
  obtain ⟨entry, loop, split, before⟩ := List.eq_append_cons_of_mem again
  have around : (path ++ [last]).dropWhile (· ≠ next) ++ [next] = next :: (loop ++ [next]) := by
    have differ : ∀ p ∈ entry, decide (p ≠ next) = true := fun p mem =>
      decide_eq_true (ne_of_mem_of_not_mem mem before)
    rw [split, List.dropWhile_append_of_pos differ,
      List.dropWhile_cons_of_neg (by simp), List.cons_append]
  have whole : (path ++ [last]) ++ [next] = entry ++ next :: (loop ++ [next]) := by
    rw [split, List.append_assoc, List.cons_append]
  have closed : ((path ++ [last]) ++ [next]).IsChain (Link siblings) := by
    rw [List.append_assoc, List.singleton_append, List.isChain_split]
    exact ⟨chain, List.isChain_pair.mpr link⟩
  have inside := lt_length_of_isChain closed link.lt_length.2
  rw [whole] at closed inside
  have loopLinks := (List.isChain_append.mp closed).2.1
  obtain ⟨_, start, _, there⟩ := link.exists_items
  refine ⟨entry, next, loop, ⟨?_, closed, split ▸ nodup⟩, start,
    namesAt siblings (next :: (loop ++ [next])), there,
    loopLinks.imp fun _ _ => Link.names_next, ?_, ?_⟩
  · rw [← head, split]
    cases entry <;> rfl
  · exact map_some_namesAt fun p mem => inside p (List.mem_append_right entry mem)
  · rw [around, link.same_kind here there]

/-- **The outcome of resolving a scope.** It succeeds exactly when no position is bad.
Otherwise the first bad position decides: if a dangling thing is reached from it, the
fault is that of the dangling thing, and if a cycle is reached from it, the fault reports
that cycle from the thing at which the walk enters it. -/
theorem resolveScope_fault (siblings : List α) :
    ((resolveScope siblings).fault = none ↔ ∀ p < siblings.length, ¬ Bad siblings p) ∧
      ∀ p < siblings.length, Bad siblings p → (∀ q < p, ¬ Bad siblings q) →
        (∀ reached fault, Reaches siblings p reached → Dangling siblings reached fault →
          (resolveScope siblings).fault = some fault) ∧
        ∀ reached, Reaches siblings p reached → TransGen (Link siblings) reached reached →
          ∃ entry first loop fault, Lasso siblings p first entry loop ∧
            ReportsCycle siblings fault first loop ∧
            (resolveScope siblings).fault = some fault := by
  refine ⟨resolveScope_fault_eq_none_iff, fun p inside bad good => ?_⟩
  obtain ⟨fault, fails⟩ := (bad_iff_exists_fails inside).mp bad
  obtain ⟨stopped, _⟩ := resolveScope_of_fails inside good fails
  obtain ⟨path, last, head, chain, nodup, blocked⟩ := fails
  have toLast : Reaches siblings p last :=
    reaches_of_head? head chain (List.mem_append_right path (List.mem_singleton_self last))
  rcases blocked with dangling | ⟨next, item, again, link, here, rfl⟩
  · refine ⟨fun reached other path dangling' => ?_, fun reached path cycle => ?_⟩
    · -- both ends of the walk are its one end
      have same : reached = last := by
        cases path.total toLast with
        | inl forth => exact (forth.eq_of_not_link fun _ => dangling'.not_link).symm
        | inr back => exact back.eq_of_not_link fun _ => dangling.not_link
      cases same
      rw [stopped, dangling'.unique dangling]
    · exact absurd cycle (toLast.not_cyclic_of_end (fun _ => dangling.not_link) path)
  · obtain ⟨entry, first, loop, lasso, reports⟩ := exists_lasso head chain nodup again link here
    refine ⟨fun reached other path dangling' => ?_, fun _ _ _ =>
      ⟨entry, first, loop, _, lasso, reports, stopped⟩⟩
    exact absurd (cyclic_of_blocked chain again link)
      (path.not_cyclic_of_end (fun _ => dangling'.not_link) toLast)

/-- Fields of which the second leads into a cycle of the last two. -/
def cycleEnteredFromOutside : List Field :=
  [{ name := "IDLE", bitRange := ⟨0, 0⟩ },
   { name := "RX", bitRange := ⟨1, 1⟩, derivedFrom := some "TX" },
   { name := "TX", bitRange := ⟨2, 2⟩, derivedFrom := some "ERR" },
   { name := "ERR", bitRange := ⟨3, 3⟩, derivedFrom := some "TX" }]

/-- A walk that enters a cycle from outside: the fault names the things around it, and not the field
from which it was entered. -/
theorem resolveScope_fault_cycleEnteredFromOutside :
    Bad cycleEnteredFromOutside 1 ∧ ¬ Bad cycleEnteredFromOutside 0 ∧
      (∃ entry first loop fault, Lasso cycleEnteredFromOutside 1 first entry loop ∧
        ReportsCycle cycleEnteredFromOutside fault first loop ∧
        (resolveScope cycleEnteredFromOutside).fault = some fault) ∧
      (resolveScope cycleEnteredFromOutside).fault =
        some (.cycle .field ["TX", "ERR", "TX"]) := by
  have enter : Link cycleEnteredFromOutside 1 2 :=
    ⟨_, _, cycleEnteredFromOutside[2], rfl, rfl, by decide +kernel, rfl⟩
  have forth : Link cycleEnteredFromOutside 2 3 :=
    ⟨_, _, cycleEnteredFromOutside[3], rfl, rfl, by decide +kernel, rfl⟩
  have back : Link cycleEnteredFromOutside 3 2 :=
    ⟨_, _, cycleEnteredFromOutside[2], rfl, rfl, by decide +kernel, rfl⟩
  have cycle : TransGen (Link cycleEnteredFromOutside) 2 2 := .tail (.single forth) back
  have bad : Bad cycleEnteredFromOutside 1 := ⟨2, .single enter, .inr cycle⟩
  have good : ¬ Bad cycleEnteredFromOutside 0 := (Sources.free ⟨_, rfl, rfl⟩).not_bad
  refine ⟨bad, good, ?_, by decide +kernel⟩
  refine ((resolveScope_fault cycleEnteredFromOutside).2 1 (by decide) bad fun q lt => ?_).2
    2 (.single enter) cycle
  exact Nat.lt_one_iff.mp lt ▸ good

end RegisterMap
