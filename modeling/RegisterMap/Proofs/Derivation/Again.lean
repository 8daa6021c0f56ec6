import RegisterMap.Proofs.Derivation.Scope

/-!
# Resolving a scope again

A resolution leaves a scope from which another resolution goes nowhere. When it succeeded,
nothing is derived any more. When it stopped, what came before the thing at which it
stopped is not derived any more, and the walk from that thing fails as it did, so the
second resolution stops there with the same fault.
-/

namespace RegisterMap

open Derivable Progress

variable {α : Type} [Derivable α] {siblings : List α}

/-- A successful resolution leaves nothing that is derived. -/
theorem derivedFrom_of_resolveScope (succeeds : (resolveScope siblings).fault = none) :
    ∀ item ∈ (resolveScope siblings).state, derivedFrom item = none := by
  obtain ⟨_, complete⟩ := resolveScope_of_good (resolveScope_fault_eq_none_iff.mp succeeds)
  intro item mem
  obtain ⟨position, here⟩ := List.mem_iff_getElem?.mp mem
  have inside : position < siblings.length :=
    complete.shape.length_eq ▸ (List.getElem?_eq_some_iff.mp here).1
  obtain ⟨item', here', free⟩ :=
    (complete.resolved position ⟨position, List.mem_range.mpr inside, .refl⟩).free
  cases here.symm.trans here'
  exact free

/-- Where nothing is derived, there is nothing to resolve. -/
theorem resolveScope_rests (free : ∀ item ∈ siblings, derivedFrom item = none) :
    Rests resolveScope siblings := by
  have freeAt : ∀ p < siblings.length, Free siblings p := fun p inside =>
    ⟨siblings[p], List.getElem?_eq_getElem inside, free _ (List.getElem_mem inside)⟩
  obtain ⟨succeeds, complete⟩ :=
    resolveScope_of_good fun p inside => (Sources.free (freeAt p inside)).not_bad
  exact ⟨complete.eq_of_free fun p mem => freeAt p (List.mem_range.mp mem), succeeds⟩

/-- **A scope is resolved once.** Resolving it again changes nothing and stops, if it did
before, with the same fault. -/
theorem resolveScope_repeats (siblings : List α) : Repeats resolveScope siblings := by
  rcases good_or_exists_first siblings with good | ⟨first, fault, inside, good, fails⟩
  · have succeeds := resolveScope_fault_eq_none_iff.mpr good
    exact .of_rests (resolveScope_rests (derivedFrom_of_resolveScope succeeds)) succeeds
  · obtain ⟨stopped, before⟩ := resolveScope_of_fails inside good fails
    have free : ∀ p < first, Free (resolveScope siblings).state p := fun p lt =>
      (before.resolved p ⟨p, List.mem_range.mpr lt, .refl⟩).free
    obtain ⟨stoppedAgain, after⟩ := resolveScope_of_fails (before.shape.length_eq ▸ inside)
      (fun p lt => (Sources.free (free p lt)).not_bad) (before.fails fails)
    exact ⟨after.eq_of_free fun p mem => free p (List.mem_range.mp mem),
      stoppedAgain.trans stopped.symm⟩

/-! ## What holds of every sibling -/

section Keeps

variable {keeps : α → Prop}
  (taking : ∀ item source, keeps item → keeps source → keeps (takeFrom item source))

include taking

/-- What holds of all things, and of what takes from them, holds after one took from another. -/
theorem takeFromAt_keeps (all : ∀ item ∈ siblings, keeps item) (position sourcePosition : Nat) :
    ∀ item ∈ takeFromAt siblings position sourcePosition, keeps item := by
  unfold takeFromAt
  split
  case h_1 source there =>
    have ofSource := all source (List.mem_of_getElem? there)
    intro item mem
    obtain ⟨p, here⟩ := List.mem_iff_getElem?.mp mem
    rw [List.getElem?_modify] at here
    obtain ⟨written, thereWritten, rfl⟩ := Option.map_eq_some_iff.mp here
    have ofWritten := all written (List.mem_of_getElem? thereWritten)
    split
    · exact taking written source ofWritten ofSource
    · exact ofWritten
  case h_2 => exact all

/-- It holds after the things on a chain took from each other. -/
theorem mergeAlong_keeps (all : ∀ item ∈ siblings, keeps item) :
    ∀ chain, ∀ item ∈ mergeAlong siblings chain, keeps item
  | [] => all
  | [_] => all
  | position :: next :: rest => by
    rw [mergeAlong]
    exact takeFromAt_keeps taking (mergeAlong_keeps all (next :: rest)) position next

/-- And it holds after a resolution, also if that stops. -/
theorem resolvePositions_keeps (positions : List Nat) (all : ∀ item ∈ siblings, keeps item) :
    ∀ item ∈ (resolvePositions positions siblings).state, keeps item := by
  induction positions generalizing siblings with
  | nil => exact all
  | cons position rest ih =>
    rw [resolvePositions_cons]
    refine andThen_keeps (fun state => ∀ item ∈ state, keeps item) ?_ fun _ => ih
    unfold resolveAt
    split
    · exact mergeAlong_keeps taking all _
    · exact all

/-- What holds of every sibling, and is kept when one takes members from another, holds of
every sibling after a resolution, also when it stopped. -/
theorem resolveScope_keeps (all : ∀ item ∈ siblings, keeps item) :
    ∀ item ∈ (resolveScope siblings).state, keeps item :=
  resolvePositions_keeps taking _ all

end Keeps

end RegisterMap
